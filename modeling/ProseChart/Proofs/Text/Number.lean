import Mathlib.Data.List.Basic
import ProseChart.Text

/-!
# ProseChart.Proofs.Text.Number — numbers in decimal

What a written number looks like: digits only, at least one, and no zero in front of a
number that is not zero. So its end can be found, and reading the digits gives the number
back.

* `Text.isDigit_of_mem_ofNat`, `Text.exists_ofNat` — digits, and at least one.
* `Text.head?_ofNat_ne_zero` — the first digit.
* `Text.ofDigitChars_ofNat` — the digits are read back.
* `Text.length_ofNat_le` — greater numbers have at least as many digits.
-/

namespace ProseChart.Text

variable {m n : Nat} {c k : Char}

theorem isDigit_of_mem_ofNat : ∀ c ∈ ofNat n, c.isDigit = true := by
  intro c hc
  exact Nat.isDigit_of_mem_toDigits (by omega) (by omega) hc

theorem ne_of_isDigit (hc : c.isDigit = true) (hk : k.isDigit = false) : c ≠ k := by
  rintro rfl
  rw [hk] at hc
  cases hc

/-- A number has a first digit. -/
theorem exists_ofNat (n : Nat) : ∃ c u, ofNat n = c :: u ∧ c.isDigit = true := by
  have hne : ofNat n ≠ [] := Nat.toDigits_ne_nil
  obtain ⟨c, u, hcons⟩ := List.exists_cons_of_ne_nil hne
  have hmem : c ∈ ofNat n := by
    rw [hcons]
    exact List.mem_cons_self
  exact ⟨c, u, hcons, isDigit_of_mem_ofNat c hmem⟩

theorem digitChar_eq_zero : ∀ n < 10, Nat.digitChar n = '0' → n = 0 := by
  decide

/-- No number but zero is written with a zero in front. The induction is on the number
without its last digit. -/
theorem head?_ofNat_ne_zero (hn : n ≠ 0) : (ofNat n).head? ≠ some '0' := by
  induction n using Nat.strongRecOn with
  | ind n ih =>
    unfold ofNat
    rcases Nat.lt_or_ge n 10 with hlt | hge
    · rw [Nat.toDigits_of_lt_base hlt]
      intro hzero
      have hdigit : n.digitChar = '0' := Option.some.inj hzero
      exact hn (digitChar_eq_zero n hlt hdigit)
    · -- the digits in front of the last one are those of the tenth
      have hfront : (ofNat (n / 10)).head? ≠ some '0' := ih (n / 10) (by omega) (by omega)
      rw [Nat.toDigits_of_base_le (by omega) hge, List.head?_append_of_ne_nil _ Nat.toDigits_ne_nil]
      exact hfront

theorem ofDigitChars_ofNat (n : Nat) : Nat.ofDigitChars 10 (ofNat n) 0 = n :=
  Nat.ofDigitChars_ten_toDigits

theorem length_ofNat_le (h : m ≤ n) : (ofNat m).length ≤ (ofNat n).length := by
  have hbase : 1 < 10 := by omega
  have hpos : 0 < (ofNat n).length := Nat.length_toDigits_pos
  have hn : n < 10 ^ (ofNat n).length :=
    (Nat.length_toDigits_le_iff hbase hpos).mp (Nat.le_refl _)
  exact (Nat.length_toDigits_le_iff hbase hpos).mpr (Nat.lt_of_le_of_lt h hn)

end ProseChart.Text
