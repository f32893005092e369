import Mathlib.Data.List.Nodup

/-!
# ProseChart.Proofs.Lookup — look-ups among distinct keys

Nodes are found by their ids and tools by their names. A look-up stops at the first
match; where the keys are distinct there is no other, so that the order of the list
does not matter.
-/

namespace ProseChart

variable {α κ : Type} [BEq κ] [LawfulBEq κ] {key : α → κ} {items : List α} {k : κ} {x : α}

/-- Among distinct keys, what is found under a key is the item with that key. -/
theorem find?_key_eq_some_iff (hkeys : (items.map key).Nodup) :
    items.find? (key · == k) = some x ↔ x ∈ items ∧ key x = k := by
  constructor
  · intro hfind
    have hkey : key x = k := by simpa using List.find?_some hfind
    exact ⟨List.mem_of_find?_eq_some hfind, hkey⟩
  · rintro ⟨hx, hkey⟩
    have hsome : (items.find? (key · == k)).isSome :=
      List.find?_isSome.mpr ⟨x, hx, by simp [hkey]⟩
    rcases Option.isSome_iff_exists.mp hsome with ⟨found, hfound⟩
    have hfoundKey : key found = k := by simpa using List.find?_some hfound
    have hsame : found = x :=
      List.inj_on_of_nodup_map hkeys (List.mem_of_find?_eq_some hfound) hx (by rw [hfoundKey, hkey])
    rw [hfound, hsame]

/-- Nothing is found under a key that no item has. -/
theorem find?_key_eq_none_iff : items.find? (key · == k) = none ↔ k ∉ items.map key := by
  rw [List.find?_eq_none, List.mem_map]
  constructor
  · rintro hnone ⟨x, hx, hkey⟩
    exact hnone x hx (by simp [hkey])
  · intro hnone x hx hkey
    exact hnone ⟨x, hx, by simpa using hkey⟩

end ProseChart
