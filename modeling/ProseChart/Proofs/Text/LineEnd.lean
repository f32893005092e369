import ProseChart.Text

/-!
# ProseChart.Proofs.Text.LineEnd — line ends with and without a carriage return

The same description can come with carriage returns in front of its line feeds or without
them, and reading it from standard input leaves them out. What is found line by line does
not depend on them: a function that puts its result together from the results of the
lines, and that does not see a carriage return at the end of a text, is the same on both.

* `Text.DropsReturns` — a text and the text without carriage returns in front of some of
  its line feeds.
* `Text.dropsReturns_unifyLineEnds`, `Text.dropsReturns_withReturns` — reading from
  standard input, and writing with carriage returns.
* `Text.unifyLineEnds_append`, `Text.unifyLineEnds_of_notMem` — what is read of two texts
  in a row, and of a text without carriage returns.
* `Text.DropsReturns.eq_of_lines` — functions that do not see the difference.
-/

namespace ProseChart.Text

variable {s t : Text}

/-- The second text is the first one with carriage returns left out in front of line
feeds, in front of all of them or of some. -/
inductive DropsReturns : Text → Text → Prop
  | nil : DropsReturns [] []
  | keep (c : Char) {s t : Text} (h : DropsReturns s t) : DropsReturns (c :: s) (c :: t)
  | drop {s t : Text} (h : DropsReturns s t) : DropsReturns ('\r' :: '\n' :: s) ('\n' :: t)

/-- A line feed comes right after every carriage return. -/
def Paired (t : Text) : Prop := ∀ a b, t = a ++ '\r' :: b → b.head? = some '\n'

theorem paired_nil : Paired [] := by
  intro a b heq
  cases List.append_ne_nil_of_right_ne_nil a (List.cons_ne_nil '\r' b) heq.symm

/-- Behind its first character, a text has a line feed after every carriage return if the
whole text has. -/
theorem Paired.tail {c : Char} (h : Paired (c :: t)) : Paired t := by
  intro a b heq
  exact h (c :: a) b (congrArg (c :: ·) heq)

theorem paired_cons_iff {c : Char} :
    Paired (c :: t) ↔ (c = '\r' → t.head? = some '\n') ∧ Paired t := by
  constructor
  · intro h
    refine ⟨?_, h.tail⟩
    rintro rfl
    exact h [] t rfl
  · rintro ⟨hc, ht⟩ a b heq
    cases a with
    | nil =>
      rcases List.cons.inj heq with ⟨hreturn, rfl⟩
      exact hc hreturn
    | cons d a => exact ht a b (List.cons.inj heq).2

instance : ∀ t : Text, Decidable (Paired t)
  | [] => isTrue paired_nil
  | c :: t =>
    have : Decidable (Paired t) := instDecidablePaired t
    decidable_of_iff ((c = '\r' → t.head? = some '\n') ∧ Paired t) paired_cons_iff.symm

/-- A text in which carriage returns stand in front of line feeds only loses all of them
when its line ends are unified, and nothing else. -/
theorem dropsReturns_unifyLineEnds (h : Paired t) : DropsReturns t t.unifyLineEnds := by
  fun_induction unifyLineEnds t with
  | case1 => exact .nil
  | case2 =>
    -- a carriage return at the end has no line feed after it
    have hend := h [] [] rfl
    cases hend
  | case3 rest ih => exact .drop (ih h.tail.tail)
  | case4 d rest hd ih =>
    have hnext := h [] (d :: rest) rfl
    exact absurd (Option.some.inj hnext) hd
  | case5 c rest hc ih => exact .keep c (ih h.tail)

/-! ## Unified line ends -/

/-- A character that is no carriage return is read as it is. -/
theorem unifyLineEnds_cons {c : Char} (hc : c ≠ '\r') :
    unifyLineEnds (c :: t) = c :: unifyLineEnds t := by
  cases t <;> simp [unifyLineEnds, hc]

/-- Two texts are read as one, except where a carriage return meets its line feed. -/
theorem unifyLineEnds_append {a b : Text} (hb : b.head? ≠ some '\n') :
    unifyLineEnds (a ++ b) = unifyLineEnds a ++ unifyLineEnds b := by
  fun_induction unifyLineEnds a with
  | case1 => rfl
  | case2 =>
    cases b with
    | nil => rfl
    | cons d b =>
      have hd : d ≠ '\n' := fun heq => hb (congrArg some heq)
      simp [unifyLineEnds, hd]
  | case3 rest ih => simp [unifyLineEnds, ih]
  | case4 d rest hd ih =>
    rw [List.cons_append] at ih
    simp [unifyLineEnds, hd, ih]
  | case5 c rest hc ih => rw [List.cons_append, unifyLineEnds_cons hc, ih, List.cons_append]

/-- No carriage return is left. -/
theorem return_notMem_unifyLineEnds (t : Text) : '\r' ∉ unifyLineEnds t := by
  fun_induction unifyLineEnds t with
  | case1 => exact List.not_mem_nil
  | case2 => decide
  | case3 rest ih => simpa using ih
  | case4 d rest hd ih => simpa using ih
  | case5 c rest hc ih => simpa [Ne.symm hc] using ih

/-- A text without carriage returns is read as it is. -/
theorem unifyLineEnds_of_notMem (h : '\r' ∉ t) : unifyLineEnds t = t := by
  induction t with
  | nil => rfl
  | cons c t ih =>
    rcases not_or.mp (mt List.mem_cons.mpr h) with ⟨hc, ht⟩
    rw [unifyLineEnds_cons (Ne.symm hc), ih ht]

/-- Reading a text brings in line feeds only. -/
theorem mem_of_mem_unifyLineEnds {c : Char} (h : c ∈ unifyLineEnds t) : c ∈ t ∨ c = '\n' := by
  fun_induction unifyLineEnds t with
  | case1 => exact Or.inl h
  | case2 => exact Or.inr (List.mem_singleton.mp h)
  | case3 rest ih =>
    rcases List.mem_cons.mp h with hfeed | hrest
    · exact Or.inr hfeed
    · exact (ih hrest).imp_left fun hmem => List.mem_cons_of_mem _ (List.mem_cons_of_mem _ hmem)
  | case4 d rest hd ih =>
    rcases List.mem_cons.mp h with hfeed | hrest
    · exact Or.inr hfeed
    · exact (ih hrest).imp_left (List.mem_cons_of_mem _)
  | case5 c' rest hc ih =>
    rcases List.mem_cons.mp h with rfl | hrest
    · exact Or.inl List.mem_cons_self
    · exact (ih hrest).imp_left (List.mem_cons_of_mem _)

/-- No line feed is lost. -/
theorem count_feed_le_unifyLineEnds (t : Text) :
    t.count '\n' ≤ (unifyLineEnds t).count '\n' := by
  fun_induction unifyLineEnds t with
  | case1 => exact Nat.le_refl _
  | case2 => decide
  | case3 rest ih => simpa using ih
  | case4 d rest hd ih =>
    rw [List.count_cons_self, List.count_cons_of_ne (by decide)]
    exact Nat.le_succ_of_le ih
  | case5 c rest hc ih =>
    rw [List.count_cons, List.count_cons]
    exact Nat.add_le_add_right ih _

/-- A text with a carriage return in front of every line feed. -/
def withReturns (t : Text) : Text := t.flatMap fun c => if c = '\n' then ['\r', '\n'] else [c]

theorem dropsReturns_withReturns (t : Text) : DropsReturns t.withReturns t := by
  induction t with
  | nil => exact .nil
  | cons c t ih =>
    by_cases hc : c = '\n'
    · subst hc
      exact .drop ih
    · have hcons : withReturns (c :: t) = c :: withReturns t := by
        simp [withReturns, hc]
      rw [hcons]
      exact .keep c ih

/-- A function that joins the results of the lines, and for which a carriage return at the
end makes no difference, does not see carriage returns in front of line feeds. The
induction is on the texts, with the part before them generalized. -/
theorem DropsReturns.eq_of_lines {α : Type} {f : Text → α} {join : α → α → α}
    (hjoin : ∀ a b, f (a ++ '\n' :: b) = join (f a) (f b)) (hend : ∀ a, f (a ++ ['\r']) = f a)
    (h : DropsReturns s t) : f s = f t := by
  have hbehind : ∀ a, f (a ++ s) = f (a ++ t) := by
    induction h with
    | nil =>
      intro a
      rfl
    | @keep c s t _ ih =>
      intro a
      have hc := ih (a ++ [c])
      rwa [List.append_assoc, List.append_assoc] at hc
    | @drop s t _ ih =>
      intro a
      -- the carriage return ends the line before the line feed
      have hline : a ++ '\r' :: '\n' :: s = (a ++ ['\r']) ++ '\n' :: s := by simp
      have hrest : f s = f t := ih []
      rw [hline, hjoin, hjoin, hend, hrest]
  exact hbehind []

end ProseChart.Text
