import ProseChart.Review

/-!
# ProseChart.Proofs.Text.Fold — what a keyword search may read

`Text.fold` lower-cases a text only as far as keywords can see. That is enough: whatever
a full lower-casing makes of the other letters, and wherever it makes it, the same
keywords stand in the text.

* `Text.LowerCase`, `Text.lowerCase_fold` — the lower-case forms of a text; letters outside
  ASCII are left open.
* `Text.LowerCase.sameWords`, `Text.LowerCase.eq_iff` — an ASCII word stands in all of them
  or in none, and is all of them or none.
* `Keyword.occurs_eq_of_lowerCase`, `Review.gaps_eq_of_lowerCase` — searches in any of them.
-/

namespace ProseChart

namespace Text

variable {word block s t : Text}

/-- An ASCII character. -/
def IsAscii (c : Char) : Prop := c.toNat < 128

instance (c : Char) : Decidable (IsAscii c) := inferInstanceAs (Decidable (c.toNat < 128))

/-- A text without ASCII characters that is not empty. -/
def Foreign (block : Text) : Prop := block ≠ [] ∧ ∀ c ∈ block, ¬ IsAscii c

/-- The second text is a lower-case form of the first one. Characters turn into the
blocks of `foldChar`; where there is no ASCII character in the block, some other such
block may stand in its place, which need not be the same at every occurrence of the
character: a capital sigma looks at its surroundings. -/
inductive LowerCase : Text → Text → Prop
  | nil : LowerCase [] []
  | letter (c : Char) {t s : Text} (h : LowerCase t s) : LowerCase (c :: t) (foldChar c ++ s)
  | foreign (c : Char) {t s block : Text} (h : LowerCase t s) (hfold : Foreign (foldChar c))
    (hblock : Foreign block) : LowerCase (c :: t) (block ++ s)

/-- `fold` is one of them. -/
theorem lowerCase_fold (t : Text) : LowerCase t t.fold := by
  induction t with
  | nil => exact .nil
  | cons c t ih => exact .letter c ih

theorem foreign_singleton {c : Char} (h : ¬ IsAscii c) : Foreign [c] := by
  refine ⟨List.cons_ne_nil c [], ?_⟩
  intro d hd
  rwa [List.mem_singleton.mp hd]

/-- A capital sigma at the end may come out as the small one that ends words. -/
theorem lowerCase_final_sigma (t : Text) : LowerCase (t ++ ['Σ']) (t.fold ++ ['ς']) := by
  induction t with
  | nil =>
    have hcapital : Foreign ['Σ'] := foreign_singleton (by decide)
    have hsmall : Foreign ['ς'] := foreign_singleton (by decide)
    exact LowerCase.foreign (s := []) 'Σ' .nil hcapital hsmall
  | cons c t ih =>
    have hfold : fold (c :: t) ++ ['ς'] = foldChar c ++ (fold t ++ ['ς']) :=
      List.append_assoc (foldChar c) (fold t) ['ς']
    rw [hfold]
    exact .letter c ih

/-- Two texts begin with the same ASCII words, and the same ASCII words stand in them. -/
def SameWords (s t : Text) : Prop :=
  ∀ word : Text, (∀ c ∈ word, IsAscii c) → (word <+: s ↔ word <+: t) ∧ (word <:+: s ↔ word <:+: t)

theorem SameWords.cons (h : SameWords s t) (c : Char) : SameWords (c :: s) (c :: t) := by
  intro word hword
  have hprefix : word <+: c :: s ↔ word <+: c :: t := by
    cases word with
    | nil => simp
    | cons d rest =>
      rw [List.cons_prefix_cons, List.cons_prefix_cons,
        (h rest fun e he => hword e (List.mem_cons_of_mem d he)).1]
  rw [List.infix_cons_iff, List.infix_cons_iff, hprefix, (h word hword).2]
  exact ⟨Iff.rfl, Iff.rfl⟩

theorem SameWords.append_left (h : SameWords s t) (block : Text) :
    SameWords (block ++ s) (block ++ t) := by
  induction block with
  | nil => exact h
  | cons c rest ih => exact ih.cons c

/-- An ASCII word does not begin in a foreign block. -/
theorem Foreign.prefix_append_iff (h : Foreign block) (hword : ∀ c ∈ word, IsAscii c) :
    word <+: block ++ s ↔ word = [] := by
  rcases h with ⟨hne, hforeign⟩
  cases block with
  | nil => exact absurd rfl hne
  | cons d rest =>
    cases word with
    | nil => simp
    | cons c word =>
      have hc : c ≠ d := by
        rintro rfl
        exact hforeign c List.mem_cons_self (hword c List.mem_cons_self)
      simp [List.cons_prefix_cons, hc]

/-- An ASCII word that stands in a text stands behind a foreign block at its head. -/
theorem infix_append_iff_of_foreign (hforeign : ∀ c ∈ block, ¬ IsAscii c)
    (hword : ∀ c ∈ word, IsAscii c) : word <:+: block ++ s ↔ word <:+: s := by
  induction block with
  | nil => rfl
  | cons d rest ih =>
    have hhead : Foreign (d :: rest) := ⟨List.cons_ne_nil d rest, hforeign⟩
    rw [List.cons_append, List.infix_cons_iff, ← List.cons_append, hhead.prefix_append_iff hword,
      ih fun c hc => hforeign c (List.mem_cons_of_mem d hc)]
    exact or_iff_right_of_imp fun hnil => hnil ▸ List.nil_infix

theorem SameWords.foreign {other : Text} (h : SameWords s t) (hblock : Foreign block)
    (hother : Foreign other) : SameWords (block ++ s) (other ++ t) := by
  intro word hword
  rw [hblock.prefix_append_iff hword, hother.prefix_append_iff hword,
    infix_append_iff_of_foreign hblock.2 hword, infix_append_iff_of_foreign hother.2 hword]
  exact ⟨Iff.rfl, (h word hword).2⟩

/-- In every lower-case form of a text there stand the ASCII words that `fold` finds. -/
theorem LowerCase.sameWords (h : LowerCase t s) : SameWords s t.fold := by
  induction h with
  | nil => exact fun word _ => ⟨Iff.rfl, Iff.rfl⟩
  | letter c _ ih => exact ih.append_left (foldChar c)
  -- no ASCII word reaches into a foreign block, so it does not matter which one it is
  | foreign _ _ hfold hblock ih => exact ih.foreign hblock hfold

theorem Foreign.not_forall_isAscii (h : Foreign block) : ¬ ∀ c ∈ block ++ s, IsAscii c := by
  rcases h with ⟨hne, hforeign⟩
  rcases List.exists_mem_of_ne_nil block hne with ⟨c, hc⟩
  intro hall
  exact hforeign c hc (hall c (List.mem_append_left s hc))

/-- A lower-case form in ASCII leaves nothing open: it is what `fold` makes, and so is every
other form of a text of which `fold` makes ASCII. -/
theorem LowerCase.eq_fold (h : LowerCase t s)
    (hascii : (∀ c ∈ s, IsAscii c) ∨ ∀ c ∈ t.fold, IsAscii c) : s = t.fold := by
  induction h with
  | nil => rfl
  | @letter c t s _ ih =>
    have hfold : fold (c :: t) = foldChar c ++ fold t := rfl
    have hrest : (∀ d ∈ s, IsAscii d) ∨ ∀ d ∈ t.fold, IsAscii d := by
      rw [hfold] at hascii
      exact hascii.imp (fun hall d hd => hall d (List.mem_append_right _ hd))
        (fun hall d hd => hall d (List.mem_append_right _ hd))
    rw [hfold, ih hrest]
  | foreign c _ hfold hblock _ =>
    -- neither form of the character is ASCII
    rcases hascii with hall | hall
    · exact absurd hall hblock.not_forall_isAscii
    · exact absurd hall hfold.not_forall_isAscii

/-- An ASCII text is all lower-case forms of a text or none. -/
theorem LowerCase.eq_iff (h : LowerCase t s) (hword : ∀ c ∈ word, IsAscii c) :
    s = word ↔ t.fold = word := by
  constructor
  · rintro rfl
    exact (h.eq_fold (Or.inl hword)).symm
  · rintro rfl
    exact h.eq_fold (Or.inr hword)

end Text

/-! ## Keywords -/

namespace Keyword

/-- The families of a review and of a chart. -/
def all : List (List Text) := [start, connection, condition, decision, alternative]

/-- Keywords are ASCII words. -/
theorem isAscii_of_mem_all :
    ∀ family ∈ all, ∀ word ∈ family, ∀ c ∈ word, Text.IsAscii c := by
  have hall : (all.all fun family => family.all fun word => word.all (Text.IsAscii ·)) = true := by
    decide +kernel
  simpa only [List.all_eq_true, decide_eq_true_eq] using hall

/-- A keyword stands in any lower-case form of a text or in none. -/
theorem infix_iff_of_lowerCase {family : List Text} {word t s : Text} (hfamily : family ∈ all)
    (hword : word ∈ family) (h : Text.LowerCase t s) : word <:+: s ↔ word <:+: t.fold :=
  (h.sameWords word (isAscii_of_mem_all family hfamily word hword)).2

/-- A keyword search may read any lower-case form of the text. -/
theorem occurs_eq_of_lowerCase {family : List Text} {t s : Text} (hfamily : family ∈ all)
    (h : Text.LowerCase t s) : occurs family t = family.any (Text.mentions · s) := by
  rw [Bool.eq_iff_iff, occurs_iff, List.any_eq_true]
  apply exists_congr
  intro word
  rw [and_congr_right_iff]
  intro hword
  rw [Text.mentions_iff_infix, infix_iff_of_lowerCase hfamily hword h]

end Keyword

theorem Gap.family_mem_all (gap : Gap) : gap.family ∈ Keyword.all := by
  cases gap with
  | start => exact List.mem_cons_self
  | connections => exact List.mem_cons_of_mem _ List.mem_cons_self
  | decisions => exact List.mem_cons_of_mem _ (List.mem_cons_of_mem _ List.mem_cons_self)

/-- A review may read any lower-case form of the description. -/
theorem Review.gaps_eq_of_lowerCase {description s : Text} (h : Text.LowerCase description s) :
    gaps description = Gap.all.filter fun gap => !gap.family.any (Text.mentions · s) := by
  apply List.filter_congr
  intro gap _
  rw [Keyword.occurs_eq_of_lowerCase gap.family_mem_all h]

end ProseChart
