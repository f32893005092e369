import ProseChart.Text

/-!
# ProseChart.Proofs.Text.Cut — lists that can be cut in one way only

A list that is put together from a part inside a class and a part that does not
continue the class falls apart at one place only. Reading a line format back,
reading lines back from a text and finding the steps of a description all rest
on this.

* `Text.append_inj_of_forall`, `Text.append_inj_of_forall_right` — the one cut,
  from the front and from the back.
* `Text.infix_append_cons_iff` — a word does not reach across a character that it
  does not hold.
* `Text.unlines_inj` — lines without a line feed can be read back.
* `Text.trim_append` — a trimmed text is found again under a margin.
* `Text.exists_eq_append_trim`, `Text.trim_surrounded` — what trimming takes, and that it
  takes no notice of it.
-/

namespace ProseChart.Text

/-! ## The one cut -/

section Cut

variable {α : Type} {p : α → Prop} {a b s t : List α}

/-- Two lists that start with the class `p` and leave it agree on where they
leave it. -/
theorem append_inj_of_forall (ha : ∀ x ∈ a, p x) (hb : ∀ x ∈ b, p x)
    (hs : ∀ x ∈ s.head?, ¬ p x) (ht : ∀ x ∈ t.head?, ¬ p x) (h : a ++ s = b ++ t) :
    a = b ∧ s = t := by
  induction a generalizing b with
  | nil =>
    cases b with
    | nil => exact ⟨rfl, h⟩
    | cons y b =>
      -- `s` would go on with the class
      have hhead : y ∈ s.head? := by rw [← List.nil_append s, h]; rfl
      exact absurd (hb y List.mem_cons_self) (hs y hhead)
  | cons x a ih =>
    cases b with
    | nil =>
      have hhead : x ∈ t.head? := by rw [← List.nil_append t, ← h]; rfl
      exact absurd (ha x List.mem_cons_self) (ht x hhead)
    | cons y b =>
      rcases List.cons.inj h with ⟨rfl, hrest⟩
      rcases List.forall_mem_cons.mp ha with ⟨-, ha⟩
      rcases List.forall_mem_cons.mp hb with ⟨-, hb⟩
      rcases ih ha hb hrest with ⟨rfl, rfl⟩
      exact ⟨rfl, rfl⟩

/-- Two lists that end in the class `p`, with none of it in front, agree on where they
enter it. -/
theorem append_inj_of_forall_right (ha : ∀ x ∈ a, p x) (hb : ∀ x ∈ b, p x)
    (hs : ∀ x ∈ s.getLast?, ¬ p x) (ht : ∀ x ∈ t.getLast?, ¬ p x) (h : s ++ a = t ++ b) :
    s = t ∧ a = b := by
  have hreverse : a.reverse ++ s.reverse = b.reverse ++ t.reverse := by
    rw [← List.reverse_append, ← List.reverse_append, h]
  have ha' : ∀ x ∈ a.reverse, p x := fun x hx => ha x (List.mem_reverse.mp hx)
  have hb' : ∀ x ∈ b.reverse, p x := fun x hx => hb x (List.mem_reverse.mp hx)
  have hs' : ∀ x ∈ s.reverse.head?, ¬ p x := by rwa [List.head?_reverse]
  have ht' : ∀ x ∈ t.reverse.head?, ¬ p x := by rwa [List.head?_reverse]
  rcases append_inj_of_forall ha' hb' hs' ht' hreverse with ⟨hab, hst⟩
  exact ⟨List.reverse_inj.mp hst, List.reverse_inj.mp hab⟩

/-- A function that tells the items of two lists apart tells the lists apart. -/
theorem map_inj_of_forall {β : Type} {f : α → β} (hf : ∀ x ∈ a, ∀ y ∈ b, f x = f y → x = y)
    (h : a.map f = b.map f) : a = b := by
  induction a generalizing b with
  | nil => exact (List.map_eq_nil_iff.mp h.symm).symm
  | cons x a ih =>
    cases b with
    | nil => cases h
    | cons y b =>
      rcases List.cons.inj h with ⟨hxy, hrest⟩
      have hhead : x = y := hf x List.mem_cons_self y List.mem_cons_self hxy
      have htail : a = b := by
        refine ih ?_ hrest
        intro z hz w hw
        exact hf z (List.mem_cons_of_mem x hz) w (List.mem_cons_of_mem y hw)
      rw [hhead, htail]

end Cut

/-! ## Words around a character -/

section Words

variable {α : Type} {word a b : List α} {c : α}

/-- Only the empty word begins at a character that it does not hold. -/
theorem eq_nil_of_prefix_cons (h : c ∉ word) (hbegin : word <+: c :: b) : word = [] := by
  cases word with
  | nil => rfl
  | cons d word =>
    obtain rfl : d = c := (List.cons_prefix_cons.mp hbegin).1
    exact absurd List.mem_cons_self h

/-- A word does not reach beyond a character that it does not hold. -/
theorem prefix_of_prefix_append_cons (h : c ∉ word) (hbegin : word <+: a ++ c :: b) :
    word <+: a := by
  rcases List.prefix_or_prefix_of_prefix hbegin (List.prefix_append a _) with hword | ⟨more, rfl⟩
  · exact hword
  · have hmore : more <+: c :: b := (List.prefix_append_right_inj a).mp hbegin
    have hnone : c ∉ more := fun hc => h (List.mem_append_right a hc)
    have hnil : more = [] := eq_nil_of_prefix_cons hnone hmore
    simp [hnil]

/-- A word stands on one side of a character that it does not hold. -/
theorem infix_append_cons_iff (h : c ∉ word) :
    word <:+: a ++ c :: b ↔ word <:+: a ∨ word <:+: b := by
  induction a with
  | nil =>
    rw [List.nil_append, List.infix_cons_iff, List.infix_nil]
    -- where the word begins at the character, it is empty
    constructor
    · rintro (hbegin | hb)
      · exact Or.inl (eq_nil_of_prefix_cons h hbegin)
      · exact Or.inr hb
    · rintro (rfl | hb)
      · exact Or.inl List.nil_prefix
      · exact Or.inr hb
  | cons d a ih =>
    have hbegin : word <+: d :: (a ++ c :: b) ↔ word <+: d :: a := by
      constructor
      · intro hword
        exact prefix_of_prefix_append_cons (a := d :: a) h hword
      · intro hword
        exact hword.trans (List.prefix_append (d :: a) (c :: b))
    rw [List.cons_append, List.infix_cons_iff, hbegin, ih, List.infix_cons_iff, or_assoc]

end Words

/-! ## Lines -/

@[simp] theorem unlines_nil : unlines [] = [] := rfl

theorem unlines_cons (l : Text) (lines : List Text) :
    unlines (l :: lines) = l ++ '\n' :: unlines lines := by
  simp [unlines, line]

/-- Lines without a line feed can be read back from the text. -/
theorem unlines_inj {lines lines' : List Text} (h : ∀ l ∈ lines, '\n' ∉ l)
    (h' : ∀ l ∈ lines', '\n' ∉ l) (heq : unlines lines = unlines lines') : lines = lines' := by
  induction lines generalizing lines' with
  | nil =>
    cases lines' with
    | nil => rfl
    | cons l' lines' => simp [unlines_cons] at heq
  | cons l lines ih =>
    cases lines' with
    | nil => simp [unlines_cons] at heq
    | cons l' lines' =>
      rw [unlines_cons, unlines_cons] at heq
      rcases List.forall_mem_cons.mp h with ⟨hl, hlines⟩
      rcases List.forall_mem_cons.mp h' with ⟨hl', hlines'⟩
      -- the first line feed ends the first line on both sides
      have hcut : l = l' ∧ '\n' :: unlines lines = '\n' :: unlines lines' :=
        append_inj_of_forall (p := (· ≠ '\n')) (fun c hc hfeed => hl (hfeed ▸ hc))
          (fun c hc hfeed => hl' (hfeed ▸ hc)) (by simp) (by simp) heq
      rcases hcut with ⟨rfl, hfeed⟩
      have hrest : unlines lines = unlines lines' := (List.cons.inj hfeed).2
      rw [ih hlines hlines' hrest]

/-! ## Pieces and trimming -/

variable {p : Char → Bool} {t s : Text} {c : Char}

/-- A text without a cut is one piece. -/
theorem pieces_of_forall (h : ∀ c ∈ t, p c = false) : pieces p t = [t] := by
  induction t with
  | nil => rfl
  | cons c t ih =>
    rcases List.forall_mem_cons.mp h with ⟨hc, ht⟩
    rw [pieces, hc, ih ht]
    rfl

/-- Trimming forgets a character of the class in front. -/
theorem trim_cons (hc : p c = true) : trim p (c :: t) = trim p t := by
  rw [trim, trim, List.dropWhile_cons_of_pos hc]

theorem dropWhile_of_head? (h : ∀ c ∈ s.head?, p c = false) : s.dropWhile p = s := by
  cases s with
  | nil => rfl
  | cons c s => exact List.dropWhile_cons_of_neg (by simp [h c rfl])

/-- A text that neither begins nor ends with the class `p` is what trimming leaves
of it when characters of the class follow it. -/
theorem trim_append (hhead : ∀ c ∈ s.head?, p c = false) (hlast : ∀ c ∈ s.getLast?, p c = false)
    (hne : s ≠ []) (ht : ∀ c ∈ t, p c = true) : trim p (s ++ t) = s := by
  have hfront : (s ++ t).dropWhile p = s ++ t := by
    apply dropWhile_of_head?
    cases s with
    | nil => exact absurd rfl hne
    | cons c s => exact hhead
  have hback : s.reverse.dropWhile p = s.reverse := by
    apply dropWhile_of_head?
    rwa [List.head?_reverse]
  rw [trim, trimEnd, hfront, List.reverse_append,
    List.dropWhile_append_of_pos (by simpa using ht), hback, List.reverse_reverse]

/-- A text without the class `p` has nothing to trim. -/
theorem trim_of_forall (h : ∀ c ∈ t, p c = false) : trim p t = t := by
  by_cases hne : t = []
  · rw [hne]
    rfl
  · have hhead : ∀ c ∈ t.head?, p c = false := fun c hc => h c (List.mem_of_mem_head? hc)
    have hlast : ∀ c ∈ t.getLast?, p c = false := fun c hc => h c (List.mem_of_mem_getLast? hc)
    have htrim := trim_append (t := []) hhead hlast hne (by simp)
    rwa [List.append_nil] at htrim

/-- Trimming takes characters of the class from both ends, and nothing else. -/
theorem exists_eq_append_trim (p : Char → Bool) (t : Text) :
    ∃ front back, t = front ++ (trim p t ++ back) ∧ (∀ c ∈ front, p c = true) ∧
      ∀ c ∈ back, p c = true := by
  have htaken : ∀ s : Text, ∀ c ∈ s.takeWhile p, p c = true := by
    intro s c hc
    exact List.all_eq_true.mp (List.all_takeWhile (l := s)) c hc
  let rest := t.dropWhile p
  refine ⟨t.takeWhile p, (rest.reverse.takeWhile p).reverse, ?_, htaken t, ?_⟩
  · -- what is dropped at the end is what is taken from the reversed text
    have hrest : trim p t ++ (rest.reverse.takeWhile p).reverse = rest := by
      rw [trim, trimEnd, ← List.reverse_append, List.takeWhile_append_dropWhile,
        List.reverse_reverse]
    rw [hrest, List.takeWhile_append_dropWhile]
  · intro c hc
    exact htaken rest.reverse c (List.mem_reverse.mp hc)

/-- Trimming forgets characters of the class at both ends. -/
theorem trim_surrounded {front back : Text} (hfront : ∀ c ∈ front, p c = true)
    (hback : ∀ c ∈ back, p c = true) : trim p (front ++ (t ++ back)) = trim p t := by
  have hdrop : (front ++ (t ++ back)).dropWhile p = (t ++ back).dropWhile p :=
    List.dropWhile_append_of_pos hfront
  have hend : ∀ s : Text, trimEnd p (s ++ back) = trimEnd p s := by
    intro s
    rw [trimEnd, trimEnd, List.reverse_append, List.dropWhile_append_of_pos (by simpa using hback)]
  rw [trim, trim, hdrop, List.dropWhile_append]
  split
  · next hnone =>
    -- nothing is left of the text, so the class goes on into what follows it
    have hall : (back ++ []).dropWhile p = [] := List.dropWhile_append_of_pos hback
    rw [List.append_nil] at hall
    rw [hall, List.isEmpty_iff.mp hnone]
  · exact hend _

end ProseChart.Text
