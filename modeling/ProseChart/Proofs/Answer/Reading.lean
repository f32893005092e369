import ProseChart.Answer
import ProseChart.Proofs.Quotation.Normal
import ProseChart.Proofs.Review.Composition
import ProseChart.Proofs.Review.Preview
import ProseChart.Proofs.Text.Number

/-!
# ProseChart.Proofs.Answer.Reading — results can be read off the answers

An answer is running text, and the steps in it are whatever its sender wrote: verdicts,
bullets and counts of their own. The parts of an answer are found again all the same. A
preview has no empty line, so the first empty line of a review's answer stands below its
preview, and the verdict stands below that. A quoted text may have empty lines, but the
count behind it ends the answer, and the digits at the end are all of its digits.

* `Text.HasBlankLine`, `Text.not_hasBlankLine_unlines` — lines that are not empty.
* `Answer.Cut`, `Answer.cut_ofReview` — where the answer to a review falls apart.
* `Answer.ofReview_eq_iff` — the review, read off the answer.
* `Answer.ofQuotation_eq_iff` — the quotation, read off from the end.
* `Answer.answers_read_back` — all of it.
-/

namespace ProseChart

/-! ## Texts without empty lines -/

namespace Text

variable {lines : List Text} {l t : Text} {c : Char}

/-- Whether two line feeds stand side by side. -/
def HasBlankLine (t : Text) : Prop := ['\n', '\n'] <:+: t

theorem hasBlankLine_cons_iff (hc : c ≠ '\n') : HasBlankLine (c :: t) ↔ HasBlankLine t := by
  unfold HasBlankLine
  rw [List.infix_cons_iff, List.cons_prefix_cons]
  constructor
  · rintro (⟨hfeed, -⟩ | h)
    · exact absurd hfeed.symm hc
    · exact h
  · intro h
    exact Or.inr h

theorem hasBlankLine_append_iff (hl : '\n' ∉ l) : HasBlankLine (l ++ t) ↔ HasBlankLine t := by
  induction l with
  | nil => rfl
  | cons c l ih =>
    rcases not_or.mp (mt List.mem_cons.mpr hl) with ⟨hc, hrest⟩
    rw [List.cons_append, hasBlankLine_cons_iff (Ne.symm hc), ih hrest]

/-- A line feed makes an empty line only where another one follows. -/
theorem hasBlankLine_feed_cons (h : HasBlankLine ('\n' :: t)) :
    t.head? = some '\n' ∨ HasBlankLine t := by
  unfold HasBlankLine at h
  rw [List.infix_cons_iff, List.cons_prefix_cons] at h
  rcases h with ⟨-, ⟨rest, rfl⟩⟩ | h
  · exact Or.inl rfl
  · exact Or.inr h

/-- No empty line comes from lines that are not empty. The induction is on the lines: a
line feed ends each, and a character of the next line follows it. -/
theorem not_hasBlankLine_unlines (hfeed : ∀ l ∈ lines, '\n' ∉ l) (hne : ∀ l ∈ lines, l ≠ []) :
    ¬ HasBlankLine (unlines lines) := by
  induction lines with
  | nil =>
    intro h
    have hnil : (['\n', '\n'] : Text) = [] := List.infix_nil.mp h
    cases hnil
  | cons l rest ih =>
    rcases List.forall_mem_cons.mp hfeed with ⟨hl, hfeeds⟩
    rcases List.forall_mem_cons.mp hne with ⟨-, hnes⟩
    rw [unlines_cons, hasBlankLine_append_iff hl]
    intro h
    rcases hasBlankLine_feed_cons h with hhead | hrest
    · cases rest with
      | nil => cases hhead
      | cons next later =>
        -- the next line would begin with a line feed
        have hnext : next ≠ [] := hnes next List.mem_cons_self
        rw [unlines_cons, List.head?_append_of_ne_nil _ hnext] at hhead
        exact hfeeds next List.mem_cons_self (List.mem_of_mem_head? hhead)
    · exact ih hfeeds hnes hrest

end Text

/-! ## The answer to a review -/

namespace Review

variable {d : Text}

/-- The lines of a preview. -/
def previewLines (d : Text) : List Text :=
  header :: (Step.extract d).mapIdx fun index step => previewLine (index + 1) step

theorem preview_eq_unlines (d : Text) : (ofDescription d).preview = Text.unlines (previewLines d) :=
  rfl

theorem ne_nil_of_mem_previewLines : ∀ l ∈ previewLines d, l ≠ [] := by
  intro l hl
  rcases List.mem_cons.mp hl with rfl | hl
  · exact List.cons_ne_nil _ _
  · rcases List.mem_mapIdx.mp hl with ⟨k, hk, rfl⟩
    unfold previewLine
    simp

theorem not_hasBlankLine_preview (d : Text) : ¬ Text.HasBlankLine (ofDescription d).preview := by
  rw [preview_eq_unlines]
  exact Text.not_hasBlankLine_unlines (no_feed_of_mem_lines d) ne_nil_of_mem_previewLines

/-- A preview ends with a line feed. -/
theorem exists_preview_eq (d : Text) : ∃ front, (ofDescription d).preview = front ++ ['\n'] := by
  rcases List.eq_nil_or_concat (previewLines d) with hnil | ⟨before, last, hlast⟩
  · cases hnil
  · refine ⟨Text.unlines before ++ last, ?_⟩
    rw [preview_eq_unlines, hlast]
    simp [Text.unlines, Text.line]

/-- Nothing is missing from a complete description, and only from it. -/
theorem isComplete_iff_missing_eq_nil :
    (ofDescription d).isComplete = true ↔ (ofDescription d).missing = [] := by
  show (gaps d).isEmpty = true ↔ (gaps d).map Gap.wording = []
  rw [List.isEmpty_iff, List.map_eq_nil_iff]

theorem no_feed_of_mem_missing {item : Text} (h : item ∈ (ofDescription d).missing) :
    '\n' ∉ item := by
  rcases List.mem_map.mp h with ⟨gap, -, rfl⟩
  cases gap <;> decide

end Review

namespace Answer

variable {d d' front front' rest rest' answer : Text}

/-- What stands below the empty lines. -/
def verdict (review : Review) : Text :=
  if review.isComplete then complete
  else Text.unlines (incomplete :: review.missing.map bullet) ++ advice

/-- An answer is cut at its first empty line: what is above it, without the line feed that
ends it, and what is below it. -/
structure Cut (answer front rest : Text) : Prop where
  text : answer = front ++ '\n' :: '\n' :: rest
  first : ∀ a b, answer = a ++ '\n' :: '\n' :: b → front.length ≤ a.length

/-- There is one such cut. -/
theorem Cut.unique (h : Cut answer front rest) (h' : Cut answer front' rest') :
    front = front' ∧ rest = rest' := by
  have hle : front.length ≤ front'.length := h.first _ _ h'.text
  have hge : front'.length ≤ front.length := h'.first _ _ h.text
  have htext : front ++ '\n' :: '\n' :: rest = front' ++ '\n' :: '\n' :: rest' := by
    rw [← h.text, ← h'.text]
  rcases List.append_inj htext (Nat.le_antisymm hle hge) with ⟨hfront, hrest⟩
  rw [List.cons.injEq, List.cons.injEq] at hrest
  exact ⟨hfront, hrest.2.2⟩

/-- A text that has no empty line but would have one with a line feed more is above the
first one. -/
theorem cut_of_not_hasBlankLine (h : ¬ Text.HasBlankLine (front ++ ['\n'])) (rest : Text) :
    Cut (front ++ '\n' :: '\n' :: rest) front rest where
  text := rfl
  first := by
    intro a b heq
    by_contra hlt
    -- the empty line would be over before `front` is
    have ha : a ++ ['\n', '\n'] <+: front ++ '\n' :: '\n' :: rest := by
      rw [heq]
      exact ⟨b, by simp⟩
    have hfront : front ++ ['\n'] <+: front ++ '\n' :: '\n' :: rest := ⟨'\n' :: rest, by simp⟩
    have hlength : (a ++ ['\n', '\n']).length ≤ (front ++ ['\n']).length := by
      simp only [List.length_append, List.length_cons, List.length_nil]
      omega
    have hinside : a ++ ['\n', '\n'] <+: front ++ ['\n'] :=
      List.prefix_of_prefix_length_le ha hfront hlength
    exact h ((List.suffix_append a _).isInfix.trans hinside.isInfix)

/-- The first empty line of an answer stands below the preview. -/
theorem cut_ofReview {d : Text} (hfront : (Review.ofDescription d).preview = front ++ ['\n']) :
    Cut (ofReview (Review.ofDescription d)) front ('\n' :: verdict (Review.ofDescription d)) := by
  have hnone : ¬ Text.HasBlankLine (front ++ ['\n']) := by
    rw [← hfront]
    exact Review.not_hasBlankLine_preview d
  have hanswer : ofReview (Review.ofDescription d) =
      front ++ '\n' :: '\n' :: '\n' :: verdict (Review.ofDescription d) := by
    show (Review.ofDescription d).preview ++ "\n\n" ++ verdict _ = _
    rw [hfront]
    simp
  rw [hanswer]
  exact cut_of_not_hasBlankLine hnone _

/-- The two verdicts begin differently. -/
theorem verdict_eq_complete_iff {review : Review} :
    verdict review = complete ↔ review.isComplete = true := by
  unfold verdict
  cases review.isComplete with
  | true => exact iff_of_true rfl rfl
  | false =>
    refine iff_of_false ?_ Bool.false_ne_true
    intro h
    have hcomplete : complete.head? = some '✅' := by decide
    have hincomplete : (Text.unlines (incomplete :: review.missing.map bullet) ++ advice).head? =
        some '⚠' := by
      have hne : incomplete ≠ [] := by decide
      rw [Text.unlines_cons, List.append_assoc, List.head?_append_of_ne_nil _ hne]
      decide
    rw [← h, if_neg Bool.false_ne_true, hincomplete] at hcomplete
    revert hcomplete
    decide

/-- The bullets of a verdict are read one by one. -/
theorem missing_eq_of_verdict_eq
    (h : verdict (Review.ofDescription d) = verdict (Review.ofDescription d')) :
    (Review.ofDescription d).missing = (Review.ofDescription d').missing := by
  by_cases hd : (Review.ofDescription d).isComplete = true
  · have hd' : (Review.ofDescription d').isComplete = true := by
      rwa [← verdict_eq_complete_iff, ← h, verdict_eq_complete_iff]
    rw [Review.isComplete_iff_missing_eq_nil.mp hd, Review.isComplete_iff_missing_eq_nil.mp hd']
  · have hd' : ¬ (Review.ofDescription d').isComplete = true := by
      rwa [← verdict_eq_complete_iff, ← h, verdict_eq_complete_iff]
    have hfeed : ∀ d : Text, ∀ l ∈ incomplete :: (Review.ofDescription d).missing.map bullet,
        '\n' ∉ l := by
      intro d l hl
      rcases List.mem_cons.mp hl with rfl | hl
      · decide
      · rcases List.mem_map.mp hl with ⟨item, hitem, rfl⟩
        have hnone : '\n' ∉ item := Review.no_feed_of_mem_missing hitem
        simp [bullet, hnone]
    unfold verdict at h
    rw [if_neg hd, if_neg hd'] at h
    have hlines := Text.unlines_inj (hfeed d) (hfeed d') (List.append_cancel_right h)
    have hbullet : Function.Injective bullet := fun _ _ => List.append_cancel_left
    exact hbullet.list_map (List.cons.inj hlines).2

/-- Different reviews have different answers. -/
theorem ofReview_eq_iff :
    ofReview (Review.ofDescription d) = ofReview (Review.ofDescription d') ↔
      (Review.ofDescription d).preview = (Review.ofDescription d').preview ∧
      (Review.ofDescription d).missing = (Review.ofDescription d').missing ∧
      (Review.ofDescription d).isComplete = (Review.ofDescription d').isComplete := by
  constructor
  · intro h
    rcases Review.exists_preview_eq d with ⟨front, hfront⟩
    rcases Review.exists_preview_eq d' with ⟨front', hfront'⟩
    have hcut := cut_ofReview hfront
    rw [h] at hcut
    rcases hcut.unique (cut_ofReview hfront') with ⟨hsame, hrest⟩
    have hverdict := (List.cons.inj hrest).2
    have hmissing := missing_eq_of_verdict_eq hverdict
    refine ⟨?_, hmissing, ?_⟩
    · rw [hfront, hfront', hsame]
    · rw [Bool.eq_iff_iff, Review.isComplete_iff_missing_eq_nil,
        Review.isComplete_iff_missing_eq_nil, hmissing]
  · rintro ⟨hpreview, hmissing, hcomplete⟩
    have hreview : Review.ofDescription d = Review.ofDescription d' := by
      rw [Review.mk.injEq]
      exact ⟨hcomplete, hmissing, hpreview⟩
    rw [hreview]

/-! ## The answer to a quotation -/

/-- What stands between the quoted text and the count. -/
def countLabel : Text := "\n\n🔁 Quote characters removed: "

/-- The digits at the end are the count, and what is above them is the rest. -/
theorem ofQuotation_inj {q q' : Quotation} {n n' : Nat} (hn : q.removed = n) (hn' : q'.removed = n')
    (h : ofQuotation q = ofQuotation q') : q.converted = q'.converted ∧ n = n' := by
  have hlast : ∀ t : Text, ∀ c ∈ (t ++ countLabel).getLast?, ¬ c.isDigit = true := by
    intro t c hc
    have hlabel : countLabel ≠ [] := by decide
    rw [List.getLast?_append_of_ne_nil _ hlabel] at hc
    have hblank : c = ' ' := (Option.some.inj hc).symm
    rw [hblank]
    decide
  have htext : ∀ (q : Quotation) (m : Nat), q.removed = m →
      ofQuotation q = ("Converted description:\n" ++ q.converted ++ countLabel) ++ Text.ofNat m := by
    intro q m hm
    unfold ofQuotation
    rw [hm]
    rfl
  rw [htext q n hn, htext q' n' hn'] at h
  rcases Text.append_inj_of_forall_right Text.isDigit_of_mem_ofNat Text.isDigit_of_mem_ofNat
    (hlast _) (hlast _) h with ⟨habove, hcount⟩
  constructor
  · exact List.append_cancel_left (List.append_cancel_right habove)
  · have hread := congrArg (fun digits => Nat.ofDigitChars 10 digits 0) hcount
    rwa [Text.ofDigitChars_ofNat, Text.ofDigitChars_ofNat] at hread

/-- Different quotations have different answers. -/
theorem ofQuotation_eq_iff :
    ofQuotation (Quotation.normalize d) = ofQuotation (Quotation.normalize d') ↔
      (Quotation.normalize d).converted = (Quotation.normalize d').converted ∧
      (Quotation.normalize d).removed = (Quotation.normalize d').removed := by
  constructor
  · intro h
    have hn := Quotation.removed_normalize d
    have hn' := Quotation.removed_normalize d'
    rcases ofQuotation_inj hn hn' h with ⟨hconverted, hcount⟩
    refine ⟨hconverted, ?_⟩
    rw [hn, hn', hcount]
  · rintro ⟨hconverted, hremoved⟩
    unfold ofQuotation
    rw [hconverted, hremoved]

/-! ## Both answers -/

/-- Results are read off the answers. Two reviews have the same answer exactly when they
have the same preview, the same missing elements and the same verdict. The preview ends
with the first line feed that another one follows, and below the empty lines stands the
message for complete descriptions exactly when the description is complete. Two
quotations have the same answer exactly when they have the same text and the same
count. -/
theorem answers_read_back :
    (∀ d d' : Text, ofReview (Review.ofDescription d) = ofReview (Review.ofDescription d') ↔
      (Review.ofDescription d).preview = (Review.ofDescription d').preview ∧
      (Review.ofDescription d).missing = (Review.ofDescription d').missing ∧
      (Review.ofDescription d).isComplete = (Review.ofDescription d').isComplete) ∧
    (∀ d : Text, ∃ front below, (Review.ofDescription d).preview = front ++ ['\n'] ∧
      Cut (ofReview (Review.ofDescription d)) front ('\n' :: below) ∧
      (below = complete ↔ (Review.ofDescription d).isComplete = true)) ∧
    (∀ d d' : Text,
      ofQuotation (Quotation.normalize d) = ofQuotation (Quotation.normalize d') ↔
        (Quotation.normalize d).converted = (Quotation.normalize d').converted ∧
        (Quotation.normalize d).removed = (Quotation.normalize d').removed) := by
  refine ⟨fun _ _ => ofReview_eq_iff, ?_, fun _ _ => ofQuotation_eq_iff⟩
  intro d
  rcases Review.exists_preview_eq d with ⟨front, hfront⟩
  exact ⟨front, verdict (Review.ofDescription d), hfront, cut_ofReview hfront,
    verdict_eq_complete_iff⟩

end Answer

end ProseChart
