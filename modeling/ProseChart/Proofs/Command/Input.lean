import ProseChart.Command
import ProseChart.Proofs.Review.Composition
import ProseChart.Proofs.Step.Layout
import ProseChart.Proofs.Text.LineEnd

/-!
# ProseChart.Proofs.Command.Input — the operand and standard input

A command takes its description from its operand or from standard input, where line ends
are unified. The two texts differ in their carriage returns, and no command that draws or
reviews shows the difference: steps are cut at line feeds and a carriage return is margin,
and no keyword reaches across the end of a line.

* `Step.extract_append_return`, `Review.gaps_append_return` — a carriage return at the end.
* `Text.DropsReturns.ofDescription_eq` and its companions — steps, reviews and charts.
* `Command.Operands` — the command lines that give a text.
* `Command.FromInput`, `Command.input_as_operand` — both ways to give a description.
-/

namespace ProseChart

open Text (DropsReturns Paired)

/-! ## A carriage return at the end of a text -/

theorem Step.extract_append_return (t : Text) : extract (t ++ ['\r']) = extract t := by
  have hgap : IsGap ['\r'] := by
    intro c hc
    rw [List.mem_singleton.mp hc]
    rfl
  exact extract_append_gap hgap

theorem Keyword.apart_return : Apart '\r' where
  fold := rfl
  absent := by decide +kernel

theorem Review.gaps_append_return (t : Text) : gaps (t ++ ['\r']) = gaps t := by
  apply List.filter_congr
  intro gap _
  have hnothing : ¬ Keyword.occurs gap.family [] = true := by
    cases gap <;> decide
  have hoccurs : Keyword.occurs gap.family (t ++ ['\r']) = true ↔
      Keyword.occurs gap.family t = true := by
    rw [Keyword.occurs_append_cons gap.family_mem_all Keyword.apart_return]
    exact or_iff_left hnothing
  rw [Bool.eq_iff_iff.mpr hoccurs]

/-! ## What does not depend on carriage returns -/

/-- The elements that are in both lists, in reporting order. -/
def Gap.common (gaps gaps' : List Gap) : List Gap :=
  Gap.all.filter fun gap => gap ∈ gaps ∧ gap ∈ gaps'

namespace Text.DropsReturns

variable {s t : Text}

theorem extract_eq (h : DropsReturns s t) : Step.extract s = Step.extract t :=
  h.eq_of_lines (Step.extract_append_cons rfl) Step.extract_append_return

theorem gaps_eq (h : DropsReturns s t) : Review.gaps s = Review.gaps t := by
  have hjoin : ∀ a b : Text, Review.gaps (a ++ '\n' :: b) =
      Gap.common (Review.gaps a) (Review.gaps b) := by
    intro a b
    exact Review.gaps_append_cons a b rfl
  exact h.eq_of_lines hjoin Review.gaps_append_return

theorem review_eq (h : DropsReturns s t) : Review.ofDescription s = Review.ofDescription t := by
  unfold Review.ofDescription
  rw [h.extract_eq, h.gaps_eq]

theorem chart_eq (h : DropsReturns s t) : Chart.ofDescription s = Chart.ofDescription t := by
  unfold Chart.ofDescription
  rw [h.extract_eq]

theorem source_eq (h : DropsReturns s t) : Chart.source s = Chart.source t := by
  unfold Chart.source
  rw [h.chart_eq]

end Text.DropsReturns

namespace Command

open Arguments

variable {s d : Text} {environment environment' : Environment} {input : Text}
  {argv argv' : List Text} {operand : Option Text} {json : Bool} {form : Form} {name : Name}

/-! ## Command lines -/

/-- A word that does not begin with a dash stands for itself. -/
theorem words_of_head? (hs : s.head? ≠ some '-') : form.words [s] = .ok [⟨s, .plain⟩] := by
  have hrole : role form.flags s = .ok .plain := by
    unfold role
    split
    · exact absurd rfl hs
    · rfl
  have hne : s ≠ "--" := by
    rintro rfl
    exact hs rfl
  unfold Form.words
  rw [if_neg hne, hrole]
  rfl

/-- The command line that a name and words for its command make. -/
theorem mainForm_parse_cons {words : List Word} (name : Name)
    (hwords : mainForm.words (s :: argv) = .ok words) :
    mainForm.parse (name.word :: s :: argv) =
      .ok { command := some (name.word, words.map Word.raw) } := by
  have hall : mainForm.words (name.word :: s :: argv) = .ok (⟨name.word, .plain⟩ :: words) := by
    have hcons : mainForm.words (name.word :: s :: argv) =
        (mainForm.words (s :: argv)).map fun others => ⟨name.word, .plain⟩ :: others := by
      cases name <;> rfl
    rw [hcons, hwords]
    rfl
  unfold Form.parse
  rw [hall]
  cases name <;> rfl

/-- A description that does not begin with a dash can follow the command's name. -/
theorem parse_plain (hname : name ≠ .serve) (hs : s.head? ≠ some '-') :
    parse [name.word, s] = .ok (ofParsed name { operand := some s, taken := true }) := by
  have houter : mainForm.parse [name.word, s] = .ok { command := some (name.word, [s]) } :=
    mainForm_parse_cons name (words_of_head? hs)
  have hinner : (formOf name).parse [s] = .ok { operand := some s, taken := true } := by
    unfold Form.parse
    rw [words_of_head? hs]
    cases name with
    | serve => exact absurd rfl hname
    | _ => rfl
  have hnamed : named? (name.word, [s]) = some (name, [s]) := by
    cases name <;> rfl
  unfold parse
  rw [houter]
  simp only [Option.bind_some, hnamed, hinner]
  rfl

/-- The command lines that give a text as the description. -/
structure Operands (s : Text) : Prop where
  /-- After two dashes, any text is an operand. -/
  separated : parse ["analyze", "--", s] = .ok (.analyze (some s) false) ∧
    parse ["analyze", "--json", "--", s] = .ok (.analyze (some s) true) ∧
    parse ["generate", "--", s] = .ok (.generate (some s))
  /-- Without them, any text that does not begin with a dash. -/
  plain : s.head? ≠ some '-' → parse ["analyze", s] = .ok (.analyze (some s) false) ∧
    parse ["generate", s] = .ok (.generate (some s))

theorem operands (s : Text) : Operands s where
  separated := ⟨rfl, rfl, rfl⟩
  plain := by
    intro hs
    have hanalyze : Name.analyze ≠ .serve := by decide
    have hgenerate : Name.generate ≠ .serve := by decide
    exact ⟨parse_plain hanalyze hs, parse_plain hgenerate hs⟩

/-! ## Operand and standard input -/

theorem descriptionFrom_some (hs : s ≠ "-") : descriptionFrom (some s) input = s :=
  if_neg hs

/-- An operand that is left out, or a dash, stands for standard input. -/
theorem descriptionFrom_input (h : operand = none ∨ operand = some "-") :
    descriptionFrom operand input = input.unifyLineEnds := by
  rcases h with rfl | rfl
  · rfl
  · rfl

/-- A command line that is a command runs it. -/
theorem execute_of_parse {command : Command} (h : parse argv = .ok command) :
    execute environment input argv = command.run environment input := by
  rw [execute, h]

/-- The outcome of a review or a drawing looks at the description only. -/
theorem execute_analyze (h : parse argv = .ok (.analyze operand json))
    (hd : descriptionFrom operand input = d) :
    execute environment input argv =
      .ok { output := if json then printedRecord (Review.ofDescription d).record
                      else printedReview (Review.ofDescription d) } := by
  rw [execute_of_parse h, ← hd]
  rfl

theorem execute_generate (h : parse argv = .ok (.generate operand))
    (hd : descriptionFrom operand input = d) :
    execute environment input argv = .ok { output := Chart.source d } := by
  rw [execute_of_parse h, ← hd]
  rfl

/-- A text does the same as the operand of a command line and as the standard input of
one whose operand is left out or a dash: both have an outcome, and it is the same one. -/
structure FromInput (s : Text) : Prop where
  analyze : ∀ environment environment' input argv argv' operand json,
    parse argv = .ok (.analyze (some s) json) → parse argv' = .ok (.analyze operand json) →
    (operand = none ∨ operand = some "-".toList) →
      ∃ outcome, execute environment input argv = .ok outcome ∧
        execute environment' s argv' = .ok outcome
  generate : ∀ environment environment' input argv argv' operand,
    parse argv = .ok (.generate (some s)) → parse argv' = .ok (.generate operand) →
    (operand = none ∨ operand = some "-".toList) →
      ∃ outcome, execute environment input argv = .ok outcome ∧
        execute environment' s argv' = .ok outcome

theorem fromInput_of_paired (hs : s ≠ "-") (hpaired : Paired s) : FromInput s where
  analyze := by
    intro environment environment' input argv argv' operand json hargv hargv' hoperand
    have hreview : Review.ofDescription s = Review.ofDescription s.unifyLineEnds :=
      (Text.dropsReturns_unifyLineEnds hpaired).review_eq
    refine ⟨_, execute_analyze hargv (descriptionFrom_some hs), ?_⟩
    rw [hreview]
    exact execute_analyze hargv' (descriptionFrom_input hoperand)
  generate := by
    intro environment environment' input argv argv' operand hargv hargv' hoperand
    have hsource : Chart.source s = Chart.source s.unifyLineEnds :=
      (Text.dropsReturns_unifyLineEnds hpaired).source_eq
    refine ⟨_, execute_generate hargv (descriptionFrom_some hs), ?_⟩
    rw [hsource]
    exact execute_generate hargv' (descriptionFrom_input hoperand)

/-- A description can be given as the operand or on standard input. Where a line feed
comes right after every carriage return, the commands that review and draw have the same
outcome in both cases. Whatever the description is, carriage returns in front of its line
feeds change neither its steps nor what it is missing nor its chart. -/
theorem input_as_operand :
    (∀ s : Text, s ≠ "-" → Paired s → FromInput s) ∧
    (∀ s : Text, Operands s) ∧
    (∀ d : Text, Step.extract d.withReturns = Step.extract d ∧
      (Review.ofDescription d.withReturns).missing = (Review.ofDescription d).missing ∧
      Chart.ofDescription d.withReturns = Chart.ofDescription d ∧
      Chart.source d.withReturns = Chart.source d) := by
  refine ⟨fun _ => fromInput_of_paired, operands, ?_⟩
  intro d
  have hdrops := Text.dropsReturns_withReturns d
  refine ⟨hdrops.extract_eq, ?_, hdrops.chart_eq, hdrops.source_eq⟩
  rw [hdrops.review_eq]

/-- The carriage return stands between a step and its delimiter here. -/
theorem input_as_operand_twoLines :
    ("Start the order\r\nIf paid, ship" : Text) ≠ "-" ∧
      Paired "Start the order\r\nIf paid, ship" ∧
      ∃ outcome,
        execute [] [] ["analyze", "--json", "--", "Start the order\r\nIf paid, ship"] = .ok outcome ∧
        execute [] "Start the order\r\nIf paid, ship" ["analyze", "--json"] = .ok outcome := by
  have hne : ("Start the order\r\nIf paid, ship" : Text) ≠ "-" := by decide
  have hpaired : Paired "Start the order\r\nIf paid, ship" := by decide
  have hargv := (operands "Start the order\r\nIf paid, ship").separated.2.1
  exact ⟨hne, hpaired,
    (input_as_operand.1 _ hne hpaired).analyze [] [] [] _ ["analyze", "--json"] none true hargv rfl
      (Or.inl rfl)⟩

end Command

end ProseChart
