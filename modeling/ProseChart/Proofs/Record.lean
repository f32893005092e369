import ProseChart.Assistant.Tool
import ProseChart.Command
import ProseChart.Proofs.Json.RoundTrip
import ProseChart.Proofs.Quotation.Normal

/-!
# ProseChart.Proofs.Record — results in JSON stand for themselves

Results leave the library as JSON on two ways, on one line from the assistant's tool and
indented from the command line, and the arguments of a remote call come in as JSON. The
reader of those arguments gets from each text the value that it was printed from, whatever
the steps, the quotes or the description say.

The reader of arguments refuses integers of more than 4300 digits. The only integer in a
result is the number of removed quotes, so this concerns only descriptions of at least
10^4300 characters, more than any machine holds; without bounds these are read back too.

* `Review.legible_record`, `Quotation.legible_record` — records are legible.
* `Remote.readArguments_print` — the reader of arguments gets back what fits its bounds.
* `ReadBack`, `records_read_back` — every JSON text of the library.
-/

namespace ProseChart

open Json (Legible Value)

variable {d gap : Text} {bounds : Json.Bounds} {layout : Json.Layout} {v : Value}

/-! ## Records -/

namespace Review

/-- A record of a review holds no integer. -/
theorem legible_record (review : Review) : Legible bounds review.record := by
  have hkeys : (["isComplete".toList, "missingInfo".toList, "preview".toList].map
      LooseText.ofText).Nodup := by
    decide
  have hmissing : ∀ item ∈ review.missing.map fun (advice : Text) => Value.text advice,
      Legible bounds item := by
    intro item hitem
    obtain ⟨advice, -, rfl⟩ := List.mem_map.mp hitem
    exact .text advice
  refine .object hkeys ?_ ?_
  · simp
  · simp only [List.forall_mem_cons]
    exact ⟨.bool _, .array hmissing, .text _, by simp⟩

theorem levels_record (review : Review) : review.record.levels ≤ 3 := by
  have hmissing :
      Value.itemLevels (review.missing.map fun (advice : Text) => Value.text advice) ≤ 1 := by
    apply Json.itemLevels_le_iff.mpr
    intro item hitem
    obtain ⟨advice, -, rfl⟩ := List.mem_map.mp hitem
    exact Nat.le_refl 1
  apply Nat.succ_le_succ
  apply Json.memberLevels_le_iff.mpr
  simp only [List.forall_mem_cons]
  refine ⟨?_, Nat.succ_le_succ hmissing, ?_, by simp⟩
  · show 1 ≤ 2
    omega
  · show 1 ≤ 2
    omega

end Review

namespace Quotation

theorem legible_record {quotation : Quotation}
    (hdigits : bounds.digitExcess? (Text.ofNat quotation.removed.natAbs).length = none) :
    Legible bounds quotation.record := by
  have hkeys : (["convertedDescription".toList, "replacementCount".toList].map
      LooseText.ofText).Nodup := by
    decide
  refine .object hkeys ?_ ?_
  · simp
  · simp only [List.forall_mem_cons]
    exact ⟨.text _, .integer hdigits, by simp⟩

theorem levels_record (quotation : Quotation) : quotation.record.levels = 2 := rfl

/-- At most as many quotes are removed as there are characters. -/
theorem natAbs_removed_le (d : Text) : (normalize d).removed.natAbs ≤ d.length := by
  have hcount := countQuotes_unwrap d
  have hlength := Text.length_unquote d
  rw [removed_normalize, Int.natAbs_natCast]
  omega

end Quotation

/-! ## The reader of arguments -/

namespace Tool

/-- The arguments of a call with a description. -/
def argumentsOf (description : Text) : Value := .object [(argumentName, .text description)]

theorem legible_argumentsOf (d : Text) : Legible bounds (argumentsOf d) := by
  refine .object (List.nodup_singleton _) ?_ ?_
  · simp
  · simp only [List.forall_mem_cons]
    exact ⟨.text _, by simp⟩

/-- A tool takes the description out of its arguments again. -/
theorem descriptionOf_argumentsOf (d : Text) : descriptionOf (given (argumentsOf d)) = .ok d := by
  show Except.ok (LooseText.ofText d).toText = .ok d
  rw [LooseText.toText_ofText]

end Tool

namespace Remote

theorem readArguments_print (h : Legible Remote.bounds v) (hlevels : v.levels ≤ 986)
    (hgap : Json.Trails gap) :
    readArguments (v.print layout ++ gap) = .ok v := by
  have hne : ¬ (v.print layout ++ gap).isEmpty = true := by
    rw [List.isEmpty_iff_length_eq_zero]
    exact Nat.ne_of_gt (Json.Solid.length_pos h.solid.append)
  unfold readArguments
  rw [if_neg hne]
  exact Json.readWithin_print h hgap hlevels

end Remote

/-! ## Every JSON text -/

/-- A text decodes to a value, for the reader without bounds and for the reader of the
arguments of a call. -/
structure Decodes (written : Text) (value : Value) : Prop where
  read : Json.read written = .ok value
  arguments : Remote.readArguments written = .ok value

theorem decodes_review (review : Review) (layout : Json.Layout) (hgap : Json.Trails gap) :
    Decodes (review.record.print layout ++ gap) review.record where
  read := Json.read_print review.legible_record hgap
  arguments := by
    have hlevels := review.levels_record
    exact Remote.readArguments_print review.legible_record (by omega) hgap

theorem decodes_argumentsOf (d : Text) (layout : Json.Layout) :
    Decodes ((Tool.argumentsOf d).print layout) (Tool.argumentsOf d) := by
  have hlevels : (Tool.argumentsOf d).levels ≤ 986 := by
    show 2 ≤ 986
    omega
  rw [← List.append_nil ((Tool.argumentsOf d).print layout)]
  constructor
  case read => exact Json.read_print (Tool.legible_argumentsOf d) Json.trails_nil
  case arguments =>
    exact Remote.readArguments_print (Tool.legible_argumentsOf d) hlevels Json.trails_nil

/-- A text decodes to the result of normalizing `d`. The reader of arguments bounds the
digits of the count in it; for every `d` whose length has so few digits the count is within
the bound. -/
structure DecodesQuotation (d written : Text) : Prop where
  read : Json.read written = .ok (Quotation.normalize d).record
  arguments : (Text.ofNat d.length).length ≤ 4300 →
    Remote.readArguments written = .ok (Quotation.normalize d).record

theorem decodes_quotation (d : Text) (layout : Json.Layout) (hgap : Json.Trails gap) :
    DecodesQuotation d ((Quotation.normalize d).record.print layout ++ gap) where
  read := Json.read_print (Quotation.legible_record rfl) hgap
  arguments := by
    intro hd
    have hdigits : Remote.bounds.digitExcess?
        (Text.ofNat (Quotation.normalize d).removed.natAbs).length = none := by
      have hle := Text.length_ofNat_le (Quotation.natAbs_removed_le d)
      exact if_neg (Nat.not_lt.mpr (Nat.le_trans hle hd))
    have hlevels : (Quotation.normalize d).record.levels ≤ 986 := by
      rw [Quotation.levels_record]
      omega
    exact Remote.readArguments_print (Quotation.legible_record hdigits) hlevels hgap

/-- What the JSON texts of the library decode to when the description is `d`. -/
structure ReadBack (d : Text) : Prop where
  /-- Two commands print JSON when they are asked to, with an operand and without. -/
  lines : Command.parse ["quotes", "--json", "--", d] = .ok (.quotes (some d) true) ∧
    Command.parse ["quotes", "--json"] = .ok (.quotes none true) ∧
    Command.parse ["analyze", "--json", "--", d] = .ok (.analyze (some d) true) ∧
    Command.parse ["analyze", "--json"] = .ok (.analyze none true)
  /-- The tool of the assistant answers with the result of a normalization. -/
  tool : ∀ environment link input, AssistantTool.textArgument? input Tool.argumentName = some d →
    ∃ written, AssistantTool.invoke environment link input .normalize = some (.ok ⟨written, []⟩) ∧
      DecodesQuotation d written
  /-- The command for quotes prints the result of a normalization, whichever way the
  description comes. -/
  quotes : ∀ environment input argv operand, Command.parse argv = .ok (.quotes operand true) →
    Command.descriptionFrom operand input = d →
    ∃ written, Command.execute environment input argv = .ok { output := written } ∧
      DecodesQuotation d written
  /-- The command for reviews prints the result of a review, whichever way the description
  comes. -/
  analyze : ∀ environment input argv operand, Command.parse argv = .ok (.analyze operand true) →
    Command.descriptionFrom operand input = d →
    ∃ written, Command.execute environment input argv = .ok { output := written } ∧
      Decodes written (Review.ofDescription d).record
  /-- The arguments of a call are what they were, in both layouts. -/
  arguments : ∀ layout : Json.Layout,
    Decodes ((Tool.argumentsOf d).print layout) (Tool.argumentsOf d)
  /-- The tool that reaches the server passes on what the arguments were. -/
  remote : ∀ (layout : Json.Layout) environment link input action,
    AssistantTool.textArgument? input "action" = some action →
    AssistantTool.textArgument? input "args_json" = some ((Tool.argumentsOf d).print layout) →
    AssistantTool.invoke environment link input .remote =
      some (.ok (Remote.callWith environment link action (Tool.argumentsOf d)))
  /-- The tools of the server find the description in the arguments. -/
  description : Tool.descriptionOf (Tool.given (Tool.argumentsOf d)) = .ok d

/-- Every JSON text that the library writes decodes to what it was written for, whatever the
description is. -/
theorem records_read_back (d : Text) : ReadBack d where
  lines := ⟨rfl, rfl, rfl, rfl⟩
  tool := by
    intro environment link input hinput
    refine ⟨(Quotation.normalize d).record.print .inline, ?_, ?_⟩
    · unfold AssistantTool.invoke AssistantTool.onDescription
      rw [hinput]
      rfl
    · have hdecodes := decodes_quotation d .inline Json.trails_nil
      rwa [List.append_nil] at hdecodes
  quotes := by
    intro environment input argv operand hargv hd
    refine ⟨Command.printedRecord (Quotation.normalize d).record, ?_, ?_⟩
    · rw [Command.execute, hargv, ← hd]
      rfl
    · exact decodes_quotation d .indented Json.trails_feed
  analyze := by
    intro environment input argv operand hargv hd
    refine ⟨Command.printedRecord (Review.ofDescription d).record, ?_, ?_⟩
    · rw [Command.execute, hargv, ← hd]
      rfl
    · exact decodes_review _ .indented Json.trails_feed
  arguments := decodes_argumentsOf d
  remote := by
    intro layout environment link input action haction hwritten
    have hread := (decodes_argumentsOf d layout).arguments
    unfold AssistantTool.invoke
    simp only [haction, hwritten, Remote.call, hread]
  description := Tool.descriptionOf_argumentsOf d

end ProseChart
