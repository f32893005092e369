import ProseChart.Proofs.Command.Input
import ProseChart.Proofs.Quotation.Normal

/-!
# ProseChart.Proofs.Command.Pipeline — normalizing what was printed

Normalizing quotes is stable, and so is a second run of the command for it on the text
that the first one made. What the first run prints, though, is this text and a line feed,
and standard input is read as a whole. With the line feed behind it the closing quote is no
longer at the end, so a run that reads the output finds no outer pair: it removes both
quotes, and the line feed gets between the new ones. So does every run after it.

* `Quotation.normalize_line_wrap` — a line feed behind the outer pair.
* `Command.pipeline` — runs in a row, each reading the output of the one before.
* `Command.execute_line_wrap`, `Command.pipeline_line_wrap` — one run on an output, and
  any number of them.
* `Command.Rerun`, `Command.quotes_rerun` — the second run in all cases.
-/

namespace ProseChart

/-! ## A line feed behind the outer pair -/

namespace Quotation

variable {s : Text}

theorem not_wrapped_line (t : Text) : ¬ Wrapped t.line := by
  rintro ⟨-, -, hlast⟩
  rw [Text.line, List.getLast?_concat] at hlast
  cases hlast

theorem countQuotes_of_unquoted (hs : ∀ c ∈ s, Text.isQuote c = false) : s.countQuotes = 0 := by
  have hlength := Text.length_unquote s
  rw [Text.unquote_eq_self hs] at hlength
  omega

/-- Of a quoted text with a line feed behind it, both quotes are counted, and the line
feed is put between the new ones. -/
theorem normalize_line_wrap (hs : ∀ c ∈ s, Text.isQuote c = false) :
    normalize (wrap s).line = ⟨wrap (s ++ ['\n']), 2⟩ := by
  have hline : (wrap s).line = ['"'] ++ (s ++ ['"', '\n']) := by
    simp [wrap, Text.line]
  have hconverted : (normalize (wrap s).line).converted = wrap (s ++ ['\n']) := by
    rw [converted_normalize, hline, Text.unquote_append, Text.unquote_append,
      Text.unquote_eq_self hs]
    rfl
  have hremoved : (normalize (wrap s).line).removed = 2 := by
    have hcount : (wrap s).line.countQuotes = 2 := by
      rw [hline, Text.countQuotes_append, Text.countQuotes_append, countQuotes_of_unquoted hs]
      rfl
    rw [removed_normalize, unwrap_of_not_wrapped (not_wrapped_line _), hcount]
    rfl
  rw [← hconverted, ← hremoved]

end Quotation

/-- Reading a text leaves the quotes around a part of it where they are. -/
theorem Text.unifyLineEnds_quoted (s rest : Text) :
    unifyLineEnds ('"' :: (s ++ '"' :: rest)) =
      '"' :: (unifyLineEnds s ++ '"' :: unifyLineEnds rest) := by
  have hquote : '"' ≠ '\r' := by decide
  have hend : ('"' :: rest).head? ≠ some '\n' := by simp
  rw [unifyLineEnds_cons hquote, unifyLineEnds_append hend, unifyLineEnds_cons hquote]

theorem Text.unifyLineEnds_wrap (s : Text) :
    (Quotation.wrap s).unifyLineEnds = Quotation.wrap s.unifyLineEnds :=
  unifyLineEnds_quoted s []

theorem Text.unifyLineEnds_line_wrap (s : Text) :
    (Quotation.wrap s).line.unifyLineEnds = (Quotation.wrap s.unifyLineEnds).line := by
  have hline : ∀ t : Text, (Quotation.wrap t).line = '"' :: (t ++ ['"', '\n']) := by
    intro t
    simp [Quotation.wrap, line]
  rw [hline, hline]
  exact unifyLineEnds_quoted s ['\n']

namespace Command

open Quotation (wrap normalize)

variable {environment : Environment} {input d s : Text} {argv : List Text}
  {operand : Option Text} {outcome : Outcome}

/-! ## One run -/

/-- What is printed of a normalized text: the text on a line of its own, and a report of
the number of removed quotes. -/
def printedQuotation (quotation : Quotation) : Outcome where
  output := quotation.converted.line
  errors := Text.line ("Removed " ++ Text.ofInt quotation.removed ++ " quote character(s)")

/-- A command line that normalizes the text on standard input. -/
def Rereads (argv : List Text) : Prop :=
  ∃ operand, parse argv = .ok (.quotes operand false) ∧ (operand = none ∨ operand = some "-")

theorem execute_quotes (h : parse argv = .ok (.quotes operand false))
    (hd : descriptionFrom operand input = d) :
    execute environment input argv = .ok (printedQuotation (normalize d)) := by
  rw [execute_of_parse h, ← hd]
  rfl

theorem Rereads.execute_eq (h : Rereads argv) :
    execute environment input argv = .ok (printedQuotation (normalize input.unifyLineEnds)) := by
  rcases h with ⟨operand, hargv, hoperand⟩
  exact execute_quotes hargv (descriptionFrom_input hoperand)

theorem unquoted_unifyLineEnds (hs : ∀ c ∈ s, Text.isQuote c = false) :
    ∀ c ∈ s.unifyLineEnds, Text.isQuote c = false := by
  intro c hc
  rcases Text.mem_of_mem_unifyLineEnds hc with hmem | rfl
  · exact hs c hmem
  · rfl

/-- The output of a run, read by another one. -/
theorem execute_line_wrap (h : Rereads argv) (hs : ∀ c ∈ s, Text.isQuote c = false) :
    execute environment (wrap s).line argv =
      .ok (printedQuotation ⟨wrap (s.unifyLineEnds ++ ['\n']), 2⟩) := by
  rw [h.execute_eq, Text.unifyLineEnds_line_wrap,
    Quotation.normalize_line_wrap (unquoted_unifyLineEnds hs)]

/-- The output of a run without its line feed, read by another one. -/
theorem execute_wrap (h : Rereads argv) (hs : ∀ c ∈ s, Text.isQuote c = false) :
    execute environment (wrap s) argv = .ok (printedQuotation ⟨wrap s.unifyLineEnds, 0⟩) := by
  have hnormal : Quotation.IsNormal (wrap s.unifyLineEnds) :=
    ⟨s.unifyLineEnds, unquoted_unifyLineEnds hs, rfl⟩
  rw [h.execute_eq, Text.unifyLineEnds_wrap, Quotation.normalize_of_isNormal hnormal]

/-! ## Runs in a row -/

/-- The outcomes of running a command line `count` times, each run reading the output of
the one before. -/
def pipeline (environment : Environment) (argv : List Text) (input : Text) :
    Nat → Except Fault (List Outcome)
  | 0 => .ok []
  | count + 1 => do
    let outcome ← execute environment input argv
    let later ← pipeline environment argv outcome.output count
    return outcome :: later

theorem pipeline_succ {outcomes : List Outcome} {count : Nat}
    (hfirst : execute environment input argv = .ok outcome)
    (hlater : pipeline environment argv outcome.output count = .ok outcomes) :
    pipeline environment argv input (count + 1) = .ok (outcome :: outcomes) := by
  rw [pipeline, hfirst]
  change (do let later ← pipeline environment argv outcome.output count
             return outcome :: later) = _
  rw [hlater]
  rfl

/-- Every run puts one more line feed in front of the closing quote. The induction is on
the number of runs, with the text generalized: each run is the first one on its input. -/
theorem pipeline_line_wrap (h : Rereads argv) (hs : ∀ c ∈ s, Text.isQuote c = false)
    (count : Nat) :
    pipeline environment argv (wrap s).line count =
      .ok ((List.range count).map fun k =>
        printedQuotation ⟨wrap (s.unifyLineEnds ++ List.replicate (k + 1) '\n'), 2⟩) := by
  induction count generalizing s with
  | zero => rfl
  | succ count ih =>
    let next : Text := s.unifyLineEnds ++ ['\n']
    have hnext : ∀ c ∈ next, Text.isQuote c = false := by
      intro c hc
      rcases List.mem_append.mp hc with hmem | hfeed
      · exact unquoted_unifyLineEnds hs c hmem
      · rw [List.mem_singleton.mp hfeed]
        rfl
    -- there is no carriage return in the next text any more
    have hread : next.unifyLineEnds = next := by
      apply Text.unifyLineEnds_of_notMem
      intro hreturn
      rcases List.mem_append.mp hreturn with hmem | hfeed
      · exact Text.return_notMem_unifyLineEnds s hmem
      · cases List.mem_singleton.mp hfeed
    have hlater := ih hnext
    rw [hread] at hlater
    rw [pipeline_succ (execute_line_wrap h hs) hlater, List.range_succ_eq_map, List.map_cons,
      List.map_map]
    congr 2
    apply List.map_congr_left
    intro k _
    have hfeeds : next ++ List.replicate (k + 1) '\n' =
        s.unifyLineEnds ++ List.replicate (k + 1 + 1) '\n' := by
      rw [List.append_assoc, List.replicate_succ (n := k + 1)]
      rfl
    rw [hfeeds]
    rfl

/-- What is printed the second time is never what was printed before: there is a line feed
more in it. -/
theorem line_wrap_feed_ne (s : Text) :
    (wrap (s.unifyLineEnds ++ ['\n'])).line ≠ (wrap s).line := by
  intro heq
  have hcount : ∀ t : Text, (wrap t).line.count '\n' = t.count '\n' + 1 := by
    intro t
    simp [wrap, Text.line]
  have hsame := congrArg (List.count '\n') heq
  rw [hcount, hcount, List.count_append, List.count_singleton_self] at hsame
  have hkept := Text.count_feed_le_unifyLineEnds s
  omega

/-! ## The second run -/

/-- What becomes of the outcome `first` of normalizing the quotes of a description when
they are normalized again. -/
structure Rerun (d : Text) (first : Outcome) : Prop where
  /-- The description without its quotes is printed between double quotes, on a line. -/
  printed : first.output = Text.line (wrap d.unquote)
  /-- A run on the text without its line end prints the same again and removes nothing. -/
  operand : ∀ environment input, execute environment input ["quotes", wrap d.unquote] =
    .ok { output := first.output, errors := Text.line "Removed 0 quote character(s)" }
  /-- A run that reads the text without its line end prints the same, up to the line ends
  inside, and removes nothing. -/
  unended : ∀ environment argv, Rereads argv → execute environment (wrap d.unquote) argv =
    .ok { output := first.output.unifyLineEnds,
          errors := Text.line "Removed 0 quote character(s)" }
  /-- The line ends of the output are unified already when no carriage return is in the
  description. -/
  unified : '\r' ∉ d → first.output.unifyLineEnds = first.output
  /-- Runs that read the whole output find no outer pair. Each of them removes two quotes
  and puts one more line feed in front of the closing one. -/
  ended : ∀ environment argv count, Rereads argv →
    pipeline environment argv first.output count = .ok ((List.range count).map fun k =>
      { output := Text.line
          (wrap (d.unquote.unifyLineEnds ++ List.replicate (k + 1) '\n'))
        errors := Text.line "Removed 2 quote character(s)" })
  /-- A run that reads the whole output never prints the same as the first one. -/
  changed : ∀ environment argv second, Rereads argv →
    execute environment first.output argv = .ok second → second.output ≠ first.output

theorem rerun_normalize (d : Text) : Rerun d (printedQuotation (normalize d)) := by
  have hconverted : (normalize d).converted = wrap d.unquote := Quotation.converted_normalize d
  have hprinted : (printedQuotation (normalize d)).output = (wrap d.unquote).line :=
    congrArg Text.line hconverted
  have hunquoted : ∀ c ∈ d.unquote, Text.isQuote c = false := fun _ =>
    Text.isQuote_of_mem_unquote
  constructor
  case printed => exact hprinted
  case operand =>
    intro environment input
    have hname : Name.quotes ≠ .serve := by decide
    have hhead : (wrap d.unquote).head? ≠ some '-' := by
      have hquote : (wrap d.unquote).head? = some '"' := rfl
      rw [hquote]
      decide
    have hdash : wrap d.unquote ≠ "-" := fun heq => hhead (congrArg List.head? heq)
    have hparse : parse ["quotes", wrap d.unquote] = .ok (.quotes (some (wrap d.unquote)) false) :=
      parse_plain hname hhead
    have hnormal := hconverted ▸ Quotation.isNormal_converted d
    rw [execute_quotes hparse (descriptionFrom_some hdash),
      Quotation.normalize_of_isNormal hnormal, hprinted]
    rfl
  case unended =>
    intro environment argv hargv
    rw [execute_wrap hargv hunquoted, hprinted, Text.unifyLineEnds_line_wrap]
    rfl
  case unified =>
    intro hreturn
    have hkept : '\r' ∉ d.unquote := fun hmem => hreturn (List.mem_of_mem_filter hmem)
    rw [hprinted, Text.unifyLineEnds_line_wrap, Text.unifyLineEnds_of_notMem hkept]
  case ended =>
    intro environment argv count hargv
    rw [hprinted, pipeline_line_wrap hargv hunquoted]
    rfl
  case changed =>
    intro environment argv second hargv hsecond
    rw [hprinted, execute_line_wrap hargv hunquoted] at hsecond
    rw [hprinted, ← Except.ok.inj hsecond]
    exact line_wrap_feed_ne d.unquote

/-- Normalizing again what the command printed is stable when the line end is left off, and
only then: a run that reads the output with its line end removes the outer pair. -/
theorem quotes_rerun :
    (∀ environment input argv operand, parse argv = .ok (.quotes operand false) →
      ∃ first, execute environment input argv = .ok first ∧
        Rerun (descriptionFrom operand input) first) ∧
    (∀ s : Text, parse ["quotes", "--", s] = .ok (.quotes (some s) false)) ∧
    Rereads ["quotes"] ∧ Rereads ["quotes", "-"] ∧
    ∀ input, '\r' ∉ descriptionFrom none input := by
  refine ⟨?_, fun _ => rfl, ⟨none, rfl, Or.inl rfl⟩, ⟨some "-", rfl, Or.inr rfl⟩,
    Text.return_notMem_unifyLineEnds⟩
  intro environment input argv operand hargv
  exact ⟨_, execute_quotes hargv rfl, rerun_normalize _⟩

/-- The word in quotes loses them, and the whole line is wrapped. -/
theorem quotes_rerun_hi :
    parse ["quotes", "He said \"hi\""] = .ok (.quotes (some "He said \"hi\"") false) ∧
      ∃ first, execute [] [] ["quotes", "He said \"hi\""] = .ok first ∧
        Rerun "He said \"hi\"" first := by
  have hargv : parse ["quotes", "He said \"hi\""] = .ok (.quotes (some "He said \"hi\"") false) :=
    rfl
  exact ⟨hargv, quotes_rerun.1 [] [] _ _ hargv⟩

/-- Reading the output as it was printed is not stable. -/
theorem piped_output_changes :
    execute [] [] ["quotes", "a"] =
        .ok { output := "\"a\"\n", errors := "Removed 0 quote character(s)\n" } ∧
      execute [] "\"a\"\n" ["quotes"] =
        .ok { output := "\"a\n\"\n", errors := "Removed 2 quote character(s)\n" } ∧
      ¬ ∀ (d : Text) (first second : Outcome), execute [] [] ["quotes", d] = .ok first →
        execute [] first.output ["quotes"] = .ok second →
          second.output = first.output ∧ second.errors = "Removed 0 quote character(s)\n" := by
  have hfirst : execute [] [] ["quotes", "a"] =
      .ok { output := "\"a\"\n", errors := "Removed 0 quote character(s)\n" } := by
    decide +kernel
  have hsecond : execute [] "\"a\"\n" ["quotes"] =
      .ok { output := "\"a\n\"\n", errors := "Removed 2 quote character(s)\n" } := by
    decide +kernel
  refine ⟨hfirst, hsecond, ?_⟩
  intro hstable
  have hsame := (hstable "a" _ _ hfirst hsecond).1
  revert hsame
  decide

end Command

end ProseChart
