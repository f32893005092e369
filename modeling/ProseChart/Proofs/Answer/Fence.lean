import ProseChart.Assistant.Tool
import ProseChart.Command
import ProseChart.Proofs.Assistant.Agreement
import ProseChart.Proofs.Chart.Mermaid

/-!
# ProseChart.Proofs.Answer.Fence — no description ends its code block

The answer with a chart puts the source between two fences and escapes nothing. A
reader takes the code up to the first line that begins with a fence. That is the
whole source, whatever the description says: labels have no line feed, and every line
of a source begins with the header or with the indent.

* `Text.linesOf` — the lines of a text; `Text.linesOf_unlines` — of a text that is
  written line by line.
* `Text.length_le_of_feed_word` — a word that begins no line of a text is found behind
  the text first.
* `Chart.not_fence_prefix` — no line of a source begins with a fence.
* `Answer.Fenced`, `Answer.fenced_ofSource` — what a reader of the answer finds.
-/

namespace ProseChart

/-! ## Lines of a text -/

namespace Text

variable {t word : Text} {lines : List Text}

/-- The lines of a text: what stands between its line feeds. -/
def linesOf (t : Text) : List Text := pieces (· == '\n') t

theorem linesOf_append_feed (a b : Text) : linesOf (a ++ '\n' :: b) = linesOf a ++ linesOf b :=
  pieces_append_cons rfl a b

theorem linesOf_of_no_feed (h : '\n' ∉ t) : linesOf t = [t] := by
  apply pieces_of_forall
  intro c hc
  simpa using fun hfeed : c = '\n' => h (hfeed ▸ hc)

/-- Lines that are written one below the other are read one by one. -/
theorem linesOf_unlines (h : ∀ l ∈ lines, '\n' ∉ l) (t : Text) :
    linesOf (unlines lines ++ t) = lines ++ linesOf t := by
  induction lines with
  | nil => rfl
  | cons l lines ih =>
    rcases List.forall_mem_cons.mp h with ⟨hl, hlines⟩
    rw [unlines_cons, List.append_assoc, List.cons_append, linesOf_append_feed,
      linesOf_of_no_feed hl, ih hlines]
    rfl

/-- A word at the beginning of a text begins its first line. -/
theorem exists_linesOf_append (h : '\n' ∉ word) (t : Text) :
    ∃ l rest, linesOf (word ++ t) = (word ++ l) :: rest := by
  induction word with
  | nil =>
    rcases List.exists_cons_of_ne_nil (pieces_ne_nil (· == '\n') t) with ⟨l, rest, heq⟩
    exact ⟨l, rest, heq⟩
  | cons c word ih =>
    rcases not_or.mp (mt List.mem_cons.mpr h) with ⟨hc, hword⟩
    rcases ih hword with ⟨l, rest, heq⟩
    have hcut : (c == '\n') = false := by simpa using Ne.symm hc
    refine ⟨l, rest, ?_⟩
    rw [List.cons_append, linesOf, pieces, hcut]
    exact congrArg (List.modifyHead (c :: ·)) heq

/-- A word behind a line feed begins a line. -/
theorem exists_mem_linesOf (h : '\n' ∉ word) (a b : Text) :
    ∃ l ∈ linesOf (a ++ '\n' :: (word ++ b)), word <+: l := by
  rcases exists_linesOf_append h b with ⟨l, rest, heq⟩
  refine ⟨word ++ l, ?_, List.prefix_append word l⟩
  rw [linesOf_append_feed, heq]
  exact List.mem_append_right _ List.mem_cons_self

/-- Where no line of a text begins with a word, the word is not found behind a line
feed before the text is at its end. -/
theorem length_le_of_feed_word {code rest a b : Text} (h : '\n' ∉ word)
    (hcode : ∀ l ∈ linesOf code, ¬ word <+: l)
    (heq : code ++ '\n' :: rest = a ++ '\n' :: (word ++ b)) : code.length ≤ a.length := by
  rcases List.append_eq_append_iff.mp heq with ⟨between, rfl, -⟩ | ⟨between, hsplit, hrest⟩
  · rw [List.length_append]
    exact Nat.le_add_right _ _
  · cases between with
    | nil => rw [hsplit, List.append_nil]
    | cons c inner =>
      rcases List.cons.inj hrest with ⟨rfl, hword⟩
      -- the word would stand behind a line feed inside the text
      have hinner : word <+: inner := prefix_of_prefix_append_cons h ⟨b, hword⟩
      rcases hinner with ⟨after, rfl⟩
      rcases exists_mem_linesOf h a after with ⟨l, hl, hbegin⟩
      exact absurd hbegin (hcode l (hsplit ▸ hl))

end Text

/-! ## Lines of a source -/

/-- What a line begins with that opens or closes a code block. -/
def Answer.fence : Text := "```"

namespace Chart

/-- The header and the indent begin every line of a source. -/
theorem head?_of_mem_lines {chart : Chart} {l : Text} (h : l ∈ chart.lines) :
    l.head? = some 'f' ∨ l.head? = some ' ' := by
  rcases List.mem_cons.mp h with rfl | h
  · exact Or.inl rfl
  · rcases List.mem_append.mp h with h | h
    · rcases List.mem_map.mp h with ⟨node, -, rfl⟩
      exact Or.inr rfl
    · rcases List.mem_map.mp h with ⟨edge, -, rfl⟩
      unfold Edge.mermaid
      split
      · exact Or.inr rfl
      · exact Or.inr rfl

theorem not_fence_prefix {chart : Chart} {l : Text} (h : l ∈ chart.lines) :
    ¬ Answer.fence <+: l := by
  rintro ⟨rest, rfl⟩
  have hhead : (Answer.fence ++ rest).head? = some '`' := rfl
  rcases head?_of_mem_lines h with hl | hl
  · rw [hhead] at hl
    cases hl
  · rw [hhead] at hl
    cases hl

/-- The source of a description is read as its lines, and an empty one at the end. -/
theorem linesOf_source (d : Text) :
    Text.linesOf (source d) = (ofDescription d).lines ++ [[]] := by
  have hsource : source d = Text.unlines (ofDescription d).lines ++ [] := (List.append_nil _).symm
  rw [hsource, Text.linesOf_unlines (no_feed_of_mem_lines (writable_ofDescription d))]
  rfl

end Chart

/-! ## The answer -/

namespace Answer

/-- What stands above the code, up to the end of the opening line. -/
def opening : Text := "Here's your Mermaid flowchart code:\n\n```mermaid\n"

/-- What stands below the code, after the closing fence. -/
def closing : Text := "\n\nYou can use this code in any Mermaid-compatible tool or editor."

/-- An answer is cut where the opening line ends and where the closing fence begins. -/
theorem ofSource_eq (code : Text) :
    ofSource code = opening ++ (code ++ '\n' :: (fence ++ closing)) := by
  have hbelow : ("\n```\n\nYou can use this code in any Mermaid-compatible tool or editor." : Text) =
      '\n' :: (fence ++ closing) := by decide +kernel
  calc ofSource code
      = opening ++ (code ++ _) := List.append_assoc opening code _
    _ = opening ++ (code ++ '\n' :: (fence ++ closing)) := by rw [hbelow]

/-- What a reader of an answer finds. -/
structure Fenced (answer code : Text) : Prop where
  /-- Two lines begin with a fence, the opening and the closing one. -/
  fences : (Text.linesOf answer).filter (fence.isPrefixOf ·) = ["```mermaid", "```"]
  /-- The code stands between the opening line and a line feed with a fence. -/
  text : answer = opening ++ (code ++ '\n' :: (fence ++ closing))
  /-- No line feed with a fence after the opening line comes before the end of the code. -/
  first : ∀ a b, code ++ '\n' :: (fence ++ closing) = a ++ '\n' :: (fence ++ b) →
    code.length ≤ a.length

/-- The lines above the code. -/
def above : List Text := ["Here's your Mermaid flowchart code:", "", "```mermaid"]

/-- The lines from the closing fence on. -/
def below : List Text :=
  ["```", "", "You can use this code in any Mermaid-compatible tool or editor."]

/-- The lines of an answer: above the code, the code, below the code. -/
theorem linesOf_ofSource (d : Text) :
    Text.linesOf (ofSource (Chart.source d)) =
      above ++ (Chart.ofDescription d).lines ++ [] :: below := by
  have hopening : opening = Text.unlines above := by decide +kernel
  have hbelow : Text.linesOf (fence ++ closing) = below := by decide +kernel
  have habove : ∀ l ∈ above, '\n' ∉ l := by decide
  rw [ofSource_eq, hopening, Text.linesOf_unlines habove, Text.linesOf_append_feed,
    Chart.linesOf_source, hbelow, List.append_assoc, List.append_assoc, List.singleton_append]

theorem fenced_ofSource (d : Text) : Fenced (ofSource (Chart.source d)) (Chart.source d) where
  fences := by
    have hlines : (Chart.ofDescription d).lines.filter (fence.isPrefixOf ·) = [] := by
      rw [List.filter_eq_nil_iff]
      intro l hl
      rw [List.isPrefixOf_iff_prefix]
      exact Chart.not_fence_prefix hl
    rw [linesOf_ofSource, List.filter_append, List.filter_append, hlines]
    rfl
  text := ofSource_eq (Chart.source d)
  first := by
    intro a b heq
    refine Text.length_le_of_feed_word (by decide) ?_ heq
    intro l hl
    rw [Chart.linesOf_source] at hl
    rcases List.mem_append.mp hl with hl | hl
    · exact Chart.not_fence_prefix hl
    · rw [List.mem_singleton.mp hl]
      decide

/-- How the chart of a description is handed out. -/
structure Delivery (d : Text) : Prop where
  /-- The tool of every set answers with one text. -/
  served : ∀ (set : ToolSet) (members : List (LooseText × Json.Value)) (t : LooseText),
    Json.Value.find? Tool.argumentName members = some (.text t) → t.toText = d →
      (Server.dispatcherOf set).call "generate-flowchart" (.object members) =
        ⟨ofSource (Chart.source d), [.calling "generate-flowchart"]⟩
  /-- The tool of the assistant returns the same text. -/
  assisted : ∀ (environment : Environment) (link : Link)
    (members : List (LooseText × Json.Value)) (t : LooseText),
    Json.Value.find? Tool.argumentName members = some (.text t) → t.toText = d →
      AssistantTool.generate.invoke environment link (.object members) =
        some (.ok ⟨ofSource (Chart.source d), []⟩)
  /-- The source in the text stands between fences that nothing in the description ends. -/
  fenced : Fenced (ofSource (Chart.source d)) (Chart.source d)
  /-- The command line writes the same source to standard output. -/
  printed : ∀ environment input argv operand, Command.parse argv = .ok (.generate operand) →
    Command.descriptionFrom operand input = d →
      Command.execute environment input argv = .ok { output := Chart.source d }

/-- Every description is drawn in a code block that its text cannot break out of. -/
theorem code_stays_fenced (d : Text) : Delivery d where
  served := by
    rintro set members t ht rfl
    have hmem : Tool.generate ∈ (Server.dispatcherOf set).tools := by
      cases set <;> simp [Server.dispatcherOf, ToolSet.tools]
    have houtcome : Tool.generate.handler (Tool.given (.object members)) =
        .ok (ofSource (Chart.source t.toText)) := by
      rw [Tool.given_object]
      show (Tool.descriptionOf (.object members)).map _ = _
      rw [Tool.descriptionOf_text ht]
      rfl
    exact (Dispatcher.call_of_mem hmem).trans (Tool.call_of_ok houtcome)
  assisted := by
    rintro environment link members t ht rfl
    have hget : (Json.Value.object members).get? Tool.argumentName = some (.text t) := ht
    rw [AssistantTool.invoke, AssistantTool.onDescription, AssistantTool.textArgument?, hget]
    rfl
  fenced := fenced_ofSource d
  printed := by
    rintro environment input argv operand hparse rfl
    rw [Command.execute, hparse]
    rfl

/-- Fences in the description stay inside labels. -/
example : (Text.linesOf (ofSource (Chart.source "```\n```mermaid, `` or \"```\""))).filter
    (fence.isPrefixOf ·) = ["```mermaid", "```"] := by decide +kernel

example : Command.parse ["generate", "Start. Stop"] = .ok (.generate (some "Start. Stop".toList)) := by
  decide +kernel

end Answer

end ProseChart
