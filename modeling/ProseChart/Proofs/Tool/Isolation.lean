import ProseChart.Proofs.Tool.Calls
import ProseChart.Server

/-!
# ProseChart.Proofs.Tool.Isolation — tools do not meet each other

A dispatcher is a table of tools that grows tool by tool (`Tool.enter`); a tool whose
name is in the table already is refused, so that no tool takes the place of another
one. What a call does then depends on the tool with its name and on nothing else in
the table: tools can be added, left out or reordered around it.

* `Tool.FirstRepeated` — the first tool of a list whose name came before it.
* `Tool.foldlM_enter_eq_error_iff` — the table is refused at exactly that tool.
* `Dispatcher.map_tools_ofTools` — a dispatcher is what the table grows to.
* `Dispatcher.AgreeOn.call_eq` — a call looks at one tool only.
* `Dispatcher.Admission`, `Dispatcher.tools_are_isolated` — all of it.
-/

namespace ProseChart

namespace Tool

variable {table tools : List Tool} {tool other : Tool} {fault : Fault}

/-! ## The first name that came before -/

/-- The tools before `tool` have distinct names, and one of them has its name. -/
def FirstRepeated (tools : List Tool) (tool : Tool) : Prop :=
  ∃ earlier later, tools = earlier ++ tool :: later ∧ (earlier.map Tool.name).Nodup ∧
    tool.name ∈ earlier.map Tool.name

/-- A tool whose name came before it makes every list that goes on after it repeat a
name. -/
theorem not_nodup_of_mem {earlier later : List Tool} (h : tool.name ∈ earlier.map Tool.name) :
    ¬ ((earlier ++ tool :: later).map Tool.name).Nodup := by
  intro hnodup
  rw [List.map_append, List.map_cons] at hnodup
  exact (List.nodup_append.mp hnodup).2.2 _ h _ List.mem_cons_self rfl

/-- There is one such tool at most. -/
theorem FirstRepeated.eq (h : FirstRepeated tools tool) (h' : FirstRepeated tools other) :
    tool = other := by
  rcases h with ⟨earlier, later, rfl, hnodup, hmem⟩
  rcases h' with ⟨earlier', later', heq, hnodup', hmem'⟩
  -- if one stood before the other, the tools before the other would repeat its name
  rcases List.append_eq_append_iff.mp heq with
    ⟨between, hearlier', hrest⟩ | ⟨between, hearlier, hrest⟩
  · cases between with
    | nil => exact (List.cons.inj hrest).1
    | cons first between =>
      rcases List.cons.inj hrest with ⟨rfl, -⟩
      rw [hearlier'] at hnodup'
      exact absurd hnodup' (not_nodup_of_mem hmem)
  · cases between with
    | nil => exact (List.cons.inj hrest).1.symm
    | cons first between =>
      rcases List.cons.inj hrest with ⟨rfl, -⟩
      rw [hearlier] at hnodup
      exact absurd hnodup (not_nodup_of_mem hmem')

/-! ## The table -/

/-- Enters a tool at the end of a table, unless a tool of the table has its name. -/
def enter (table : List Tool) (tool : Tool) : Except Fault (List Tool) :=
  if (table.map Tool.name).contains tool.name then .error (.duplicateTool tool.name)
  else .ok (table ++ [tool])

theorem enter_of_mem (h : tool.name ∈ table.map Tool.name) :
    enter table tool = .error (.duplicateTool tool.name) :=
  if_pos (List.contains_iff_mem.mpr h)

theorem enter_of_not_mem (h : tool.name ∉ table.map Tool.name) :
    enter table tool = .ok (table ++ [tool]) :=
  if_neg (mt List.contains_iff_mem.mp h)

theorem foldlM_enter_of_mem (h : tool.name ∈ table.map Tool.name) :
    (tool :: tools).foldlM enter table = .error (.duplicateTool tool.name) := by
  rw [List.foldlM_cons, enter_of_mem h]
  rfl

theorem foldlM_enter_of_not_mem (h : tool.name ∉ table.map Tool.name) :
    (tool :: tools).foldlM enter table = tools.foldlM enter (table ++ [tool]) := by
  rw [List.foldlM_cons, enter_of_not_mem h]
  rfl

/-- What is entered keeps the names of the table distinct. -/
theorem nodup_enter (hnodup : (table.map Tool.name).Nodup) (h : tool.name ∉ table.map Tool.name) :
    ((table ++ [tool]).map Tool.name).Nodup := by
  rw [List.map_append, List.map_singleton, ← List.concat_eq_append]
  exact hnodup.concat h

/-- The table is refused at the first tool whose name came before it. The induction is
on the tools that are still to be entered. -/
theorem foldlM_enter_eq_error_iff (hnodup : (table.map Tool.name).Nodup) :
    tools.foldlM enter table = .error fault ↔
      ∃ tool, FirstRepeated (table ++ tools) tool ∧ fault = .duplicateTool tool.name := by
  induction tools generalizing table with
  | nil =>
    constructor
    · intro h
      cases h
    · rintro ⟨tool, ⟨earlier, later, htable, -, hmem⟩, -⟩
      rw [List.append_nil] at htable
      rw [htable] at hnodup
      exact absurd hnodup (not_nodup_of_mem hmem)
  | cons tool rest ih =>
    -- the tool ends the run here, or joins the table that the rest is entered in
    by_cases hmem : tool.name ∈ table.map Tool.name
    · have hfirst : FirstRepeated (table ++ tool :: rest) tool := ⟨table, rest, rfl, hnodup, hmem⟩
      rw [foldlM_enter_of_mem hmem]
      constructor
      · intro h
        exact ⟨tool, hfirst, (Except.error.inj h).symm⟩
      · rintro ⟨other, hother, rfl⟩
        rw [hfirst.eq hother]
    · rw [foldlM_enter_of_not_mem hmem, ih (nodup_enter hnodup hmem), List.append_assoc,
        List.singleton_append]

/-- Entering goes through the list as the scan for a repeated name does, with the names
of the table seen. -/
theorem foldlM_enter_eq {seen : List Text}
    (hseen : ∀ name, name ∈ seen ↔ name ∈ table.map Tool.name) :
    tools.foldlM enter table =
      match repeated? seen tools with
      | none => .ok (table ++ tools)
      | some name => .error (.duplicateTool name) := by
  induction tools generalizing table seen with
  | nil => rw [List.append_nil]; rfl
  | cons tool rest ih =>
    rw [repeated?]
    by_cases hmem : tool.name ∈ table.map Tool.name
    · have hknown : seen.contains tool.name = true := by simpa using (hseen _).mpr hmem
      rw [foldlM_enter_of_mem hmem, if_pos hknown]
    · have hnew : ¬ seen.contains tool.name = true := by
        simpa using mt (hseen tool.name).mp hmem
      have hseen' : ∀ name, name ∈ tool.name :: seen ↔ name ∈ (table ++ [tool]).map Tool.name := by
        intro name
        rw [List.mem_cons, hseen, List.map_append, List.mem_append, List.map_singleton,
          List.mem_singleton, or_comm]
      rw [foldlM_enter_of_not_mem hmem, if_neg hnew, ih hseen', List.append_assoc,
        List.singleton_append]

end Tool

namespace Dispatcher

variable {tools : List Tool} {dispatcher first second : Dispatcher} {name : Text} {fault : Fault}

/-! ## From a list of tools to a dispatcher -/

/-- The tools of a dispatcher are what the table grows to. -/
theorem map_tools_ofTools (tools : List Tool) :
    (ofTools tools).map Dispatcher.tools = tools.foldlM Tool.enter [] := by
  have hseen : ∀ name : Text, name ∈ [] ↔ name ∈ ([] : List Tool).map Tool.name := by simp
  rw [Tool.foldlM_enter_eq hseen]
  unfold ofTools
  split
  · next hnone => simp [hnone, Except.map]
  · next hsome => simp [hsome, Except.map]

/-- A dispatcher has the tools that it is made of, in their order. -/
theorem tools_of_ofTools_eq_ok (h : ofTools tools = .ok dispatcher) : dispatcher.tools = tools := by
  unfold ofTools at h
  split at h
  · rw [← Except.ok.inj h]
  · cases h

theorem ofTools_eq_error_iff :
    ofTools tools = .error fault ↔
      ∃ tool, Tool.FirstRepeated tools tool ∧ fault = .duplicateTool tool.name := by
  have hrefused : tools.foldlM Tool.enter [] = .error fault ↔
      ∃ tool, Tool.FirstRepeated tools tool ∧ fault = .duplicateTool tool.name :=
    Tool.foldlM_enter_eq_error_iff List.nodup_nil
  rw [← hrefused, ← map_tools_ofTools]
  cases ofTools tools with
  | ok dispatcher => exact iff_of_false nofun nofun
  | error other => exact ⟨fun h => congrArg _ h, fun h => congrArg _ (Except.error.inj h)⟩

/-- The third tool is the first whose name came before it, although the fourth repeats
an earlier one. -/
example : ofTools [.analyze, .generate, .generate, .analyze] =
    .error (.duplicateTool "generate-flowchart") := rfl

/-- A list is refused exactly when its names are not distinct. -/
theorem exists_ofTools_eq_error_iff :
    (∃ fault, ofTools tools = .error fault) ↔ ¬ (tools.map Tool.name).Nodup := by
  constructor
  · rintro ⟨fault, h⟩ hnodup
    rw [ofTools_eq_ok hnodup] at h
    cases h
  · intro hrepeated
    cases h : ofTools tools with
    | error fault => exact ⟨fault, rfl⟩
    | ok dispatcher =>
      have hnodup := dispatcher.distinct
      rw [tools_of_ofTools_eq_ok h] at hnodup
      exact absurd hnodup hrepeated

/-- Names that are not distinct stand at two positions. -/
theorem not_nodup_iff_exists_lt :
    ¬ (tools.map Tool.name).Nodup ↔
      ∃ i j : Nat, ∃ a b : Tool,
        i < j ∧ tools[i]? = some a ∧ tools[j]? = some b ∧ a.name = b.name := by
  rw [List.nodup_iff_getElem?_ne_getElem?]
  push Not
  constructor
  · rintro ⟨i, j, hij, hj, heq⟩
    rw [List.length_map] at hj
    have hi : i < tools.length := Nat.lt_trans hij hj
    refine ⟨i, j, tools[i], tools[j], hij, List.getElem?_eq_getElem hi,
      List.getElem?_eq_getElem hj, ?_⟩
    simpa [hi, hj] using heq
  · rintro ⟨i, j, a, b, hij, ha, hb, heq⟩
    have hj : j < tools.length := (List.getElem?_eq_some_iff.mp hb).1
    refine ⟨i, j, hij, by simpa using hj, ?_⟩
    rw [List.getElem?_map, List.getElem?_map, ha, hb, Option.map_some, Option.map_some, heq]

/-- What becomes of a list of tools. -/
structure Admission (tools : List Tool) : Prop where
  /-- The tools are entered in a table one after the other. -/
  grows : (ofTools tools).map Dispatcher.tools = tools.foldlM Tool.enter []
  /-- The list is refused exactly when two of its tools share a name. -/
  refused_iff : (∃ fault, ofTools tools = .error fault) ↔
    ∃ i j : Nat, ∃ a b : Tool, i < j ∧ tools[i]? = some a ∧ tools[j]? = some b ∧ a.name = b.name
  /-- The refusal names the first tool whose name came before it. -/
  refusal : ∀ fault, ofTools tools = .error fault ↔
    ∃ tool, Tool.FirstRepeated tools tool ∧ fault = .duplicateTool tool.name
  /-- A repeated name is a value that is not allowed. -/
  blame : ∀ fault, ofTools tools = .error fault → fault.kind = FaultClass.value
  /-- A list that is not refused keeps its names in their order. -/
  names : ∀ dispatcher, ofTools tools = .ok dispatcher → dispatcher.names = tools.map Tool.name
  /-- A list that is not refused is what a server shows to its clients: each tool in its
  place with its name, its description and the schema of its arguments. -/
  listing : ∀ dispatcher, ofTools tools = .ok dispatcher →
    ∀ (server : Server) (protocol : Protocol), server.dispatcher = dispatcher →
      server.answer protocol .list =
        (.listing (tools.map fun tool => .object
          [("name", .text tool.name), ("description", .text tool.description),
            ("inputSchema", tool.inputSchema)]), [])

theorem admission (tools : List Tool) : Admission tools where
  grows := map_tools_ofTools tools
  refused_iff := exists_ofTools_eq_error_iff.trans not_nodup_iff_exists_lt
  refusal := fun _ => ofTools_eq_error_iff
  blame := by
    intro fault h
    rcases ofTools_eq_error_iff.mp h with ⟨tool, -, rfl⟩
    rfl
  names := by
    intro dispatcher h
    rw [names, tools_of_ofTools_eq_ok h]
  listing := by
    rintro dispatcher h server protocol rfl
    rw [Server.answer, tools_of_ofTools_eq_ok h]
    rfl

/-! ## A call looks at one tool only -/

/-- Both dispatchers have the same tool under a name, or neither has one. -/
def AgreeOn (first second : Dispatcher) (name : Text) : Prop :=
  (∃ tool, tool.name = name ∧ tool ∈ first.tools ∧ tool ∈ second.tools) ∨
    name ∉ first.names ∧ name ∉ second.names

/-- What else the tables hold, and in which order, makes no difference to a call. -/
theorem AgreeOn.call_eq (h : AgreeOn first second name) (arguments : Json.Value) :
    first.call name arguments = second.call name arguments := by
  rcases h with ⟨tool, rfl, hfirst, hsecond⟩ | ⟨hfirst, hsecond⟩
  · rw [call_of_mem hfirst, call_of_mem hsecond]
  · rw [call_of_not_mem hfirst, call_of_not_mem hsecond]

/-- More tools change nothing for the names that they do not have. -/
theorem agreeOn_of_tools_eq_append {more : List Tool} (hmore : second.tools = first.tools ++ more)
    (hname : name ∉ more.map Tool.name) : AgreeOn first second name := by
  by_cases hfirst : name ∈ first.names
  · rcases List.mem_map.mp hfirst with ⟨tool, hmem, rfl⟩
    refine Or.inl ⟨tool, rfl, hmem, ?_⟩
    rw [hmore]
    exact List.mem_append_left more hmem
  · refine Or.inr ⟨hfirst, ?_⟩
    rw [names, hmore, List.map_append, List.mem_append]
    exact not_or.mpr ⟨hfirst, hname⟩

/-- Tools are isolated from each other. A list of tools is admitted or refused as
`Admission` says. Two dispatchers that agree on a name answer every call to it alike,
text and log, whatever other tools they have. So the core set answers as the full set
does, except that it does not know the tool for quotes. -/
theorem tools_are_isolated :
    (∀ tools : List Tool, Admission tools) ∧
    (∀ (first second : Dispatcher) (name : Text), AgreeOn first second name →
      ∀ arguments, first.call name arguments = second.call name arguments) ∧
    (∀ set : ToolSet, ofTools set.tools = .ok (Server.dispatcherOf set)) ∧
    (∀ name arguments, name ≠ Tool.normalizeQuotes.name →
      (Server.dispatcherOf .core).call name arguments =
        (Server.dispatcherOf .full).call name arguments) ∧
    (∀ arguments, (Server.dispatcherOf .core).call "normalize-quotes" arguments =
      ⟨"❌ **Invalid Request**\n\nUnknown tool: normalize-quotes", []⟩) := by
  refine ⟨admission, fun _ _ _ h => h.call_eq, ?_, ?_, ?_⟩
  · intro set
    exact ofTools_eq_ok (Server.nodup_names set)
  · intro name arguments hname
    -- the full set is the core set with one tool behind it
    have hmore : (Server.dispatcherOf .full).tools =
        (Server.dispatcherOf .core).tools ++ [Tool.normalizeQuotes] := rfl
    have hother : name ∉ [Tool.normalizeQuotes].map Tool.name := by simpa using hname
    exact (agreeOn_of_tools_eq_append hmore hother).call_eq arguments
  · intro arguments
    have habsent : ("normalize-quotes" : Text) ∉ (Server.dispatcherOf .core).names := by decide
    rw [call_of_not_mem habsent]
    rfl

/-- Two tools of the catalog in another order and with another one before them. -/
def rearranged : Dispatcher := ⟨[.normalizeQuotes, .generate, .analyze], by decide⟩

theorem call_rearranged :
    AgreeOn rearranged (Server.dispatcherOf .core) "generate-flowchart" ∧
      rearranged.call "generate-flowchart" (.object [("description", .text "Start. Stop")]) =
        (Server.dispatcherOf .core).call "generate-flowchart"
          (.object [("description", .text "Start. Stop")]) := by
  have hagree : AgreeOn rearranged (Server.dispatcherOf .core) "generate-flowchart" :=
    Or.inl ⟨.generate, rfl, by simp [rearranged], by simp [Server.dispatcherOf, ToolSet.tools]⟩
  exact ⟨hagree, tools_are_isolated.2.1 _ _ _ hagree _⟩

end Dispatcher

end ProseChart
