import ProseChart.Tool

/-!
# ProseChart.Tool.Dispatcher — calls by name

A dispatcher routes calls to the tools of a list in which every name stands
once. A list with a repeated name is refused, naming the first tool in the list
whose name came before.

* `Dispatcher.ofTools` — the dispatcher of a list of tools.
* `Dispatcher.call` — one call; a name that no tool has is a request that cannot
  be served, and leaves no trace in the log.
-/

namespace ProseChart

/-- The first name in a list of tools that came before, in the list or among
`seen`. -/
def Tool.repeated? (seen : List Text) : List Tool → Option Text
  | [] => none
  | tool :: rest =>
    if seen.contains tool.name then some tool.name else Tool.repeated? (tool.name :: seen) rest

/-- Without a repeated name the names are distinct and new. -/
theorem Tool.nodup_of_repeated?_eq_none {seen : List Text} {tools : List Tool}
    (h : Tool.repeated? seen tools = none) :
    (tools.map Tool.name).Nodup ∧ ∀ tool ∈ tools, tool.name ∉ seen := by
  induction tools generalizing seen with
  | nil => simp
  | cons tool rest ih =>
    rw [Tool.repeated?] at h
    split at h
    · simp at h
    · next known =>
      have fresh : tool.name ∉ seen := fun old => known (List.contains_iff_mem.2 old)
      have ⟨distinct, others⟩ := ih h
      refine ⟨?_, ?_⟩
      · rw [List.map_cons, List.nodup_cons]
        refine ⟨?_, distinct⟩
        intro mem
        obtain ⟨other, mem, same⟩ := List.mem_map.1 mem
        exact others other mem (same ▸ List.mem_cons_self)
      · intro other mem
        rcases List.mem_cons.1 mem with eq | mem
        · exact eq ▸ fresh
        · intro old
          exact others other mem (List.mem_cons_of_mem _ old)

/-- A list of tools with distinct names. -/
structure Dispatcher where
  tools : List Tool
  distinct : (tools.map Tool.name).Nodup

namespace Dispatcher

/-- The dispatcher of a list of tools. -/
def ofTools (tools : List Tool) : Except Fault Dispatcher :=
  match h : Tool.repeated? [] tools with
  | none => .ok ⟨tools, (Tool.nodup_of_repeated?_eq_none h).1⟩
  | some name => .error (.duplicateTool name)

/-- The names of the tools, in order. -/
def names (dispatcher : Dispatcher) : List Text := dispatcher.tools.map Tool.name

/-- The tool with a name. -/
def find? (dispatcher : Dispatcher) (name : Text) : Option Tool :=
  dispatcher.tools.find? fun tool => tool.name == name

/-- Calls the tool with a name. -/
def call (dispatcher : Dispatcher) (name : Text) (arguments : Json.Value) : Reply :=
  match dispatcher.find? name with
  | some tool => tool.call arguments
  | none => ⟨Answer.invalidRequest (.unknownTool name), []⟩

end Dispatcher

end ProseChart
