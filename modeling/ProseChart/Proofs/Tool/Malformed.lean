import ProseChart.Proofs.Assistant.Agreement

/-!
# ProseChart.Proofs.Tool.Malformed — arguments of every kind

The arguments of a call may be any JSON value. A tool of the catalog works when they are
an object with a text as its description, and most other values are reported as requests
that cannot be served. But a tool looks for the name of the argument before it looks at
the kind of the arguments, and in a value that is no object this look-up can go wrong by
itself: in a number, in `true`, in an array that holds the name and in a text in which it
stands. Then the tool fails, and the failure does not blame the request.

* `Tool.Describes`, `Tool.Lacks`, `Tool.Stumbles` — the three sorts of arguments.
* `Tool.exists_sort` — every value is of one of them.
* `Tool.descriptionOf_given_eq_ok_iff`, `Tool.descriptionOf_given_eq_error_iff` — the sort
  is what the look-up gives.
* `Tool.Reception`, `Tool.reception_of_every_value` — how a call goes, sort by sort.
* `Tool.integer_not_refused` — arguments without a description that are not reported as a
  request.
-/

namespace ProseChart

namespace Tool

variable {arguments : Json.Value} {members : List (LooseText × Json.Value)}
  {items : List Json.Value} {d : Text} {fault : Fault} {tool : Tool}

/-! ## The three sorts -/

/-- The arguments are an object whose description is a text. -/
inductive Describes : Json.Value → Text → Prop
  | text {members : List (LooseText × Json.Value)} {t : LooseText}
    (found : Json.Value.find? argumentName members = some (.text t)) :
    Describes (.object members) t.toText

/-- The arguments have no text as a description, and looking for it tells so. -/
inductive Lacks : Json.Value → Fault → Prop
  /-- Null, false, zeros and what is empty stand for no arguments. -/
  | ungiven {arguments : Json.Value} (falsy : arguments.isTruthy = false) :
    Lacks arguments .missingArgument
  | missing {members : List (LooseText × Json.Value)}
    (absent : Json.Value.find? argumentName members = none) :
    Lacks (.object members) .missingArgument
  | mistyped {members : List (LooseText × Json.Value)} {value : Json.Value}
    (found : Json.Value.find? argumentName members = some value)
    (other : ∀ t, value ≠ .text t) : Lacks (.object members) (.argumentKind value.kind)
  | array {items : List Json.Value} (absent : Json.Value.text argumentName ∉ items) :
    Lacks (.array items) .missingArgument
  | text {t : LooseText} (absent : ¬ argumentName <:+: t.toText) :
    Lacks (.text t) .missingArgument

/-- Looking for the description goes wrong. -/
inductive Stumbles : Json.Value → Fault → Prop
  /-- The name is an item, and items are not found by name. -/
  | array {items : List Json.Value} (named : Json.Value.text argumentName ∈ items) :
    Stumbles (.array items) .namedInArray
  /-- The name stands in the text, and characters are not found by name. -/
  | text {t : LooseText} (named : argumentName <:+: t.toText) : Stumbles (.text t) .namedInText
  /-- Nothing can be looked for in what has no parts. -/
  | bool : Stumbles (.bool true) (.unsearchable .bool)
  | integer {n : Int} (nonzero : n ≠ 0) : Stumbles (.integer n) (.unsearchable .integer)
  | decimal {x : Binary64} (nonzero : x.isZero = false) :
    Stumbles (.decimal x) (.unsearchable .decimal)

/-! ## What the look-up gives -/

theorem given_of_isTruthy (h : arguments.isTruthy = true) : given arguments = arguments :=
  if_pos h

theorem given_of_not_isTruthy (h : arguments.isTruthy = false) : given arguments = .object [] := by
  unfold given
  rw [h]
  rfl

/-- The items are searched for the name as a text. -/
theorem any_isArgumentName_iff :
    items.any isArgumentName = true ↔ Json.Value.text argumentName ∈ items := by
  rw [List.any_eq_true]
  constructor
  · rintro ⟨item, hitem, hname⟩
    cases item with
    | text t =>
      have ht : t = LooseText.ofText argumentName := eq_of_beq hname
      rw [← ht]
      exact hitem
    | _ => cases hname
  · intro hmem
    exact ⟨_, hmem, beq_self_eq_true _⟩

theorem descriptionOf_array_of_mem (h : Json.Value.text argumentName ∈ items) :
    descriptionOf (.array items) = .error .namedInArray := by
  show Except.error (if items.any isArgumentName = true then _ else _) = _
  rw [if_pos (any_isArgumentName_iff.mpr h)]

theorem descriptionOf_array_of_not_mem (h : Json.Value.text argumentName ∉ items) :
    descriptionOf (.array items) = .error .missingArgument := by
  show Except.error (if items.any isArgumentName = true then _ else _) = _
  rw [if_neg (mt any_isArgumentName_iff.mp h)]

theorem descriptionOf_text_of_infix {t : LooseText} (h : argumentName <:+: t.toText) :
    descriptionOf (.text t) = .error .namedInText := by
  show Except.error (if Text.mentions argumentName t.toText = true then _ else _) = _
  rw [if_pos (Text.mentions_iff_infix.mpr h)]

theorem descriptionOf_text_of_not_infix {t : LooseText} (h : ¬ argumentName <:+: t.toText) :
    descriptionOf (.text t) = .error .missingArgument := by
  show Except.error (if Text.mentions argumentName t.toText = true then _ else _) = _
  rw [if_neg (mt Text.mentions_iff_infix.mp h)]

theorem Describes.descriptionOf_given (h : Describes arguments d) :
    descriptionOf (given arguments) = .ok d := by
  cases h with
  | text found =>
    rw [given_object]
    exact descriptionOf_text found

theorem Lacks.descriptionOf_given (h : Lacks arguments fault) :
    descriptionOf (given arguments) = .error fault := by
  cases h with
  | ungiven falsy =>
    rw [given_of_not_isTruthy falsy]
    exact descriptionOf_missing rfl
  | missing absent =>
    rw [given_object]
    exact descriptionOf_missing absent
  | mistyped found other =>
    rw [given_object]
    exact descriptionOf_other found other
  | @array items absent =>
    cases items with
    | nil => exact descriptionOf_missing rfl
    | cons item rest =>
      rw [given_of_isTruthy rfl]
      exact descriptionOf_array_of_not_mem absent
  | @text t absent =>
    cases t with
    | nil => exact descriptionOf_missing rfl
    | cons c rest =>
      rw [given_of_isTruthy rfl]
      exact descriptionOf_text_of_not_infix absent

theorem Stumbles.descriptionOf_given (h : Stumbles arguments fault) :
    descriptionOf (given arguments) = .error fault := by
  cases h with
  | @array items named =>
    cases items with
    | nil => cases named
    | cons item rest =>
      rw [given_of_isTruthy rfl]
      exact descriptionOf_array_of_mem named
  | @text t named =>
    cases t with
    | nil =>
      -- the name is not empty
      have hnil : argumentName = [] := List.infix_nil.mp named
      cases hnil
    | cons c rest =>
      rw [given_of_isTruthy rfl]
      exact descriptionOf_text_of_infix named
  | bool => rfl
  | @integer n nonzero =>
    have htruthy : Json.Value.isTruthy (.integer n) = true := bne_iff_ne.mpr nonzero
    rw [given_of_isTruthy htruthy]
    rfl
  | @decimal x nonzero =>
    have htruthy : Json.Value.isTruthy (.decimal x) = true := congrArg (!·) nonzero
    rw [given_of_isTruthy htruthy]
    rfl

/-- A description that is lacking blames the request. -/
theorem Lacks.blamesRequest (h : Lacks arguments fault) : fault.kind.blamesRequest = true := by
  cases h <;> rfl

/-- A look-up that goes wrong does not blame the request. -/
theorem Stumbles.not_blamesRequest (h : Stumbles arguments fault) :
    ¬ fault.kind.blamesRequest = true := by
  cases h <;> exact Bool.false_ne_true

/-! ## Every value is of one sort -/

/-- Every value is of some sort. The cases are the kinds of values. -/
theorem exists_sort (arguments : Json.Value) :
    (∃ d, Describes arguments d) ∨ (∃ fault, Lacks arguments fault) ∨
      ∃ fault, Stumbles arguments fault := by
  cases htruthy : arguments.isTruthy with
  | false => exact Or.inr (Or.inl ⟨_, .ungiven htruthy⟩)
  | true =>
    cases arguments with
    | null => cases htruthy
    | bool b =>
      cases b with
      | false => cases htruthy
      | true => exact Or.inr (Or.inr ⟨_, .bool⟩)
    | integer n => exact Or.inr (Or.inr ⟨_, .integer (bne_iff_ne.mp htruthy)⟩)
    | decimal x =>
      have hnonzero : x.isZero = false := by simpa [Json.Value.isTruthy] using htruthy
      exact Or.inr (Or.inr ⟨_, .decimal hnonzero⟩)
    | text t =>
      by_cases hnamed : argumentName <:+: t.toText
      · exact Or.inr (Or.inr ⟨_, .text hnamed⟩)
      · exact Or.inr (Or.inl ⟨_, .text hnamed⟩)
    | array items =>
      by_cases hnamed : Json.Value.text argumentName ∈ items
      · exact Or.inr (Or.inr ⟨_, .array hnamed⟩)
      · exact Or.inr (Or.inl ⟨_, .array hnamed⟩)
    | object members =>
      cases hfind : Json.Value.find? argumentName members with
      | none => exact Or.inr (Or.inl ⟨_, .missing hfind⟩)
      | some value =>
        cases value with
        | text t => exact Or.inl ⟨_, .text hfind⟩
        | _ => exact Or.inr (Or.inl ⟨_, .mistyped hfind (by simp)⟩)

theorem descriptionOf_given_eq_ok_iff :
    descriptionOf (given arguments) = .ok d ↔ Describes arguments d := by
  constructor
  · intro h
    rcases exists_sort arguments with ⟨e, he⟩ | ⟨fault, hlacks⟩ | ⟨fault, hstumbles⟩
    · rw [he.descriptionOf_given] at h
      rw [← Except.ok.inj h]
      exact he
    · rw [hlacks.descriptionOf_given] at h
      cases h
    · rw [hstumbles.descriptionOf_given] at h
      cases h
  · exact Describes.descriptionOf_given

theorem descriptionOf_given_eq_error_iff :
    descriptionOf (given arguments) = .error fault ↔
      Lacks arguments fault ∨ Stumbles arguments fault := by
  constructor
  · intro h
    rcases exists_sort arguments with ⟨d, hd⟩ | ⟨other, hlacks⟩ | ⟨other, hstumbles⟩
    · rw [hd.descriptionOf_given] at h
      cases h
    · rw [hlacks.descriptionOf_given] at h
      rw [← Except.error.inj h]
      exact Or.inl hlacks
    · rw [hstumbles.descriptionOf_given] at h
      rw [← Except.error.inj h]
      exact Or.inr hstumbles
  · rintro (hlacks | hstumbles)
    · exact hlacks.descriptionOf_given
    · exact hstumbles.descriptionOf_given

/-! ## A call with arguments of any kind -/

/-- What becomes of a call to a served tool. -/
structure Reception (tool : Tool) (arguments : Json.Value) : Prop where
  /-- The tool gives a text exactly for arguments that give a description. -/
  works_iff : (∃ text, tool.handler (given arguments) = .ok text) ↔ ∃ d, Describes arguments d
  /-- The text that the tool gives is the answer. -/
  served : ∀ text, tool.handler (given arguments) = .ok text →
    (Server.dispatcherOf .full).call tool.name arguments = ⟨text, [.calling tool.name]⟩
  /-- A description that is lacking is reported as a request that cannot be served. -/
  refused : ∀ fault, Lacks arguments fault →
    (Server.dispatcherOf .full).call tool.name arguments =
      ⟨"❌ **Invalid Request**\n\n" ++ fault.text, [.calling tool.name]⟩
  /-- A look-up that goes wrong is reported as a failure of the tool. -/
  failed : ∀ fault, Stumbles arguments fault →
    (Server.dispatcherOf .full).call tool.name arguments =
      ⟨tool.failureReport fault, [.calling tool.name, .failed tool.name fault, .trace]⟩
  /-- No other call is logged as a failure of the tool. -/
  failed_iff : (∃ fault, LogEntry.failed tool.name fault ∈
    ((Server.dispatcherOf .full).call tool.name arguments).log) ↔ ∃ fault, Stumbles arguments fault

theorem reception_of_mem_full (hmem : tool ∈ ToolSet.full.tools) (arguments : Json.Value) :
    Reception tool arguments := by
  rcases works_of_mem_full hmem with ⟨present, -, hworks⟩
  have hcall : (Server.dispatcherOf .full).call tool.name arguments = tool.call arguments :=
    Dispatcher.call_of_mem hmem
  have hfault : ∀ fault, descriptionOf (given arguments) = .error fault →
      tool.handler (given arguments) = .error fault := by
    intro fault h
    rw [hworks, h]
    rfl
  have hrefused : ∀ fault, Lacks arguments fault →
      tool.call arguments = ⟨Answer.invalidRequest fault, [.calling tool.name]⟩ := by
    intro fault h
    exact call_of_blame (hfault fault h.descriptionOf_given) h.blamesRequest
  have hfailed : ∀ fault, Stumbles arguments fault → tool.call arguments =
      ⟨tool.failureReport fault, [.calling tool.name, .failed tool.name fault, .trace]⟩ := by
    intro fault h
    exact call_of_failure (hfault fault h.descriptionOf_given) h.not_blamesRequest
  constructor
  case works_iff =>
    constructor
    · rintro ⟨text, htext⟩
      cases hfound : descriptionOf (given arguments) with
      | ok d => exact ⟨d, descriptionOf_given_eq_ok_iff.mp hfound⟩
      | error fault =>
        rw [hfault fault hfound] at htext
        cases htext
    · rintro ⟨d, hd⟩
      refine ⟨present d, ?_⟩
      rw [hworks, hd.descriptionOf_given]
      rfl
  case served =>
    intro text htext
    rw [hcall, call_of_ok htext]
  case refused =>
    intro fault h
    rw [hcall, hrefused fault h]
    rfl
  case failed =>
    intro fault h
    rw [hcall, hfailed fault h]
  case failed_iff =>
    rw [hcall]
    constructor
    · rintro ⟨fault, hlog⟩
      rcases exists_sort arguments with ⟨d, hd⟩ | ⟨other, hlacks⟩ | hstumbles
      · have htext : tool.handler (given arguments) = .ok (present d) := by
          rw [hworks, hd.descriptionOf_given]
          rfl
        rw [call_of_ok htext] at hlog
        simp at hlog
      · rw [hrefused other hlacks] at hlog
        simp at hlog
      · exact hstumbles
    · rintro ⟨fault, h⟩
      rw [hfailed fault h]
      exact ⟨fault, by simp⟩

/-- Every value is of one sort, by what looking for the description in it gives, and a call
to a served tool goes as the sort says. So whatever has no text as its description is
reported as a request that cannot be served, except where the look-up goes wrong. -/
theorem reception_of_every_value (hmem : tool ∈ ToolSet.full.tools) (arguments : Json.Value) :
    Reception tool arguments ∧
      ((∃ d, Describes arguments d) ∨ (∃ fault, Lacks arguments fault) ∨
        ∃ fault, Stumbles arguments fault) ∧
      (∀ d, descriptionOf (given arguments) = .ok d ↔ Describes arguments d) ∧
      (∀ fault, descriptionOf (given arguments) = .error fault ↔
        Lacks arguments fault ∨ Stumbles arguments fault) := by
  refine ⟨reception_of_mem_full hmem arguments, exists_sort arguments, ?_, ?_⟩
  · intro d
    exact descriptionOf_given_eq_ok_iff
  · intro fault
    exact descriptionOf_given_eq_error_iff

/-- An array with the name among its items makes a tool fail that has a failure message. -/
theorem reception_named_array :
    Tool.generate ∈ ToolSet.full.tools ∧
      Stumbles (.array [.text "description"]) .namedInArray ∧
      (Server.dispatcherOf .full).call "generate-flowchart" (.array [.text "description"]) =
        ⟨"Error generating flowchart: list indices must be integers or slices, not str",
          [.calling "generate-flowchart", .failed "generate-flowchart" .namedInArray, .trace]⟩ := by
  have hmem : Tool.generate ∈ ToolSet.full.tools := by simp [ToolSet.tools]
  have hstumbles : Stumbles (.array [.text "description"]) .namedInArray :=
    .array List.mem_cons_self
  exact ⟨hmem, hstumbles, (reception_of_every_value hmem _).1.failed _ hstumbles⟩

/-- A number gives no description, yet it is not reported as a request that cannot be
served, neither by the dispatcher nor by the fallback that passes it on. -/
theorem integer_not_refused :
    (∀ d, ¬ Describes (.integer 5) d) ∧
      (Server.dispatcherOf .full).call "analyze-flowchart" (.integer 5) =
        ⟨"❌ **Unexpected Error**\n\nType: TypeError\n" ++
            "Message: argument of type 'int' is not iterable\n",
          [.calling "analyze-flowchart", .failed "analyze-flowchart" (.unsearchable .integer),
            .trace]⟩ ∧
      ((Remote.call [] .reachable "analyze-flowchart" "5").map Reply.text).toOption =
        some ("[fallback: MCP failed with ExceptionGroup]\n\n" ++
          "❌ **Unexpected Error**\n\nType: TypeError\n" ++
            "Message: argument of type 'int' is not iterable\n") := by
  refine ⟨?_, by decide +kernel, by decide +kernel⟩
  intro d hd
  cases hd

end Tool

end ProseChart
