import ProseChart.Proofs.Fault.Lineage
import ProseChart.Proofs.Lookup
import ProseChart.Tool.Dispatcher

/-!
# ProseChart.Proofs.Tool.Calls — every call is answered

Whatever a tool does, its caller gets one text, and standard error tells what happened.
`Dispatcher.Answers` lists the five ways in which a call goes, each with the text and
with what is written: no such tool, a text, a fault that blames the request, and any
other fault with or without a failure message of the tool. `Dispatcher.call` goes
exactly these ways (`Dispatcher.answers_iff`), so that exactly one of them applies to
each call.

Tools may behave differently from call to call. A `Call` therefore comes with the
dispatcher as it is at that moment, and a row of calls is any list of them.

* `Dispatcher.find?_eq_some_iff`, `Dispatcher.ofTools_eq_ok` — tools by name.
* `Log.render_calling`, `Log.render_failure` — what the entries of a call are written as.
* `Dispatcher.Answers`, `Dispatcher.answers_iff` — one call.
* `Transcript`, `transcript_iff` — calls in a row.
* `Dispatcher.every_call_answered` — all of it.
-/

namespace ProseChart

/-! ## Tools by name -/

/-- Distinct and new names are not repeated. -/
theorem Tool.repeated?_eq_none {seen : List Text} {tools : List Tool}
    (distinct : (tools.map Tool.name).Nodup) (fresh : ∀ tool ∈ tools, tool.name ∉ seen) :
    Tool.repeated? seen tools = none := by
  induction tools generalizing seen with
  | nil => rfl
  | cons tool rest ih =>
    rcases List.nodup_cons.mp distinct with ⟨hname, hrest⟩
    rcases List.forall_mem_cons.mp fresh with ⟨hnew, hnews⟩
    have hknown : seen.contains tool.name = false := by simpa using hnew
    rw [Tool.repeated?, hknown, if_neg Bool.false_ne_true]
    apply ih hrest
    intro other hother
    -- the name of the first tool is seen now, and the others have other names
    have hne : other.name ≠ tool.name := fun heq => hname (heq ▸ List.mem_map_of_mem hother)
    simp [hne, hnews other hother]

namespace Dispatcher

variable {dispatcher : Dispatcher} {name : Text} {arguments : Json.Value} {tool : Tool}
  {fault : Fault}

/-- Tools with distinct names make a dispatcher. -/
theorem ofTools_eq_ok {tools : List Tool} (distinct : (tools.map Tool.name).Nodup) :
    ofTools tools = .ok ⟨tools, distinct⟩ := by
  have hnone : Tool.repeated? [] tools = none := Tool.repeated?_eq_none distinct (by simp)
  unfold ofTools
  split
  · rfl
  · next repeated heq =>
    rw [hnone] at heq
    cases heq

theorem find?_eq_some_iff :
    dispatcher.find? name = some tool ↔ tool ∈ dispatcher.tools ∧ tool.name = name :=
  find?_key_eq_some_iff dispatcher.distinct

theorem find?_eq_none_iff : dispatcher.find? name = none ↔ name ∉ dispatcher.names :=
  find?_key_eq_none_iff

/-- A name that no tool has is a request that cannot be served. -/
theorem call_of_not_mem (h : name ∉ dispatcher.names) :
    dispatcher.call name arguments =
      ⟨"❌ **Invalid Request**\n\n" ++ ("Unknown tool: " ++ name), []⟩ := by
  rw [call, find?_eq_none_iff.mpr h]
  rfl

theorem call_of_mem (h : tool ∈ dispatcher.tools) :
    dispatcher.call tool.name arguments = tool.call arguments := by
  rw [call, find?_eq_some_iff.mpr ⟨h, rfl⟩]

end Dispatcher

/-! ## One tool -/

namespace Tool

variable {tool : Tool} {arguments : Json.Value} {fault : Fault}

theorem call_of_ok {text : Text} (h : tool.handler (given arguments) = .ok text) :
    tool.call arguments = ⟨text, [.calling tool.name]⟩ := by
  rw [call, h]

theorem call_of_blame (h : tool.handler (given arguments) = .error fault)
    (hblame : fault.kind.blamesRequest = true) :
    tool.call arguments = ⟨Answer.invalidRequest fault, [.calling tool.name]⟩ := by
  rw [call, h]
  exact if_pos hblame

theorem call_of_failure (h : tool.handler (given arguments) = .error fault)
    (hblame : ¬ fault.kind.blamesRequest = true) :
    tool.call arguments =
      ⟨tool.failureReport fault, [.calling tool.name, .failed tool.name fault, .trace]⟩ := by
  rw [call, h]
  exact if_neg hblame

/-- A failure message that says something introduces the report. -/
theorem failureReport_of_message {message : Text} (h : tool.failureMessage = some message)
    (hne : message ≠ []) : tool.failureReport fault = message ++ ": " ++ fault.text := by
  unfold failureReport
  rw [h, Option.getD_some]
  cases message with
  | nil => exact absurd rfl hne
  | cons c rest => rfl

theorem failureReport_of_empty (h : tool.failureMessage.getD [] = []) :
    tool.failureReport fault = Answer.unexpectedError fault := by
  unfold failureReport
  rw [h]

end Tool

/-! ## The log of a call -/

namespace Log

variable {name : Text} {fault : Fault}

theorem render_calling :
    Log.render [.calling name] = "[DEBUG] Calling tool: " ++ name ++ "\n" :=
  List.append_nil _

theorem render_failure :
    Log.render [.calling name, .failed name fault, .trace] =
      "[DEBUG] Calling tool: " ++ name ++ "\n" ++
        ("[ERROR] " ++ name ++ " failed: " ++ fault.kind.name ++ ": " ++ fault.text ++ "\n") ++
          "[TRACEBACK]\n" := by
  have htrace : Log.render [.trace] = "[TRACEBACK]\n" := by decide
  calc Log.render [.calling name, .failed name fault, .trace]
      = _ ++ (_ ++ Log.render [.trace]) := rfl
    _ = _ := by rw [htrace, ← List.append_assoc]; rfl

end Log

/-! ## One call -/

namespace Dispatcher

/-- How a call is answered, and what it leaves on standard error. -/
inductive Answers (dispatcher : Dispatcher) (name : Text) (arguments : Json.Value) :
    (text errors : Text) → Prop
  /-- No tool has the name. Nothing is logged. -/
  | unknown (absent : name ∉ dispatcher.names) :
    Answers dispatcher name arguments
      ("❌ **Invalid Request**\n\n" ++ ("Unknown tool: " ++ name)) []
  /-- The tool returns a text, which is the answer as it is. The call is logged. -/
  | returned {tool : Tool} {text : Text} (mem : tool ∈ dispatcher.tools) (named : tool.name = name)
    (outcome : tool.handler (Tool.given arguments) = .ok text) :
    Answers dispatcher name arguments text ("[DEBUG] Calling tool: " ++ name ++ "\n")
  /-- The tool raises a fault for a value that is not allowed. Only the call is
  logged, whether or not the tool has a failure message. -/
  | blamed {tool : Tool} {fault : Fault} {cls : Lineage} (mem : tool ∈ dispatcher.tools)
    (named : tool.name = name) (outcome : tool.handler (Tool.given arguments) = .error fault)
    (kind : cls.faultClass = fault.kind) (derives : cls.DerivesFrom .value) :
    Answers dispatcher name arguments
      ("❌ **Invalid Request**\n\n" ++ fault.text) ("[DEBUG] Calling tool: " ++ name ++ "\n")
  /-- The tool raises another fault and has a failure message that says something. The
  call, the fault and the trace are logged. -/
  | introduced {tool : Tool} {fault : Fault} {cls : Lineage} {message : Text}
    (mem : tool ∈ dispatcher.tools) (named : tool.name = name)
    (outcome : tool.handler (Tool.given arguments) = .error fault)
    (kind : cls.faultClass = fault.kind) (other : ¬ cls.DerivesFrom .value)
    (given : tool.failureMessage = some message) (nonempty : message ≠ []) :
    Answers dispatcher name arguments
      (message ++ ": " ++ fault.text)
      ("[DEBUG] Calling tool: " ++ name ++ "\n" ++
        ("[ERROR] " ++ name ++ " failed: " ++ fault.kind.name ++ ": " ++ fault.text ++ "\n") ++
          "[TRACEBACK]\n")
  /-- The tool raises another fault and has no failure message, or an empty one. The
  call, the fault and the trace are logged. -/
  | unexpected {tool : Tool} {fault : Fault} {cls : Lineage} (mem : tool ∈ dispatcher.tools)
    (named : tool.name = name) (outcome : tool.handler (Tool.given arguments) = .error fault)
    (kind : cls.faultClass = fault.kind) (other : ¬ cls.DerivesFrom .value)
    (silent : tool.failureMessage = none ∨ tool.failureMessage = some []) :
    Answers dispatcher name arguments
      ("❌ **Unexpected Error**\n\nType: " ++ fault.kind.name ++ "\nMessage: " ++ fault.text ++ "\n")
      ("[DEBUG] Calling tool: " ++ name ++ "\n" ++
        ("[ERROR] " ++ name ++ " failed: " ++ fault.kind.name ++ ": " ++ fault.text ++ "\n") ++
          "[TRACEBACK]\n")

variable {dispatcher : Dispatcher} {name text errors : Text} {arguments : Json.Value}

/-- A call goes no other way. -/
theorem Answers.eq_call (h : Answers dispatcher name arguments text errors) :
    text = (dispatcher.call name arguments).text ∧
      errors = (dispatcher.call name arguments).log.render := by
  cases h with
  | unknown absent =>
    rw [call_of_not_mem absent]
    exact ⟨rfl, rfl⟩
  | @returned tool _ mem named outcome =>
    obtain rfl := named
    rw [call_of_mem mem, Tool.call_of_ok outcome]
    exact ⟨rfl, Log.render_calling.symm⟩
  | @blamed tool fault cls mem named outcome kind derives =>
    obtain rfl := named
    have hblame : fault.kind.blamesRequest = true :=
      (Lineage.blamesRequest_kind_iff kind).mpr derives
    rw [call_of_mem mem, Tool.call_of_blame outcome hblame]
    exact ⟨rfl, Log.render_calling.symm⟩
  | @introduced tool fault cls message mem named outcome kind other given nonempty =>
    obtain rfl := named
    have hblame : ¬ fault.kind.blamesRequest = true :=
      mt (Lineage.blamesRequest_kind_iff kind).mp other
    rw [call_of_mem mem, Tool.call_of_failure outcome hblame,
      Tool.failureReport_of_message given nonempty]
    exact ⟨rfl, Log.render_failure.symm⟩
  | @unexpected tool fault cls mem named outcome kind other silent =>
    obtain rfl := named
    have hblame : ¬ fault.kind.blamesRequest = true :=
      mt (Lineage.blamesRequest_kind_iff kind).mp other
    have hsilent : tool.failureMessage.getD [] = [] := by
      rcases silent with hnone | hempty
      · rw [hnone]
        rfl
      · rw [hempty]
        rfl
    rw [call_of_mem mem, Tool.call_of_failure outcome hblame, Tool.failureReport_of_empty hsilent]
    exact ⟨rfl, Log.render_failure.symm⟩

/-- A call to a tool goes one of the ways. The cases are what the handler does, what
the fault derives from and what the failure message says. -/
theorem answers_tool_call {tool : Tool} (mem : tool ∈ dispatcher.tools) :
    Answers dispatcher tool.name arguments (tool.call arguments).text
      (tool.call arguments).log.render := by
  cases houtcome : tool.handler (Tool.given arguments) with
  | ok text =>
    rw [Tool.call_of_ok houtcome, Log.render_calling]
    exact .returned mem rfl houtcome
  | error fault =>
    rcases Lineage.exists_faultClass_eq fault.kind with ⟨cls, hcls⟩
    have hblame : fault.kind.blamesRequest = true ↔ cls.DerivesFrom .value :=
      Lineage.blamesRequest_kind_iff hcls
    by_cases hvalue : cls.DerivesFrom .value
    · rw [Tool.call_of_blame houtcome (hblame.mpr hvalue), Log.render_calling]
      exact .blamed mem rfl houtcome hcls hvalue
    · rw [Tool.call_of_failure houtcome fun h => hvalue (hblame.mp h), Log.render_failure]
      cases hmessage : tool.failureMessage with
      | none =>
        rw [Tool.failureReport_of_empty (by rw [hmessage]; rfl)]
        exact .unexpected mem rfl houtcome hcls hvalue (Or.inl hmessage)
      | some message =>
        by_cases hempty : message = []
        · obtain rfl := hempty
          rw [Tool.failureReport_of_empty (by rw [hmessage]; rfl)]
          exact .unexpected mem rfl houtcome hcls hvalue (Or.inr hmessage)
        · rw [Tool.failureReport_of_message hmessage hempty]
          exact .introduced mem rfl houtcome hcls hvalue hmessage hempty

theorem answers_call (dispatcher : Dispatcher) (name : Text) (arguments : Json.Value) :
    Answers dispatcher name arguments (dispatcher.call name arguments).text
      (dispatcher.call name arguments).log.render := by
  cases hfind : dispatcher.find? name with
  | none =>
    have habsent : name ∉ dispatcher.names := find?_eq_none_iff.mp hfind
    rw [call_of_not_mem habsent]
    exact .unknown habsent
  | some tool =>
    rcases find?_eq_some_iff.mp hfind with ⟨hmem, rfl⟩
    rw [call_of_mem hmem]
    exact answers_tool_call hmem

/-- Each call goes exactly one of the ways. -/
theorem answers_iff : Answers dispatcher name arguments text errors ↔
    text = (dispatcher.call name arguments).text ∧
      errors = (dispatcher.call name arguments).log.render := by
  constructor
  · exact Answers.eq_call
  · rintro ⟨rfl, rfl⟩
    exact answers_call dispatcher name arguments

end Dispatcher

/-! ## Calls in a row -/

/-- A call, with the dispatcher as it is when the call comes: the tools may behave
otherwise at another time. -/
structure Call where
  dispatcher : Dispatcher
  name : Text
  arguments : Json.Value

/-- The reply to a call. -/
def Call.reply (call : Call) : Reply := call.dispatcher.call call.name call.arguments

/-- The answers to calls in a row, and what they leave on standard error: what each of
them does, one after the other. -/
inductive Transcript : List Call → List Text → Text → Prop
  | nil : Transcript [] [] []
  | cons {call : Call} {text errors : Text} {calls : List Call} {texts : List Text} {more : Text}
    (first : call.dispatcher.Answers call.name call.arguments text errors)
    (rest : Transcript calls texts more) :
    Transcript (call :: calls) (text :: texts) (errors ++ more)

/-- Calls in a row are answered one by one, and their logs follow each other. The
induction is on the calls, with one call as its step. -/
theorem transcript_iff {calls : List Call} {texts : List Text} {errors : Text} :
    Transcript calls texts errors ↔
      texts = calls.map (fun call => call.reply.text) ∧
        errors = Log.render (calls.flatMap fun call => call.reply.log) := by
  constructor
  · intro h
    induction h with
    | nil => exact ⟨rfl, rfl⟩
    | @cons call text errors calls texts more first rest ih =>
      have hreply : text = call.reply.text ∧ errors = call.reply.log.render :=
        Dispatcher.answers_iff.mp first
      rw [List.map_cons, List.flatMap_cons, Log.render_append, hreply.1, hreply.2, ih.1, ih.2]
      exact ⟨rfl, rfl⟩
  · rintro ⟨rfl, rfl⟩
    induction calls with
    | nil => exact .nil
    | cons call calls ih =>
      have hfirst : call.dispatcher.Answers call.name call.arguments call.reply.text
          call.reply.log.render := Dispatcher.answers_iff.mpr ⟨rfl, rfl⟩
      rw [List.map_cons, List.flatMap_cons, Log.render_append]
      exact .cons hfirst ih

/-- Tools with distinct names make a dispatcher. Each call to a dispatcher goes
exactly one of the ways that `Dispatcher.Answers` lists, with the text and with what is
written on standard error; which faults are values that are not allowed is a matter of
what their class derives from, every class has a place in the hierarchy, and a tool
argument that is missing or of the wrong kind is such a value. Calls in a row have one
answer each, and their log is what the single calls log, in the order of the calls. -/
theorem Dispatcher.every_call_answered :
    (∀ (tools : List Tool) (distinct : (tools.map Tool.name).Nodup),
      Dispatcher.ofTools tools = .ok ⟨tools, distinct⟩) ∧
    (∀ (dispatcher : Dispatcher) (name : Text) (arguments : Json.Value) (text errors : Text),
      dispatcher.Answers name arguments text errors ↔
        text = (dispatcher.call name arguments).text ∧
          errors = (dispatcher.call name arguments).log.render) ∧
    (∀ cls : FaultClass, ∃ lineage : Lineage, lineage.faultClass = cls) ∧
    (∀ lineage : Lineage, lineage.faultClass = FaultClass.argument →
      lineage.DerivesFrom .value) ∧
    (∀ (calls : List Call) (texts : List Text) (errors : Text),
      Transcript calls texts errors ↔
        texts = calls.map (fun call => call.reply.text) ∧
          errors = Log.render (calls.flatMap fun call => call.reply.log)) := by
  refine ⟨fun _ => ofTools_eq_ok, fun _ _ _ _ _ => answers_iff, Lineage.exists_faultClass_eq, ?_,
    fun _ _ _ => transcript_iff⟩
  intro lineage hclass
  rw [← lineage.blamesRequest_iff, hclass]
  rfl

namespace Dispatcher

/-- A dispatcher with one tool, which never finds its key and has an empty failure
message. -/
def forgetful : Dispatcher where
  tools :=
    [{ name := "recall"
       description := "Recalls a key"
       inputSchema := .object [("type", .text "object")]
       handler := fun _ => .error (.raised .key "lost")
       failureMessage := some "" }]
  distinct := List.nodup_singleton _

/-- A failure between two requests that cannot be served: only the failure leaves a text
on standard error. -/
theorem transcript_forgetful :
    (forgetful.tools.map Tool.name).Nodup ∧
      ofTools forgetful.tools = .ok ⟨forgetful.tools, forgetful.distinct⟩ ∧
      (Lineage.derived "ToolArgumentError" [.value]).faultClass = FaultClass.argument ∧
      (Lineage.derived "ToolArgumentError" [.value]).DerivesFrom .value ∧
      Transcript
        [⟨forgetful, "draw", .null⟩, ⟨forgetful, "recall", .null⟩, ⟨forgetful, "", .null⟩]
        ["❌ **Invalid Request**\n\nUnknown tool: draw",
          "❌ **Unexpected Error**\n\nType: KeyError\nMessage: 'lost'\n",
          "❌ **Invalid Request**\n\nUnknown tool: "]
        ("[DEBUG] Calling tool: recall\n[ERROR] recall failed: KeyError: 'lost'\n" ++
          "[TRACEBACK]\n") :=
  ⟨forgetful.distinct, every_call_answered.1 _ forgetful.distinct, rfl,
    every_call_answered.2.2.2.1 _ rfl,
    (every_call_answered.2.2.2.2 _ _ _).mpr ⟨by decide +kernel, by decide +kernel⟩⟩

end Dispatcher

end ProseChart
