import ProseChart.Assistant.Remote
import ProseChart.Proofs.Tool.Calls
import ProseChart.Proofs.Tool.Schema

/-!
# ProseChart.Proofs.Assistant.Agreement — the fallback answers as the server does

A call over a connection that fails is answered in the same process. The two paths
share the dispatcher, but the description is checked twice, in different ways: by the
protocol, against the schema of the tool, before the server calls the tool; and by
`Tool.descriptionOf`, once the tool is called. And each path drops texts that are empty.
They agree all the same, since the two checks accept the same objects and since no
answer is empty. Of the protocol nothing is relied on but `Protocol.Validates` and
`Protocol.CarriesTexts`.

* `Telling` — a text that is neither empty nor the notice for no text.
* `Tool.works_of_mem_full` — a served tool takes the description out and turns it
  into a telling text.
* `Server.call_of_objection`, `Server.call_of_accepted` — the check comes first.
* `Remote.session_eq`, `Remote.direct_eq` — an answer that is not empty gets through.
* `Remote.paths_unknown`, `Remote.paths_described`, `Remote.paths_rejected` — the kinds
  of calls, one by one.
* `Remote.PathsAgree`, `Remote.paths_agree` — what the two paths answer.
-/

namespace ProseChart

/-! ## Telling texts -/

/-- A text begins, and not with the bracket of a notice. -/
def Telling (t : Text) : Prop := ∃ c ∈ t.head?, c ≠ '('

namespace Telling

variable {t u : Text}

theorem ne_nil (h : Telling t) : t ≠ [] := by
  rintro rfl
  rcases h with ⟨c, hc, _⟩
  cases hc

theorem ne_notice (h : Telling t) : t ≠ "(no text response)" := by
  rintro rfl
  rcases h with ⟨c, hc, hne⟩
  exact hne (Option.some.inj hc).symm

/-- The beginning decides. -/
theorem append (h : Telling t) : Telling (t ++ u) := by
  rcases h with ⟨c, hc, hne⟩
  exact ⟨c, List.mem_head?_append_of_mem_head? hc, hne⟩

end Telling

theorem Answer.telling_invalidRequest (fault : Fault) : Telling (Answer.invalidRequest fault) :=
  Telling.append ⟨'❌', rfl, by decide⟩

theorem Answer.telling_ofReview (description : Text) :
    Telling (Answer.ofReview (Review.ofDescription description)) := by
  have hheader : Telling Review.header := ⟨'F', rfl, by decide⟩
  have hpreview : Telling (Review.ofDescription description).preview := by
    show Telling (Text.line Review.header ++ _)
    exact hheader.append.append
  exact hpreview.append.append

theorem Answer.telling_ofSource (source : Text) : Telling (Answer.ofSource source) := by
  have hhead : Telling "Here's your Mermaid flowchart code:\n\n```mermaid\n" :=
    ⟨'H', rfl, by decide⟩
  exact hhead.append.append

theorem Answer.telling_ofQuotation (quotation : Quotation) :
    Telling (Answer.ofQuotation quotation) := by
  have hhead : Telling "Converted description:\n" := ⟨'C', rfl, by decide⟩
  exact hhead.append.append.append

/-! ## The served tools -/

/-- Each served tool takes the description out of the arguments and turns it into a
telling text. -/
theorem Tool.works_of_mem_full {tool : Tool} (h : tool ∈ ToolSet.full.tools) :
    ∃ present : Text → Text, (∀ d, Telling (present d)) ∧
      ∀ arguments, tool.handler arguments = (Tool.descriptionOf arguments).map present := by
  simp only [ToolSet.tools, List.mem_cons, List.not_mem_nil, or_false] at h
  rcases h with rfl | rfl | rfl
  · refine ⟨fun d => Answer.ofReview (Review.ofDescription d), ?_, fun _ => rfl⟩
    exact Answer.telling_ofReview
  · refine ⟨fun d => Answer.ofSource (Chart.source d), ?_, fun _ => rfl⟩
    exact fun d => Answer.telling_ofSource (Chart.source d)
  · refine ⟨fun d => Answer.ofQuotation (Quotation.normalize d), ?_, fun _ => rfl⟩
    exact fun d => Answer.telling_ofQuotation (Quotation.normalize d)

namespace Tool

variable {tool : Tool} {members : List (LooseText × Json.Value)}

/-- A tool gets an object as it is: the empty object stands for itself. -/
theorem given_object (members : List (LooseText × Json.Value)) :
    given (.object members) = .object members := by
  cases members <;> rfl

theorem descriptionOf_text {t : LooseText}
    (h : Json.Value.find? argumentName members = some (.text t)) :
    descriptionOf (.object members) = .ok t.toText := by
  rw [descriptionOf, h]

theorem descriptionOf_missing (h : Json.Value.find? argumentName members = none) :
    descriptionOf (.object members) = .error .missingArgument := by
  rw [descriptionOf, h]

theorem descriptionOf_other {value : Json.Value}
    (h : Json.Value.find? argumentName members = some value) (hother : ∀ t, value ≠ .text t) :
    descriptionOf (.object members) = .error (.argumentKind value.kind) := by
  rw [descriptionOf, h]
  cases value with
  | text t => exact absurd rfl (hother t)
  | _ => rfl

end Tool

/-! ## A call over a protocol and a call in the same process -/

namespace Server

variable {server : Server} {protocol : Protocol} {name : Text} {arguments : Json.Value}
  {tool : Tool}

/-- Arguments are checked only for a tool that is there. -/
theorem call_of_not_mem (h : name ∉ server.dispatcher.names) :
    server.call protocol name arguments =
      (.result false ("❌ **Invalid Request**\n\n" ++ ("Unknown tool: " ++ name)), []) := by
  rw [call, Dispatcher.find?_eq_none_iff.mpr h, Option.bind_none, Dispatcher.call_of_not_mem h]

/-- Arguments that are objected to do not come to the tool. -/
theorem call_of_objection {objection : Text} (hmem : tool ∈ server.dispatcher.tools)
    (h : protocol.objection? tool.inputSchema arguments = some objection) :
    server.call protocol tool.name arguments = (.result true objection, []) := by
  rw [call, Dispatcher.find?_eq_some_iff.mpr ⟨hmem, rfl⟩, Option.bind_some, h]

theorem call_of_accepted (hmem : tool ∈ server.dispatcher.tools)
    (h : protocol.objection? tool.inputSchema arguments = none) :
    server.call protocol tool.name arguments =
      (.result false (tool.call arguments).text, (tool.call arguments).log) := by
  rw [call, Dispatcher.find?_eq_some_iff.mpr ⟨hmem, rfl⟩, Option.bind_some, h,
    Dispatcher.call_of_mem hmem]

end Server

namespace Remote

variable {protocol : Protocol} {environment : Environment} {action text : Text}
  {arguments : Json.Value} {members : List (LooseText × Json.Value)} {log : Log} {tool : Tool}

/-- A text that is not empty gets through the contents of an answer. -/
theorem answerText_contentOf (h : text ≠ []) : answerText [contentOf text] = text := by
  have hcontent : contentText? (contentOf text) = some text := by
    cases text with
    | nil => exact absurd rfl h
    | cons c rest =>
      have hdisplay : (Json.Value.text (LooseText.ofText (c :: rest))).display = c :: rest :=
        LooseText.toText_ofText _
      exact congrArg some hdisplay
  rw [answerText, texts, List.filterMap_cons_some hcontent]
  cases text with
  | nil => exact absurd rfl h
  | cons c rest => simp [List.intercalate]

theorem session_eq {isError : Bool}
    (h : (server environment).call protocol action (.object members) = (.result isError text, log))
    (hne : text ≠ []) :
    session protocol environment action (.object members) =
      ⟨text, (server environment).starting :: log⟩ := by
  have hanswer : (server environment).answer protocol (.call action (.object members)) =
      (.result isError text, log) := h
  rw [session, hanswer]
  simp only [contents, answerText_contentOf hne]

theorem direct_eq (h : (Server.dispatcherOf .full).call action arguments = ⟨text, log⟩)
    (hne : text ≠ []) : direct action arguments = ⟨text, log⟩ := by
  rw [direct, h, answerText_contentOf hne]

/-- The four kinds of calls: no tool has the name, or one has, and its description is
a text, is not there, or is something else. -/
theorem call_cases (action : Text) (members : List (LooseText × Json.Value)) :
    (∀ tool ∈ ToolSet.full.tools, tool.name ≠ action) ∨
      ∃ tool ∈ ToolSet.full.tools, tool.name = action ∧
        ((∃ t, Json.Value.find? Tool.argumentName members = some (.text t)) ∨
          Json.Value.find? Tool.argumentName members = none ∨
          ∃ value, Json.Value.find? Tool.argumentName members = some value ∧
            ∀ t, value ≠ .text t) := by
  by_cases habsent : ∀ tool ∈ ToolSet.full.tools, tool.name ≠ action
  · exact Or.inl habsent
  · right
    push Not at habsent
    rcases habsent with ⟨tool, hmem, hnamed⟩
    refine ⟨tool, hmem, hnamed, ?_⟩
    cases hfind : Json.Value.find? Tool.argumentName members with
    | none => exact Or.inr (Or.inl rfl)
    | some value =>
      cases value with
      | text t => exact Or.inl ⟨t, rfl⟩
      | _ => exact Or.inr (Or.inr ⟨_, rfl, by simp⟩)

/-- Both paths give the notice of the dispatcher. -/
theorem paths_unknown (protocol : Protocol) (environment : Environment)
    (members : List (LooseText × Json.Value))
    (habsent : ∀ tool ∈ ToolSet.full.tools, tool.name ≠ action) :
    session protocol environment action (.object members) =
        ⟨"❌ **Invalid Request**\n\n" ++ ("Unknown tool: " ++ action),
          [(server environment).starting]⟩ ∧
      direct action (.object members) =
        ⟨"❌ **Invalid Request**\n\n" ++ ("Unknown tool: " ++ action), []⟩ := by
  have hnames : action ∉ (Server.dispatcherOf .full).names := by
    intro hname
    rcases List.mem_map.mp hname with ⟨tool, hmem, hnamed⟩
    exact habsent tool hmem hnamed
  have hne : "❌ **Invalid Request**\n\n" ++ ("Unknown tool: " ++ action) ≠ ([] : Text) :=
    (Answer.telling_invalidRequest (.unknownTool action)).ne_nil
  constructor
  · exact session_eq (Server.call_of_not_mem hnames) hne
  · exact direct_eq (Dispatcher.call_of_not_mem hnames) hne

/-- Both checks accept a text, and both paths give what the tool makes of it. -/
theorem paths_described (hprotocol : protocol.Validates) (environment : Environment)
    (hmem : tool ∈ ToolSet.full.tools) {present : Text → Text} (htelling : ∀ d, Telling (present d))
    (hworks : ∀ arguments, tool.handler arguments = (Tool.descriptionOf arguments).map present)
    {t : LooseText} (ht : Json.Value.find? Tool.argumentName members = some (.text t)) :
    tool.handler (.object members) = .ok (present t.toText) ∧
      session protocol environment tool.name (.object members) =
        ⟨present t.toText, [(server environment).starting, .calling tool.name]⟩ ∧
      direct tool.name (.object members) = ⟨present t.toText, [.calling tool.name]⟩ := by
  have houtcome : tool.handler (.object members) = .ok (present t.toText) := by
    rw [hworks, Tool.descriptionOf_text ht]
    rfl
  have hcall : tool.call (.object members) = ⟨present t.toText, [.calling tool.name]⟩ := by
    apply Tool.call_of_ok
    rw [Tool.given_object]
    exact houtcome
  have hserver : (server environment).call protocol tool.name (.object members) =
      (.result false (present t.toText), [.calling tool.name]) := by
    have hserved : tool ∈ (server environment).dispatcher.tools := hmem
    rw [Server.call_of_accepted hserved (hprotocol.objection?_text hmem ht), hcall]
  have hdirect : (Server.dispatcherOf .full).call tool.name (.object members) =
      ⟨present t.toText, [.calling tool.name]⟩ := by
    rw [Dispatcher.call_of_mem hmem, hcall]
  have hne : present t.toText ≠ [] := (htelling t.toText).ne_nil
  exact ⟨houtcome, session_eq hserver hne, direct_eq hdirect hne⟩

/-- Both checks object: the server before it calls the tool, the tool before it works
on a description. -/
theorem paths_rejected (environment : Environment) (hmem : tool ∈ ToolSet.full.tools)
    {objection : Text} {fault : Fault}
    (hobjection : protocol.objection? tool.inputSchema (.object members) = some objection)
    (htelling : Telling objection)
    (hfault : Tool.descriptionOf (.object members) = .error fault)
    (hblame : fault.kind.blamesRequest = true) :
    session protocol environment tool.name (.object members) =
        ⟨objection, [(server environment).starting]⟩ ∧
      tool.handler (.object members) = .error fault ∧
      direct tool.name (.object members) =
        ⟨"❌ **Invalid Request**\n\n" ++ fault.text, [.calling tool.name]⟩ := by
  rcases Tool.works_of_mem_full hmem with ⟨present, _, hworks⟩
  have houtcome : tool.handler (.object members) = .error fault := by
    rw [hworks, hfault]
    rfl
  have hsession : session protocol environment tool.name (.object members) =
      ⟨objection, [(server environment).starting]⟩ :=
    session_eq (Server.call_of_objection hmem hobjection) htelling.ne_nil
  have hcall : tool.call (.object members) =
      ⟨Answer.invalidRequest fault, [.calling tool.name]⟩ := by
    refine Tool.call_of_blame ?_ hblame
    rw [Tool.given_object]
    exact houtcome
  have hdirect : (Server.dispatcherOf .full).call tool.name (.object members) =
      ⟨Answer.invalidRequest fault, [.calling tool.name]⟩ := by
    rw [Dispatcher.call_of_mem hmem, hcall]
  exact ⟨hsession, houtcome, direct_eq hdirect (Answer.telling_invalidRequest fault).ne_nil⟩

theorem telling_missing :
    Telling "Input validation error: 'description' is a required property" :=
  ⟨'I', rfl, by decide⟩

theorem paths_missing (hprotocol : protocol.Validates) (environment : Environment)
    (hmem : tool ∈ ToolSet.full.tools)
    (hmissing : Json.Value.find? Tool.argumentName members = none) :
    session protocol environment tool.name (.object members) =
        ⟨"Input validation error: 'description' is a required property",
          [(server environment).starting]⟩ ∧
      tool.handler (.object members) = .error .missingArgument ∧
      direct tool.name (.object members) =
        ⟨"❌ **Invalid Request**\n\nMissing required argument: description",
          [.calling tool.name]⟩ := by
  have hwording : "❌ **Invalid Request**\n\n" ++ Fault.missingArgument.text =
      ("❌ **Invalid Request**\n\nMissing required argument: description" : Text) := by decide
  rw [← hwording]
  exact paths_rejected environment hmem (hprotocol.objection?_missing hmem hmissing)
    telling_missing (Tool.descriptionOf_missing hmissing) rfl

theorem telling_mistyped (value : Json.Value) :
    Telling ("Input validation error: " ++ value.literal ++ " is not of type 'string'") := by
  have hbegin : Telling "Input validation error: " := ⟨'I', rfl, by decide⟩
  exact hbegin.append.append

theorem paths_mistyped (hprotocol : protocol.Validates) (environment : Environment)
    (hmem : tool ∈ ToolSet.full.tools) {value : Json.Value}
    (hvalue : Json.Value.find? Tool.argumentName members = some value)
    (hother : ∀ t, value ≠ .text t) :
    session protocol environment tool.name (.object members) =
        ⟨"Input validation error: " ++ value.literal ++ " is not of type 'string'",
          [(server environment).starting]⟩ ∧
      tool.handler (.object members) = .error (.argumentKind value.kind) ∧
      direct tool.name (.object members) =
        ⟨"❌ **Invalid Request**\n\n" ++
            ("Argument 'description' must be a string, got " ++ value.kind.name),
          [.calling tool.name]⟩ := by
  exact paths_rejected environment hmem (hprotocol.objection?_other hmem hvalue hother)
    (telling_mistyped value) (Tool.descriptionOf_other hvalue hother) rfl

/-- No answer of either path is the notice for no text. -/
theorem telling_paths (hprotocol : protocol.Validates) (environment : Environment) (action : Text)
    (members : List (LooseText × Json.Value)) :
    Telling (session protocol environment action (.object members)).text ∧
      Telling (direct action (.object members)).text := by
  rcases call_cases action members with
    habsent | ⟨tool, hmem, rfl, ⟨t, ht⟩ | hmissing | ⟨value, hvalue, hother⟩⟩
  · rcases paths_unknown protocol environment members habsent with ⟨hsession, hdirect⟩
    rw [hsession, hdirect]
    have hnotice : Telling (Answer.invalidRequest (.unknownTool action)) :=
      Answer.telling_invalidRequest (.unknownTool action)
    exact ⟨hnotice, hnotice⟩
  · rcases Tool.works_of_mem_full hmem with ⟨present, htelling, hworks⟩
    rcases paths_described hprotocol environment hmem htelling hworks ht with
      ⟨_, hsession, hdirect⟩
    rw [hsession, hdirect]
    exact ⟨htelling t.toText, htelling t.toText⟩
  · rcases paths_missing hprotocol environment hmem hmissing with ⟨hsession, _, hdirect⟩
    rw [hsession, hdirect]
    exact ⟨telling_missing, ⟨'❌', rfl, by decide⟩⟩
  · rcases paths_mistyped hprotocol environment hmem hvalue hother with ⟨hsession, _, hdirect⟩
    rw [hsession, hdirect]
    exact ⟨telling_mistyped value, Answer.telling_invalidRequest (.argumentKind value.kind)⟩

/-! ## The fallback -/

/-- The dispatcher alone answers: no tool has the name, or the description is a text,
which the tool gets on both paths. -/
def Answerable (action : Text) (members : List (LooseText × Json.Value)) : Prop :=
  (∀ tool ∈ ToolSet.full.tools, tool.name ≠ action) ∨
    ∃ t, Json.Value.find? Tool.argumentName members = some (.text t)

/-- What depends on the name and on the description only is the same for other
members with the same description. -/
theorem text_session_eq_text_direct (hprotocol : protocol.Validates) (environment : Environment)
    {others : List (LooseText × Json.Value)} (h : Answerable action members)
    (hothers : ∀ t, Json.Value.find? Tool.argumentName members = some (.text t) →
      Json.Value.find? Tool.argumentName others = some (.text t)) :
    (session protocol environment action (.object others)).text =
      (direct action (.object members)).text := by
  by_cases habsent : ∀ tool ∈ ToolSet.full.tools, tool.name ≠ action
  · -- the notice of the dispatcher does not look at the members
    have hsession := (paths_unknown protocol environment others habsent).1
    have hdirect := (paths_unknown protocol environment members habsent).2
    rw [hsession, hdirect]
  · rcases h.resolve_left habsent with ⟨t, ht⟩
    push Not at habsent
    rcases habsent with ⟨tool, hmem, rfl⟩
    rcases Tool.works_of_mem_full hmem with ⟨present, htelling, hworks⟩
    have hsession :=
      (paths_described hprotocol environment hmem htelling hworks (hothers t ht)).2.1
    have hdirect := (paths_described hprotocol environment hmem htelling hworks ht).2.2
    rw [hsession, hdirect]

/-- The members of an object that is handed over are answered as they arrive. -/
theorem callWith_of_accepts {arrived : List (LooseText × Json.Value)}
    (haccepted : protocol.accepts (.object members) = true)
    (harrived : protocol.arriving (.object members) = .object arrived) :
    callWith environment (.over protocol) action (.object members) =
      session protocol environment action (.object arrived) := by
  have hsend : protocol.send? (.object members) = some (.object arrived) := by
    rw [Protocol.send?, if_pos haccepted, harrived]
  rw [callWith, exchange, hsend]

theorem text_callWith_of_error {link : Link} {fault : LinkFault}
    (h : exchange environment link action arguments = .error (fault, log)) :
    (callWith environment link action arguments).text =
      "[fallback: MCP failed with " ++ fault.kind ++ "]\n\n" ++ (direct action arguments).text := by
  rw [callWith, h]
  rfl

/-- A call that fails is answered with a note first. -/
theorem telling_callWith_of_error {link : Link} {fault : LinkFault}
    (h : exchange environment link action arguments = .error (fault, log)) :
    Telling (callWith environment link action arguments).text := by
  have hbegin : Telling "[fallback: MCP failed with " := ⟨'[', rfl, by decide⟩
  rw [text_callWith_of_error h]
  exact hbegin.append.append.append

/-- Whether the protocol hands the arguments over or not, the answer is not the notice
for no text. -/
theorem telling_callWith (hprotocol : protocol.Validates) (hcarries : protocol.CarriesTexts)
    (environment : Environment) (action : Text) (members : List (LooseText × Json.Value)) :
    Telling (callWith environment (.over protocol) action (.object members)).text := by
  by_cases haccepted : protocol.accepts (.object members) = true
  · rcases hcarries.arrives haccepted with ⟨arrived, harrived, -⟩
    rw [callWith_of_accepts haccepted harrived]
    exact (telling_paths hprotocol environment action arrived).1
  · have hrefused : protocol.send? (.object members) = none := if_neg haccepted
    have herror : exchange environment (.over protocol) action (.object members) =
        .error (protocol.refusal, [(server environment).starting]) := by
      rw [exchange, hrefused]
    exact telling_callWith_of_error herror

/-! ## Agreement -/

/-- What the server and the fallback answer to a call of `action` with the members of
an object, and how the fallback is told apart. -/
structure PathsAgree (protocol : Protocol) (environment : Environment) (action : Text)
    (members : List (LooseText × Json.Value)) : Prop where
  /-- A served tool first takes the description out and then works on it. -/
  works : ∀ tool ∈ ToolSet.full.tools, ∃ present : Text → Text,
    ∀ arguments, tool.handler arguments = (Tool.descriptionOf arguments).map present
  /-- No tool has the name. Both paths give the notice of the dispatcher. -/
  unknown : (∀ tool ∈ ToolSet.full.tools, tool.name ≠ action) →
    session protocol environment action (.object members) =
        ⟨"❌ **Invalid Request**\n\n" ++ ("Unknown tool: " ++ action),
          [(server environment).starting]⟩ ∧
      direct action (.object members) =
        ⟨"❌ **Invalid Request**\n\n" ++ ("Unknown tool: " ++ action), []⟩
  /-- The description is a text. Both paths give what the tool returns. -/
  described : ∀ tool ∈ ToolSet.full.tools, tool.name = action →
    ∀ t, Json.Value.find? Tool.argumentName members = some (.text t) →
      ∃ answer, tool.handler (.object members) = .ok answer ∧
        session protocol environment action (.object members) =
          ⟨answer, [(server environment).starting, .calling action]⟩ ∧
        direct action (.object members) = ⟨answer, [.calling action]⟩
  /-- There is no description. The server does not call the tool, and the tool fails
  before it works on anything. -/
  missing : ∀ tool ∈ ToolSet.full.tools, tool.name = action →
    Json.Value.find? Tool.argumentName members = none →
      Tool.descriptionOf (.object members) = .error .missingArgument ∧
        tool.handler (.object members) = .error .missingArgument ∧
        session protocol environment action (.object members) =
          ⟨"Input validation error: 'description' is a required property",
            [(server environment).starting]⟩ ∧
        direct action (.object members) =
          ⟨"❌ **Invalid Request**\n\nMissing required argument: description",
            [.calling action]⟩
  /-- The description is no text. It is refused in the same way. -/
  mistyped : ∀ tool ∈ ToolSet.full.tools, tool.name = action →
    ∀ value, Json.Value.find? Tool.argumentName members = some value →
      (∀ t, value ≠ .text t) →
        Tool.descriptionOf (.object members) = .error (.argumentKind value.kind) ∧
          tool.handler (.object members) = .error (.argumentKind value.kind) ∧
          session protocol environment action (.object members) =
            ⟨"Input validation error: " ++ value.literal ++ " is not of type 'string'",
              [(server environment).starting]⟩ ∧
          direct action (.object members) =
            ⟨"❌ **Invalid Request**\n\n" ++
                ("Argument 'description' must be a string, got " ++ value.kind.name),
              [.calling action]⟩
  /-- Unless the description is refused, the answer over a connection is that of the
  server to the members as they were given. -/
  reached : Answerable action members → protocol.accepts (.object members) = true →
    (callWith environment (.over protocol) action (.object members)).text =
      (session protocol environment action (.object members)).text
  /-- Unless the description is refused, the fallback names the failure of the
  connection and then gives the text that the server would have given. -/
  fallback : Answerable action members → ∀ link fault log,
    exchange environment link action (.object members) = .error (fault, log) →
      (callWith environment link action (.object members)).text =
        "[fallback: MCP failed with " ++ fault.kind ++ "]\n\n" ++
          (session protocol environment action (.object members)).text
  /-- No answer is the notice for no text. -/
  telling : (session protocol environment action (.object members)).text ≠ "(no text response)" ∧
    (direct action (.object members)).text ≠ "(no text response)" ∧
    (callWith environment (.over protocol) action (.object members)).text ≠
      "(no text response)" ∧
    ∀ fault served, (callWith environment (.broken fault served) action (.object members)).text ≠
      "(no text response)"

/-- The server and the fallback agree on every action and every object of arguments,
whatever the protocol, as long as it validates arguments and carries their texts. -/
theorem paths_agree (hprotocol : protocol.Validates) (hcarries : protocol.CarriesTexts)
    (environment : Environment) (action : Text) (members : List (LooseText × Json.Value)) :
    PathsAgree protocol environment action members where
  works := by
    intro tool hmem
    rcases Tool.works_of_mem_full hmem with ⟨present, _, hworks⟩
    exact ⟨present, hworks⟩
  unknown := paths_unknown protocol environment members
  described := by
    rintro tool hmem rfl t ht
    rcases Tool.works_of_mem_full hmem with ⟨present, htelling, hworks⟩
    exact ⟨present t.toText, paths_described hprotocol environment hmem htelling hworks ht⟩
  missing := by
    rintro tool hmem rfl hmissing
    rcases paths_missing hprotocol environment hmem hmissing with ⟨hsession, houtcome, hdirect⟩
    exact ⟨Tool.descriptionOf_missing hmissing, houtcome, hsession, hdirect⟩
  mistyped := by
    rintro tool hmem rfl value hvalue hother
    rcases paths_mistyped hprotocol environment hmem hvalue hother with
      ⟨hsession, houtcome, hdirect⟩
    exact ⟨Tool.descriptionOf_other hvalue hother, houtcome, hsession, hdirect⟩
  reached := by
    intro hanswerable haccepted
    -- the members that arrive and those that were given get the same direct answer
    rcases hcarries.arrives haccepted with ⟨arrived, harrived, htexts⟩
    rw [callWith_of_accepts haccepted harrived,
      text_session_eq_text_direct hprotocol environment hanswerable (htexts Tool.argumentName),
      text_session_eq_text_direct hprotocol environment hanswerable fun _ ht => ht]
  fallback := by
    intro hanswerable link fault log hfailed
    rw [text_callWith_of_error hfailed,
      text_session_eq_text_direct hprotocol environment hanswerable fun _ ht => ht]
  telling := by
    rcases telling_paths hprotocol environment action members with ⟨hsession, hdirect⟩
    refine ⟨hsession.ne_notice, hdirect.ne_notice, ?_, ?_⟩
    · exact (telling_callWith hprotocol hcarries environment action members).ne_notice
    · intro fault served
      exact (telling_callWith_of_error rfl).ne_notice

/-- A number for the description, with another member beside it, is refused on both
paths. -/
theorem paths_agree_numbered :
    Protocol.standard.Validates ∧ Protocol.standard.CarriesTexts ∧
      (session .standard [] "generate-flowchart"
          (.object [("depth", .null), ("description", .integer 7)])).text =
        "Input validation error: 7 is not of type 'string'" ∧
      (direct "generate-flowchart"
          (.object [("depth", .null), ("description", .integer 7)])).text =
        "❌ **Invalid Request**\n\nArgument 'description' must be a string, got int" := by
  have hmem : Tool.generate ∈ ToolSet.full.tools := by simp [ToolSet.tools]
  have hagree : PathsAgree .standard [] Tool.generate.name
      [("depth", .null), ("description", .integer 7)] :=
    paths_agree Protocol.validates_standard Protocol.carriesTexts_standard [] _ _
  have hfound : Json.Value.find? Tool.argumentName
      [("depth", .null), ("description", .integer 7)] = some (.integer 7) := rfl
  have hother : ∀ t, Json.Value.integer 7 ≠ .text t := by
    intro t h
    cases h
  rcases hagree.mistyped Tool.generate hmem rfl _ hfound hother with ⟨-, -, hsession, hdirect⟩
  refine ⟨Protocol.validates_standard, Protocol.carriesTexts_standard, ?_, ?_⟩
  · exact (congrArg Reply.text hsession).trans (by decide)
  · exact (congrArg Reply.text hdirect).trans (by decide)

end Remote

end ProseChart
