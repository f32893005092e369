import ProseChart.Json.Reader
import ProseChart.Server

/-!
# ProseChart.Assistant.Remote — calling tools over a connection

An assistant can reach the tools through a server that is started for the call.
When the connection fails, the call is answered in the same process by a
dispatcher over the same tools, and the answer says so.

* `Link` — the connection: to a server that can be started, or one that breaks.
* `Remote.session` — the answer of the server, once the arguments have arrived.
* `Remote.exchange` — the call over the connection, or why it fails.
* `Remote.direct` — the call in the same process.
* `Remote.call` — arguments as JSON text, read within `Remote.bounds`; the
  connection first, then the fallback.
-/

namespace ProseChart

/-- The connection to the server. -/
inductive Link where
  /-- The server's program can be started, and calls go over a protocol. -/
  | over (protocol : Protocol)
  /-- The connection breaks before the answer: the failure, and what was logged
  before it. -/
  | broken (fault : LinkFault) (served : Log)

namespace Link

/-- The connection over the standard protocol. -/
def reachable : Link := .over .standard

/-- The connection to a program that is not there. -/
def absent (program : Text) : Link :=
  .broken ⟨"FileNotFoundError", "[Errno 2] No such file or directory: " ++ program.literal⟩ []

end Link

namespace Remote

/-! ## Contents of an answer -/

/-- A text as a content item. -/
def contentOf (t : Text) : Json.Value := .object [("type", .text "text"), ("text", .text t)]

/-- The text of a content item: items of another type have none, nor have those
whose text does not count as given. -/
def contentText? (item : Json.Value) : Option Text :=
  match item.get? "type", item.get? "text" with
  | some (.text type), some text =>
    if type = "text" ∧ text.isTruthy then some text.display else none
  | _, _ => none

/-- The texts of content items, in order. -/
def texts (items : List Json.Value) : List Text := items.filterMap contentText?

/-- The texts of an answer, one below the other. -/
def answerText (items : List Json.Value) : Text :=
  match List.intercalate ['\n'] (texts items) with
  | [] => "(no text response)"
  | c :: rest => c :: rest

/-- The content items of a response. -/
def contents : Response → List Json.Value
  | .listing tools => tools
  | .result _ text => [contentOf text]

/-! ## Calls -/

/-- The server that is started for a call; it has all tools. -/
def server (environment : Environment) : Server :=
  Server.ofSettings (Settings.withToolSet environment .full)

/-- The answer of the server to arguments that arrive over a protocol. -/
def session (protocol : Protocol) (environment : Environment) (action : Text)
    (arguments : Json.Value) : Reply :=
  let server := server environment
  let (response, log) := server.answer protocol (.call action arguments)
  ⟨answerText (contents response), server.starting :: log⟩

/-- A call over the connection: the answer with the log, or the failure with
what was logged before it. -/
def exchange (environment : Environment) (link : Link) (action : Text) (arguments : Json.Value) :
    Except (LinkFault × Log) Reply :=
  match link with
  | .broken fault served => .error (fault, served)
  | .over protocol =>
    match protocol.send? arguments with
    | some arriving => .ok (session protocol environment action arriving)
    | none => .error (protocol.refusal, [(server environment).starting])

/-- A call in the same process. -/
def direct (action : Text) (arguments : Json.Value) : Reply :=
  let reply := (Server.dispatcherOf .full).call action arguments
  ⟨answerText [contentOf reply.text], reply.log⟩

/-- The line above an answer that did not come over the connection. -/
def fallbackNote (fault : LinkFault) : Text :=
  "[fallback: MCP failed with " ++ fault.kind ++ "]\n\n"

/-- A call over the connection, or in the same process when that fails. -/
def callWith (environment : Environment) (link : Link) (action : Text) (arguments : Json.Value) :
    Reply :=
  match exchange environment link action arguments with
  | .ok reply => reply
  | .error (fault, log) =>
    let reply := direct action arguments
    ⟨fallbackNote fault ++ reply.text, log ++ .fallback fault.text :: reply.log⟩

/-- How large the arguments of a call may be. Reading takes one frame for each level of
a value. There are 1000 frames, and 14 are in use where the reader is called: nine by
the tool and the reader, five by what calls the tool. -/
def bounds : Json.Bounds := { digits := some 4300, nesting := some 986 }

/-- The arguments in a JSON text; the empty text stands for no arguments. -/
def readArguments (written : Text) : Except Json.Fault Json.Value :=
  if written.isEmpty then .ok (.object []) else Json.readWithin bounds written

/-- A call with its arguments as JSON text. A text that is no JSON is answered
with the complaint; arguments beyond the bounds leave the call without an
answer. -/
def call (environment : Environment) (link : Link) (action written : Text) :
    Except Fault Reply :=
  match readArguments written with
  | .ok arguments => .ok (callWith environment link action arguments)
  | .error (.misfit found) =>
    .ok ⟨"Invalid JSON for args_json: " ++ found.message written, []⟩
  | .error (.excess found) => .error (.excess found)

end Remote

end ProseChart
