import ProseChart.Protocol
import ProseChart.Settings
import ProseChart.Tool.Dispatcher

/-!
# ProseChart.Server — serving tools to a client

A server announces itself, then answers requests: the list of its tools, or a
call. The arguments of a call to a listed tool are checked against the tool's
schema before the tool is called; a call to any other name goes to the
dispatcher, which answers that there is no such tool.

* `Server.assemble` — the server of a name for a tool set, as a start puts it
  together.
* `Server.ofSettings` — the server of some settings. Its tool set has distinct
  names, so that it always starts.
* `Server.answer` — one request.
* `Server.run` — a whole run over a transport, with exit code and log.
-/

namespace ProseChart

/-- A request of a client. -/
inductive Request where
  | list
  | call (name : Text) (arguments : Json.Value)

/-- A request as it arrives at a server, if the client sends it: a call is refused
when its arguments are. -/
def Request.send? (protocol : Protocol) : Request → Option Request
  | .list => some .list
  | .call name arguments => (protocol.send? arguments).map (.call name)

/-- The response to a request. -/
inductive Response where
  | listing (tools : List Json.Value)
  | result (isError : Bool) (text : Text)

/-- How the connection of a server goes. -/
inductive Transport where
  /-- A client connects and requests arrive over a protocol. In the end the connection
  is closed, or it fails for a reason. -/
  | connected (protocol : Protocol) (requests : List Request) (failure : Option Text)
  /-- The input is at its end. -/
  | ended
  /-- The user interrupts while the connection is opened. -/
  | interrupted
  /-- The connection cannot be opened. -/
  | broken (reason : Text)

/-- The connection of a client that sends requests in turn over the standard protocol.
It fails at the first request that the client refuses to send. -/
def Transport.session (requests : List Request) : Transport :=
  let sent := requests.map (Request.send? .standard)
  .connected .standard (sent.takeWhile Option.isSome).reduceOption
    (if sent.all Option.isSome then none else some Protocol.standard.refusal.text)

/-- A server: its name and version, its tool set by name, and its tools. -/
structure Server where
  name : Text
  version : Text
  toolSet : Text
  dispatcher : Dispatcher

namespace Server

/-- Puts a server together as a start does, from the text that names its tool set: the
set is looked up by its exact name, and its tools are entered one by one. -/
def assemble (name version toolSet : Text) : Except Fault Server := do
  let set ← ToolSet.named toolSet
  let dispatcher ← Dispatcher.ofTools set.tools
  return ⟨name, version, toolSet, dispatcher⟩

/-- The tools of a set have distinct names. -/
theorem nodup_names (set : ToolSet) : (set.tools.map Tool.name).Nodup := by
  cases set <;> decide

/-- The dispatcher of a tool set. -/
def dispatcherOf (set : ToolSet) : Dispatcher := ⟨set.tools, nodup_names set⟩

/-- The server of some settings. -/
def ofSettings (settings : Settings) : Server where
  name := settings.serverName
  version := settings.serverVersion
  toolSet := settings.toolSet.name
  dispatcher := dispatcherOf settings.toolSet

/-- The log entry of the start. -/
def starting (server : Server) : LogEntry :=
  .starting server.name server.toolSet server.dispatcher.names

/-- Calls a tool for a client. Arguments that the protocol objects to, by the schema of
the tool, do not come to the tool. -/
def call (server : Server) (protocol : Protocol) (name : Text) (arguments : Json.Value) :
    Response × Log :=
  let objection? := (server.dispatcher.find? name).bind fun tool =>
    protocol.objection? tool.inputSchema arguments
  match objection? with
  | some objection => (.result true objection, [])
  | none =>
    let reply := server.dispatcher.call name arguments
    (.result false reply.text, reply.log)

/-- Answers a request. -/
def answer (server : Server) (protocol : Protocol) : Request → Response × Log
  | .list => (.listing (server.dispatcher.tools.map Tool.listing), [])
  | .call name arguments => server.call protocol name arguments

/-- The outcome of a run. -/
structure Run where
  exitCode : Nat
  log : Log
  /-- The responses of a session, none when no client connected. -/
  responses : Option (List Response)

/-- Runs a server over a transport. The requests that arrive are answered in turn; a
failure of the connection takes the server down. -/
def run (server : Server) : Transport → Run
  | .connected protocol requests failure =>
    let answers := requests.map (server.answer protocol)
    let served := server.starting :: answers.flatMap Prod.snd
    let responses := some (answers.map Prod.fst)
    match failure with
    | none => ⟨0, served, responses⟩
    | some reason => ⟨1, served ++ [.crashed reason, .trace], responses⟩
  | .ended => ⟨0, [server.starting], none⟩
  | .interrupted => ⟨0, [server.starting, .stopped], none⟩
  | .broken reason => ⟨1, [server.starting, .crashed reason, .trace], none⟩

end Server

end ProseChart
