import ProseChart.Schema
import ProseChart.Wire

/-!
# ProseChart.Protocol — what carries the calls

Clients and servers leave it to a protocol to carry their calls. It is not part of this
library, so whatever uses it takes it as a parameter: the client's side hands arguments
over or refuses them, and the server's side checks them against the schema of the tool
that is called.

* `Protocol` — a protocol, by what it does with the arguments of a call.
* `Protocol.send?` — the arguments as they arrive, none when they are refused.
* `Protocol.standard` — the protocol that programs run over.
-/

namespace ProseChart

/-- How a connection fails: the name of the failure and its wording. -/
structure LinkFault where
  kind : Text
  text : Text
deriving DecidableEq, Repr

/-- What carries the calls of a client to a server. -/
structure Protocol where
  /-- Whether the client hands the arguments of a call over. -/
  accepts : (arguments : Json.Value) → Bool
  /-- The arguments of a call as they arrive at the server. -/
  arriving : (arguments : Json.Value) → Json.Value
  /-- How the connection fails when the client refuses arguments. -/
  refusal : LinkFault
  /-- What the server's side objects to in the arguments of a call, by the schema of the
  tool that is called. -/
  objection? : (schema arguments : Json.Value) → Option Text

namespace Protocol

/-- The arguments of a call as they arrive at the server, if the client sends them. -/
def send? (protocol : Protocol) (arguments : Json.Value) : Option Json.Value :=
  if protocol.accepts arguments then some (protocol.arriving arguments) else none

/-- The protocol that programs run over. It objects to the first violation of a schema. -/
def standard : Protocol where
  accepts := Wire.accepts
  arriving := Wire.arriving
  refusal := ⟨"ExceptionGroup", "unhandled errors in a TaskGroup (1 sub-exception)"⟩
  objection? schema arguments :=
    (Schema.complaints schema arguments).head?.map fun complaint =>
      "Input validation error: " ++ complaint

end Protocol

end ProseChart
