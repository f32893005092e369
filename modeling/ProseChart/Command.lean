import ProseChart.Command.Forms
import ProseChart.Json.Printer
import ProseChart.Record
import ProseChart.Server

/-!
# ProseChart.Command — the command line

Each command reads a description, from its operand or from standard input, and
writes a result; `serve` starts the server. What a command does is a value, an
`Outcome`, so that running it needs no input or output of its own.

* `Command.parse` — the command that a command line asks for, or what to print
  instead.
* `Command.run` — the outcome of a command.
* `Command.execute` — from the command line to the outcome.
* `Command.startServer` — the same for the server program.
-/

namespace ProseChart

/-- What a program leaves behind: exit code, standard output, standard error. -/
structure Outcome where
  exitCode : Nat := 0
  output : Text := []
  errors : Text := []
deriving DecidableEq, Repr

/-- A command with its arguments. -/
inductive Command where
  | analyze (description : Option Text) (json : Bool)
  | generate (description : Option Text)
  | quotes (description : Option Text) (json : Bool)
  | serve (toolSet : Option Text)
deriving DecidableEq, Repr

namespace Command

open Arguments

/-! ## From words to a command -/

/-- The outcome of a command line that is no command: help goes to standard
output, a problem with exit code 2 to standard error. -/
def refusal (form : Form) : Stop → Outcome
  | .help => { output := form.help }
  | .problem problem => { exitCode := 2, errors := form.report problem }

/-- The command of a name and its parsed arguments. -/
def ofParsed (name : Name) (parsed : Parsed) : Command :=
  match name with
  | .analyze => .analyze parsed.operand (parsed.has jsonFlag.long)
  | .generate => .generate parsed.operand
  | .quotes => .quotes parsed.operand (parsed.has jsonFlag.long)
  | .serve => .serve (parsed.valueOf toolSetFlag.long)

/-- The command of a word, with the words for it. -/
def named? (given : Text × List Text) : Option (Name × List Text) :=
  (Name.ofWord? given.1).map fun name => (name, given.2)

/-- The command that a command line asks for. Words that are left over, before
the command or after it, are refused with the usage of the whole program. -/
def parse (argv : List Text) : Except Outcome Command :=
  match mainForm.parse argv with
  | .error stop => .error (refusal mainForm stop)
  | .ok outer =>
    match outer.command.bind named? with
    | none => .error (refusal mainForm (.problem (.required commandTitle)))
    | some (name, words) =>
      match (formOf name).parse words with
      | .error stop => .error (refusal (formOf name) stop)
      | .ok inner =>
        match outer.leftOver ++ inner.leftOver with
        | [] => .ok (ofParsed name inner)
        | leftOver => .error (refusal mainForm (.problem (.unrecognized leftOver)))

/-! ## Running a command -/

/-- The description: the operand, or what standard input holds when the operand
is left out or a dash. -/
def descriptionFrom (operand : Option Text) (input : Text) : Text :=
  match operand with
  | none => input.unifyLineEnds
  | some given => if given = "-" then input.unifyLineEnds else given

/-- Whether a command needs the text of standard input. -/
def readsInput : Command → Bool
  | .analyze operand _ | .generate operand | .quotes operand _ =>
    operand.isNone || operand == some "-".toList
  | .serve _ => false

/-- A JSON record as a program prints it. -/
def printedRecord (record : Json.Value) : Text := Text.line (record.print .indented)

/-- A review as a program prints it. -/
def printedReview (review : Review) : Text :=
  review.preview.line ++
    if review.isComplete then Text.line "Description looks complete."
    else Text.unlines ("Missing:" :: review.missing.map Answer.bullet)

/-- The box that greets whoever starts the server by hand. -/
def banner : Text :=
  Text.unlines
    ["",
      "┌───────────────────────────────────────────┐",
      "│           Mermaid MCP Server              │",
      "│                                           │",
      "│  A Mermaid flowchart generator for agents │",
      "└───────────────────────────────────────────┘",
      ""]

/-- Runs a command with the text of standard input. A server that is started
here finds its input at the end. -/
def run (environment : Environment) (input : Text) : Command → Except Fault Outcome
  | .analyze operand json =>
    let review := Review.ofDescription (descriptionFrom operand input)
    .ok { output := if json then printedRecord review.record else printedReview review }
  | .generate operand => .ok { output := Chart.source (descriptionFrom operand input) }
  | .quotes operand json =>
    let quotation := Quotation.normalize (descriptionFrom operand input)
    .ok
      (if json then { output := printedRecord quotation.record }
      else
        { output := quotation.converted.line
          errors :=
            Text.line ("Removed " ++ Text.ofInt quotation.removed ++ " quote character(s)") })
  | .serve toolSet =>
    (Settings.load environment toolSet).map fun settings =>
      let ended := (Server.ofSettings settings).run .ended
      { exitCode := ended.exitCode, errors := banner ++ ended.log.render }

/-- Runs a command line. -/
def execute (environment : Environment) (input : Text) (argv : List Text) : Except Fault Outcome :=
  match parse argv with
  | .error outcome => .ok outcome
  | .ok command => command.run environment input

/-! ## The server program -/

/-- Runs the command line of the server program: the outcome, and the server
with its responses when a client connected. -/
def startServer (environment : Environment) (transport : Transport) (argv : List Text) :
    Except Fault (Outcome × Option (Server × List Response)) :=
  match serverForm.parse argv with
  | .error stop => .ok (refusal serverForm stop, none)
  | .ok parsed =>
    match parsed.leftOver with
    | [] =>
      (Settings.load environment (parsed.valueOf toolSetFlag.long)).map fun settings =>
        let server := Server.ofSettings settings
        let ran := server.run transport
        ({ exitCode := ran.exitCode, errors := ran.log.render },
          ran.responses.map fun responses => (server, responses))
    | leftOver => .ok (refusal serverForm (.problem (.unrecognized leftOver)), none)

end Command

end ProseChart
