import ProseChart.Text.Digit
import ProseChart.Text.Literal

/-!
# ProseChart.Arguments — reading a command line

A form says which flags and which operand a command takes. The words of a
command line are first told apart, then consumed from left to right.

* A word that begins with a dash is a flag, except for the dash alone, negative
  numbers and words with a space in them that are no flag of the form. Long flags
  may be shortened as long as one flag only begins that way, and may carry a
  value after an equals sign. After the first `--` every word is an operand.
* Flags that the form does not know and operands that it has no use for are left
  over; the caller decides about them.
* A form with commands hands all words after the command's name on to the
  command.

Main definitions: `Form.words` classifies, `Form.scan` consumes, `Form.parse`
does both; `Problem.message` words what is wrong.
-/

namespace ProseChart.Arguments

/-! ## Forms -/

/-- What a flag does. -/
inductive Effect where
  /-- Shows the help text and ends. -/
  | help
  /-- Switches something on. -/
  | switch
  /-- Takes one of some values. -/
  | choice (values : List Text)
deriving DecidableEq, Repr

/-- A flag: its long name with two dashes, the letter of its short name, if it
has one, and its effect. -/
structure Flag where
  short : Option Char := none
  long : Text
  effect : Effect
deriving DecidableEq, Repr

/-- The name of a flag in messages. -/
def Flag.title (flag : Flag) : Text :=
  match flag.short with
  | some letter => ['-', letter, '/'] ++ flag.long
  | none => flag.long

/-- What a command takes beside its flags. -/
inductive Operand where
  | nothing
  /-- One word, which may be left out. -/
  | optional
  /-- The name of a command, with the words for it. -/
  | command (title : Text) (names : List Text)
deriving DecidableEq, Repr

/-- The form of a command line. -/
structure Form where
  program : Text
  /-- What stands after the program's name in the usage line. -/
  synopsis : Text
  /-- The help text below the usage line. -/
  explanation : Text
  flags : List Flag
  operand : Operand

/-- The flag that asks for help. -/
def helpFlag : Flag := { short := some 'h', long := "--help", effect := .help }

/-- The usage line of a form. -/
def Form.usage (form : Form) : Text :=
  Text.line ("usage: " ++ form.program ++ " " ++ form.synopsis)

/-- The whole help text of a form. -/
def Form.help (form : Form) : Text := form.usage ++ form.explanation

/-! ## Problems -/

/-- What can be wrong with a command line. -/
inductive Problem where
  | ambiguous (given : Text) (candidates : List Text)
  | ignoredValue (title value : Text)
  | missingValue (title : Text)
  | invalidChoice (title value : Text) (choices : List Text)
  | required (title : Text)
  | unrecognized (words : List Text)
deriving DecidableEq, Repr

/-- The wording of a problem. -/
def Problem.message : Problem → Text
  | .ambiguous given candidates =>
    "ambiguous option: " ++ given ++ " could match " ++ List.intercalate ", ".toList candidates
  | .ignoredValue title value =>
    "argument " ++ title ++ ": ignored explicit argument " ++ value.literal
  | .missingValue title => "argument " ++ title ++ ": expected one argument"
  | .invalidChoice title value choices =>
    "argument " ++ title ++ ": invalid choice: " ++ value.literal ++ " (choose from " ++
      List.intercalate ", ".toList (choices.map Text.literal) ++ ")"
  | .required title => "the following arguments are required: " ++ title
  | .unrecognized words => "unrecognized arguments: " ++ List.intercalate [' '] words

/-- The report of a problem: usage line and message. -/
def Form.report (form : Form) (problem : Problem) : Text :=
  form.usage ++ Text.line (form.program ++ ": error: " ++ problem.message)

/-- Why reading ends early. -/
inductive Stop where
  | help
  | problem (problem : Problem)
deriving DecidableEq, Repr

/-! ## Telling words apart -/

/-- The part that a word plays. -/
inductive Role where
  /-- The word stands for itself. -/
  | plain
  /-- The word is the first `--`. -/
  | ending
  /-- The word names a flag, by its letter or its long name, with a value attached. -/
  | flag (flag : Flag) (byLetter : Bool) (attached : Option Text)
  /-- The word looks like a flag and is none of the form. -/
  | unknown
deriving DecidableEq, Repr

/-- A word with its part. -/
structure Word where
  raw : Text
  role : Role
deriving DecidableEq, Repr

/-- A minus sign with digits, or with digits around a point that may lack on its
left; one line feed may follow. -/
def isNegativeNumber (t : Text) : Bool :=
  match t with
  | '-' :: rest =>
    let number := if rest.getLast? = some '\n' then rest.dropLast else rest
    let whole := number.takeWhile Text.isDecimalDigit
    match number.dropWhile Text.isDecimalDigit with
    | [] => !whole.isEmpty
    | point :: places => point == '.' && !places.isEmpty && places.all Text.isDecimalDigit
  | _ => false

/-- A word cut at its first equals sign. -/
def cutAtEquals (t : Text) : Text × Option Text :=
  match t.dropWhile (· != '=') with
  | [] => (t, none)
  | _ :: value => (t.takeWhile (· != '='), some value)

/-- The part of a word that is exactly a flag's name. -/
def spelledOut? (flags : List Flag) (name : Text) (attached : Option Text) : Option Role :=
  flags.findSome? fun flag =>
    if name = flag.long then some (.flag flag false attached)
    else if flag.short.map (fun letter => ['-', letter]) = some name then
      some (.flag flag true attached)
    else none

/-- The flags that a word may mean without naming them exactly: those whose long
name it begins, or the one whose letter it begins with. -/
def candidates (flags : List Flag) (t : Text) : List (Flag × Role) :=
  match t with
  | '-' :: '-' :: _ =>
    let (name, attached) := cutAtEquals t
    (flags.filter fun flag => name.isPrefixOf flag.long).map fun flag =>
      (flag, .flag flag false attached)
  | '-' :: letter :: rest =>
    (flags.filter fun flag => flag.short == some letter).map fun flag =>
      (flag, .flag flag true (some rest))
  | _ => []

/-- The part of a word before the first `--`. -/
def role (flags : List Flag) (t : Text) : Except Problem Role :=
  match t with
  | '-' :: _ :: _ =>
    let (name, attached) := cutAtEquals t
    match (spelledOut? flags t none).or (if attached.isSome then spelledOut? flags name attached else none)
    with
    | some found => .ok found
    | none =>
      match candidates flags t with
      | [(_, found)] => .ok found
      | [] => .ok (if isNegativeNumber t || t.contains ' ' then .plain else .unknown)
      | several => .error (.ambiguous t (several.map fun entry => entry.1.long))
  | _ => .ok .plain

/-- The words of a command line with their parts. -/
def Form.words (form : Form) : List Text → Except Problem (List Word)
  | [] => .ok []
  | t :: rest =>
    if t = "--" then .ok (⟨t, .ending⟩ :: rest.map fun operand => ⟨operand, .plain⟩)
    else
      match role form.flags t with
      | .error problem => .error problem
      | .ok found => (form.words rest).map fun others => ⟨t, found⟩ :: others

/-! ## Consuming words -/

/-- What a command line says. -/
structure Parsed where
  /-- The flags with their values, in the order of the words. -/
  flags : List (Text × Option Text) := []
  /-- The operand; `taken` is set once its place is used up. -/
  operand : Option Text := none
  taken : Bool := false
  /-- The command with the words for it. -/
  command : Option (Text × List Text) := none
  /-- The words that are left over. -/
  leftOver : List Text := []
deriving DecidableEq, Repr

namespace Parsed

/-- Whether a flag is given. -/
def has (parsed : Parsed) (long : Text) : Bool := parsed.flags.any fun entry => entry.1 == long

/-- The value of a flag; the last one counts. -/
def valueOf (parsed : Parsed) (long : Text) : Option Text :=
  (List.lookup long parsed.flags.reverse).bind id

/-- Adds a flag. -/
def withFlag (parsed : Parsed) (flag : Flag) (value : Option Text) : Parsed :=
  { parsed with flags := parsed.flags ++ [(flag.long, value)] }

/-- Adds words that are left over. -/
def leaving (parsed : Parsed) (words : List Text) : Parsed :=
  { parsed with leftOver := parsed.leftOver ++ words }

end Parsed

/-- The flags named by a letter and the letters that follow it in one word. -/
def cluster (flags : List Flag) (flag : Flag) : Text → Except Problem (List Flag)
  | [] => .ok [flag]
  | letter :: rest =>
    match flags.find? fun other => other.short == some letter with
    | some next => (cluster flags next rest).map (flag :: ·)
    | none => .error (.ignoredValue flag.title (letter :: rest))

/-- The flags of a word without a value of its own. A value that is attached
with a letter is read as further letters. -/
def flagsOf (flags : List Flag) (flag : Flag) (byLetter : Bool) (attached : Option Text) :
    Except Problem (List Flag) :=
  match attached with
  | none => .ok [flag]
  | some value =>
    if byLetter ∧ value ≠ [] then cluster flags flag value
    else .error (.ignoredValue flag.title value)

/-- Checks a value against the choices of a flag. A value `--` counts as none. -/
def chosen (flag : Flag) (choices : List Text) (value : Text) : Except Problem (Option Text) :=
  if value = "--" then .ok none
  else if value ∈ choices then .ok (some value)
  else .error (.invalidChoice flag.title value choices)

/-- Consumes words from left to right. -/
def Form.scan (form : Form) : List Word → Parsed → Except Stop Parsed
  | [], parsed => .ok parsed
  | word :: rest, parsed =>
    match word.role with
    | .unknown => form.scan rest (parsed.leaving [word.raw])
    | .flag flag byLetter attached =>
      match flag.effect with
      | .choice choices =>
        match attached with
        | some value =>
          match chosen flag choices value with
          | .ok value => form.scan rest (parsed.withFlag flag value)
          | .error problem => .error (.problem problem)
        | none =>
          match rest with
          | [] => .error (.problem (.missingValue flag.title))
          | next :: later =>
            if next.role = .plain then
              match chosen flag choices next.raw with
              | .ok value => form.scan later (parsed.withFlag flag value)
              | .error problem => .error (.problem problem)
            else .error (.problem (.missingValue flag.title))
      | .help | .switch =>
        match flagsOf form.flags flag byLetter attached with
        | .error problem => .error (.problem problem)
        | .ok given =>
          if given.any fun other => other.effect = .help then .error .help
          else form.scan rest (parsed.withFlag flag none)
    | .plain =>
      match form.operand with
      | .command title names =>
        if word.raw ∈ names then
          .ok { parsed with command := some (word.raw, rest.map Word.raw) }
        else .error (.problem (.invalidChoice title word.raw names))
      | .optional =>
        if parsed.taken then form.scan rest (parsed.leaving [word.raw])
        else
          match rest with
          | [] => .ok { parsed with operand := some word.raw, taken := true }
          | next :: later =>
            if next.role = .ending then
              .ok ({ parsed with operand := some word.raw, taken := true }.leaving
                (later.map Word.raw))
            else form.scan (next :: later) { parsed with operand := some word.raw, taken := true }
      | .nothing => form.scan rest (parsed.leaving [word.raw])
    | .ending =>
      match form.operand with
      | .command title names =>
        if rest.isEmpty then .ok (parsed.leaving [word.raw])
        else .error (.problem (.invalidChoice title word.raw names))
      | .optional =>
        if parsed.taken then .ok (parsed.leaving (word.raw :: rest.map Word.raw))
        else
          .ok ({ parsed with operand := (rest.map Word.raw).head?, taken := true }.leaving
            (rest.map Word.raw).tail)
      | .nothing => .ok (parsed.leaving (word.raw :: rest.map Word.raw))

/-- Reads a command line. A command has to be given where the form has
commands. -/
def Form.parse (form : Form) (argv : List Text) : Except Stop Parsed :=
  match form.words argv with
  | .error problem => .error (.problem problem)
  | .ok words =>
    match form.scan words {}, form.operand with
    | .ok parsed, .command title _ =>
      if parsed.command.isNone then .error (.problem (.required title)) else .ok parsed
    | outcome, _ => outcome

end ProseChart.Arguments
