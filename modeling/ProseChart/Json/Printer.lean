import ProseChart.Decimal.Shortest
import ProseChart.Json

/-!
# ProseChart.Json.Printer — JSON text

Values are written in one of two layouts: all on one line, with a space after
commas and colons, or one item a line, indented by two spaces a level. Texts keep
every character except the double quote, the backslash and the controls below
U+0020, which are escaped; a surrogate without its partner is escaped too.

* `Json.quote` — a text between double quotes.
* `Value.print` — a value in a layout.
-/

namespace ProseChart.Json

/-- A character inside a JSON text. -/
def escapeChar (c : Char) : Text :=
  if c = '"' then "\\\""
  else if c = '\\' then "\\\\"
  else if c = '\n' then "\\n"
  else if c = '\r' then "\\r"
  else if c = '\t' then "\\t"
  else if c = '\x0C' then "\\f"
  else if c = '\x08' then "\\b"
  else if c.toNat < 0x20 then Text.escapeUnit c.toNat
  else [c]

/-- A code point inside a JSON text. -/
def escapePoint : CodePoint → Text
  | .char c => escapeChar c
  | .surrogate place => Text.escapeUnit (CodePoint.toNat (.surrogate place))

/-- A text between double quotes. -/
def quote (t : LooseText) : Text := '"' :: (t.flatMap escapePoint ++ ['"'])

/-- How the parts of arrays and objects are spread over lines. -/
inductive Layout where
  | inline
  | indented
deriving DecidableEq, Repr

namespace Layout

/-- The line break before a part at a depth; none when all is on one line. -/
def lineBreak (layout : Layout) (depth : Nat) : Text :=
  match layout with
  | .inline => []
  | .indented => '\n' :: List.replicate (2 * depth) ' '

/-- What stands between two parts at a depth. -/
def between (layout : Layout) (depth : Nat) : Text :=
  match layout with
  | .inline => ", "
  | .indented => ',' :: layout.lineBreak depth

/-- Parts in brackets; without parts the brackets touch. -/
def enclose (layout : Layout) (depth : Nat) (opening closing : Char) (parts : List Text) : Text :=
  if parts.isEmpty then [opening, closing]
  else
    opening :: (layout.lineBreak (depth + 1) ++ List.intercalate (layout.between (depth + 1)) parts ++
      layout.lineBreak depth ++ [closing])

end Layout

/-- A double as a JSON number; the values that are none have names of their
own. -/
def numberText (x : Binary64) : Text :=
  match x with
  | .undefined => "NaN"
  | .infinite negative => if negative then "-Infinity" else "Infinity"
  | .finite .. => x.text

namespace Value

mutual

/-- A value at a depth of a layout. -/
def printAt (layout : Layout) (depth : Nat) : Value → Text
  | .null => "null"
  | .bool true => "true"
  | .bool false => "false"
  | .integer n => Text.ofInt n
  | .decimal x => numberText x
  | .text t => quote t
  | .array items => layout.enclose depth '[' ']' (printItems layout (depth + 1) items)
  | .object members => layout.enclose depth '{' '}' (printMembers layout (depth + 1) members)

/-- The items of an array. -/
def printItems (layout : Layout) (depth : Nat) : List Value → List Text
  | [] => []
  | item :: rest => printAt layout depth item :: printItems layout depth rest

/-- The members of an object. -/
def printMembers (layout : Layout) (depth : Nat) : List (LooseText × Value) → List Text
  | [] => []
  | (key, value) :: rest =>
    (quote key ++ ": " ++ printAt layout depth value) :: printMembers layout depth rest

end

/-- A value as JSON text. -/
def print (layout : Layout) (value : Value) : Text := printAt layout 0 value

end Value

end ProseChart.Json
