import ProseChart.Json
import ProseChart.Json.Bounds

/-!
# ProseChart.Json.Reader — reading JSON text

The reader takes a text apart from the front; each part returns what it read and
the rest of the text. The first fault ends the reading: either the text is not
what was expected at some rest, so that the place of the fault is the length of
the text before that rest, or a value exceeds a bound of the reader.

* `Json.value` — one value at the front of a text.
* `Json.readWithin` — a whole text, with blanks around its one value, within
  bounds.
* `Json.read` — the same without bounds.
* `Misfit.message` — the complaint with line, column and offset.

Beyond the standard, the reader knows the names `NaN`, `Infinity` and
`-Infinity`; of two members with one key the later one counts. An escaped high
surrogate and the escaped low one after it are one character; any other escaped
surrogate stands alone.
-/

namespace ProseChart.Json

/-! ## Faults -/

/-- What a text fails to be. -/
inductive Complaint where
  | value
  | propertyName
  | colon
  | comma
  | extraData
  | unterminated
  | control
  | escape
  | codeUnit
  | byteOrderMark
deriving DecidableEq, Repr

/-- The wording of a complaint. -/
def Complaint.wording : Complaint → Text
  | .value => "Expecting value"
  | .propertyName => "Expecting property name enclosed in double quotes"
  | .colon => "Expecting ':' delimiter"
  | .comma => "Expecting ',' delimiter"
  | .extraData => "Extra data"
  | .unterminated => "Unterminated string starting at"
  | .control => "Invalid control character at"
  | .escape => "Invalid \\escape"
  | .codeUnit => "Invalid \\uXXXX escape"
  | .byteOrderMark => "Unexpected UTF-8 BOM (decode using utf-8-sig)"

/-- A complaint about the text from `rest` on. -/
structure Misfit where
  complaint : Complaint
  rest : Text
deriving DecidableEq, Repr

namespace Misfit

/-- The number of characters before the misfit. -/
def offset (misfit : Misfit) (input : Text) : Nat := input.length - misfit.rest.length

/-- The wording with the place: line and column from 1, offset from 0. -/
def message (misfit : Misfit) (input : Text) : Text :=
  let before := input.take (misfit.offset input)
  let line := before.count '\n' + 1
  let column := (before.reverse.takeWhile (· != '\n')).length + 1
  misfit.complaint.wording ++ ": line " ++ Text.ofNat line ++ " column " ++ Text.ofNat column ++
    " (char " ++ Text.ofNat (misfit.offset input) ++ ")"

end Misfit

/-- Why a text is not read. -/
inductive Fault where
  /-- The text is no JSON. -/
  | misfit (found : Misfit)
  /-- A value exceeds a bound. -/
  | excess (found : Excess)
deriving DecidableEq, Repr

/-- The wording of a fault in a text. -/
def Fault.message (input : Text) : Fault → Text
  | .misfit found => found.message input
  | .excess found => found.message

/-- What a part of the reader returns: a result and the text after it. -/
abbrev Reading (α : Type) := Except Fault (α × Text)

/-- The reading that ends with a complaint about the text from `rest` on. -/
def refuse {α : Type} (complaint : Complaint) (rest : Text) : Reading α :=
  .error (.misfit ⟨complaint, rest⟩)

/-! ## Blanks, names and numbers -/

/-- The blanks that may stand between the parts of a value. -/
def isBlank (c : Char) : Bool := c == ' ' || c == '\t' || c == '\n' || c == '\r'

/-- The text without the blanks at its front. -/
def skipBlanks (t : Text) : Text := t.dropWhile isBlank

/-- The values that have a name. -/
def names : List (Text × Value) :=
  [("null", .null), ("true", .bool true), ("false", .bool false), ("NaN", .decimal .undefined),
    ("Infinity", .decimal (.infinite false)), ("-Infinity", .decimal (.infinite true))]

/-- A named value at the front of a text. -/
def named? (t : Text) : Option (Value × Text) :=
  (names.find? fun entry => entry.1.isPrefixOf t).map fun entry =>
    (entry.2, t.drop entry.1.length)

/-- The digits at the front of a text, and the rest. -/
def digits (t : Text) : Text × Text := (t.takeWhile Char.isDigit, t.dropWhile Char.isDigit)

/-- The whole part of a number: a zero, or digits that do not begin with one. -/
def whole? (t : Text) : Option (Text × Text) :=
  match t with
  | [] => none
  | c :: rest =>
    if c = '0' then some (['0'], rest)
    else if c.isDigit then some (digits t)
    else none

/-- A point with at least one digit after it. -/
def fraction? (t : Text) : Option (Text × Text) :=
  match t with
  | [] => none
  | c :: rest => if c = '.' ∧ (digits rest).1 ≠ [] then some (digits rest) else none

/-- A sign at the front of a text: whether it is a minus, and the rest. -/
def sign (t : Text) : Bool × Text :=
  match t with
  | [] => (false, [])
  | c :: rest => if c = '-' then (true, rest) else if c = '+' then (false, rest) else (false, t)

/-- The mark of an exponent, a sign, if any, and at least one digit. -/
def exponent? (t : Text) : Option (Int × Text) :=
  match t with
  | [] => none
  | c :: rest =>
    let signed := sign rest
    let written := digits signed.2
    if (c = 'e' ∨ c = 'E') ∧ written.1 ≠ [] then
      let size : Int := Nat.ofDigitChars 10 written.1 0
      some (if signed.1 then -size else size, written.2)
    else none

/-- A number as it is written. -/
structure Numeral where
  negative : Bool
  /-- The digits before the point. -/
  whole : Text
  /-- The digits after the point, if there is one. -/
  places : Option Text
  /-- The power of ten that is written as an exponent. -/
  power : Option Int
deriving DecidableEq, Repr

namespace Numeral

/-- Whether the numeral stands for an integer: it has no point and no exponent. -/
def isInteger (numeral : Numeral) : Bool := numeral.places.isNone && numeral.power.isNone

/-- The value of a numeral. -/
def value (numeral : Numeral) : Value :=
  if numeral.isInteger then
    let size : Int := Nat.ofDigitChars 10 numeral.whole 0
    .integer (if numeral.negative then -size else size)
  else
    let places := numeral.places.getD []
    let size := Nat.ofDigitChars 10 (numeral.whole ++ places) 0
    .decimal (Binary64.ofDecimal numeral.negative size (numeral.power.getD 0 - places.length))

/-- What a numeral exceeds; only the digits of integers are bounded. -/
def excess? (bounds : Bounds) (numeral : Numeral) : Option Excess :=
  if numeral.isInteger then bounds.digitExcess? numeral.whole.length else none

end Numeral

/-- A numeral at the front of a text. -/
def numeral? (t : Text) : Option (Numeral × Text) :=
  let negative := t.head? == some '-'
  match whole? (if negative then t.drop 1 else t) with
  | none => none
  | some (whole, rest) =>
    let fraction := fraction? rest
    let afterFraction := (fraction.map Prod.snd).getD rest
    let exponent := exponent? afterFraction
    some (⟨negative, whole, fraction.map Prod.fst, exponent.map Prod.fst⟩,
      (exponent.map Prod.snd).getD afterFraction)

/-- A number within bounds at the front of a text. -/
def number (bounds : Bounds) (t : Text) : Reading Value :=
  match numeral? t with
  | none => refuse .value t
  | some (numeral, rest) =>
    match numeral.excess? bounds with
    | some found => .error (.excess found)
    | none => .ok (numeral.value, rest)

/-! ## Texts -/

/-- The value of a hexadecimal digit. -/
def hexDigit? (c : Char) : Option Nat :=
  if c.isDigit then some (c.toNat - '0'.toNat)
  else if 'a' ≤ c ∧ c ≤ 'f' then some (c.toNat - 'a'.toNat + 10)
  else if 'A' ≤ c ∧ c ≤ 'F' then some (c.toNat - 'A'.toNat + 10)
  else none

/-- The code unit of four hexadecimal digits. -/
def unit? (a b c d : Char) : Option Nat :=
  match hexDigit? a, hexDigit? b, hexDigit? c, hexDigit? d with
  | some a, some b, some c, some d => some (((a * 16 + b) * 16 + c) * 16 + d)
  | _, _, _, _ => none

/-- The character that an escape letter stands for. -/
def escaped? (c : Char) : Option Char :=
  if c = '"' ∨ c = '\\' ∨ c = '/' then some c
  else if c = 'b' then some '\x08'
  else if c = 'f' then some '\x0C'
  else if c = 'n' then some '\n'
  else if c = 'r' then some '\r'
  else if c = 't' then some '\t'
  else none

/-- The character of a high and a low surrogate. -/
def pairChar? (high low : Nat) : Option Char :=
  if 0xD800 ≤ high ∧ high < 0xDC00 ∧ 0xDC00 ≤ low ∧ low < 0xE000 then
    some (Char.ofNat (0x10000 + (high - 0xD800) * 0x400 + (low - 0xDC00)))
  else none

/-- The text of a row of code units; a surrogate pair is one character. -/
def joinUnits : List Nat → LooseText
  | [] => []
  | [unit] => [.ofNat unit]
  | unit :: next :: rest =>
    match pairChar? unit next with
    | some joined => .char joined :: joinUnits rest
    | none => .ofNat unit :: joinUnits (next :: rest)

/-- Puts a code unit in front of those that were read. -/
def push (unit : Nat) : Reading (List Nat) → Reading (List Nat) :=
  Except.map fun (units, rest) => (unit :: units, rest)

/-- The code units inside a text up to its closing quote; `opening` is the text
from the opening quote on. An escape by number needs a character after it. -/
def units (opening : Text) : Text → Reading (List Nat)
  | [] => refuse .unterminated opening
  | c :: rest =>
    if c = '"' then .ok ([], rest)
    else if c.toNat < 0x20 then refuse .control (c :: rest)
    else if c ≠ '\\' then push c.toNat (units opening rest)
    else
      match rest with
      | [] => refuse .unterminated opening
      | letter :: after =>
        if letter ≠ 'u' then
          match escaped? letter with
          | some e => push e.toNat (units opening after)
          | none => refuse .escape (c :: letter :: after)
        else
          match after with
          | h₁ :: h₂ :: h₃ :: h₄ :: next :: later =>
            match unit? h₁ h₂ h₃ h₄ with
            | some unit => push unit (units opening (next :: later))
            | none => refuse .codeUnit (letter :: after)
          | _ => refuse .codeUnit (letter :: after)

/-- The inside of a text up to its closing quote. -/
def body (opening inside : Text) : Reading LooseText :=
  (units opening inside).map fun (read, rest) => (joinUnits read, rest)

/-! ## Values -/

/-- Parts separated by commas up to a closing bracket; `fuel` bounds their
number. -/
def parts {α : Type} (part : Text → Reading α) (closing : Char) : Nat → Text → Reading (List α)
  | 0, t => refuse .comma t
  | fuel + 1, t =>
    match part t with
    | .error fault => .error fault
    | .ok (first, rest) =>
      match skipBlanks rest with
      | [] => refuse .comma []
      | c :: after =>
        if c = closing then .ok ([first], after)
        else if c = ',' then
          match parts part closing fuel (skipBlanks after) with
          | .error fault => .error fault
          | .ok (others, end') => .ok (first :: others, end')
        else refuse .comma (c :: after)

/-- The parts after an opening bracket, none when it is closed at once. -/
def enclosed {α : Type} (part : Text → Reading α) (closing : Char) (t : Text) :
    Reading (List α) :=
  match skipBlanks t with
  | [] => parts part closing 1 []
  | c :: rest =>
    if c = closing then .ok ([], rest) else parts part closing (rest.length + 1) (c :: rest)

/-- A key, a colon and a value. -/
def member (value : Text → Reading Value) (t : Text) : Reading (LooseText × Value) :=
  match t with
  | '"' :: inside =>
    match body t inside with
    | .error fault => .error fault
    | .ok (key, rest) =>
      match skipBlanks rest with
      | ':' :: after =>
        match value (skipBlanks after) with
        | .error fault => .error fault
        | .ok (found, end') => .ok ((key, found), end')
      | after => refuse .colon after
  | _ => refuse .propertyName t

/-- One value at the front of a text; at most `room` containers stand inside one
another. -/
def value (bounds : Bounds) (room : Nat) (t : Text) : Reading Value :=
  match t with
  | [] => refuse .value []
  | c :: rest =>
    if c = '"' then (body t rest).map fun (read, after) => (.text read, after)
    else if c = '[' then
      match room with
      | 0 => .error (.excess (.nesting .array))
      | room + 1 =>
        (enclosed (value bounds room) ']' rest).map fun (items, after) => (.array items, after)
    else if c = '{' then
      match room with
      | 0 => .error (.excess (.nesting .object))
      | room + 1 =>
        (enclosed (member (value bounds room)) '}' rest).map fun (members, after) =>
          (Value.ofMembers members, after)
    else
      match named? t with
      | some found => .ok found
      | none => number bounds t

/-- The one value that a text holds, within bounds. Without a bound on the
nesting there is room for as many containers as the text has characters. -/
def readWithin (bounds : Bounds) (input : Text) : Except Fault Value :=
  if input.head? = some '\uFEFF' then .error (.misfit ⟨.byteOrderMark, input⟩)
  else
    match value bounds (bounds.nesting.getD input.length) (skipBlanks input) with
    | .error fault => .error fault
    | .ok (found, rest) =>
      match skipBlanks rest with
      | [] => .ok found
      | c :: after => .error (.misfit ⟨.extraData, c :: after⟩)

/-- The one value that a text holds. -/
def read (input : Text) : Except Fault Value := readWithin {} input

end ProseChart.Json
