import ProseChart.Text.Quotes

/-!
# ProseChart.Quotation — one pair of quotes around a text

Text for a label is normalized by removing every quote character in it and
putting one pair of double quotes around it. A pair that is there already counts
as the wrapper, so normalizing twice changes nothing and counts nothing.

* `Quotation.unwrap` — takes an outer pair of double quotes off.
* `Quotation.normalize` — the quoted text and the number of removed quotes.
* `Quotation.passes` — repeated normalization.
-/

namespace ProseChart

/-- A normalized text with the number of quote characters removed from it. -/
structure Quotation where
  converted : Text
  removed : Int
deriving DecidableEq, Repr

namespace Quotation

/-- Whether the text begins and ends with a double quote, not the same one. -/
def isWrapped (t : Text) : Bool :=
  decide (2 ≤ t.length) && t.head? == some '"' && t.getLast? == some '"'

/-- The text inside an outer pair of double quotes, or the whole text. -/
def unwrap (t : Text) : Text := if isWrapped t then t.tail.dropLast else t

/-- A text between double quotes. -/
def wrap (t : Text) : Text := '"' :: (t ++ ['"'])

/-- Removes the quote characters inside and wraps the rest. -/
def normalize (description : Text) : Quotation where
  converted := wrap (unwrap description).unquote
  removed := (unwrap description).length - (unwrap description).unquote.length

/-- The results of normalizing `count` times, each pass on the text of the one
before. -/
def passes (description : Text) : Nat → List Quotation
  | 0 => []
  | count + 1 => normalize description :: passes (normalize description).converted count

end Quotation

end ProseChart
