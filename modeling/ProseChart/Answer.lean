import ProseChart.Fault
import ProseChart.Quotation
import ProseChart.Review

/-!
# ProseChart.Answer — results as text for a reader

The text in which a tool presents a result: a review with advice, a chart in a
fenced code block, a quotation with its count. A call that fails is answered by
text too: `invalidRequest` when the request is to blame, `unexpectedError`
otherwise.
-/

namespace ProseChart.Answer

/-- The verdict on a complete description. -/
def complete : Text :=
  "✅ Your flowchart description appears to be complete! You can now generate a Mermaid flowchart."

/-- The line above the missing elements. -/
def incomplete : Text := "⚠️ Your flowchart description might be missing some information:"

/-- The advice below the missing elements. -/
def advice : Text := "\nConsider adding more details for a better flowchart."

/-- An item of a list. -/
def bullet (t : Text) : Text := "- " ++ t

/-- The preview, a blank line, and the verdict or the list of missing
elements. -/
def ofReview (review : Review) : Text :=
  review.preview ++ "\n\n" ++
    if review.isComplete then complete
    else Text.unlines (incomplete :: review.missing.map bullet) ++ advice

/-- Chart source in a fenced code block. -/
def ofSource (source : Text) : Text :=
  "Here's your Mermaid flowchart code:\n\n```mermaid\n" ++ source ++
    "\n```\n\nYou can use this code in any Mermaid-compatible tool or editor."

/-- A quoted text and the number of removed quote characters. -/
def ofQuotation (quotation : Quotation) : Text :=
  "Converted description:\n" ++ quotation.converted ++ "\n\n🔁 Quote characters removed: " ++
    Text.ofInt quotation.removed

/-- The answer to a request that cannot be served. -/
def invalidRequest (fault : Fault) : Text := "❌ **Invalid Request**\n\n" ++ fault.text

/-- The answer when a tool fails for another reason. -/
def unexpectedError (fault : Fault) : Text :=
  "❌ **Unexpected Error**\n\nType: " ++ fault.kind.name ++ "\nMessage: " ++ fault.text ++ "\n"

end ProseChart.Answer
