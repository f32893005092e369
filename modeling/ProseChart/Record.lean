import ProseChart.Json
import ProseChart.Quotation
import ProseChart.Review

/-!
# ProseChart.Record — results as JSON values

The results of a review and of a normalization as JSON objects, for callers that
read JSON.
-/

namespace ProseChart

/-- A review as an object. -/
def Review.record (review : Review) : Json.Value :=
  .object
    [("isComplete", .bool review.isComplete),
      ("missingInfo", .array (review.missing.map fun (advice : Text) => .text advice)),
      ("preview", .text review.preview)]

/-- A normalized text as an object. -/
def Quotation.record (quotation : Quotation) : Json.Value :=
  .object
    [("convertedDescription", .text quotation.converted),
      ("replacementCount", .integer quotation.removed)]

end ProseChart
