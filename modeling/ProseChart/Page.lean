import ProseChart.Chart.Mermaid
import ProseChart.Quotation
import ProseChart.Review
import ProseChart.Text.Blank

/-!
# ProseChart.Page — a page for trying descriptions

The page asks for a description and shows its review, its chart and its quoted
form. A page is the list of the elements it draws, from top to bottom.

* `PageElement` — an element; `PageElement.record` names its function and its
  arguments, positional ones before named ones.
* `Page.render` — the page for a description.
-/

namespace ProseChart

/-- An element of the page. -/
inductive PageElement where
  | configuration
  | title
  | introduction
  | input
  | heading (t : Text)
  | plain (t : Text)
  | success (t : Text)
  | warning (t : Text)
  | bullet (t : Text)
  | code (t : Text) (language : Option Text)
  | caption (t : Text)
  | hint (t : Text)
  /-- Elements that are shown on demand. -/
  | fold (label : Text) (inner : List PageElement)

namespace PageElement

/-- The call that draws an element without others in it: the function, its
arguments and its named arguments. -/
def drawing : PageElement → List Text
  | .configuration =>
    ["set_page_config", "layout=centered", "page_icon=🧭", "page_title=Mermaid Flowchart Builder"]
  | .title => ["title", "🧭 Flowchart Builder"]
  | .introduction =>
    ["write",
      "Describe a process one step per sentence. Use words like 'then' between steps, 'if' or " ++
        "'check' for decisions and 'otherwise' for the alternative branch."]
  | .input =>
    ["text_area", "Process description", "height=160",
      "placeholder=Start the request. Then check the budget. If approved order parts. " ++
        "Otherwise reject."]
  | .heading t => ["subheader", t]
  | .plain t => ["text", t]
  | .success t => ["success", t]
  | .warning t => ["warning", t]
  | .bullet t => ["markdown", "- " ++ t]
  | .code t none => ["code", t]
  | .code t (some language) => ["code", t, "language=" ++ language]
  | .caption t => ["caption", t]
  | .hint t => ["info", t]
  | .fold label _ => ["expander", label]

mutual

/-- The calls that draw an element. -/
def record : PageElement → List (List Text)
  | .fold label inner =>
    let entered : List Text := ["enter", label]
    let exited : List Text := ["exit", label]
    drawing (.fold label inner) :: entered :: (records inner ++ [exited])
  | element => [drawing element]

/-- The calls that draw a list of elements. -/
def records : List PageElement → List (List Text)
  | [] => []
  | element :: rest => record element ++ records rest

end

end PageElement

namespace Page

/-- What stands on every page. -/
def top : List PageElement := [.configuration, .title, .introduction, .input]

/-- The verdict of a review. -/
def verdict (review : Review) : List PageElement :=
  if review.isComplete then [.success "Your flowchart description appears to be complete."]
  else
    .warning "Your flowchart description might be missing some information:" ::
      review.missing.map .bullet

/-- What is shown of a description. -/
def results (description : Text) : List PageElement :=
  let review := Review.ofDescription description
  let quotation := Quotation.normalize description
  .heading "Analysis" :: .plain review.preview ::
    (verdict review ++
      [.heading "Mermaid code", .code (Chart.source description) (some "mermaid"),
        .fold "Quote-normalized description"
          [.code quotation.converted none,
            .caption ("Quote characters removed: " ++ Text.ofInt quotation.removed)]])

/-- The page for a description; a blank one is asked for again. -/
def render (description : Text) : List PageElement :=
  top ++
    if description.trimBlank.isEmpty then
      [.hint "Enter a description above to see the analysis and the generated flowchart."]
    else results description

end Page

end ProseChart
