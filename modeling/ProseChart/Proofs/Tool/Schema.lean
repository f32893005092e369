import ProseChart.Proofs.Lookup
import ProseChart.Proofs.Protocol
import ProseChart.Tool.Catalog

/-!
# ProseChart.Proofs.Tool.Schema — the schema of the served tools

The served tools have one schema but for its wording. An object violates it in one way
at most: the description is not there, or it is no text. So a protocol that validates
arguments objects to exactly the objects from which `Tool.descriptionOf` takes no
description, and tells why.

* `Tool.plain_descriptionSchema` — the schema has no other keywords than a plain one.
* `Tool.violates_descriptionSchema_iff` — its violations.
* `Protocol.Validates.objection?_text`, `Protocol.Validates.objection?_missing`,
  `Protocol.Validates.objection?_other` — what is objected to.
-/

namespace ProseChart

/-- Among distinct keys, every member is found. -/
theorem Json.Value.find?_of_mem {members : List (LooseText × Json.Value)} {key : LooseText}
    {value : Json.Value} (distinct : (members.map Prod.fst).Nodup) (h : (key, value) ∈ members) :
    find? key members = some value := by
  rw [find?, (find?_key_eq_some_iff distinct).mpr ⟨h, rfl⟩]
  rfl

namespace Tool

variable {tool : Tool} {members : List (LooseText × Json.Value)} {value : Json.Value}
  {purpose complaint : Text}

theorem exists_inputSchema_eq (h : tool ∈ ToolSet.full.tools) :
    ∃ purpose, tool.inputSchema = descriptionSchema purpose := by
  simp only [ToolSet.tools, List.mem_cons, List.not_mem_nil, or_false] at h
  rcases h with rfl | rfl | rfl
  · exact ⟨"analyze", rfl⟩
  · exact ⟨"generate", rfl⟩
  · exact ⟨"normalize", rfl⟩

/-! ## The schema of the description -/

/-- The keywords of the schema of the description. -/
def textKeywords (purpose : Text) : List (LooseText × Json.Value) :=
  [("type", .text "string"),
    ("description", .text ("The text description of the flowchart to " ++ purpose))]

theorem distinct_textKeywords (purpose : Text) :
    ((textKeywords purpose).map Prod.fst).Nodup := by
  have hnames : List.Nodup [("type" : LooseText), ("description" : LooseText)] := by decide
  exact hnames

theorem plain_textKeywords (purpose : Text) : Schema.Plain (.object (textKeywords purpose)) := by
  refine .object (distinct_textKeywords purpose) ?_
  intro entry hentry
  simp only [textKeywords, List.mem_cons, List.not_mem_nil, or_false] at hentry
  rcases hentry with rfl | rfl
  · exact .text
  · exact .description _

theorem wording_text : value.literal ++ " is not of type " ++ ("string" : LooseText).literal =
    value.literal ++ " is not of type 'string'" := by
  rw [List.append_assoc]
  rfl

/-- What is no text is told to be of another type. -/
theorem violates_textKeywords_iff :
    Schema.Violates (.object (textKeywords purpose)) value complaint ↔
      (∀ t, value ≠ .text t) ∧ complaint = value.literal ++ " is not of type 'string'" := by
  have hdistinct := distinct_textKeywords purpose
  constructor
  · rintro (⟨hkeyword, hother⟩ | ⟨hkeyword, -, -⟩ | ⟨hkeyword, -, -, -⟩)
    · cases Json.Value.find?_of_mem hdistinct hkeyword
      refine ⟨?_, wording_text⟩
      rintro t rfl
      exact hother (.text t)
    · cases Json.Value.find?_of_mem hdistinct hkeyword
    · cases Json.Value.find?_of_mem hdistinct hkeyword
  · rintro ⟨hother, rfl⟩
    have htype : ¬ Schema.HasType "string" value := by
      intro h
      cases h with
      | text t => exact hother t rfl
    rw [← wording_text]
    exact .type List.mem_cons_self htype

/-! ## The schema of the arguments -/

/-- The keywords of the schema of the arguments. -/
def descriptionKeywords (purpose : Text) : List (LooseText × Json.Value) :=
  [("type", .text "object"),
    ("properties", .object [(argumentName, .object (textKeywords purpose))]),
    ("required", .array [.text argumentName])]

theorem descriptionSchema_eq (purpose : Text) :
    descriptionSchema purpose = .object (descriptionKeywords purpose) := rfl

theorem distinct_descriptionKeywords (purpose : Text) :
    ((descriptionKeywords purpose).map Prod.fst).Nodup := by
  have hnames : List.Nodup
      [("type" : LooseText), ("properties" : LooseText), ("required" : LooseText)] := by decide
  exact hnames

theorem plain_descriptionSchema (purpose : Text) : Schema.Plain (descriptionSchema purpose) := by
  refine .object (distinct_descriptionKeywords purpose) ?_
  intro entry hentry
  simp only [List.mem_cons, List.not_mem_nil, or_false] at hentry
  rcases hentry with rfl | rfl | rfl
  · exact .object
  · refine .properties (List.nodup_singleton _) ?_
    intro member hmember
    obtain rfl := List.mem_singleton.mp hmember
    exact plain_textKeywords purpose
  · exact .required (List.nodup_singleton (argumentName : LooseText))

/-- An object lacks the description, or has another value than a text for it. -/
theorem violates_descriptionSchema_iff :
    Schema.Violates (descriptionSchema purpose) (.object members) complaint ↔
      (Json.Value.find? argumentName members = none ∧
        complaint = "'description' is a required property") ∨
      ∃ value, Json.Value.find? argumentName members = some value ∧ (∀ t, value ≠ .text t) ∧
        complaint = value.literal ++ " is not of type 'string'" := by
  have hdistinct := distinct_descriptionKeywords purpose
  rw [descriptionSchema_eq]
  constructor
  · rintro (⟨hkeyword, hother⟩ | ⟨hkeyword, hname, habsent⟩ | ⟨hkeyword, hname, hvalue, hviolates⟩)
    · cases Json.Value.find?_of_mem hdistinct hkeyword
      exact absurd (.object members) hother
    · cases Json.Value.find?_of_mem hdistinct hkeyword
      obtain rfl := Json.Value.text.inj (List.mem_singleton.mp hname)
      exact Or.inl ⟨habsent, rfl⟩
    · cases Json.Value.find?_of_mem hdistinct hkeyword
      obtain ⟨rfl, rfl⟩ := Prod.mk.inj (List.mem_singleton.mp hname)
      exact Or.inr ⟨_, hvalue, violates_textKeywords_iff.mp hviolates⟩
  · rintro (⟨habsent, rfl⟩ | ⟨value, hvalue, hviolates⟩)
    · have hrequired : Schema.Sets (descriptionKeywords purpose) "required"
          (.array [.text argumentName]) := by simp [descriptionKeywords, Schema.Sets]
      exact .required hrequired List.mem_cons_self habsent
    · have hproperties : Schema.Sets (descriptionKeywords purpose) "properties"
          (.object [(argumentName, .object (textKeywords purpose))]) := by
        simp [descriptionKeywords, Schema.Sets]
      exact .member hproperties List.mem_cons_self hvalue (violates_textKeywords_iff.mpr hviolates)

end Tool

/-! ## Objections -/

namespace Protocol.Validates

variable {protocol : Protocol} {tool : Tool} {members : List (LooseText × Json.Value)}

/-- Nothing is objected to when the description is a text. -/
theorem objection?_text (h : protocol.Validates) (hmem : tool ∈ ToolSet.full.tools) {t : LooseText}
    (ht : Json.Value.find? Tool.argumentName members = some (.text t)) :
    protocol.objection? tool.inputSchema (.object members) = none := by
  rcases Tool.exists_inputSchema_eq hmem with ⟨purpose, hschema⟩
  rw [hschema]
  apply h.objection?_eq_none (Tool.plain_descriptionSchema purpose)
  intro complaint hviolates
  rcases Tool.violates_descriptionSchema_iff.mp hviolates with
    ⟨habsent, -⟩ | ⟨value, hvalue, hother, -⟩
  · rw [ht] at habsent
    cases habsent
  · rw [ht] at hvalue
    exact hother t (Option.some.inj hvalue).symm

theorem objection?_missing (h : protocol.Validates) (hmem : tool ∈ ToolSet.full.tools)
    (hmissing : Json.Value.find? Tool.argumentName members = none) :
    protocol.objection? tool.inputSchema (.object members) =
      some ("Input validation error: 'description' is a required property" : Text) := by
  rcases Tool.exists_inputSchema_eq hmem with ⟨purpose, hschema⟩
  rw [hschema]
  apply h.objection?_eq_some (Tool.plain_descriptionSchema purpose)
    (Tool.violates_descriptionSchema_iff.mpr (Or.inl ⟨hmissing, rfl⟩))
  intro other hviolates
  rcases Tool.violates_descriptionSchema_iff.mp hviolates with
    ⟨-, hwording⟩ | ⟨value, hvalue, -⟩
  · exact hwording
  · rw [hmissing] at hvalue
    cases hvalue

theorem objection?_other (h : protocol.Validates) (hmem : tool ∈ ToolSet.full.tools)
    {value : Json.Value} (hvalue : Json.Value.find? Tool.argumentName members = some value)
    (hother : ∀ t, value ≠ .text t) :
    protocol.objection? tool.inputSchema (.object members) =
      some ("Input validation error: " ++ value.literal ++ " is not of type 'string'" : Text) := by
  rcases Tool.exists_inputSchema_eq hmem with ⟨purpose, hschema⟩
  rw [hschema, List.append_assoc]
  apply h.objection?_eq_some (Tool.plain_descriptionSchema purpose)
    (Tool.violates_descriptionSchema_iff.mpr (Or.inr ⟨value, hvalue, hother, rfl⟩))
  intro other hviolates
  rcases Tool.violates_descriptionSchema_iff.mp hviolates with
    ⟨habsent, -⟩ | ⟨found, hfound, -, hwording⟩
  · rw [hvalue] at habsent
    cases habsent
  · rw [hvalue] at hfound
    obtain rfl := Option.some.inj hfound
    exact hwording

end Protocol.Validates

end ProseChart
