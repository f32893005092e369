import Mathlib.Data.List.Nodup
import ProseChart.Protocol

/-!
# ProseChart.Proofs.Protocol — what is relied on of a protocol

The protocol that carries calls is a parameter. Results about calls over a connection
name what they rely on: that arguments are checked against the schema of the tool, and
that the texts among them arrive as they are. The check is described by the violations
of a schema, independently of how a protocol finds them, and relied on for schemas that
have no other keywords than those of the tools.

* `Schema.Violates`, `Schema.Plain` — violations, and the schemas in question.
* `Protocol.Validates`, `Protocol.CarriesTexts` — what is relied on.
* `Schema.mem_complaints_iff` — the complaints about a value are its violations.
* `Protocol.validates_standard`, `Protocol.carriesTexts_standard` — the standard
  protocol can be relied on.
-/

namespace ProseChart

namespace Schema

/-! ## Violations of a schema -/

/-- The values of a type. -/
inductive HasType : LooseText → Json.Value → Prop
  | object (members : List (LooseText × Json.Value)) : HasType "object" (.object members)
  | text (t : LooseText) : HasType "string" (.text t)

/-- A keyword is set to an operand. -/
@[reducible] def Sets (keywords : List (LooseText × Json.Value)) (keyword : LooseText)
    (operand : Json.Value) : Prop := (keyword, operand) ∈ keywords

/-- What is wrong with a value by a schema, and how it is worded. -/
inductive Violates : (schema value : Json.Value) → Text → Prop
  /-- The schema names a type, and the value is of another one. -/
  | type {keywords : List (LooseText × Json.Value)} {value : Json.Value} {type : LooseText}
    (keyword : Sets keywords "type" (.text type)) (other : ¬ HasType type value) :
    Violates (.object keywords) value (value.literal ++ " is not of type " ++ type.literal)
  /-- The schema requires a member that an object does not have. -/
  | required {keywords members : List (LooseText × Json.Value)} {names : List Json.Value}
    {name : LooseText} (keyword : Sets keywords "required" (.array names))
    (mem : .text name ∈ names) (absent : Json.Value.find? name members = none) :
    Violates (.object keywords) (.object members) (name.literal ++ " is a required property")
  /-- The schema has a schema for a member, and the value of the member violates it. -/
  | member {keywords properties members : List (LooseText × Json.Value)} {name : LooseText}
    {schema value : Json.Value} {complaint : Text}
    (keyword : Sets keywords "properties" (.object properties))
    (mem : (name, schema) ∈ properties) (present : Json.Value.find? name members = some value)
    (violates : Violates schema value complaint) :
    Violates (.object keywords) (.object members) complaint

mutual

/-- A schema that has no keywords but these: a type, required members, schemas of
members, and a description. -/
inductive Plain : Json.Value → Prop
  | object {keywords : List (LooseText × Json.Value)} (distinct : (keywords.map Prod.fst).Nodup)
    (plain : ∀ keyword ∈ keywords, PlainKeyword keyword.1 keyword.2) : Plain (.object keywords)

/-- A keyword of such a schema with what it is set to. -/
inductive PlainKeyword : LooseText → Json.Value → Prop
  | description (t : LooseText) : PlainKeyword "description" (.text t)
  | object : PlainKeyword "type" (.text "object")
  | text : PlainKeyword "type" (.text "string")
  | required {names : List LooseText} (distinct : names.Nodup) :
    PlainKeyword "required" (.array (names.map .text))
  | properties {members : List (LooseText × Json.Value)} (distinct : (members.map Prod.fst).Nodup)
    (plain : ∀ member ∈ members, Plain member.2) : PlainKeyword "properties" (.object members)

end

end Schema

/-! ## What is relied on -/

namespace Protocol

/-- Arguments are checked against plain schemas. -/
structure Validates (protocol : Protocol) : Prop where
  /-- Arguments that violate a schema are objected to. -/
  objects : ∀ {schema arguments complaint}, Schema.Plain schema →
    Schema.Violates schema arguments complaint →
      (protocol.objection? schema arguments).isSome
  /-- An objection tells about a violation. -/
  tells : ∀ {schema arguments objection}, Schema.Plain schema →
    protocol.objection? schema arguments = some objection →
      ∃ complaint, Schema.Violates schema arguments complaint ∧
        objection = "Input validation error: " ++ complaint

/-- Objects arrive as objects, and the texts among their members as they are. -/
structure CarriesTexts (protocol : Protocol) : Prop where
  arrives : ∀ {members}, protocol.accepts (.object members) = true →
    ∃ arrived, protocol.arriving (.object members) = .object arrived ∧
      ∀ key t, Json.Value.find? key members = some (.text t) →
        Json.Value.find? key arrived = some (.text t)

namespace Validates

variable {protocol : Protocol} {schema arguments : Json.Value} {complaint : Text}

/-- Nothing is objected to in arguments that violate nothing. -/
theorem objection?_eq_none (h : protocol.Validates) (hplain : Schema.Plain schema)
    (hnone : ∀ complaint, ¬ Schema.Violates schema arguments complaint) :
    protocol.objection? schema arguments = none := by
  cases hobjection : protocol.objection? schema arguments with
  | none => rfl
  | some objection =>
    rcases h.tells hplain hobjection with ⟨complaint, hviolates, -⟩
    exact absurd hviolates (hnone complaint)

/-- The only violation is the one that is told about. -/
theorem objection?_eq_some (h : protocol.Validates) (hplain : Schema.Plain schema)
    (hviolates : Schema.Violates schema arguments complaint)
    (honly : ∀ other, Schema.Violates schema arguments other → other = complaint) :
    protocol.objection? schema arguments =
      some ("Input validation error: " ++ complaint : Text) := by
  rcases Option.isSome_iff_exists.mp (h.objects hplain hviolates) with ⟨objection, hobjection⟩
  rcases h.tells hplain hobjection with ⟨other, hother, rfl⟩
  rw [hobjection, honly other hother]

end Validates

end Protocol

/-! ## The standard protocol -/

namespace Schema

variable {keywords properties : List (LooseText × Json.Value)} {names : List Json.Value}
  {schema value : Json.Value} {keyword type : LooseText} {complaint : Text}

theorem isOfType_iff : isOfType type value = true ↔ HasType type value := by
  constructor
  · intro h
    cases value with
    | object members =>
      obtain rfl : type = _ := by simpa [isOfType] using h
      exact .object members
    | text t =>
      obtain rfl : type = _ := by simpa [isOfType] using h
      exact .text t
    | _ => cases h
  · rintro (⟨members⟩ | ⟨t⟩)
    · rfl
    · rfl

theorem lacking?_eq_some_iff {entry : Json.Value} : lacking? value entry = some complaint ↔
    ∃ members name, value = .object members ∧ entry = .text name ∧
      Json.Value.find? name members = none ∧
      name.literal ++ " is a required property" = complaint := by
  constructor
  · intro h
    unfold lacking? at h
    split at h
    · next members name =>
      rcases Option.ite_none_right_eq_some.mp h with ⟨habsent, heq⟩
      exact ⟨members, name, rfl, rfl, Option.isNone_iff_eq_none.mp habsent, Option.some.inj heq⟩
    · cases h
  · rintro ⟨members, name, rfl, rfl, habsent, rfl⟩
    rw [lacking?, habsent]
    rfl

theorem mem_keywordComplaints : complaint ∈ keywordComplaints keywords value ↔
    ∃ entry ∈ keywords, complaint ∈ operandComplaints entry.1 entry.2 value := by
  induction keywords with
  | nil => simp [keywordComplaints]
  | cons first rest ih => rw [keywordComplaints, List.mem_append, ih, List.exists_mem_cons_iff]

theorem mem_propertyComplaints : complaint ∈ propertyComplaints properties value ↔
    ∃ entry ∈ properties, ∃ member, value.get? entry.1 = some member ∧
      complaint ∈ complaints entry.2 member := by
  induction properties with
  | nil => simp [propertyComplaints]
  | cons first rest ih =>
    rw [propertyComplaints, List.mem_append, ih, List.exists_mem_cons_iff]
    cases value.get? first.1 <;> simp

/-! The complaints of each keyword, by what it is set to. -/

theorem mem_operandComplaints_text : complaint ∈ operandComplaints keyword (.text type) value ↔
    keyword = "type" ∧ ¬ HasType type value ∧ complaint = wrongType value type := by
  rw [operandComplaints, List.mem_ite_nil_right, List.mem_singleton, ← isOfType_iff,
    Bool.not_eq_true, and_assoc]

theorem mem_operandComplaints_array : complaint ∈ operandComplaints keyword (.array names) value ↔
    keyword = "required" ∧ ∃ entry ∈ names, lacking? value entry = some complaint := by
  rw [operandComplaints, List.mem_ite_nil_right, List.mem_filterMap]

theorem mem_operandComplaints_object :
    complaint ∈ operandComplaints keyword (.object properties) value ↔
      keyword = "properties" ∧ complaint ∈ propertyComplaints properties value := by
  rw [operandComplaints, List.mem_ite_nil_right]

/-- A violation is complained about. The induction is on how it comes about. -/
theorem mem_complaints_of_violates (h : Violates schema value complaint) :
    complaint ∈ complaints schema value := by
  induction h with
  | @type keywords value type keyword other =>
    rw [complaints]
    exact mem_keywordComplaints.mpr ⟨_, keyword, mem_operandComplaints_text.mpr ⟨rfl, other, rfl⟩⟩
  | @required keywords members names name keyword mem absent =>
    have hlacking := lacking?_eq_some_iff.mpr ⟨members, name, rfl, rfl, absent, rfl⟩
    rw [complaints]
    exact mem_keywordComplaints.mpr
      ⟨_, keyword, mem_operandComplaints_array.mpr ⟨rfl, _, mem, hlacking⟩⟩
  | @member keywords properties members name schema value complaint keyword mem present _ ih =>
    have hproperty : complaint ∈ propertyComplaints properties (.object members) :=
      mem_propertyComplaints.mpr ⟨_, mem, value, present, ih⟩
    rw [complaints]
    exact mem_keywordComplaints.mpr
      ⟨_, keyword, mem_operandComplaints_object.mpr ⟨rfl, hproperty⟩⟩

/-- A complaint is about a violation. The recursion goes from a schema to those of its
members. -/
theorem violates_of_mem_complaints (schema value : Json.Value)
    (h : complaint ∈ complaints schema value) : Violates schema value complaint := by
  cases schema with
  | object keywords =>
    rw [complaints] at h
    rcases mem_keywordComplaints.mp h with ⟨⟨keyword, operand⟩, hkeyword, hoperand⟩
    cases operand with
    | text type =>
      rcases mem_operandComplaints_text.mp hoperand with ⟨rfl, hother, rfl⟩
      exact .type hkeyword hother
    | array names =>
      rcases mem_operandComplaints_array.mp hoperand with ⟨rfl, entry, hname, hlacking⟩
      rcases lacking?_eq_some_iff.mp hlacking with ⟨members, name, rfl, rfl, habsent, rfl⟩
      exact .required hkeyword hname habsent
    | object properties =>
      rcases mem_operandComplaints_object.mp hoperand with ⟨rfl, hproperty⟩
      rcases mem_propertyComplaints.mp hproperty with
        ⟨⟨name, property⟩, hentry, member, hmember, hcomplaint⟩
      cases value with
      | object members =>
        have hviolates := violates_of_mem_complaints property member hcomplaint
        exact .member hkeyword hentry hmember hviolates
      | _ => cases hmember
    | _ => cases hoperand
  | _ => cases h
termination_by sizeOf schema
decreasing_by
  subst_vars
  have hinner := List.sizeOf_lt_of_mem hentry
  have houter := List.sizeOf_lt_of_mem hkeyword
  simp only [Prod.mk.sizeOf_spec, Json.Value.object.sizeOf_spec] at hinner houter ⊢
  omega

theorem mem_complaints_iff :
    complaint ∈ complaints schema value ↔ Violates schema value complaint :=
  ⟨violates_of_mem_complaints schema value, mem_complaints_of_violates⟩

end Schema

namespace Wire

/-- Standard JSON has all texts. -/
theorem find?_membersStandardized {members : List (LooseText × Json.Value)} {key t : LooseText}
    (h : Json.Value.find? key members = some (.text t)) :
    Json.Value.find? key (membersStandardized members) = some (.text t) := by
  induction members with
  | nil => cases h
  | cons member rest ih =>
    rcases member with ⟨other, value⟩
    by_cases hkey : other = key
    · have hvalue : value = .text t := by simpa [Json.Value.find?, hkey] using h
      simp [Json.Value.find?, membersStandardized, standardized, hkey, hvalue]
    · have hrest : Json.Value.find? key rest = some (.text t) := by
        simpa [Json.Value.find?, hkey] using h
      simpa [Json.Value.find?, membersStandardized, hkey] using ih hrest

end Wire

namespace Protocol

theorem validates_standard : standard.Validates where
  objects := by
    intro schema arguments complaint _ h
    have hmem : complaint ∈ Schema.complaints schema arguments := Schema.mem_complaints_iff.mpr h
    have hne : Schema.complaints schema arguments ≠ [] := List.ne_nil_of_mem hmem
    simpa [standard] using hne
  tells := by
    intro schema arguments objection _ h
    rcases Option.map_eq_some_iff.mp h with ⟨complaint, hhead, rfl⟩
    exact ⟨complaint, Schema.mem_complaints_iff.mp (List.mem_of_mem_head? hhead), rfl⟩

theorem carriesTexts_standard : standard.CarriesTexts where
  arrives := fun _ => ⟨_, rfl, fun _ _ => Wire.find?_membersStandardized⟩

end Protocol

end ProseChart
