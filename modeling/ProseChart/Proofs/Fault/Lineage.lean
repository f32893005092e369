import Mathlib.Logic.Relation
import ProseChart.Fault

/-!
# ProseChart.Proofs.Fault.Lineage — where a class of faults comes from

A `FaultClass` says what a reader of faults can see of a class: its name, whether it
blames the request and whether it shows its message as a literal. A `Lineage` says
where the class stands among all classes: a class derives from one or several others
and takes after them.

* `Lineage.faultClass` — what can be seen of a class.
* `Lineage.DerivesFrom` — a class is, or derives from, another one.
* `Lineage.blamesRequest_iff` — the request is to blame exactly for values that are
  not allowed and for what derives from them.
* `Lineage.exists_faultClass_eq` — every `FaultClass` is that of some lineage.
-/

namespace ProseChart

/-- A class of a name of its own takes after the classes that it derives from. -/
def FaultClass.derived (name : Text) (parents : List FaultClass) : FaultClass where
  name := name
  blamesRequest := parents.any (·.blamesRequest)
  showsLiteral := parents.any (·.showsLiteral)

/-- A class of faults among all classes. -/
inductive Lineage where
  /-- The class of all faults. -/
  | fault
  /-- A value that is not allowed. -/
  | value
  /-- A key that is not there. -/
  | key
  /-- A class of its own, which derives from others. -/
  | derived (name : Text) (parents : List Lineage)

namespace Lineage

/-- The classes that a class derives from directly. -/
def parents : Lineage → List Lineage
  | .fault => []
  | .value => [.fault]
  | .key => [.derived "LookupError" [.fault]]
  | .derived _ parents => parents

/-- A class is another one, or derives from it through any number of others. -/
def DerivesFrom : Lineage → Lineage → Prop :=
  Relation.ReflTransGen fun cls parent => parent ∈ cls.parents

mutual

/-- What can be seen of a class. -/
def faultClass : Lineage → FaultClass
  | .fault => { name := "Exception" }
  | .value => FaultClass.value
  | .key => FaultClass.key
  | .derived name parents => FaultClass.derived name (faultClasses parents)

/-- What can be seen of several classes. -/
def faultClasses : List Lineage → List FaultClass
  | [] => []
  | cls :: rest => faultClass cls :: faultClasses rest

end

theorem faultClasses_eq_map (classes : List Lineage) :
    faultClasses classes = classes.map faultClass := by
  induction classes with
  | nil => rfl
  | cons cls rest ih => rw [faultClasses, ih, List.map_cons]

/-- A derived class takes after its parents. -/
theorem faultClass_derived (name : Text) (parents : List Lineage) :
    (derived name parents).faultClass = FaultClass.derived name (parents.map faultClass) :=
  congrArg (FaultClass.derived name) (faultClasses_eq_map parents)

theorem blamesRequest_derived (name : Text) (parents : List Lineage) :
    (derived name parents).faultClass.blamesRequest =
      parents.any fun cls => cls.faultClass.blamesRequest := by
  rw [faultClass_derived]
  exact List.any_map

/-! ## Blame -/

/-- What derives from a value that is not allowed blames the request. The
induction is on the way up to that class. -/
theorem blamesRequest_of_derivesFrom {cls : Lineage} (h : cls.DerivesFrom .value) :
    cls.faultClass.blamesRequest = true := by
  induction h using Relation.ReflTransGen.head_induction_on with
  | refl => rfl
  | @head cls parent hparent _ ih =>
    cases cls with
    | fault => cases hparent
    | value => rfl
    | key =>
      -- above the missing keys stand failed look-ups, which blame no request
      obtain rfl : parent = .derived "LookupError" [.fault] := List.mem_singleton.mp hparent
      rw [blamesRequest_derived] at ih
      cases ih
    | derived name parents =>
      rw [blamesRequest_derived]
      exact List.any_eq_true.mpr ⟨parent, hparent, ih⟩

mutual

/-- A class that blames the request derives from a value that is not allowed. The
recursion is on the lineage. -/
theorem derivesFrom_of_blamesRequest :
    ∀ cls : Lineage, cls.faultClass.blamesRequest = true → cls.DerivesFrom .value
  | .fault, h => by cases h
  | .value, _ => Relation.ReflTransGen.refl
  | .key, h => by cases h
  | .derived name parents, h => by
    rw [blamesRequest_derived] at h
    rcases derivesFrom_of_any_blamesRequest parents h with ⟨parent, hparent, hderives⟩
    exact Relation.ReflTransGen.head hparent hderives

theorem derivesFrom_of_any_blamesRequest :
    ∀ classes : List Lineage, (classes.any fun cls => cls.faultClass.blamesRequest) = true →
      ∃ cls ∈ classes, cls.DerivesFrom .value
  | [], h => by cases h
  | cls :: rest, h => by
    rw [List.any_cons, Bool.or_eq_true] at h
    rcases h with h | h
    · exact ⟨cls, List.mem_cons_self, derivesFrom_of_blamesRequest cls h⟩
    · rcases derivesFrom_of_any_blamesRequest rest h with ⟨other, hmem, hderives⟩
      exact ⟨other, List.mem_cons_of_mem cls hmem, hderives⟩

end

/-- A class blames the request exactly when it is, or derives from, the class of
values that are not allowed. -/
theorem blamesRequest_iff (cls : Lineage) :
    cls.faultClass.blamesRequest = true ↔ cls.DerivesFrom .value :=
  ⟨derivesFrom_of_blamesRequest cls, blamesRequest_of_derivesFrom⟩

/-- A fault blames the request exactly when its class, wherever it stands, does so. -/
theorem blamesRequest_kind_iff {cls : Lineage} {fault : Fault} (h : cls.faultClass = fault.kind) :
    fault.kind.blamesRequest = true ↔ cls.DerivesFrom .value := by
  rw [← h]
  exact cls.blamesRequest_iff

/-! ## Every class has a lineage -/

/-- A lineage in which a class is seen as given. -/
theorem exists_faultClass_eq (given : FaultClass) : ∃ cls : Lineage, cls.faultClass = given := by
  rcases given with ⟨name, blames, shows⟩
  refine ⟨.derived name ((if blames then [.value] else []) ++ if shows then [.key] else []), ?_⟩
  rw [faultClass_derived]
  cases blames <;> cases shows <;> rfl

end Lineage

end ProseChart
