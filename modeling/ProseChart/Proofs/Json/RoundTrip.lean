import Mathlib.Data.List.Forall2
import Mathlib.Data.List.Nodup
import ProseChart.Json.Shape
import ProseChart.Proofs.Json.Token

/-!
# ProseChart.Proofs.Json.RoundTrip — what is printed is read back

The reader is the inverse of the printer in both layouts, on all values whose notation says
everything about them: no surrogates stand alone in their texts, the keys of an object are
distinct, and no number is a double. A part is read up to where it ends whatever follows
it, so the induction is on the value, with the text behind it left open.

* `Json.Legible` — the values that are read back within bounds.
* `Json.reads_enclose` — brackets around parts that are read back.
* `Json.Legible.reads` — a value, whatever stands behind it.
* `Json.readWithin_print`, `Json.read_print` — a whole text.
-/

namespace ProseChart.Json

/-- The values whose text says everything about them, with integers that are within
bounds. -/
inductive Legible (bounds : Bounds) : Value → Prop
  | null : Legible bounds .null
  | bool (b : Bool) : Legible bounds (.bool b)
  | integer {n : Int} (hdigits : bounds.digitExcess? (Text.ofNat n.natAbs).length = none) :
      Legible bounds (.integer n)
  | text (t : Text) : Legible bounds (.text t)
  | array {items : List Value} (hitems : ∀ item ∈ items, Legible bounds item) :
      Legible bounds (.array items)
  | object {members : List (LooseText × Value)} (hkeys : (members.map Prod.fst).Nodup)
      (htexts : ∀ member ∈ members, member.1.isText = true)
      (hvalues : ∀ member ∈ members, Legible bounds member.2) : Legible bounds (.object members)

variable {α : Type} {bounds : Bounds} {room depth depth' fuel : Nat} {layout : Layout}
  {part : Text → Reading α} {written : List Text} {found : List α} {opening closing c : Char}
  {t gap separator later behind rest : Text} {a : α} {v : Value}

/-! ## Blanks -/

theorem skipBlanks_append (hgap : ∀ c ∈ gap, isBlank c = true) :
    skipBlanks (gap ++ t) = skipBlanks t :=
  List.dropWhile_append_of_pos hgap

theorem skipBlanks_cons (hc : isBlank c = false) : skipBlanks (c :: t) = c :: t := by
  unfold skipBlanks
  rw [List.dropWhile_cons_of_neg (by simp [hc])]

theorem isBlank_of_mem_lineBreak : ∀ c ∈ layout.lineBreak depth, isBlank c = true := by
  intro c hc
  cases layout with
  | inline => cases hc
  | indented =>
    rcases List.mem_cons.mp hc with rfl | hc
    · rfl
    · rw [List.eq_of_mem_replicate hc]
      rfl

/-- Between two parts stand a comma and blanks. -/
theorem exists_between (layout : Layout) (depth : Nat) :
    ∃ gap, layout.between depth = ',' :: gap ∧ ∀ c ∈ gap, isBlank c = true := by
  cases layout with
  | inline => exact ⟨[' '], rfl, List.forall_mem_singleton.mpr rfl⟩
  | indented => exact ⟨_, rfl, isBlank_of_mem_lineBreak⟩

/-- The characters with which a text can begin that the reader does not skip, and that do
not end an array or an object. -/
def isSolid (c : Char) : Bool := !isBlank c && c != ']' && c != '}' && c != '\uFEFF'

/-- A text begins with such a character. -/
def Solid (t : Text) : Prop := ∃ c u, t = c :: u ∧ isSolid c = true

theorem Solid.append (h : Solid t) : Solid (t ++ rest) := by
  rcases h with ⟨c, u, rfl, hc⟩
  exact ⟨c, u ++ rest, rfl, hc⟩

theorem Solid.skipBlanks_eq (h : Solid t) : skipBlanks t = t := by
  rcases h with ⟨c, u, rfl, hc⟩
  apply skipBlanks_cons
  cases hblank : isBlank c with
  | false => rfl
  | true =>
    rw [isSolid, hblank] at hc
    cases hc

theorem Solid.length_pos (h : Solid t) : 0 < t.length := by
  rcases h with ⟨c, u, rfl, -⟩
  exact Nat.succ_pos _

theorem Solid.intercalate (h : Solid t) : Solid (List.intercalate separator (t :: written)) := by
  cases written with
  | nil =>
    rw [List.intercalate_singleton]
    exact h
  | cons next written =>
    rw [List.intercalate_cons_cons, List.append_assoc]
    exact h.append

/-! ## Arrays and objects -/

/-- Behind a text, a part of the reader gets a result and leaves the rest. -/
def Reads (part : Text → Reading α) (t : Text) (a : α) : Prop :=
  ∀ rest, Ends rest → part (t ++ rest) = .ok (a, rest)

/-- The last part stands before the closing bracket. -/
theorem parts_last (hread : Reads part t a) (hbehind : Ends behind)
    (hclosed : skipBlanks behind = closing :: rest) :
    parts part closing (fuel + 1) (t ++ behind) = .ok ([a], rest) := by
  rw [parts, hread behind hbehind]
  simp only [hclosed, if_true]

/-- Every other part stands before a comma. -/
theorem parts_comma (hclosing : closing ≠ ',') (hread : Reads part t a)
    (hlater : parts part closing fuel (skipBlanks later) = .ok (found, rest)) :
    parts part closing (fuel + 1) (t ++ ',' :: later) = .ok (a :: found, rest) := by
  have hends : Ends (',' :: later) := by
    intro c hc
    exact Or.inl (Option.some.inj hc).symm
  have hblank : isBlank ',' = false := rfl
  rw [parts, hread _ hends]
  simp only [skipBlanks_cons hblank, hclosing.symm, if_false, if_true, hlater]

/-- Parts are read one after the other up to the closing bracket. The induction is on the
parts, with the fuel generalized. -/
theorem parts_intercalate (hclosing : closing ≠ ',') (hgap : ∀ c ∈ gap, isBlank c = true)
    (hbehind : Ends behind) (hclosed : skipBlanks behind = closing :: rest)
    (hreads : List.Forall₂ (Reads part) written found) (hne : written ≠ [])
    (hsolid : ∀ t ∈ written, Solid t) (hfuel : written.length ≤ fuel) :
    parts part closing fuel (List.intercalate (',' :: gap) written ++ behind) =
      .ok (found, rest) := by
  induction hreads generalizing fuel with
  | nil => exact absurd rfl hne
  | @cons t a written found hread hothers ih =>
    obtain ⟨fuel, rfl⟩ : ∃ k, fuel = k + 1 :=
      Nat.exists_eq_add_one.mpr (Nat.lt_of_lt_of_le (Nat.succ_pos _) hfuel)
    cases hothers with
    | nil =>
      rw [List.intercalate_singleton]
      exact parts_last hread hbehind hclosed
    | @cons next b written found hnext hothers =>
      have hsolids : ∀ t ∈ next :: written, Solid t := (List.forall_mem_cons.mp hsolid).2
      have hstart : Solid (List.intercalate (',' :: gap) (next :: written) ++ behind) :=
        (hsolids next List.mem_cons_self).intercalate.append
      have hlater := ih (List.cons_ne_nil _ _) hsolids (Nat.le_of_succ_le_succ hfuel)
      -- the reader skips the blanks behind the comma, and they end where the next part begins
      rw [← hstart.skipBlanks_eq, ← skipBlanks_append hgap] at hlater
      have hcomma := parts_comma hclosing hread hlater
      rw [List.intercalate_cons_cons, List.append_assoc, List.append_assoc]
      exact hcomma

theorem length_le_intercalate (gap : Text) (written : List Text) :
    written.length ≤ (List.intercalate (',' :: gap) written).length + 1 := by
  induction written with
  | nil => exact Nat.zero_le _
  | cons t written ih =>
    cases written with
    | nil => simp
    | cons next written =>
      rw [List.intercalate_cons_cons]
      simp only [List.length_append, List.length_cons] at ih ⊢
      omega

/-- A closing bracket. -/
def IsClosing (c : Char) : Prop := c = ']' ∨ c = '}'

theorem IsClosing.not_isBlank (h : IsClosing closing) : isBlank closing = false := by
  rcases h with rfl | rfl <;> rfl

theorem IsClosing.ne_comma (h : IsClosing closing) : closing ≠ ',' := by
  rcases h with rfl | rfl <;> decide

/-- No part begins with a closing bracket. -/
theorem IsClosing.ne_of_isSolid (h : IsClosing closing) (hc : isSolid c = true) : c ≠ closing := by
  rintro rfl
  rcases h with rfl | rfl <;> cases hc

theorem IsClosing.ends (h : IsClosing closing) : Ends (closing :: rest) := by
  intro c hc
  rw [← Option.some.inj hc]
  rcases h with rfl | rfl
  · exact Or.inr (Or.inl rfl)
  · exact Or.inr (Or.inr (Or.inl rfl))

theorem ends_lineBreak_append (hclosing : IsClosing closing) :
    Ends (layout.lineBreak depth ++ closing :: rest) := by
  cases layout with
  | inline => exact hclosing.ends
  | indented =>
    intro c hc
    exact Or.inr (Or.inr (Or.inr (Option.some.inj hc).symm))

theorem skipBlanks_lineBreak_append (hclosing : IsClosing closing) :
    skipBlanks (layout.lineBreak depth ++ closing :: rest) = closing :: rest := by
  rw [skipBlanks_append isBlank_of_mem_lineBreak, skipBlanks_cons hclosing.not_isBlank]

/-- What does not close at once begins with a part. -/
theorem enclosed_eq_parts (hclosing : IsClosing closing) (hsolid : Solid (skipBlanks t)) :
    enclosed part closing t = parts part closing (skipBlanks t).length (skipBlanks t) := by
  rcases hsolid with ⟨c, u, hskip, hc⟩
  unfold enclosed
  rw [hskip]
  exact if_neg (hclosing.ne_of_isSolid hc)

/-- Brackets around parts are read back. -/
theorem enclosed_enclose (layout : Layout) (depth : Nat) (opening : Char) (rest : Text)
    (hclosing : IsClosing closing) (hreads : List.Forall₂ (Reads part) written found)
    (hsolid : ∀ t ∈ written, Solid t) :
    ∃ inside, layout.enclose depth opening closing written ++ rest = opening :: inside ∧
      enclosed part closing inside = .ok (found, rest) := by
  by_cases hne : written = []
  · -- without parts the brackets touch
    subst hne
    cases hreads
    refine ⟨closing :: rest, rfl, ?_⟩
    unfold enclosed
    rw [skipBlanks_cons hclosing.not_isBlank]
    exact if_pos rfl
  · obtain ⟨gap, hbetween, hgap⟩ := exists_between layout (depth + 1)
    let behind := layout.lineBreak depth ++ closing :: rest
    let inner := List.intercalate (',' :: gap) written ++ behind
    have hinside : layout.enclose depth opening closing written ++ rest =
        opening :: (layout.lineBreak (depth + 1) ++ inner) := by
      simp [Layout.enclose, hne, hbetween, inner, behind]
    have hstart : Solid inner := by
      obtain ⟨t, others, rfl⟩ := List.exists_cons_of_ne_nil hne
      exact (hsolid t List.mem_cons_self).intercalate.append
    have hskip : skipBlanks (layout.lineBreak (depth + 1) ++ inner) = inner := by
      rw [skipBlanks_append isBlank_of_mem_lineBreak, hstart.skipBlanks_eq]
    -- the fuel is the length of the text, and every part but one has a comma behind it
    have hfuel : written.length ≤ inner.length := by
      have hle := length_le_intercalate gap written
      simp only [inner, behind, List.length_append, List.length_cons]
      omega
    refine ⟨_, hinside, ?_⟩
    rw [enclosed_eq_parts hclosing (by rwa [hskip]), hskip]
    exact parts_intercalate hclosing.ne_comma hgap (ends_lineBreak_append hclosing)
      (skipBlanks_lineBreak_append hclosing) hreads hne hsolid hfuel

/-- What stands in brackets is read back by a reader that goes on with the parts behind the
opening bracket. -/
theorem reads_enclose {β : Type} {whole : Text → Reading β} {assemble : List α → β}
    (hclosing : IsClosing closing) (hreads : List.Forall₂ (Reads part) written found)
    (hsolid : ∀ t ∈ written, Solid t)
    (hwhole : ∀ inside, whole (opening :: inside) =
      (enclosed part closing inside).map fun (found, after) => (assemble found, after)) :
    Reads whole (layout.enclose depth opening closing written) (assemble found) := by
  intro rest _
  obtain ⟨inside, hopen, henclosed⟩ :=
    enclosed_enclose layout depth opening rest hclosing hreads hsolid
  rw [hopen, hwhole, henclosed]
  rfl

/-! ## Members -/

/-- A key, a colon and a value are read back. -/
theorem member_append {key : LooseText} {value : Text → Reading Value} (hkey : key.isText = true)
    (hsolid : Solid t) (hread : Reads value t v) :
    Reads (member value) (quote key ++ ": " ++ t) (key, v) := by
  intro rest hrest
  obtain ⟨k, rfl⟩ := LooseText.exists_ofText hkey
  have hall : quote k ++ ": " ++ t ++ rest =
      '"' :: (k.flatMap escapeChar ++ '"' :: ':' :: ' ' :: (t ++ rest)) := by
    rw [List.append_assoc, List.append_assoc, quote_append]
    rfl
  have hcolon : skipBlanks (':' :: ' ' :: (t ++ rest)) = ':' :: ' ' :: (t ++ rest) :=
    skipBlanks_cons rfl
  have hvalue : skipBlanks (' ' :: (t ++ rest)) = t ++ rest := by
    show skipBlanks (t ++ rest) = t ++ rest
    exact hsolid.append.skipBlanks_eq
  rw [hall, member, body_flatMap_escapeChar]
  simp only [hcolon, hvalue, hread rest hrest]

theorem put_of_notMem {members : List (LooseText × Value)} {member : LooseText × Value}
    (hkey : member.1 ∉ members.map Prod.fst) : Value.put members member = members ++ [member] := by
  induction members with
  | nil => rfl
  | cons first others ih =>
    rw [List.map_cons, List.mem_cons, not_or] at hkey
    rw [Value.put, if_neg (Ne.symm hkey.1), ih hkey.2, List.cons_append]

/-- Members with distinct keys are put one behind the other. -/
theorem foldl_put {members others : List (LooseText × Value)}
    (hkeys : ((members ++ others).map Prod.fst).Nodup) :
    others.foldl Value.put members = members ++ others := by
  induction others generalizing members with
  | nil => rw [List.foldl_nil, List.append_nil]
  | cons member others ih =>
    have hnew : member.1 ∉ members.map Prod.fst := by
      intro hmem
      rw [List.map_append, List.map_cons] at hkeys
      exact List.disjoint_of_nodup_append hkeys hmem List.mem_cons_self
    have hall : members ++ member :: others = members ++ [member] ++ others := by simp
    rw [hall] at hkeys ⊢
    rw [List.foldl_cons, put_of_notMem hnew, ih hkeys]

theorem ofMembers_of_nodup {members : List (LooseText × Value)}
    (hkeys : (members.map Prod.fst).Nodup) : Value.ofMembers members = .object members := by
  have hput : members.foldl Value.put [] = [] ++ members := foldl_put hkeys
  exact congrArg Value.object hput

/-! ## One step of the reader -/

/-- No name begins with a digit, nor with a minus before a digit. -/
theorem named?_of_isDigit (hc : c.isDigit = true) :
    named? (c :: t) = none ∧ named? ('-' :: c :: t) = none := by
  have hother : ∀ k : Char, k.isDigit = false → (k == c) = false := by
    intro k hk
    exact beq_false_of_ne (Text.ne_of_isDigit hc hk).symm
  constructor
  · simp [named?, names, List.isPrefixOf, hother]
  · simp [named?, names, List.isPrefixOf, hother]

theorem value_quote (t : Text) :
    value bounds room ('"' :: t) =
      (body ('"' :: t) t).map fun (read, after) => (.text read, after) := by
  rw [value.eq_def]
  rfl

theorem value_bracket (t : Text) :
    value bounds (room + 1) ('[' :: t) =
      (enclosed (value bounds room) ']' t).map fun (items, after) => (.array items, after) := by
  rw [value.eq_def]
  rfl

theorem value_brace (t : Text) :
    value bounds (room + 1) ('\x7b' :: t) =
      (enclosed (member (value bounds room)) '\x7d' t).map fun (members, after) =>
        (Value.ofMembers members, after) := by
  rw [value.eq_def]
  rfl

theorem value_named {read : Value × Text} (hc : c ≠ '"' ∧ c ≠ '[' ∧ c ≠ '\x7b')
    (hname : named? (c :: t) = some read) : value bounds room (c :: t) = .ok read := by
  rw [value.eq_def]
  simp [hc, hname]

theorem value_number (hc : c ≠ '"' ∧ c ≠ '[' ∧ c ≠ '\x7b')
    (hname : named? (c :: t) = none) :
    value bounds room (c :: t) = number bounds (c :: t) := by
  rw [value.eq_def]
  simp [hc, hname]

/-- An integer is neither a text nor a name, and no bracket opens. -/
theorem value_ofInt (z : Int) (rest : Text) :
    value bounds room (Text.ofInt z ++ rest) = number bounds (Text.ofInt z ++ rest) := by
  cases z with
  | ofNat n =>
    obtain ⟨c, u, hcons, hc⟩ := Text.exists_ofNat n
    show value bounds room (Text.ofNat n ++ rest) = number bounds (Text.ofNat n ++ rest)
    rw [hcons]
    exact value_number ⟨Text.ne_of_isDigit hc rfl, Text.ne_of_isDigit hc rfl, Text.ne_of_isDigit hc rfl⟩
      (named?_of_isDigit hc).1
  | negSucc n =>
    obtain ⟨c, u, hcons, hc⟩ := Text.exists_ofNat (n + 1)
    show value bounds room ('-' :: (Text.ofNat (n + 1) ++ rest)) =
      number bounds ('-' :: (Text.ofNat (n + 1) ++ rest))
    rw [hcons]
    exact value_number (by decide) (named?_of_isDigit hc).2

/-! ## Values -/

theorem printItems_eq_map (items : List Value) :
    Value.printItems layout depth items = items.map (Value.printAt layout depth) := by
  induction items with
  | nil => rfl
  | cons item items ih => rw [Value.printItems, ih, List.map_cons]

/-- A member of an object as it is printed. -/
def printMember (layout : Layout) (depth : Nat) (member : LooseText × Value) : Text :=
  quote member.1 ++ ": " ++ Value.printAt layout depth member.2

theorem printMembers_eq_map (members : List (LooseText × Value)) :
    Value.printMembers layout depth members = members.map (printMember layout depth) := by
  induction members with
  | nil => rfl
  | cons member members ih =>
    rw [Value.printMembers, ih, List.map_cons]
    rfl

theorem itemLevels_le_iff {items : List Value} {k : Nat} :
    Value.itemLevels items ≤ k ↔ ∀ item ∈ items, item.levels ≤ k := by
  induction items with
  | nil => simp [Value.itemLevels]
  | cons item items ih => rw [Value.itemLevels, Nat.max_le, ih, List.forall_mem_cons]

theorem memberLevels_le_iff {members : List (LooseText × Value)} {k : Nat} :
    Value.memberLevels members ≤ k ↔ ∀ member ∈ members, member.2.levels ≤ k := by
  induction members with
  | nil => simp [Value.memberLevels]
  | cons member members ih => rw [Value.memberLevels, Nat.max_le, ih, List.forall_mem_cons]

/-- What stands in brackets begins with the bracket. -/
theorem exists_enclose (layout : Layout) (depth : Nat) (opening closing : Char)
    (written : List Text) : ∃ u, layout.enclose depth opening closing written = opening :: u := by
  unfold Layout.enclose
  split
  · exact ⟨_, rfl⟩
  · exact ⟨_, rfl⟩

theorem Legible.solid (h : Legible bounds v) : Solid (v.printAt layout depth) := by
  cases h with
  | null => exact ⟨'n', _, rfl, rfl⟩
  | bool b =>
    cases b with
    | true => exact ⟨'t', _, rfl, rfl⟩
    | false => exact ⟨'f', _, rfl, rfl⟩
  | @integer z hdigits =>
    cases z with
    | ofNat n =>
      obtain ⟨c, u, hcons, hc⟩ := Text.exists_ofNat n
      refine ⟨c, u, hcons, ?_⟩
      have hother : ∀ k : Char, k.isDigit = false → c ≠ k := by
        intro k hk
        exact Text.ne_of_isDigit hc hk
      simp [isSolid, isBlank, hother]
    | negSucc n => exact ⟨'-', _, rfl, rfl⟩
  | text t => exact ⟨'"', _, rfl, rfl⟩
  | array hitems =>
    obtain ⟨u, hcons⟩ := exists_enclose layout depth '[' ']' _
    exact ⟨'[', u, hcons, rfl⟩
  | object hkeys htexts hvalues =>
    obtain ⟨u, hcons⟩ := exists_enclose layout depth '\x7b' '\x7d' _
    exact ⟨'\x7b', u, hcons, rfl⟩

/-- An array is read back where its items are, with room for one container less. -/
theorem reads_array {items : List Value}
    (hreads : ∀ item ∈ items, Reads (value bounds room) (item.printAt layout (depth + 1)) item)
    (hsolid : ∀ item ∈ items, Solid (item.printAt layout (depth + 1))) :
    Reads (value bounds (room + 1)) ((Value.array items).printAt layout depth) (.array items) := by
  have hparts : List.Forall₂ (Reads (value bounds room))
      (items.map (Value.printAt layout (depth + 1))) items := by
    rw [List.forall₂_map_left_iff, List.forall₂_same]
    exact hreads
  have hsolids : ∀ t ∈ items.map (Value.printAt layout (depth + 1)), Solid t := by
    intro t ht
    obtain ⟨item, hitem, rfl⟩ := List.mem_map.mp ht
    exact hsolid item hitem
  show Reads (value bounds (room + 1)) (layout.enclose depth '[' ']' _) _
  rw [printItems_eq_map]
  exact reads_enclose (Or.inl rfl) hparts hsolids value_bracket

/-- An object in which no key comes twice is read back where its values are, with room
for one container less. -/
theorem reads_object {members : List (LooseText × Value)} (hkeys : (members.map Prod.fst).Nodup)
    (htexts : ∀ member ∈ members, member.1.isText = true)
    (hreads : ∀ member ∈ members,
      Reads (value bounds room) (member.2.printAt layout (depth + 1)) member.2)
    (hsolid : ∀ member ∈ members, Solid (member.2.printAt layout (depth + 1))) :
    Reads (value bounds (room + 1)) ((Value.object members).printAt layout depth)
      (.object members) := by
  have hparts : List.Forall₂ (Reads (member (value bounds room)))
      (members.map (printMember layout (depth + 1))) members := by
    rw [List.forall₂_map_left_iff, List.forall₂_same]
    intro member hmember
    exact member_append (htexts member hmember) (hsolid member hmember) (hreads member hmember)
  have hsolids : ∀ t ∈ members.map (printMember layout (depth + 1)), Solid t := by
    intro t ht
    obtain ⟨member, hmember, rfl⟩ := List.mem_map.mp ht
    -- a member begins with the quote of its key
    exact ⟨'"', _, rfl, rfl⟩
  show Reads (value bounds (room + 1)) (layout.enclose depth '\x7b' '\x7d' _) _
  rw [printMembers_eq_map, ← ofMembers_of_nodup hkeys]
  exact reads_enclose (Or.inr rfl) hparts hsolids value_brace

/-- A value is read back whatever stands behind it. The induction is on the value; what is
inside an array or an object has one level less, as its reader has one level of room less. -/
theorem Legible.reads (h : Legible bounds v) (hroom : v.levels ≤ room) :
    Reads (value bounds room) (v.printAt layout depth) v := by
  induction h generalizing room depth with
  | null =>
    intro rest _
    exact value_named (by decide) rfl
  | bool b =>
    intro rest _
    cases b with
    | true => exact value_named (by decide) rfl
    | false => exact value_named (by decide) rfl
  | @integer z hdigits =>
    intro rest hrest
    show value bounds room (Text.ofInt z ++ rest) = _
    rw [value_ofInt, number_ofInt hrest hdigits]
  | text t =>
    intro rest _
    show value bounds room (quote t ++ rest) = _
    rw [quote_append, value_quote, body_flatMap_escapeChar]
    rfl
  | @array items hitems ih =>
    obtain ⟨room, rfl⟩ : ∃ k, room = k + 1 :=
      Nat.exists_eq_add_one.mpr (Nat.lt_of_lt_of_le (Nat.succ_pos _) hroom)
    have hlevels := itemLevels_le_iff.mp (Nat.le_of_succ_le_succ hroom)
    apply reads_array
    · intro item hitem
      exact ih item hitem (hlevels item hitem)
    · intro item hitem
      exact (hitems item hitem).solid
  | @object members hkeys htexts hvalues ih =>
    obtain ⟨room, rfl⟩ : ∃ k, room = k + 1 :=
      Nat.exists_eq_add_one.mpr (Nat.lt_of_lt_of_le (Nat.succ_pos _) hroom)
    have hlevels := memberLevels_le_iff.mp (Nat.le_of_succ_le_succ hroom)
    apply reads_object hkeys htexts
    · intro member hmember
      exact ih member hmember (hlevels member hmember)
    · intro member hmember
      exact (hvalues member hmember).solid

/-! ## Whole texts -/

theorem length_le_intercalate_of_mem (separator : Text) (ht : t ∈ written) :
    t.length ≤ (List.intercalate separator written).length := by
  induction written with
  | nil => cases ht
  | cons first written ih =>
    cases written with
    | nil =>
      rw [List.mem_singleton.mp ht]
      exact Nat.le_of_eq (congrArg List.length List.intercalate_singleton.symm)
    | cons next written =>
      rw [List.intercalate_cons_cons, List.length_append, List.length_append]
      rcases List.mem_cons.mp ht with rfl | ht
      · omega
      · have hle := ih ht
        omega

/-- Brackets make a text longer than every part. -/
theorem length_lt_enclose (layout : Layout) (depth : Nat) (opening closing : Char)
    (ht : t ∈ written) :
    t.length < (layout.enclose depth opening closing written).length := by
  have hne : ¬ written.isEmpty = true := by
    intro hempty
    rw [List.isEmpty_iff.mp hempty] at ht
    cases ht
  have hle := length_le_intercalate_of_mem (layout.between (depth + 1)) ht
  unfold Layout.enclose
  rw [if_neg hne]
  simp only [List.length_cons, List.length_append]
  omega

theorem Legible.length_pos (h : Legible bounds v) (layout : Layout) (depth : Nat) :
    0 < (v.printAt layout depth).length :=
  Solid.length_pos h.solid

/-- A text has at least as many characters as its value has levels, so that a reader without
a bound on the nesting has room for it. -/
theorem Legible.levels_le_length (h : Legible bounds v) :
    v.levels ≤ (v.printAt layout depth).length := by
  induction h generalizing depth with
  | null =>
    have h : Legible bounds .null := .null
    exact h.length_pos layout depth
  | bool b =>
    have h : Legible bounds (.bool b) := .bool b
    exact h.length_pos layout depth
  | integer hdigits =>
    have h := Legible.integer hdigits
    exact h.length_pos layout depth
  | text t =>
    have h : Legible bounds (.text t) := .text t
    exact h.length_pos layout depth
  | @array items hitems ih =>
    have hpos := (Legible.array hitems).length_pos layout depth
    have hbelow : Value.itemLevels items ≤
        ((Value.array items).printAt layout depth).length - 1 := by
      apply itemLevels_le_iff.mpr
      intro item hitem
      have hprinted : item.printAt layout (depth + 1) ∈
          Value.printItems layout (depth + 1) items := by
        rw [printItems_eq_map]
        exact List.mem_map_of_mem hitem
      have hlt := length_lt_enclose layout depth '[' ']' hprinted
      exact Nat.le_sub_one_of_lt (Nat.lt_of_le_of_lt (ih item hitem) hlt)
    show Value.itemLevels items + 1 ≤ _
    omega
  | @object members hkeys htexts hvalues ih =>
    have hpos := (Legible.object hkeys htexts hvalues).length_pos layout depth
    have hbelow : Value.memberLevels members ≤
        ((Value.object members).printAt layout depth).length - 1 := by
      apply memberLevels_le_iff.mpr
      intro member hmember
      have hprinted : printMember layout (depth + 1) member ∈
          Value.printMembers layout (depth + 1) members := by
        rw [printMembers_eq_map]
        exact List.mem_map_of_mem hmember
      have hlt := length_lt_enclose layout depth '\x7b' '\x7d' hprinted
      have hle : member.2.levels ≤ (printMember layout (depth + 1) member).length := by
        have hvalue : member.2.levels ≤ (member.2.printAt layout (depth + 1)).length :=
          ih member hmember
        unfold printMember
        simp only [List.length_append]
        omega
      exact Nat.le_sub_one_of_lt (Nat.lt_of_le_of_lt hle hlt)
    show Value.memberLevels members + 1 ≤ _
    omega

/-- What may stand behind the value of a whole text: nothing, or blanks from a line feed on. -/
structure Trails (gap : Text) : Prop where
  blank : ∀ c ∈ gap, isBlank c = true
  ends : Ends gap

theorem trails_nil : Trails [] where
  blank := by
    intro c hc
    cases hc
  ends := by
    intro c hc
    cases hc

theorem trails_feed : Trails ['\n'] where
  blank := by
    intro c hc
    rw [List.mem_singleton.mp hc]
    rfl
  ends := by
    intro c hc
    exact Or.inr (Or.inr (Or.inr (Option.some.inj hc).symm))

/-- A printed value is read back within bounds that leave room for it. -/
theorem readWithin_print (h : Legible bounds v) (hgap : Trails gap)
    (hroom : v.levels ≤ bounds.nesting.getD (v.print layout ++ gap).length) :
    readWithin bounds (v.print layout ++ gap) = .ok v := by
  have hsolid : Solid (v.print layout ++ gap) := h.solid.append
  have hmark : (v.print layout ++ gap).head? ≠ some '\uFEFF' := by
    rcases hsolid with ⟨c, u, hcons, hc⟩
    rw [hcons]
    intro hhead
    rw [Option.some.inj hhead] at hc
    cases hc
  have hread : value bounds (bounds.nesting.getD (v.print layout ++ gap).length)
      (v.print layout ++ gap) = .ok (v, gap) := h.reads hroom gap hgap.ends
  have hrest : skipBlanks gap = [] := by
    have happend := skipBlanks_append (t := []) hgap.blank
    rwa [List.append_nil] at happend
  unfold readWithin
  rw [if_neg hmark, hsolid.skipBlanks_eq, hread]
  simp only [hrest]

/-- Without bounds, every legible value is read back. -/
theorem read_print (h : Legible {} v) (hgap : Trails gap) :
    read (v.print layout ++ gap) = .ok v := by
  apply readWithin_print h hgap
  show v.levels ≤ (v.print layout ++ gap).length
  rw [List.length_append]
  exact Nat.le_add_right_of_le h.levels_le_length

end ProseChart.Json
