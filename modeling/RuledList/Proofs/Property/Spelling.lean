/-
Spellings of property specifications. Written out, a specification has
one form; read back, it may have many. This file says which values are
read, and what as, without saying how: a value presents four fields by
their names or by their places (`PropSpec.Presents`), and each field that
is missing has a meaning of its own (`Says`). A value is read as the
specification that its fields say (`PropSpec.Spelled`), and any other
value is refused, for one of four reasons (`PropSpec.Refused`).

# Round trips

What is written is read back, but for one thing: null in the place of a
default says that there is none, so a default of null is lost
(`PropSpec.withoutNullDefault`). No value that is read spells such a
default, and so every specification that was ever read is kept by
writing and reading it, whatever the spelling it came from.

# Fields

An object is asked for four names and for nothing else. That the order
of its fields is of no matter, and that unknown fields are passed over,
is therefore a fact about look-ups (`PropSpec.ofValue?_congr`).
-/
import RuledList.Proofs.OrdMap.Write
import RuledList.Property.Codec

namespace RuledList

-- ========================================================= single fields

/-- What a field says: a missing one something fixed, one that is there
what its value spells. -/
inductive Says {α : Type} (spells : Value → α → Prop) (unsaid : α) :
    Option Value → α → Prop where
  | missing : Says spells unsaid none unsaid
  | given {v : Value} {a : α} (h : spells v a) :
      Says spells unsaid (some v) a

/-- Reading an optional field is finding out what it says. -/
theorem says_iff {α : Type} {spells : Value → α → Prop}
    {read : Value → Option α}
    (hread : ∀ v a, read v = some a ↔ spells v a) (unsaid a : α)
    (field : Option Value) :
    field.elim (some unsaid) read = some a
      ↔ Says spells unsaid field a := by
  cases field with
  | none =>
      constructor
      · intro h
        cases h
        exact .missing
      · intro h
        cases h
        rfl
  | some v =>
      constructor
      · exact fun h => .given ((hread v a).1 h)
      · intro h
        cases h with
        | given h => exact (hread v a).2 h

namespace PropType

/-- The spellings of a type: its name, and an object that has the name as
its only field and null under it. -/
inductive Spelled : Value → PropType → Prop where
  | name (t : PropType) : Spelled (.string t.name) t
  | field (t : PropType) : Spelled (.object [(t.name, .null)]) t

theorem ofName?_eq_some_iff {s : String} {t : PropType} :
    ofName? s = some t ↔ s = t.name := by
  constructor
  · intro h
    have hname := List.find?_some h
    exact (beq_iff_eq.1 hname).symm
  · intro h
    subst h
    exact ofName?_name t

theorem ofValue?_eq_some_iff (v : Value) (t : PropType) :
    ofValue? v = some t ↔ Spelled v t := by
  constructor
  · intro h
    unfold ofValue? at h
    split at h
    · rw [ofName?_eq_some_iff.1 h]
      exact .name t
    · rw [ofName?_eq_some_iff.1 h]
      exact .field t
    · cases h
  · intro h
    cases h with
    | name => exact ofName?_name t
    | field => exact ofName?_name t

end PropType

namespace PropSpec

/-- The spelling of a flag: a truth value. -/
inductive FlagSpelled : Value → Bool → Prop where
  | bool (b : Bool) : FlagSpelled (.bool b) b

/-- The spellings of a default: null for none, any other value for
itself. -/
inductive DefaultSpelled : Value → Option Value → Prop where
  | null : DefaultSpelled .null none
  | value {v : Value} (h : v ≠ .null) : DefaultSpelled v (some v)

theorem flagOfValue?_eq_some_iff (v : Value) (b : Bool) :
    flagOfValue? v = some b ↔ FlagSpelled v b := by
  constructor
  · intro h
    cases v with
    | bool b' =>
        cases h
        exact .bool b
    | _ => cases h
  · intro h
    cases h with
    | bool => rfl

theorem defaultOfValue_eq_iff (v : Value) (default? : Option Value) :
    defaultOfValue v = default? ↔ DefaultSpelled v default? := by
  constructor
  · intro h
    subst h
    cases v with
    | null => exact .null
    | _ => exact .value (by intro h; cases h)
  · intro h
    cases h with
    | null => rfl
    | value h =>
        cases v with
        | null => exact absurd rfl h
        | _ => rfl

-- ======================================================== whole spellings

/-- The names of the fields, in the order in which they are written. -/
def fieldNames : List String := ["type", "default", "required", "input"]

/-- The fields that a value presents: an object its own, an array of no
more entries than there are fields its entries under the fields' names,
in order. -/
inductive Presents : Value → List (String × Value) → Prop where
  | object (fields : List (String × Value)) :
      Presents (.object fields) fields
  | array {items : List Value} (h : items.length ≤ fieldNames.length) :
      Presents (.array items) (fieldNames.zip items)

/-- What fields say together. A field that is missing leaves the type
open, the default out and a flag down. -/
structure Spelled (fields : List (String × Value)) (s : PropSpec) :
    Prop where
  type : Says PropType.Spelled .any (findEntry "type" fields) s.type
  default : Says DefaultSpelled none (findEntry "default" fields) s.default?
  required :
    Says FlagSpelled false (findEntry "required" fields) s.required
  input : Says FlagSpelled false (findEntry "input" fields) s.input

/-- Why a value spells no specification. -/
inductive Refused : Value → Prop where
  /-- It is neither an object nor an array. -/
  | scalar {v : Value} (hobject : ∀ fields, v ≠ .object fields)
      (harray : ∀ items, v ≠ .array items) : Refused v
  /-- It has more entries than a specification has fields. -/
  | tooLong {items : List Value}
      (h : fieldNames.length < items.length) : Refused (.array items)
  /-- What it gives as the type spells none. -/
  | noType {v w : Value} {fields : List (String × Value)}
      (h : Presents v fields) (hfield : findEntry "type" fields = some w)
      (hw : ∀ t, ¬ PropType.Spelled w t) : Refused v
  /-- What it gives as a flag is no truth value. -/
  | noFlag {v w : Value} {fields : List (String × Value)} {name : String}
      (h : Presents v fields) (hname : name = "required" ∨ name = "input")
      (hfield : findEntry name fields = some w)
      (hw : ∀ b, w ≠ .bool b) : Refused v

-- ================================================================ reading

/-- Reading four fields is reading each of them. -/
theorem ofFields?_eq (type default required input : Option Value) :
    ofFields? type default required input
      = (type.elim (some .any) PropType.ofValue?).bind fun type =>
          (required.elim (some false) flagOfValue?).bind fun required =>
            (input.elim (some false) flagOfValue?).bind fun input =>
              some ⟨type, default.bind defaultOfValue, required,
                input⟩ := by
  cases type <;> cases required <;> cases input <;> rfl

theorem bind_defaultOfValue_eq_iff (field default? : Option Value) :
    field.bind defaultOfValue = default?
      ↔ Says DefaultSpelled none field default? := by
  cases field with
  | none =>
      constructor
      · intro h
        subst h
        exact .missing
      · intro h
        cases h
        rfl
  | some v =>
      refine (defaultOfValue_eq_iff v default?).trans
        ⟨fun h => .given h, fun h => ?_⟩
      cases h with
      | given h => exact h

/-- An object is asked for four names. -/
theorem ofValue?_object (fields : List (String × Value)) :
    ofValue? (.object fields)
      = ofFields? (findEntry "type" fields) (findEntry "default" fields)
          (findEntry "required" fields) (findEntry "input" fields) := rfl

/-- An object is read as what its fields say. -/
theorem ofValue?_object_iff {fields : List (String × Value)}
    {s : PropSpec} :
    ofValue? (.object fields) = some s ↔ Spelled fields s := by
  have htype := says_iff PropType.ofValue?_eq_some_iff .any s.type
    (findEntry "type" fields)
  have hdefault := bind_defaultOfValue_eq_iff
    (findEntry "default" fields) s.default?
  have hflag := says_iff flagOfValue?_eq_some_iff false
  have hrequired := hflag s.required (findEntry "required" fields)
  have hinput := hflag s.input (findEntry "input" fields)
  rw [ofValue?_object, ofFields?_eq]
  simp only [Option.bind_eq_some_iff, Option.some.injEq]
  constructor
  · intro h
    obtain ⟨t, ht, r, hr, i, hi, rfl⟩ := h
    exact ⟨htype.1 ht, hdefault.1 rfl, hrequired.1 hr, hinput.1 hi⟩
  · intro h
    refine ⟨s.type, htype.2 h.type, s.required, hrequired.2 h.required,
      s.input, hinput.2 h.input, ?_⟩
    rw [hdefault.2 h.default]

/-- An array stands for the object with its entries as fields. -/
theorem ofValue?_array {items : List Value}
    (h : items.length ≤ fieldNames.length) :
    ofValue? (.array items) = ofValue? (.object (fieldNames.zip items)) := by
  match items, h with
  | [], _ => rfl
  | [_], _ => rfl
  | [_, _], _ => rfl
  | [_, _, _], _ => rfl
  | [_, _, _, _], _ => rfl
  | _ :: _ :: _ :: _ :: _ :: rest, h =>
      exact absurd h (by simp [fieldNames])

theorem ofValue?_of_presents {v : Value} {fields : List (String × Value)}
    (h : Presents v fields) : ofValue? v = ofValue? (.object fields) := by
  cases h with
  | object => rfl
  | array h => exact ofValue?_array h

theorem ofValue?_tooLong {items : List Value}
    (h : fieldNames.length < items.length) :
    ofValue? (.array items) = none := by
  unfold ofValue?
  exact if_neg (Nat.not_le.2 h)

/-- A value is read as what the fields say that it presents. -/
theorem ofValue?_eq_some_iff {v : Value} {s : PropSpec} :
    ofValue? v = some s ↔
      ∃ fields, Presents v fields ∧ Spelled fields s := by
  constructor
  · intro h
    cases v with
    | object fields =>
        exact ⟨fields, .object fields, ofValue?_object_iff.1 h⟩
    | array items =>
        rcases Nat.lt_or_ge fieldNames.length items.length with hl | hl
        · rw [ofValue?_tooLong hl] at h
          cases h
        · rw [ofValue?_array hl] at h
          exact ⟨_, .array hl, ofValue?_object_iff.1 h⟩
    | _ => cases h
  · intro h
    obtain ⟨fields, hfields, hs⟩ := h
    rw [ofValue?_of_presents hfields]
    exact ofValue?_object_iff.2 hs

-- =============================================================== refusal

/-- A field that is there and spells nothing is the only one that says
nothing. -/
theorem exists_says_or {α : Type} (spells : Value → α → Prop) (unsaid : α)
    (field : Option Value) :
    (∃ a, Says spells unsaid field a)
      ∨ ∃ v, field = some v ∧ ∀ a, ¬ spells v a := by
  cases field with
  | none => exact .inl ⟨unsaid, .missing⟩
  | some v =>
      by_cases h : ∃ a, spells v a
      · exact .inl (h.imp fun _ ha => .given ha)
      · exact .inr ⟨v, rfl, not_exists.1 h⟩

/-- Fields that say nothing together are refused for the type or for a
flag; a default never says nothing. -/
theorem exists_spelled_or_refused {v : Value}
    {fields : List (String × Value)} (h : Presents v fields) :
    (∃ s, Spelled fields s) ∨ Refused v := by
  have hflag : ∀ {name : String}, name = "required" ∨ name = "input" →
      (∃ b, Says FlagSpelled false (findEntry name fields) b)
        ∨ Refused v := by
    intro name hname
    refine (exists_says_or FlagSpelled false _).imp id ?_
    intro h
    obtain ⟨w, hfield, hw⟩ := h
    refine .noFlag h hname hfield ?_
    intro b heq
    subst heq
    exact hw b (.bool b)
  have htype : (∃ t, Says PropType.Spelled .any (findEntry "type" fields) t)
      ∨ Refused v := by
    refine (exists_says_or PropType.Spelled .any _).imp id ?_
    intro h
    obtain ⟨w, hfield, hw⟩ := h
    exact .noType h hfield hw
  rcases htype with ⟨t, ht⟩ | hrefused
  case inr => exact .inr hrefused
  rcases hflag (.inl rfl) with ⟨r, hr⟩ | hrefused
  case inr => exact .inr hrefused
  rcases hflag (.inr rfl) with ⟨i, hi⟩ | hrefused
  case inr => exact .inr hrefused
  have hd := (bind_defaultOfValue_eq_iff _ _).1
    (Eq.refl ((findEntry "default" fields).bind defaultOfValue))
  exact .inl ⟨⟨t, _, r, i⟩, ht, hd, hr, hi⟩

/-- A value that is refused for a reason is not read. -/
theorem ofValue?_of_refused {v : Value} (h : Refused v) :
    ofValue? v = none := by
  refine Option.eq_none_iff_forall_ne_some.2 fun s hs => ?_
  cases h with
  | scalar hobject harray =>
      cases v with
      | object fields => exact hobject fields rfl
      | array items => exact harray items rfl
      | _ => cases hs
  | tooLong h =>
      rw [ofValue?_tooLong h] at hs
      cases hs
  | noType h hfield hw =>
      rw [ofValue?_of_presents h, ofValue?_object_iff] at hs
      have hsays := hs.type
      rw [hfield] at hsays
      cases hsays with
      | given ht => exact hw _ ht
  | @noFlag _ w fields name h hname hfield hw =>
      rw [ofValue?_of_presents h, ofValue?_object_iff] at hs
      have hsays : ∃ b, Says FlagSpelled false (some w) b := by
        rw [← hfield]
        rcases hname with rfl | rfl
        · exact ⟨_, hs.required⟩
        · exact ⟨_, hs.input⟩
      obtain ⟨b, hb⟩ := hsays
      cases hb with
      | given hflag =>
          cases hflag with
          | bool => exact hw b rfl

/-- A value is refused for one of the reasons, or presents fields. -/
theorem exists_presents_or_refused (v : Value) :
    (∃ fields, Presents v fields) ∨ Refused v := by
  cases v with
  | object fields => exact .inl ⟨fields, .object fields⟩
  | array items =>
      rcases Nat.lt_or_ge fieldNames.length items.length with hl | hl
      · exact .inr (.tooLong hl)
      · exact .inl ⟨_, .array hl⟩
  | _ =>
      exact .inr (.scalar (fun _ h => (nomatch h)) fun _ h => (nomatch h))

/-- What is not read is refused for one of the reasons. -/
theorem ofValue?_eq_none_iff {v : Value} :
    ofValue? v = none ↔ Refused v := by
  refine ⟨fun h => ?_, ofValue?_of_refused⟩
  rcases exists_presents_or_refused v with ⟨fields, hfields⟩ | hrefused
  case inr => exact hrefused
  rcases exists_spelled_or_refused hfields with ⟨s, hs⟩ | hrefused
  case inr => exact hrefused
  rw [ofValue?_eq_some_iff.2 ⟨fields, hfields, hs⟩] at h
  cases h

-- ================================================================ fields

/-- Objects that hold the same under the four names are read alike. -/
theorem ofValue?_congr {fields fields' : List (String × Value)}
    (h : ∀ name ∈ fieldNames,
      findEntry name fields = findEntry name fields') :
    ofValue? (.object fields) = ofValue? (.object fields') := by
  rw [ofValue?_object, ofValue?_object, h "type" (by decide),
    h "default" (by decide), h "required" (by decide),
    h "input" (by decide)]

/-- Look-ups by distinct names do not depend on the order of entries. -/
theorem findEntry_perm {α : Type} {entries entries' : List (String × α)}
    (hnodup : (entryNames entries).Nodup) (h : entries.Perm entries')
    (name : String) : findEntry name entries = findEntry name entries' := by
  have hnodup' : (entryNames entries').Nodup := (h.map Prod.fst).nodup hnodup
  refine Option.ext fun v => ?_
  rw [findEntry_eq_some_iff hnodup, findEntry_eq_some_iff hnodup', h.mem_iff]

-- =========================================================== round trips

/-- A specification with a default of null taken for none. -/
def withoutNullDefault (s : PropSpec) : PropSpec :=
  match s.default? with
  | some .null => { s with default? := none }
  | _ => s

theorem withoutNullDefault_eq_self_iff {s : PropSpec} :
    s.withoutNullDefault = s ↔ s.default? ≠ some .null := by
  obtain ⟨t, d, r, i⟩ := s
  constructor
  · intro h heq
    subst heq
    have hdefault := congrArg default? h
    cases hdefault
  · intro h
    unfold withoutNullDefault
    split
    · next hnull => exact absurd hnull h
    · rfl

/-- What is written says what it is written for, null apart. -/
theorem ofValue?_toValue (s : PropSpec) :
    ofValue? s.toValue = some s.withoutNullDefault := by
  obtain ⟨t, d, r, i⟩ := s
  refine ofValue?_object_iff.2 ?_
  cases d with
  | none =>
      exact ⟨.given (.name t), .missing, .given (.bool r), .given (.bool i)⟩
  | some v =>
      cases v with
      | null =>
          exact ⟨.given (.name t), .given .null, .given (.bool r),
            .given (.bool i)⟩
      | _ =>
          exact ⟨.given (.name t), .given (.value (by intro h; cases h)),
            .given (.bool r), .given (.bool i)⟩

/-- No value spells a default of null. -/
theorem default?_ne_null_of_ofValue? {v : Value} {s : PropSpec}
    (h : ofValue? v = some s) : s.default? ≠ some .null := by
  obtain ⟨fields, -, hs⟩ := ofValue?_eq_some_iff.1 h
  have hsays := hs.default
  intro hnull
  rw [hnull] at hsays
  generalize findEntry "default" fields = field at hsays
  cases hsays with
  | given hd =>
      cases hd with
      | value h => exact h rfl

-- ========================================================== main results

/-- Specifications and their spellings. A specification that is written
and read back is itself, except that a default of null is lost; so it
is itself exactly when it has no such default. A value is read as a
specification exactly when the fields it presents say so, by name in
an object and by place in an array; the specification that comes out,
whatever the spelling, is kept by writing and reading it. Every other
value is refused: it is no object and no array, it has too many entries,
its type is none, or one of its flags is no truth value. In an object
the order of the fields does not matter, and a field with any other name
may be there or not. -/
theorem spec_survives_its_spelling :
    (∀ s : PropSpec, ofValue? s.toValue = some s.withoutNullDefault)
    ∧ (∀ s : PropSpec,
        ofValue? s.toValue = some s ↔ s.default? ≠ some .null)
    ∧ (∀ (v : Value) (s : PropSpec), ofValue? v = some s ↔
        ∃ fields, Presents v fields ∧ Spelled fields s)
    ∧ (∀ (v : Value) (s : PropSpec), ofValue? v = some s →
        ofValue? s.toValue = some s)
    ∧ (∀ v : Value, ofValue? v = none ↔ Refused v)
    ∧ (∀ fields fields' : List (String × Value),
        (entryNames fields).Nodup → fields.Perm fields' →
        ofValue? (.object fields) = ofValue? (.object fields'))
    ∧ ∀ (fields : List (String × Value)) (name : String) (v : Value),
        name ∉ fieldNames →
        ofValue? (.object (putEntry name v fields))
          = ofValue? (.object fields) := by
  have hself : ∀ s : PropSpec,
      ofValue? s.toValue = some s ↔ s.default? ≠ some .null := by
    intro s
    rw [ofValue?_toValue, Option.some.injEq]
    exact withoutNullDefault_eq_self_iff
  refine ⟨ofValue?_toValue, hself, fun v s => ofValue?_eq_some_iff,
    fun v s h => (hself s).2 (default?_ne_null_of_ofValue? h),
    fun v => ofValue?_eq_none_iff, fun fields fields' hnodup h => ?_,
    fun fields name v hname => ?_⟩
  · exact ofValue?_congr fun name _ => findEntry_perm hnodup h name
  · refine ofValue?_congr fun other hother => ?_
    have hne : name ≠ other := by
      intro h
      subst h
      exact hname hother
    rw [findEntry_putEntry, if_neg hne]

/-- A number that may be bound, spelled by place with a type in its long
form and with null for no default, and by name in another order with a
field that means nothing. Both are read as the same specification, which
writing and reading keeps. -/
theorem number_survives_its_spelling :
    let s : PropSpec := ⟨.number, none, false, true⟩
    let placed : Value :=
      .array [.object [("number", .null)], .null, .bool false, .bool true]
    let named := [("input", Value.bool true), ("type", .string "number")]
    ofValue? placed = some s ∧ ofValue? s.toValue = some s
      ∧ (entryNames named).Nodup ∧ named.Perm named.reverse
      ∧ ofValue? (.object named) = ofValue? (.object named.reverse)
      ∧ "extra" ∉ fieldNames
      ∧ ofValue? (.object (putEntry "extra" .null named)) = some s := by
  intro s placed named
  have hplaced : ofValue? placed = some s := rfl
  have hnodup : (entryNames named).Nodup := by decide
  have hperm : named.Perm named.reverse := (List.reverse_perm named).symm
  have hextra : "extra" ∉ fieldNames := by decide
  obtain ⟨-, -, -, hkept, -, horder, hunknown⟩ :=
    spec_survives_its_spelling
  exact ⟨hplaced, hkept placed s hplaced, hnodup, hperm,
    horder named named.reverse hnodup hperm, hextra,
    hunknown named "extra" .null hextra⟩

end PropSpec

end RuledList
