/-
Lists of items spelled as values. A value spells a list of items when it
is an array of objects (`SpellsItems`). Any other value is refused, and
the refusal says why: it is no array, or its first entry that is no
object stands at a certain position (`Misspells`). Nothing else is ever
wrong with a list of items, and where `data` stands among what is passed
is of no matter (`passedItems_eq_error_iff`).
-/
import RuledList.Proofs.OrdMap.Write
import RuledList.Instance.Basic

namespace RuledList

/-- A value that spells a list of items: an array of objects, each of
which is the item that its fields write. -/
inductive SpellsItems : Value → List Props → Prop where
  | objects (fieldss : List (List (String × Value))) :
      SpellsItems (.array (fieldss.map .object))
        (fieldss.map OrdMap.ofList)

/-- Why a value spells no list of items. -/
inductive Misspells : Value → BindingError → Prop where
  /-- It is no array. -/
  | notArray {v : Value} (h : ∀ items, v ≠ .array items) :
      Misspells v (.dataNotArray v)
  /-- An entry is no object, and all before it are. -/
  | notObject {before after : List Value} {bad : Value}
      (hbefore : ∀ v ∈ before, ∃ fields, v = .object fields)
      (hbad : ∀ fields, bad ≠ .object fields) :
      Misspells (.array (before ++ bad :: after))
        (.itemNotObject before.length)

theorem Props.ofValue?_eq_none_iff {v : Value} :
    Props.ofValue? v = none ↔ ∀ fields, v ≠ .object fields := by
  cases v with
  | object fields =>
      exact ⟨fun h => (nomatch h), fun h => absurd rfl (h fields)⟩
  | _ => exact ⟨fun _ _ h => (nomatch h), fun _ => rfl⟩

theorem Props.exists_fields_of_ofValue? {v : Value} {item : Props}
    (h : Props.ofValue? v = some item) : ∃ fields, v = .object fields := by
  cases v with
  | object fields => exact ⟨fields, rfl⟩
  | _ => cases h

/-- Reading items stops at the first one that is no object. -/
theorem itemsFrom_eq_error_iff {e : BindingError} (items : List Value) :
    ∀ index, itemsFrom index items = .error e ↔
      ∃ before bad after, items = before ++ bad :: after
        ∧ (∀ v ∈ before, ∃ fields, v = .object fields)
        ∧ (∀ fields, bad ≠ .object fields)
        ∧ e = .itemNotObject (index + before.length) := by
  induction items with
  | nil => simp [itemsFrom]
  | cons v rest ih =>
      intro index
      unfold itemsFrom
      cases hv : Props.ofValue? v with
      | none =>
          have hbad := Props.ofValue?_eq_none_iff.1 hv
          constructor
          · intro h
            cases h
            exact ⟨[], v, rest, rfl, fun _ h => (nomatch h), hbad, rfl⟩
          · rintro ⟨before, bad, after, hitems, hbefore, -, rfl⟩
            -- the head is no object, so nothing stands before the cut
            cases before with
            | nil => rfl
            | cons w before =>
                injection hitems with hw _
                obtain ⟨fields, hfields⟩ := hbefore w List.mem_cons_self
                exact absurd (hw.trans hfields) (hbad fields)
      | some item =>
          have hgood := Props.exists_fields_of_ofValue? hv
          have hmap : ((itemsFrom (index + 1) rest).map (item :: ·)
                = .error e)
              ↔ itemsFrom (index + 1) rest = .error e := by
            cases itemsFrom (index + 1) rest with
            | error _ => exact Iff.rfl
            | ok _ => exact ⟨fun h => (nomatch h), fun h => (nomatch h)⟩
          refine hmap.trans ((ih (index + 1)).trans ?_)
          constructor
          · rintro ⟨before, bad, after, rfl, hbefore, hbad, rfl⟩
            refine ⟨v :: before, bad, after, rfl, ?_, hbad, ?_⟩
            · intro w hw
              rcases List.mem_cons.1 hw with rfl | hw
              · exact hgood
              · exact hbefore w hw
            · rw [List.length_cons, Nat.add_right_comm, Nat.add_assoc]
          · rintro ⟨before, bad, after, hitems, hbefore, hbad, rfl⟩
            cases before with
            | nil =>
                injection hitems with hw _
                obtain ⟨fields, hfields⟩ := hgood
                exact absurd (hw.symm.trans hfields) (hbad fields)
            | cons w before =>
                injection hitems with _ hrest
                refine ⟨before, bad, after, hrest, fun u hu =>
                  hbefore u (List.mem_cons_of_mem w hu), hbad, ?_⟩
                rw [List.length_cons, Nat.add_right_comm, Nat.add_assoc]

/-- A value is refused exactly when it spells no list of items, and the
refusal says why. -/
theorem itemsOfValue_eq_error_iff {v : Value} {e : BindingError} :
    itemsOfValue v = .error e ↔ Misspells v e := by
  cases v with
  | array items =>
      refine (itemsFrom_eq_error_iff items 0).trans ⟨?_, fun h => ?_⟩
      · rintro ⟨before, bad, after, rfl, hbefore, hbad, rfl⟩
        rw [Nat.zero_add]
        exact .notObject hbefore hbad
      · generalize hv : Value.array items = v at h
        cases h with
        | notArray h => exact absurd hv.symm (h items)
        | @notObject before after bad hbefore hbad =>
            cases hv
            exact ⟨before, bad, after, rfl, hbefore, hbad,
              congrArg _ (Nat.zero_add _).symm⟩
  | _ =>
      constructor
      · intro h
        cases h
        exact .notArray fun _ h => (nomatch h)
      · intro h
        cases h
        rfl

/-- Reading items makes a map of every object's fields. -/
theorem itemsFrom_eq_ok_iff (items : List Value) :
    ∀ (index : Nat) (data : List Props),
      itemsFrom index items = .ok data ↔
        ∃ fieldss : List (List (String × Value)),
          items = fieldss.map .object ∧ data = fieldss.map OrdMap.ofList := by
  induction items with
  | nil =>
      intro index data
      constructor
      · intro h
        cases h
        exact ⟨[], rfl, rfl⟩
      · rintro ⟨fieldss, hitems, rfl⟩
        cases fieldss with
        | nil => rfl
        | cons fields rest => cases hitems
  | cons v rest ih =>
      intro index data
      unfold itemsFrom
      constructor
      · intro h
        cases hv : Props.ofValue? v with
        | none => rw [hv] at h; cases h
        | some item =>
            obtain ⟨fields, rfl⟩ := Props.exists_fields_of_ofValue? hv
            cases hv
            cases hrest : itemsFrom (index + 1) rest with
            | error e =>
                have herror := (congrArg (Except.map _) hrest).symm.trans h
                cases herror
            | ok data' =>
                obtain ⟨fieldss, rfl, rfl⟩ := (ih _ _).1 hrest
                have hdata := (congrArg (Except.map _) hrest).symm.trans h
                cases hdata
                exact ⟨fields :: fieldss, rfl, rfl⟩
      · rintro ⟨fieldss, hitems, rfl⟩
        cases fieldss with
        | nil => cases hitems
        | cons fields fieldss =>
            cases hitems
            show (itemsFrom (index + 1) _).map _ = _
            rw [(ih (index + 1) _).2 ⟨fieldss, rfl, rfl⟩]
            rfl

/-- A value is accepted exactly when it spells a list of items. -/
theorem itemsOfValue_eq_ok_iff {v : Value} {data : List Props} :
    itemsOfValue v = .ok data ↔ SpellsItems v data := by
  constructor
  · intro h
    cases v with
    | array items =>
        obtain ⟨fieldss, rfl, rfl⟩ := (itemsFrom_eq_ok_iff items 0 data).1 h
        exact .objects fieldss
    | _ => cases h
  · intro h
    cases h with
    | objects fieldss =>
        exact (itemsFrom_eq_ok_iff _ 0 _).2 ⟨fieldss, rfl, rfl⟩

/-- What is passed is refused exactly when what is passed as `data`,
wherever it stands, spells no list of items. -/
theorem passedItems_eq_error_iff {passed : Props} {e : BindingError} :
    passedItems passed = .error e ↔
      ∃ v, (dataName, v) ∈ passed.entries ∧ Misspells v e := by
  unfold passedItems
  cases hget : passed.get? dataName with
  | none =>
      constructor
      · intro h
        cases h
      · rintro ⟨v, hin, -⟩
        rw [OrdMap.get?_eq_some_iff.2 hin] at hget
        cases hget
  | some v =>
      have hin := OrdMap.get?_eq_some_iff.1 hget
      refine itemsOfValue_eq_error_iff.trans
        ⟨fun h => ⟨v, hin, h⟩, ?_⟩
      rintro ⟨w, hw, h⟩
      rw [OrdMap.get?_eq_some_iff.2 hw] at hget
      cases hget
      exact h

end RuledList
