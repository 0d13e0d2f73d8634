/-
Equality of values is identity of canonical values. Equality looks the
fields of one object up in the other, in one direction, and counts them.
What is looked up under a repeated name is what stands first under it, so
a value that repeats a name inside an object need not even be the same as
itself. Between tidy values equality decides whether they are identical
once the fields of every object in them stand in the order of their names
and every zero has lost its sign (`Value.canonical`, `Value.same_iff`), and
so it has the laws of identity there, for property maps as well
(`Props.same_iff`, `Props.same_refl`).

What looks one way turns into what looks both ways by counting: fields
that repeat no name and are all among as many others are those others in
some order (`perm_iff_of_nodup`), and sorting leaves one order for them
(`sortEntries_eq_iff`).
-/
import Mathlib.Data.List.Perm.Subperm
import Mathlib.Data.List.Sort
import Mathlib.Data.String.Basic
import RuledList.Proofs.OrdMap.Write
import RuledList.Value.Basic

namespace RuledList

-- ============================================================== sorting

section Sorting

variable {α : Type}

/-- Entries in the order of their names. -/
def sortEntries (entries : List (String × α)) : List (String × α) :=
  entries.insertionSort fun e f => e.1 ≤ f.1

instance totalByName : Std.Total fun e f : String × α => e.1 ≤ f.1 :=
  ⟨fun e f => String.le_total e.1 f.1⟩

instance isTransByName : IsTrans (String × α) fun e f => e.1 ≤ f.1 :=
  ⟨fun _ _ _ => String.le_trans⟩

theorem sortEntries_perm (entries : List (String × α)) :
    (sortEntries entries).Perm entries :=
  List.perm_insertionSort _ entries

theorem sortEntries_pairwise (entries : List (String × α)) :
    (sortEntries entries).Pairwise fun e f => e.1 ≤ f.1 :=
  List.pairwise_insertionSort _ entries

/-- Entries that repeat no name are sorted alike exactly if they are the
same in some order. -/
theorem sortEntries_eq_iff {es fs : List (String × α)}
    (h : (entryNames es).Nodup) :
    sortEntries es = sortEntries fs ↔ es.Perm fs := by
  constructor
  · intro heq
    exact (sortEntries_perm es).symm.trans (heq ▸ sortEntries_perm fs)
  · intro hperm
    have hsorted := (sortEntries_perm es).trans
      (hperm.trans (sortEntries_perm fs).symm)
    refine hsorted.eq_of_pairwise (fun e f he hf hef hfe => ?_)
      (sortEntries_pairwise es) (sortEntries_pairwise fs)
    have he' : e ∈ es := (sortEntries_perm es).mem_iff.1 he
    have hf' : f ∈ es := hperm.mem_iff.2 ((sortEntries_perm fs).mem_iff.1 hf)
    exact List.inj_on_of_nodup_map h he' hf' (String.le_antisymm hef hfe)

/-- Entries that repeat no name and are all among as many others are those
others in some order. -/
theorem perm_iff_of_nodup {es fs : List (String × α)}
    (h : (entryNames es).Nodup) :
    es.Perm fs ↔ es.length = fs.length ∧ es ⊆ fs := by
  refine ⟨fun hperm => ⟨hperm.length_eq, hperm.subset⟩, fun hin => ?_⟩
  have hnodup : es.Nodup := h.of_map Prod.fst
  exact (List.subperm_of_subset hnodup hin.2).perm_of_length_le
    (Nat.le_of_eq hin.1.symm)

end Sorting

-- ============================================================== numbers

/-- A number that has no sign if it is zero. -/
def Binary64.canonical (x : Binary64) : Binary64 :=
  if x.isZero then ⟨false, x.rank⟩ else x

theorem Binary64.same_iff (x y : Binary64) :
    x.same y = true ↔ x.canonical = y.canonical := by
  have hzero : ∀ z : Binary64, z.isZero = true ↔ z.rank = ⟨0, by decide⟩ := by
    intro z
    rw [isZero, beq_iff_eq, Fin.ext_iff]
  have hrank : ∀ z : Binary64, z.canonical.rank = z.rank := by
    intro z
    unfold canonical
    split <;> rfl
  unfold same
  rw [Bool.or_eq_true, beq_iff_eq, Bool.and_eq_true]
  constructor
  · rintro (rfl | ⟨hx, hy⟩)
    · rfl
    · rw [canonical, canonical, if_pos hx, if_pos hy, (hzero x).1 hx,
        (hzero y).1 hy]
  · intro h
    have hranks : x.rank = y.rank := by rw [← hrank, h, hrank]
    by_cases hx : x.isZero = true
    · exact .inr ⟨hx, (hzero y).2 (hranks ▸ (hzero x).1 hx)⟩
    · have hy : ¬ y.isZero = true := fun hy =>
        hx ((hzero x).2 (hranks ▸ (hzero y).1 hy))
      rw [canonical, canonical, if_neg hx, if_neg hy] at h
      exact .inl h

/-- A number with the sign of zero left out. -/
def Number.canonical : Number → Number
  | .int n => .int n
  | .float x => .float x.canonical

theorem Number.same_iff (m n : Number) :
    m.same n = true ↔ m.canonical = n.canonical := by
  cases m <;> cases n <;>
    simp [same, canonical, Binary64.same_iff]

namespace Value

-- ========================================================== tidy values

theorem tidyItems_iff {items : List Value} :
    TidyItems items ↔ ∀ v ∈ items, v.Tidy := by
  induction items with
  | nil => simp [TidyItems]
  | cons v rest ih => simp [TidyItems, ih]

theorem tidyFields_iff {fields : List (String × Value)} :
    TidyFields fields ↔ ∀ e ∈ fields, e.2.Tidy := by
  induction fields with
  | nil => simp [TidyFields]
  | cons e rest ih => simp [TidyFields, ih]

-- ==================================================== canonical values

mutual

/-- A value with the fields of every object in the order of their names,
and zeros without a sign. -/
def canonical : Value → Value
  | .null => .null
  | .bool b => .bool b
  | .number n => .number n.canonical
  | .string s => .string s
  | .array items => .array (canonicalItems items)
  | .object fields => .object (sortEntries (canonicalFields fields))
termination_by structural v => v

/-- The canonical values of an array. -/
def canonicalItems : List Value → List Value
  | [] => []
  | v :: rest => canonical v :: canonicalItems rest
termination_by structural vs => vs

/-- Fields with canonical values, in the order in which they are. -/
def canonicalFields : List (String × Value) → List (String × Value)
  | [] => []
  | (k, v) :: rest => (k, canonical v) :: canonicalFields rest
termination_by structural fs => fs

end

theorem canonicalFields_eq_map (fields : List (String × Value)) :
    canonicalFields fields = fields.map fun e => (e.1, e.2.canonical) := by
  induction fields with
  | nil => rfl
  | cons e rest ih =>
      rw [canonicalFields, ih]
      rfl

theorem entryNames_canonicalFields (fields : List (String × Value)) :
    entryNames (canonicalFields fields) = entryNames fields := by
  rw [canonicalFields_eq_map, entryNames, entryNames, List.map_map]
  rfl

/-- What stands under a name among canonical values. -/
theorem mem_canonicalFields_iff {fields : List (String × Value)}
    (h : (entryNames fields).Nodup) {name : String} {c : Value} :
    (name, c) ∈ canonicalFields fields
      ↔ ∃ v, findEntry name fields = some v ∧ v.canonical = c := by
  rw [canonicalFields_eq_map, List.mem_map]
  constructor
  · rintro ⟨⟨n, v⟩, hin, heq⟩
    obtain ⟨rfl, rfl⟩ := Prod.mk.inj heq
    exact ⟨v, (findEntry_eq_some_iff h).2 hin, rfl⟩
  · rintro ⟨v, hfind, rfl⟩
    exact ⟨(name, v), (findEntry_eq_some_iff h).1 hfind, rfl⟩

mutual

/-- Tidy values are the same exactly if their canonical values are
identical. -/
theorem same_iff (v w : Value) (hv : v.Tidy) (hw : w.Tidy) :
    v.same w = true ↔ v.canonical = w.canonical := by
  cases v with
  | null => cases w <;> simp [same, canonical]
  | bool b => cases w <;> simp [same, canonical]
  | number n => cases w <;> simp [same, canonical, n.same_iff]
  | string s => cases w <;> simp [same, canonical]
  | array items =>
      cases w with
      | array others =>
          rw [same, sameItems_iff items others hv hw, canonical, canonical,
            array.injEq]
      | _ => simp [same, canonical]
  | object fields =>
      cases w with
      | object others =>
          have hnodup : (entryNames (canonicalFields fields)).Nodup := by
            rw [entryNames_canonicalFields]
            exact hv.1
          rw [same, Bool.and_eq_true, beq_iff_eq,
            sameFields_iff fields others hv.2 hw.2 hw.1, canonical,
            canonical, object.injEq, sortEntries_eq_iff hnodup,
            perm_iff_of_nodup hnodup, canonicalFields_eq_map,
            canonicalFields_eq_map, List.length_map, List.length_map]
      | _ => simp [same, canonical]
termination_by structural v

theorem sameItems_iff (items others : List Value) (hi : TidyItems items)
    (ho : TidyItems others) :
    sameItems items others = true
      ↔ canonicalItems items = canonicalItems others := by
  cases items with
  | nil => cases others <;> simp [sameItems, canonicalItems]
  | cons v rest =>
      cases others with
      | nil => simp [sameItems, canonicalItems]
      | cons w others =>
          rw [sameItems, Bool.and_eq_true, same_iff v w hi.1 ho.1,
            sameItems_iff rest others hi.2 ho.2, canonicalItems,
            canonicalItems, List.cons.injEq]
termination_by structural items

/-- Fields are found in another object, each with an equal value, exactly
if their canonical values are among those of the other. -/
theorem sameFields_iff (fields others : List (String × Value))
    (hf : TidyFields fields) (ho : TidyFields others)
    (hnodup : (entryNames others).Nodup) :
    sameFields fields others = true
      ↔ canonicalFields fields ⊆ canonicalFields others := by
  cases fields with
  | nil => simp [sameFields, canonicalFields]
  | cons e rest =>
      obtain ⟨name, v⟩ := e
      rw [sameFields, Bool.and_eq_true,
        sameFields_iff rest others hf.2 ho hnodup, canonicalFields,
        List.cons_subset, mem_canonicalFields_iff hnodup]
      refine and_congr_left' ?_
      cases hfind : findEntry name others with
      | none => simp
      | some w =>
          have hw : w.Tidy := tidyFields_iff.1 ho _
            ((findEntry_eq_some_iff hnodup).1 hfind)
          simp [same_iff v w hf.1 hw, eq_comm]
termination_by structural fields

end

end Value

-- ====================================================== property maps

namespace Props

/-- Whether every value of a map is tidy. -/
def Tidy (p : Props) : Prop := ∀ e ∈ p.entries, e.2.Tidy

theorem nodup_canonical (p : Props) :
    (entryNames (sortEntries (Value.canonicalFields p.entries))).Nodup := by
  have hnames := (sortEntries_perm (Value.canonicalFields p.entries)).map
    Prod.fst
  refine hnames.nodup_iff.2 ?_
  rw [← entryNames, Value.entryNames_canonicalFields]
  exact p.nodup

/-- A property map with its names in order, and canonical values. -/
def canonical (p : Props) : Props :=
  ⟨sortEntries (Value.canonicalFields p.entries), nodup_canonical p⟩

/-- Property maps are compared as the objects that hold them. -/
theorem same_eq (p q : Props) : p.same q = p.toValue.same q.toValue := by
  refine congrArg (p.size == q.size && ·) ?_
  induction p.entries with
  | nil => rfl
  | cons e rest ih =>
      obtain ⟨name, v⟩ := e
      rw [List.all_cons, ih, Value.sameFields, OrdMap.get?]
      cases findEntry name q.entries <;> rfl

theorem tidy_toValue {p : Props} (h : p.Tidy) : p.toValue.Tidy :=
  ⟨p.nodup, Value.tidyFields_iff.2 h⟩

/-- Tidy property maps are the same exactly if their canonical maps are
identical. -/
theorem same_iff {p q : Props} (hp : p.Tidy) (hq : q.Tidy) :
    p.same q = true ↔ p.canonical = q.canonical := by
  rw [same_eq, Value.same_iff _ _ (tidy_toValue hp) (tidy_toValue hq)]
  constructor
  · intro h
    exact OrdMap.ext_entries (Value.object.inj h)
  · intro h
    exact congrArg toValue h

/-- A map of tidy values is the same as itself. -/
theorem same_refl {p : Props} (h : p.Tidy) : p.same p = true :=
  (same_iff h h).2 rfl

end Props

end RuledList
