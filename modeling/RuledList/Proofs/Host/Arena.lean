/-
Arenas and the names they give out. A slot that is used again carries a
higher version, so a name that was given out once names its tenant or
nobody, and never anyone else. That rests on two facts that every
operation keeps: the slots that wait to be filled are empty and wait
once (`Arena.Sound`), and no slot's version ever falls below a name that
was given out for it (`Arena.Given`).

Each operation has one lemma that says what it does to every look-up:
the name it is about changes, all others do not. Taking a tenant in adds
one to the size and letting one go takes one off, and the list of all
names has each tenant's name once.
-/
import RuledList.Host.Arena

namespace RuledList.Arena

variable {α : Type}

/-- Every slot that waits to be filled is empty, and waits once. -/
structure Sound (a : Arena α) : Prop where
  nodup : a.free.Nodup
  vacant : ∀ index ∈ a.free,
    ∃ s, a.slot? index = some s ∧ s.content? = none

/-- A name that has been given out: that of a tenant, or of one that was
let go. -/
def Given (a : Arena α) : InstanceId → Prop
  | .null => False
  | .slot index version => ∃ s, a.slot? index = some s
    ∧ (version < s.version ∨ version = s.version ∧ s.content?.isSome)

/-- A look-up goes to a slot, and asks for its version. -/
theorem get?_slot (a : Arena α) (index version : Nat) :
    a.get? (.slot index version)
      = (a.slot? index).bind fun s =>
          if s.version = version then s.content? else none := by
  cases h : a.slot? index with
  | none => simp only [get?, h, Option.bind_none]
  | some s => simp only [get?, h, Option.bind_some]

theorem given_of_get? {a : Arena α} {id : InstanceId} {x : α}
    (h : a.get? id = some x) : a.Given id := by
  cases id with
  | null => cases h
  | slot index version =>
      rw [get?_slot] at h
      obtain ⟨s, hs, hx⟩ := Option.bind_eq_some_iff.1 h
      by_cases hv : s.version = version
      · rw [if_pos hv] at hx
        exact ⟨s, hs, .inr ⟨hv.symm, by rw [hx]; rfl⟩⟩
      · rw [if_neg hv] at hx
        cases hx

-- ======================================================== single slots

theorem slot?_eq_some {a : Arena α} {index : Nat} {s : Slot α} :
    a.slot? index = some s
      ↔ index ≠ 0 ∧ a.slots[index - 1]? = some s := by
  unfold slot?
  by_cases h : index = 0
  · simp [h]
  · simp [h]

theorem slot?_putSlot {a : Arena α} {index : Nat} {old : Slot α}
    (h : a.slot? index = some old) (s : Slot α) (j : Nat) :
    (a.putSlot index s).slot? j
      = if j = index then some s else a.slot? j := by
  obtain ⟨hpos, hold⟩ := slot?_eq_some.1 h
  have hlt : index - 1 < a.slots.length :=
    (List.getElem?_eq_some_iff.1 hold).1
  unfold slot? putSlot
  by_cases hj : j = index
  · subst hj
    rw [if_neg hpos, if_pos rfl, List.getElem?_set_self hlt]
  · rw [if_neg hj]
    by_cases hz : j = 0
    · rw [if_pos hz, if_pos hz]
    · rw [if_neg hz, if_neg hz, List.getElem?_set_ne (by omega)]

theorem slot?_append (a : Arena α) (s : Slot α) (free : List Nat)
    (j : Nat) :
    (Arena.mk (a.slots ++ [s]) free).slot? j
      = if j = a.slots.length + 1 then some s else a.slot? j := by
  unfold slot?
  by_cases hz : j = 0
  · rw [if_pos hz, if_pos hz, if_neg (by omega)]
  · rw [if_neg hz, if_neg hz, List.getElem?_append]
    by_cases hj : j = a.slots.length + 1
    · rw [if_neg (by omega), if_pos hj]
      simp [hj]
    · rw [if_neg hj]
      by_cases hlt : j - 1 < a.slots.length
      · rw [if_pos hlt]
      · rw [if_neg hlt, List.getElem?_eq_none (by simp; omega),
          List.getElem?_eq_none (by omega)]

/-- What a replaced slot answers, and what the other slots answer. -/
theorem get?_putSlot {a : Arena α} {index : Nat} {old : Slot α}
    (h : a.slot? index = some old) (s : Slot α) (free : List Nat)
    (j version : Nat) :
    (Arena.mk (a.putSlot index s).slots free).get? (.slot j version)
      = if j = index then
          if s.version = version then s.content? else none
        else a.get? (.slot j version) := by
  have hslot : (Arena.mk (a.putSlot index s).slots free).slot? j
      = if j = index then some s else a.slot? j := slot?_putSlot h s j
  rw [get?_slot, get?_slot, hslot]
  by_cases hj : j = index
  · rw [if_pos hj, if_pos hj]
    rfl
  · rw [if_neg hj, if_neg hj]

/-- Replacing a slot keeps the names that were given out, as long as the
new slot has no lower version, and is not emptied under the same
version. -/
theorem given_putSlot {a : Arena α} {index : Nat} {old : Slot α}
    (h : a.slot? index = some old) (s : Slot α) (free : List Nat)
    (hs : old.version < s.version
      ∨ old.version = s.version ∧ (old.content?.isSome → s.content?.isSome))
    {id : InstanceId} (hid : a.Given id) :
    (Arena.mk (a.putSlot index s).slots free).Given id := by
  cases id with
  | null => exact hid
  | slot j version =>
      obtain ⟨t, ht, hv⟩ := hid
      have hslot : (Arena.mk (a.putSlot index s).slots free).slot? j
          = if j = index then some s else a.slot? j := slot?_putSlot h s j
      by_cases hj : j = index
      · subst hj
        rw [h] at ht
        cases ht
        refine ⟨s, by rw [hslot, if_pos rfl], ?_⟩
        rcases hs with hlt | ⟨heq, himp⟩
        · rcases hv with hv | ⟨hv, -⟩
          · exact .inl (by omega)
          · exact .inl (by omega)
        · rcases hv with hv | ⟨hv, hc⟩
          · exact .inl (by omega)
          · exact .inr ⟨by omega, himp hc⟩
      · exact ⟨t, by rw [hslot, if_neg hj]; exact ht, hv⟩

-- ========================================================== operations

theorem sound_empty : (empty : Arena α).Sound :=
  ⟨List.nodup_nil, fun _ h => absurd h List.not_mem_nil⟩

theorem contains_empty (id : InstanceId) :
    (empty : Arena α).contains id = false := by
  cases id with
  | null => rfl
  | slot index version =>
      have hslot : (empty : Arena α).slot? index = none := by
        unfold slot? empty
        split <;> rfl
      unfold contains
      rw [get?_slot, hslot]
      rfl

/-- What an operation on one name leaves alone: the arena stays sound,
no name is forgotten, and all other names name whom they named. -/
structure Apart (a b : Arena α) (id : InstanceId) : Prop where
  sound : b.Sound
  given : ∀ id', a.Given id' → b.Given id'
  other : ∀ id', id' ≠ id → b.get? id' = a.get? id'

theorem Apart.refl {a : Arena α} (h : a.Sound) (id : InstanceId) :
    Apart a a id := ⟨h, fun _ hg => hg, fun _ _ => rfl⟩

/-- Taking in a tenant where no slot waits: a slot is added. -/
theorem insert_added {a : Arena α} (hfree : a.free = []) (x : α) :
    ¬ a.Given (a.insert x).1 ∧ (a.insert x).2.get? (a.insert x).1 = some x
      ∧ Apart a (a.insert x).2 (a.insert x).1 := by
  have hins : a.insert x = (.slot (a.slots.length + 1) 1,
      ⟨a.slots ++ [⟨1, some x⟩], []⟩) := by
    unfold insert
    rw [hfree]
  have hnew : a.slot? (a.slots.length + 1) = none := by
    unfold slot?
    rw [if_neg (by omega), List.getElem?_eq_none (by omega)]
  rw [hins]
  refine ⟨?_, ?_, ⟨List.nodup_nil, ?_⟩, ?_, ?_⟩
  · rintro ⟨s, hs, -⟩
    rw [hnew] at hs
    cases hs
  · rw [get?_slot, slot?_append, if_pos rfl]
    rfl
  · exact fun _ hin => absurd hin List.not_mem_nil
  · intro id hid
    cases id with
    | null => exact hid
    | slot j version =>
        obtain ⟨t, ht, hv⟩ := hid
        refine ⟨t, ?_, hv⟩
        rw [slot?_append, if_neg]
        · exact ht
        · rintro rfl
          rw [hnew] at ht
          cases ht
  · intro id hid
    cases id with
    | null => rfl
    | slot j version =>
        rw [get?_slot, get?_slot, slot?_append]
        by_cases hj : j = a.slots.length + 1
        · have hv : (1 : Nat) ≠ version := fun hv => hid (by rw [hj, hv])
          rw [if_pos hj, hj, hnew, Option.bind_some, if_neg hv]
          rfl
        · rw [if_neg hj]

/-- Taking in a tenant where a slot waits: it is filled under its
version. -/
theorem insert_reused {a : Arena α} (h : a.Sound) {index : Nat}
    {free : List Nat} (hfree : a.free = index :: free) (x : α) :
    ¬ a.Given (a.insert x).1 ∧ (a.insert x).2.get? (a.insert x).1 = some x
      ∧ Apart a (a.insert x).2 (a.insert x).1 := by
  obtain ⟨s, hs, hempty⟩ := h.vacant index (by rw [hfree]; simp)
  have hnodup := h.nodup
  rw [hfree, List.nodup_cons] at hnodup
  have hins : a.insert x = (.slot index s.version,
      ⟨(a.putSlot index ⟨s.version, some x⟩).slots, free⟩) := by
    unfold insert
    rw [hfree]
    simp only [hs, Option.map_some, Option.getD_some]
  rw [hins]
  refine ⟨?_, ?_, ⟨hnodup.2, ?_⟩, ?_, ?_⟩
  · -- under its present version the empty slot never had a tenant
    rintro ⟨t, ht, hv⟩
    rw [hs] at ht
    cases ht
    rcases hv with hv | ⟨-, hc⟩
    · omega
    · rw [hempty] at hc
      cases hc
  · rw [get?_putSlot hs, if_pos rfl, if_pos rfl]
  · intro j hj
    obtain ⟨t, ht, hvac⟩ := h.vacant j (by rw [hfree]; simp [hj])
    refine ⟨t, ?_, hvac⟩
    show (a.putSlot index _).slot? j = some t
    rw [slot?_putSlot hs, if_neg]
    · exact ht
    · rintro rfl
      exact hnodup.1 hj
  · intro id hid
    exact given_putSlot hs ⟨s.version, some x⟩ free
      (.inr ⟨rfl, fun _ => rfl⟩) hid
  · intro id hid
    cases id with
    | null => rfl
    | slot j version =>
        rw [get?_putSlot hs]
        by_cases hj : j = index
        · have hv : s.version ≠ version := fun hv => hid (by rw [hj, hv])
          rw [if_pos hj, if_neg hv, hj, get?_slot, hs, Option.bind_some,
            if_neg hv]
        · rw [if_neg hj]

/-- A tenant that is taken in gets a name that was never given out. -/
theorem insert_spec {a : Arena α} (h : a.Sound) (x : α) :
    ¬ a.Given (a.insert x).1 ∧ (a.insert x).2.get? (a.insert x).1 = some x
      ∧ Apart a (a.insert x).2 (a.insert x).1 := by
  cases hfree : a.free with
  | nil => exact insert_added hfree x
  | cons index free => exact insert_reused h hfree x

/-- A tenant's name is that of a slot with the tenant in it. -/
theorem slot_of_get? {a : Arena α} {id : InstanceId} {x : α}
    (h : a.get? id = some x) :
    ∃ index s, id = .slot index s.version ∧ a.slot? index = some s
      ∧ s.content? = some x := by
  cases id with
  | null => cases h
  | slot index version =>
      rw [get?_slot] at h
      obtain ⟨s, hs, hx⟩ := Option.bind_eq_some_iff.1 h
      by_cases hv : s.version = version
      · rw [if_pos hv] at hx
        exact ⟨index, s, by rw [hv], hs, hx⟩
      · rw [if_neg hv] at hx
        cases hx

/-- The slots that wait are not the one that a tenant is in. -/
theorem Sound.not_free {a : Arena α} (h : a.Sound) {index : Nat}
    {s : Slot α} {x : α} (hs : a.slot? index = some s)
    (hx : s.content? = some x) : index ∉ a.free := by
  intro hin
  obtain ⟨t, ht, hvac⟩ := h.vacant index hin
  rw [hs] at ht
  cases ht
  rw [hx] at hvac
  cases hvac

/-- A tenant that is let go is named no more, and nobody else is
touched. -/
theorem remove_spec {a : Arena α} (h : a.Sound) {id : InstanceId} {x : α}
    (hget : a.get? id = some x) :
    ∃ b, a.remove id = some (x, b) ∧ b.get? id = none ∧ Apart a b id := by
  obtain ⟨index, s, rfl, hs, hx⟩ := slot_of_get? hget
  have hnot := h.not_free hs hx
  refine ⟨⟨(a.putSlot index ⟨s.version + 2, none⟩).slots, index :: a.free⟩,
    ?_, ?_, ⟨List.nodup_cons.2 ⟨hnot, h.nodup⟩, ?_⟩, ?_, ?_⟩
  · unfold remove
    rw [hget]
  · rw [get?_putSlot hs, if_pos rfl, if_neg (by simp)]
  · -- the slot that waits now is the one that was emptied
    intro j hj
    show ∃ t, (a.putSlot index _).slot? j = some t ∧ _
    rw [slot?_putSlot hs]
    by_cases hji : j = index
    · rw [if_pos hji]
      exact ⟨_, rfl, rfl⟩
    · rw [if_neg hji]
      rcases List.mem_cons.1 hj with hj | hj
      · exact absurd hj hji
      · exact h.vacant j hj
  · intro id' hid
    exact given_putSlot hs ⟨s.version + 2, none⟩ (index :: a.free)
      (.inl (Nat.lt_add_of_pos_right Nat.two_pos)) hid
  · intro id' hid
    cases id' with
    | null => rfl
    | slot j version =>
        rw [get?_putSlot hs]
        by_cases hj : j = index
        · have hv : s.version ≠ version := fun hv => hid (by rw [hj, hv])
          rw [if_pos hj, hj, get?_slot, hs, Option.bind_some, if_neg hv]
          exact ite_self _
        · rw [if_neg hj]

/-- Nobody goes under a name that names nobody. -/
theorem remove_none {a : Arena α} {id : InstanceId}
    (h : a.get? id = none) : a.remove id = none := by
  unfold remove
  rw [h]
  cases id <;> rfl

theorem replace_slot {a : Arena α} {index version : Nat} {y : α}
    (hget : a.get? (.slot index version) = some y) (x : α) :
    a.replace (.slot index version) x
      = ⟨(a.putSlot index ⟨version, some x⟩).slots, a.free⟩ := by
  unfold replace
  rw [hget]
  rfl

theorem get?_replace_self {a : Arena α} {id : InstanceId} {y : α}
    (hget : a.get? id = some y) (x : α) :
    (a.replace id x).get? id = some x := by
  obtain ⟨index, s, rfl, hs, -⟩ := slot_of_get? hget
  rw [replace_slot hget, get?_putSlot hs, if_pos rfl, if_pos rfl]

/-- A tenant that is replaced is named as before, and nobody else is
touched. -/
theorem replace_spec {a : Arena α} (h : a.Sound) {id : InstanceId} {y : α}
    (hget : a.get? id = some y) (x : α) :
    (a.replace id x).get? id = some x ∧ Apart a (a.replace id x) id := by
  refine ⟨get?_replace_self hget x, ?_⟩
  obtain ⟨index, s, rfl, hs, hx⟩ := slot_of_get? hget
  have hnot := h.not_free hs hx
  rw [replace_slot hget]
  refine ⟨⟨h.nodup, ?_⟩, ?_, ?_⟩
  · intro j hj
    obtain ⟨t, ht, hvac⟩ := h.vacant j hj
    refine ⟨t, ?_, hvac⟩
    show (a.putSlot index _).slot? j = some t
    rw [slot?_putSlot hs, if_neg]
    · exact ht
    · rintro rfl
      exact hnot hj
  · intro id' hid
    exact given_putSlot hs ⟨s.version, some x⟩ a.free
      (.inr ⟨rfl, fun _ => rfl⟩) hid
  · intro id' hid
    cases id' with
    | null => rfl
    | slot j version =>
        rw [get?_putSlot hs]
        by_cases hj : j = index
        · have hv : s.version ≠ version := fun hv => hid (by rw [hj, hv])
          rw [if_pos hj, if_neg hv, hj, get?_slot, hs, Option.bind_some,
            if_neg hv]
        · rw [if_neg hj]

-- ============================================================= all names

/-- The slots from a number on give the names of their tenants. -/
theorem mem_idsFrom (slots : List (Slot α)) : ∀ (start k : Nat)
    {s : Slot α}, slots[k]? = some s → s.content?.isSome →
      .slot (start + k) s.version ∈ idsFrom start slots := by
  induction slots with
  | nil => intro start k s h; cases h
  | cons t rest ih =>
      intro start k s h hs
      unfold idsFrom
      cases k with
      | zero =>
          cases h
          rw [if_pos hs]
          exact List.mem_cons_self
      | succ k =>
          have hin := ih (start + 1) k h hs
          rw [show start + 1 + k = start + (k + 1) by omega] at hin
          split
          · exact List.mem_cons_of_mem _ hin
          · exact hin

theorem mem_ids_of_get? {a : Arena α} {id : InstanceId} {x : α}
    (h : a.get? id = some x) : id ∈ a.ids := by
  obtain ⟨index, s, rfl, hs, hx⟩ := slot_of_get? h
  obtain ⟨hpos, hslot⟩ := slot?_eq_some.1 hs
  have hin := mem_idsFrom a.slots 1 (index - 1) hslot (by rw [hx]; rfl)
  rwa [show 1 + (index - 1) = index by omega] at hin

/-- There are as many names as slots with a tenant. -/
theorem length_idsFrom (slots : List (Slot α)) : ∀ start : Nat,
    (idsFrom start slots).length
      = slots.countP fun s => s.content?.isSome := by
  induction slots with
  | nil => intro start; rfl
  | cons s rest ih =>
      intro start
      unfold idsFrom
      rw [List.countP_cons, ← ih (start + 1)]
      by_cases hs : s.content?.isSome
      · rw [if_pos hs, if_pos hs, List.length_cons]
      · rw [if_neg hs, if_neg hs]
        rfl

/-- A name among all names is that of a slot with a tenant. -/
theorem slot_of_mem_idsFrom (slots : List (Slot α)) : ∀ {start : Nat}
    {id : InstanceId}, id ∈ idsFrom start slots →
      ∃ k s, id = .slot (start + k) s.version ∧ slots[k]? = some s
        ∧ s.content?.isSome := by
  induction slots with
  | nil => intro start id h; cases h
  | cons t rest ih =>
      intro start id h
      unfold idsFrom at h
      by_cases hhead : t.content?.isSome ∧ id = .slot start t.version
      · exact ⟨0, t, hhead.2, rfl, hhead.1⟩
      · have hin : id ∈ idsFrom (start + 1) rest := by
          split at h
          · next ht =>
            refine (List.mem_cons.1 h).resolve_left fun hid => ?_
            exact hhead ⟨ht, hid⟩
          · exact h
        obtain ⟨k, s, hid, hs, hsome⟩ := ih hin
        refine ⟨k + 1, s, ?_, hs, hsome⟩
        rw [hid, Nat.add_assoc, Nat.add_comm 1 k]

theorem nodup_idsFrom (slots : List (Slot α)) : ∀ start : Nat,
    (idsFrom start slots).Nodup := by
  induction slots with
  | nil => intro start; exact List.nodup_nil
  | cons s rest ih =>
      intro start
      unfold idsFrom
      split
      · refine List.nodup_cons.2 ⟨fun hin => ?_, ih (start + 1)⟩
        obtain ⟨k, t, hid, -⟩ := slot_of_mem_idsFrom rest hin
        injection hid with hindex
        omega
      · exact ih (start + 1)

/-- All names are the names of the tenants. -/
theorem mem_ids_iff {a : Arena α} {id : InstanceId} :
    id ∈ a.ids ↔ a.contains id = true := by
  constructor
  · intro h
    obtain ⟨k, s, rfl, hs, hsome⟩ := slot_of_mem_idsFrom a.slots h
    have hslot : a.slot? (1 + k) = some s :=
      slot?_eq_some.2 ⟨by omega, by rwa [Nat.add_sub_cancel_left]⟩
    unfold contains
    rw [get?_slot, hslot, Option.bind_some, if_pos rfl]
    exact hsome
  · intro h
    obtain ⟨x, hx⟩ := Option.isSome_iff_exists.1 h
    exact mem_ids_of_get? hx

-- ================================================================== size

/-- Replacing a slot counts its new tenant and no longer its old one. -/
theorem size_putSlot {a : Arena α} {index : Nat} {old : Slot α}
    (h : a.slot? index = some old) (s : Slot α) (free : List Nat) :
    (Arena.mk (a.putSlot index s).slots free).size
        + (if old.content?.isSome then 1 else 0)
      = a.size + if s.content?.isSome then 1 else 0 := by
  obtain ⟨-, hold⟩ := slot?_eq_some.1 h
  obtain ⟨hlt, hget⟩ := List.getElem?_eq_some_iff.1 hold
  have hpos : old.content?.isSome →
      0 < a.slots.countP fun s => s.content?.isSome := fun hsome =>
    List.countP_pos_iff.2 ⟨old, hget ▸ List.getElem_mem hlt, hsome⟩
  unfold size ids putSlot
  rw [length_idsFrom, length_idsFrom, List.countP_set hlt, hget]
  by_cases hsome : old.content?.isSome
  · have hone := hpos hsome
    rw [if_pos hsome]
    omega
  · rw [if_neg hsome]
    omega

theorem size_insert {a : Arena α} (hs : a.Sound) (x : α) :
    (a.insert x).2.size = a.size + 1 := by
  unfold insert
  cases hfree : a.free with
  | nil =>
      show (idsFrom 1 (a.slots ++ [⟨1, some x⟩])).length
        = (idsFrom 1 a.slots).length + 1
      rw [length_idsFrom, length_idsFrom, List.countP_append]
      rfl
  | cons index free =>
      obtain ⟨s, hslot, hempty⟩ := hs.vacant index (by rw [hfree]; simp)
      have hsize := size_putSlot hslot ⟨s.version, some x⟩ free
      simp only [hslot, Option.map_some, Option.getD_some]
      rw [hempty] at hsize
      exact hsize

theorem size_remove {a b : Arena α} {id : InstanceId} {x : α}
    (h : a.remove id = some (x, b)) : b.size + 1 = a.size := by
  unfold remove at h
  split at h
  · next index version y hget =>
    obtain ⟨i, s, hid, hslot, hy⟩ := slot_of_get? hget
    injection hid with hindex hversion
    subst hindex
    injection h with hpair
    injection hpair with hx hb
    subst hb
    have hsize := size_putSlot hslot ⟨version + 2, none⟩ (index :: a.free)
    rw [hy] at hsize
    exact hsize
  · cases h

theorem size_replace (a : Arena α) (id : InstanceId) (x : α) :
    (a.replace id x).size = a.size := by
  unfold replace
  split
  · next index version y hget =>
    obtain ⟨i, s, hid, hslot, hy⟩ := slot_of_get? hget
    injection hid with hindex hversion
    subst hindex
    have hsize := size_putSlot hslot ⟨version, some x⟩ a.free
    rw [hy] at hsize
    exact Nat.succ.inj hsize
  · rfl

end RuledList.Arena
