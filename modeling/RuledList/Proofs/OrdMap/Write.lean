/-
Writes to an insertion-ordered map, seen from outside: what a look-up
finds after a write or a removal, and how both pass through a filter
that looks at names only. A filter that keeps the name lets the write
through unchanged, place included; one that drops the name does not see
the write at all. Splitting a map by its names therefore commutes with
everything that can be done to it.

The last section says that a map is rebuilt by writing its entries one
after the other, which is how a list of items survives being spelled as
a value.
-/
import RuledList.OrdMap.Basic

namespace RuledList

-- ================================================== lists of entries

section Entries

variable {α : Type}

/-- A look-up after a write. -/
theorem findEntry_putEntry (name other : String) (value : α)
    (entries : List (String × α)) :
    findEntry other (putEntry name value entries)
      = if name = other then some value else findEntry other entries := by
  induction entries with
  | nil => rfl
  | cons e rest ih =>
      obtain ⟨n, v⟩ := e
      unfold putEntry
      by_cases hn : n = name
      · subst hn
        rw [if_pos rfl]
        unfold findEntry
        by_cases ho : n = other
        · rw [if_pos ho, if_pos ho]
        · rw [if_neg ho, if_neg ho, if_neg ho]
      · rw [if_neg hn]
        unfold findEntry
        by_cases ho : n = other
        · have hne : name ≠ other := fun h => hn (ho.trans h.symm)
          rw [if_pos ho, if_pos ho, if_neg hne]
        · rw [if_neg ho, if_neg ho, ih]

/-- A look-up fails exactly for the names that are not there. -/
theorem findEntry_eq_none_iff (name : String)
    (entries : List (String × α)) :
    findEntry name entries = none ↔ name ∉ entryNames entries := by
  induction entries with
  | nil => simp [findEntry, entryNames]
  | cons e rest ih =>
      obtain ⟨n, v⟩ := e
      unfold findEntry
      by_cases hn : n = name
      · rw [if_pos hn]
        simp [entryNames, hn]
      · rw [if_neg hn, ih]
        simp [entryNames, Ne.symm hn]

/-- Where names are distinct, a look-up finds the entry of the name,
wherever it stands. -/
theorem findEntry_eq_some_iff {name : String} {value : α}
    {entries : List (String × α)} (h : (entryNames entries).Nodup) :
    findEntry name entries = some value ↔ (name, value) ∈ entries := by
  induction entries with
  | nil => simp [findEntry]
  | cons e rest ih =>
      obtain ⟨n, v⟩ := e
      obtain ⟨hhead, hrest⟩ := List.nodup_cons.1 h
      unfold findEntry
      by_cases hn : n = name
      · subst hn
        have hout : (n, value) ∉ rest := fun hin =>
          hhead (List.mem_map.2 ⟨_, hin, rfl⟩)
        simp [hout, eq_comm]
      · simp [hn, Ne.symm hn, ih hrest]

/-- A look-up in two lists finds what the first has, or else what the second
has. -/
theorem findEntry_append (name : String)
    (entries more : List (String × α)) :
    findEntry name (entries ++ more)
      = (findEntry name entries).or (findEntry name more) := by
  induction entries with
  | nil => rfl
  | cons e rest ih =>
      obtain ⟨n, v⟩ := e
      rw [List.cons_append, findEntry, findEntry, ih]
      by_cases hn : n = name
      · rw [if_pos hn, if_pos hn, Option.some_or]
      · rw [if_neg hn, if_neg hn]

/-- Removing one name leaves the others to be found. -/
theorem findEntry_dropEntry_other {name other : String}
    (h : name ≠ other) (entries : List (String × α)) :
    findEntry other (dropEntry name entries) = findEntry other entries := by
  induction entries with
  | nil => rfl
  | cons e rest ih =>
      obtain ⟨n, v⟩ := e
      unfold dropEntry
      by_cases hn : n = name
      · have ho : n ≠ other := fun ho => h (hn.symm.trans ho)
        rw [if_pos hn]
        unfold findEntry
        rw [if_neg ho]
        cases rest <;> rfl
      · rw [if_neg hn]
        unfold findEntry
        by_cases ho : n = other
        · rw [if_pos ho, if_pos ho]
        · rw [if_neg ho, if_neg ho, ih]

theorem dropEntry_of_not_mem {name : String}
    {entries : List (String × α)} (h : name ∉ entryNames entries) :
    dropEntry name entries = entries := by
  induction entries with
  | nil => rfl
  | cons e rest ih =>
      obtain ⟨n, v⟩ := e
      simp only [entryNames, List.map_cons, List.mem_cons, not_or] at h
      unfold dropEntry
      rw [if_neg (Ne.symm h.1), ih h.2]

/-- A new name is written at the end. -/
theorem putEntry_of_not_mem {name : String} (value : α)
    {entries : List (String × α)} (h : name ∉ entryNames entries) :
    putEntry name value entries = entries ++ [(name, value)] := by
  induction entries with
  | nil => rfl
  | cons e rest ih =>
      obtain ⟨n, v⟩ := e
      simp only [entryNames, List.map_cons, List.mem_cons, not_or] at h
      unfold putEntry
      rw [if_neg (Ne.symm h.1), ih h.2, List.cons_append]

end Entries

-- ======================================================== name filters

section Filters

variable {α : Type} (keep : String → Bool)

/-- The names that pass a filter are names that the filter keeps. -/
theorem mem_entryNames_filter {name : String}
    {entries : List (String × α)} :
    name ∈ entryNames (entries.filter fun e => keep e.1)
      ↔ keep name = true ∧ name ∈ entryNames entries := by
  simp only [entryNames, List.mem_map, List.mem_filter]
  constructor
  · rintro ⟨e, ⟨he, hk⟩, rfl⟩
    exact ⟨hk, e, he, rfl⟩
  · rintro ⟨hk, e, he, rfl⟩
    exact ⟨e, ⟨he, hk⟩, rfl⟩

/-- Among the names that the filter keeps a look-up finds what it found,
and nothing else. -/
theorem findEntry_filter (name : String) (entries : List (String × α)) :
    findEntry name (entries.filter fun e => keep e.1)
      = if keep name then findEntry name entries else none := by
  induction entries with
  | nil => simp [findEntry]
  | cons e rest ih =>
      obtain ⟨n, v⟩ := e
      by_cases hn : n = name
      · subst hn
        cases hk : keep n with
        | true => simp [hk, findEntry]
        | false => simpa [hk] using ih
      · cases hk : keep n <;> simp [hk, findEntry, hn, ih]

/-- A write of a kept name passes through the filter. -/
theorem filter_putEntry_keep {name : String} (h : keep name = true)
    (value : α) (entries : List (String × α)) :
    (putEntry name value entries).filter (fun e => keep e.1)
      = putEntry name value (entries.filter fun e => keep e.1) := by
  induction entries with
  | nil => simp [putEntry, h]
  | cons e rest ih =>
      obtain ⟨n, v⟩ := e
      rw [putEntry]
      by_cases hn : n = name
      · subst hn
        simp [h, putEntry]
      · rw [if_neg hn]
        cases hk : keep n with
        | true => simp [hk, putEntry, hn, ih]
        | false => simpa [hk] using ih

/-- A write of a name that the filter drops does not show. -/
theorem filter_putEntry_drop {name : String} (h : keep name = false)
    (value : α) (entries : List (String × α)) :
    (putEntry name value entries).filter (fun e => keep e.1)
      = entries.filter fun e => keep e.1 := by
  induction entries with
  | nil => simp [putEntry, h]
  | cons e rest ih =>
      obtain ⟨n, v⟩ := e
      rw [putEntry]
      by_cases hn : n = name
      · subst hn
        simp [h]
      · rw [if_neg hn]
        cases hk : keep n with
        | true => simp [hk, ih]
        | false => simpa [hk] using ih

/-- A removal passes through every filter. -/
theorem filter_dropEntry (name : String) (entries : List (String × α)) :
    (dropEntry name entries).filter (fun e => keep e.1)
      = dropEntry name (entries.filter fun e => keep e.1) := by
  induction entries with
  | nil => rfl
  | cons e rest ih =>
      obtain ⟨n, v⟩ := e
      rw [dropEntry]
      by_cases hn : n = name
      · subst hn
        rw [if_pos rfl]
        cases hk : keep n with
        | true => simp [hk, dropEntry]
        | false =>
            have hout : n ∉ entryNames (rest.filter fun e => keep e.1) := by
              intro hin
              rw [mem_entryNames_filter, hk] at hin
              exact absurd hin.1 (by decide)
            simp only [List.filter_cons, hk]
            exact (dropEntry_of_not_mem hout).symm
      · rw [if_neg hn]
        cases hk : keep n with
        | true => simp [hk, dropEntry, hn, ih]
        | false => simpa [hk] using ih

end Filters

-- ================================================================ maps

namespace OrdMap

variable {α : Type}

theorem get?_insert (m : OrdMap α) (name other : String) (value : α) :
    (m.insert name value).get? other
      = if name = other then some value else m.get? other :=
  findEntry_putEntry name other value m.entries

theorem get?_erase_other (m : OrdMap α) {name other : String}
    (h : name ≠ other) : (m.erase name).get? other = m.get? other :=
  findEntry_dropEntry_other h m.entries

theorem contains_iff {m : OrdMap α} {name : String} :
    m.contains name = true ↔ name ∈ entryNames m.entries := by
  have hnone := findEntry_eq_none_iff name m.entries
  unfold contains get?
  cases hf : findEntry name m.entries with
  | none => simpa using hnone.1 hf
  | some v => simpa [hf] using hnone

theorem contains_insert_iff {m : OrdMap α} {name other : String}
    {value : α} :
    (m.insert name value).contains other = true
      ↔ other = name ∨ m.contains other = true := by
  unfold contains
  rw [get?_insert]
  by_cases h : name = other
  · simp [h]
  · simp [h, Ne.symm h]

theorem contains_insertAll_iff {name : String}
    (entries : List (String × α)) : ∀ m : OrdMap α,
    (m.insertAll entries).contains name = true
      ↔ name ∈ entryNames entries ∨ m.contains name = true := by
  induction entries with
  | nil =>
      intro m
      exact ⟨.inr, fun h => h.resolve_left List.not_mem_nil⟩
  | cons e rest ih =>
      intro m
      refine (ih (m.insert e.1 e.2)).trans ?_
      have hnames : entryNames (e :: rest) = e.1 :: entryNames rest := rfl
      rw [contains_insert_iff, hnames, List.mem_cons]
      exact or_left_comm.trans or_assoc.symm

/-- What stands under a name is what the entry of that name holds. -/
theorem get?_eq_some_iff {m : OrdMap α} {name : String} {value : α} :
    m.get? name = some value ↔ (name, value) ∈ m.entries :=
  findEntry_eq_some_iff m.nodup

theorem erase_of_not_contains {m : OrdMap α} {name : String}
    (h : m.contains name = false) : m.erase name = m := by
  apply ext_entries
  refine dropEntry_of_not_mem fun hin => ?_
  rw [contains_iff.2 hin] at h
  cases h

section Filters

variable (keep : String → Bool)

theorem contains_filter (m : OrdMap α) (name : String) :
    (m.filter fun n _ => keep n).contains name
      = (keep name && m.contains name) := by
  rw [Bool.eq_iff_iff, Bool.and_eq_true, contains_iff, contains_iff]
  exact mem_entryNames_filter keep

theorem filter_insert_keep {name : String} (h : keep name = true)
    (m : OrdMap α) (value : α) :
    (m.insert name value).filter (fun n _ => keep n)
      = (m.filter fun n _ => keep n).insert name value :=
  ext_entries (filter_putEntry_keep keep h value m.entries)

theorem filter_insert_drop {name : String} (h : keep name = false)
    (m : OrdMap α) (value : α) :
    (m.insert name value).filter (fun n _ => keep n)
      = m.filter fun n _ => keep n :=
  ext_entries (filter_putEntry_drop keep h value m.entries)

theorem filter_erase (m : OrdMap α) (name : String) :
    (m.erase name).filter (fun n _ => keep n)
      = (m.filter fun n _ => keep n).erase name :=
  ext_entries (filter_dropEntry keep name m.entries)

end Filters

-- =========================================================== rebuilding

/-- Entries with new and different names are written at the end, in
their order. -/
theorem entries_insertAll (entries : List (String × α)) :
    ∀ m : OrdMap α, (entryNames (m.entries ++ entries)).Nodup →
      (m.insertAll entries).entries = m.entries ++ entries := by
  induction entries with
  | nil =>
      intro m _
      rw [List.append_nil]
      rfl
  | cons e rest ih =>
      intro m h
      have hnew : e.1 ∉ entryNames m.entries := by
        unfold entryNames at h ⊢
        rw [List.map_append, List.nodup_append] at h
        intro hin
        exact h.2.2 _ hin _ (List.mem_map_of_mem List.mem_cons_self) rfl
      have hput : (m.insert e.1 e.2).entries = m.entries ++ [e] :=
        putEntry_of_not_mem e.2 hnew
      have happ : m.entries ++ e :: rest
          = (m.insert e.1 e.2).entries ++ rest := by
        rw [hput, List.append_assoc, List.singleton_append]
      show ((m.insert e.1 e.2).insertAll rest).entries = _
      rw [happ] at h ⊢
      exact ih _ h

/-- Entries with different names are the entries of the map that they
write. -/
theorem entries_ofList {entries : List (String × α)}
    (h : (entryNames entries).Nodup) :
    (ofList entries).entries = entries := by
  have hall := entries_insertAll entries empty (by simpa [empty] using h)
  simpa [ofList, empty] using hall

/-- Writing the entries of a map one after the other rebuilds it. -/
theorem ofList_entries (m : OrdMap α) : ofList m.entries = m :=
  ext_entries (entries_ofList m.nodup)

-- ==================================================== repeated names

/-- Names that do not repeat are all kept. -/
theorem eraseDups_of_nodup {names : List String} (h : names.Nodup) :
    names.eraseDups = names := by
  induction names with
  | nil => rfl
  | cons name rest ih =>
      obtain ⟨hhead, hrest⟩ := List.nodup_cons.1 h
      have hkept : rest.filter (fun n => !n == name) = rest := by
        refine List.filter_eq_self.2 fun n hn => ?_
        have hne : n ≠ name := fun heq => hhead (heq ▸ hn)
        simp [hne]
      rw [List.eraseDups_cons, hkept, ih hrest]

theorem keys_insert (m : OrdMap α) (name : String) (value : α) :
    (m.insert name value).keys
      = if name ∈ m.keys then m.keys else m.keys ++ [name] :=
  entryNames_putEntry name value m.entries

/-- Names that are written for the first time follow those that are
there, each where it came first. -/
theorem keys_insertAll (entries : List (String × α)) :
    ∀ m : OrdMap α, (m.insertAll entries).keys
      = m.keys ++ ((entryNames entries).removeAll m.keys).eraseDups := by
  induction entries with
  | nil =>
      intro m
      exact (List.append_nil _).symm
  | cons e rest ih =>
      intro m
      show ((m.insert e.1 e.2).insertAll rest).keys = _
      rw [ih, keys_insert]
      have hnames : entryNames (e :: rest) = e.1 :: entryNames rest := rfl
      rw [hnames, List.cons_removeAll]
      by_cases hin : e.1 ∈ m.keys
      · simp [hin]
      · have hlater : (entryNames rest).removeAll (m.keys ++ [e.1])
            = ((entryNames rest).removeAll m.keys).filter
                fun n => !n == e.1 := by
          rw [List.removeAll, List.removeAll, List.filter_filter]
          refine List.filter_congr fun n _ => ?_
          simp [Bool.and_comm, Bool.beq_eq_decide_eq]
        simp [hin, hlater, List.eraseDups_cons]

/-- A map written by a list of entries has each name where it came
first. -/
theorem keys_ofList (entries : List (String × α)) :
    (ofList entries).keys = (entryNames entries).eraseDups := by
  have hnone : (entryNames entries).removeAll [] = entryNames entries :=
    List.filter_eq_self.2 fun _ _ => rfl
  rw [ofList, keys_insertAll]
  exact congrArg List.eraseDups hnone

theorem get?_insertAll (entries : List (String × α)) (name : String) :
    ∀ m : OrdMap α, (m.insertAll entries).get? name
      = (entries.reverse.lookup name).or (m.get? name) := by
  induction entries with
  | nil =>
      intro m
      rfl
  | cons e rest ih =>
      intro m
      obtain ⟨n, v⟩ := e
      show ((m.insert n v).insertAll rest).get? name = _
      rw [ih, get?_insert, List.reverse_cons, List.lookup_append,
        Option.or_assoc, List.lookup_cons, List.lookup_nil]
      by_cases hname : n = name
      · simp [hname]
      · have hne : (name == n) = false := beq_false_of_ne (Ne.symm hname)
        simp [hname, hne]

/-- A map written by a list of entries has under each name what came
last. -/
theorem get?_ofList (entries : List (String × α)) (name : String) :
    (ofList entries).get? name = entries.reverse.lookup name := by
  rw [ofList, get?_insertAll]
  exact Option.or_none

-- ================================================== parts of a map

/-- A filter by names leaves under each name that it keeps what was
there. -/
theorem get?_filter (keep : String → Bool) (m : OrdMap α) (name : String) :
    (m.filter fun n _ => keep n).get? name
      = if keep name then m.get? name else none :=
  findEntry_filter keep name m.entries

theorem keys_filter (keep : String → Bool) (m : OrdMap α) :
    (m.filter fun n _ => keep n).keys = m.keys.filter keep := by
  unfold keys filter entryNames
  rw [List.filter_map]
  rfl

/-- What a transformed map has under a name. -/
theorem get?_filterMap {β : Type} (f : String → α → Option β)
    (m : OrdMap α) (name : String) :
    (m.filterMap f).get? name = (m.get? name).bind (f name) := by
  refine Option.ext fun w => ?_
  rw [get?_eq_some_iff, Option.bind_eq_some_iff]
  unfold filterMap
  rw [List.mem_filterMap]
  constructor
  · intro h
    obtain ⟨e, he, hw⟩ := h
    obtain ⟨v, hv, hpair⟩ := Option.map_eq_some_iff.1 hw
    obtain ⟨rfl, rfl⟩ := Prod.mk.inj hpair
    exact ⟨e.2, get?_eq_some_iff.2 he, hv⟩
  · intro h
    obtain ⟨v, hv, hw⟩ := h
    exact ⟨(name, v), get?_eq_some_iff.1 hv,
      Option.map_eq_some_iff.2 ⟨w, hw, rfl⟩⟩

/-- A transformed map has the names for which something is given. -/
theorem keys_filterMap {β : Type} (f : String → α → Option β)
    (m : OrdMap α) :
    (m.filterMap f).keys
      = entryNames (m.entries.filter fun e => (f e.1 e.2).isSome) := by
  show entryNames (m.entries.filterMap fun e =>
    (f e.1 e.2).map fun v => (e.1, v)) = _
  unfold entryNames
  induction m.entries with
  | nil => rfl
  | cons e rest ih =>
      cases hf : f e.1 e.2 with
      | none => simpa [hf] using ih
      | some v => simpa [hf] using ih

-- ========================================== writing one map into another

/-- What is written over a map hides what was there. -/
theorem get?_insertAll_entries (m n : OrdMap α) (name : String) :
    (m.insertAll n.entries).get? name
      = (n.get? name).or (m.get? name) := by
  have hnew : n.get? name = n.entries.reverse.lookup name := by
    rw [← get?_ofList, ofList_entries]
  rw [get?_insertAll, hnew]

/-- The names that were there stay in front, and those that are new follow
in the order of the map that is written. -/
theorem keys_insertAll_entries (m n : OrdMap α) :
    (m.insertAll n.entries).keys
      = m.keys ++ n.keys.filter fun name => name ∉ m.keys := by
  have hnew : (entryNames n.entries).removeAll m.keys
      = (n.filter fun name _ => name ∉ m.keys).keys := by
    rw [keys_filter]
    refine List.filter_congr fun name _ => ?_
    simp
  have honce : (n.filter fun name _ => name ∉ m.keys).keys.eraseDups
      = (n.filter fun name _ => name ∉ m.keys).keys :=
    eraseDups_of_nodup (nodup _)
  rw [keys_insertAll, hnew, honce, keys_filter]

end OrdMap

end RuledList
