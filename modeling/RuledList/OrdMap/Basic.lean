/-
Maps from names to values that remember the order in which their names
came. Writing a name that is present keeps its place and replaces its
value; a new name goes to the end; removing one closes the gap. Two
maps are compared by what they hold, not by order (`OrdMap.same`).

The entries are a list without repeated names, and that no name repeats
is part of the type, so every operation below comes with the lemma that
it keeps names distinct.
-/

namespace RuledList

/-- The names of a list of entries, in order. -/
def entryNames {α : Type} (entries : List (String × α)) : List String :=
  entries.map Prod.fst

/-- Write one entry: in place when the name is present, else at the
end. -/
def putEntry {α : Type} (name : String) (value : α) :
    List (String × α) → List (String × α)
  | [] => [(name, value)]
  | (n, v) :: rest =>
    if n = name then (n, value) :: rest
    else (n, v) :: putEntry name value rest

/-- What is written under a name. -/
def findEntry {α : Type} (name : String) :
    List (String × α) → Option α
  | [] => none
  | (n, v) :: rest => if n = name then some v else findEntry name rest

/-- Remove the entry of a name, if there is one. -/
def dropEntry {α : Type} (name : String) :
    List (String × α) → List (String × α)
  | [] => []
  | (n, v) :: rest =>
    if n = name then rest else (n, v) :: dropEntry name rest

-- ==================================================== names of a result

section Names

variable {α : Type} (name : String) (value : α)

/-- Writing a present name leaves the names as they were; a new one is
added at the end. -/
theorem entryNames_putEntry (entries : List (String × α)) :
    entryNames (putEntry name value entries) =
      if name ∈ entryNames entries then entryNames entries
      else entryNames entries ++ [name] := by
  induction entries with
  | nil => simp [putEntry, entryNames]
  | cons e rest ih =>
    obtain ⟨n, v⟩ := e
    by_cases h : n = name
    · simp [putEntry, entryNames, h]
    · have h' : name ≠ n := fun e => h e.symm
      simp only [putEntry, if_neg h, entryNames, List.map_cons,
        List.mem_cons, h', false_or]
      simp only [entryNames] at ih
      rw [ih]
      split <;> simp_all

theorem nodup_putEntry (entries : List (String × α))
    (h : (entryNames entries).Nodup) :
    (entryNames (putEntry name value entries)).Nodup := by
  rw [entryNames_putEntry]
  split
  · exact h
  · next hn =>
    refine List.nodup_append.2 ⟨h, by simp, ?_⟩
    intro a ha b hb
    simp only [List.mem_singleton] at hb
    subst hb
    exact fun e => hn (e ▸ ha)

theorem dropEntry_sublist (entries : List (String × α)) :
    (dropEntry name entries).Sublist entries := by
  induction entries with
  | nil => simp [dropEntry]
  | cons e rest ih =>
    obtain ⟨n, v⟩ := e
    by_cases h : n = name
    · simp [dropEntry, h]
    · simp only [dropEntry, if_neg h]
      exact ih.cons_cons _

theorem nodup_dropEntry (entries : List (String × α))
    (h : (entryNames entries).Nodup) :
    (entryNames (dropEntry name entries)).Nodup :=
  ((dropEntry_sublist name entries).map Prod.fst).nodup h

/-- Leaving entries out leaves a sublist of the names. -/
theorem entryNames_filterMap_sublist {β : Type}
    (f : String → α → Option β) (entries : List (String × α)) :
    (entryNames (entries.filterMap fun e =>
      (f e.1 e.2).map fun v => (e.1, v))).Sublist
      (entryNames entries) := by
  induction entries with
  | nil => simp [entryNames]
  | cons e rest ih =>
    simp only [entryNames, List.map_cons] at ih ⊢
    cases h : f e.1 e.2 with
    | none => simpa [h] using ih.cons e.1
    | some v => simpa [h] using ih.cons_cons e.1

end Names

-- ============================================================= the type

/-- An insertion-ordered map with distinct names. -/
structure OrdMap (α : Type) where
  /-- What the map holds, in the order in which the names came. -/
  entries : List (String × α)
  /-- No name has two entries. -/
  nodup : (entryNames entries).Nodup

namespace OrdMap

variable {α β : Type}

/-- Maps with the same entries in the same order are the same map. -/
@[ext] theorem ext_entries {a b : OrdMap α} (h : a.entries = b.entries) :
    a = b := by
  cases a; cases b; cases h; rfl

/-- The map that holds nothing. -/
def empty : OrdMap α := ⟨[], List.nodup_nil⟩

instance : Inhabited (OrdMap α) := ⟨empty⟩

instance : EmptyCollection (OrdMap α) := ⟨empty⟩

/-- The names, in order. -/
def keys (m : OrdMap α) : List String := entryNames m.entries

/-- The number of entries. -/
def size (m : OrdMap α) : Nat := m.entries.length

/-- Whether the map holds nothing. -/
def isEmpty (m : OrdMap α) : Bool := m.entries.isEmpty

/-- What stands under a name. -/
def get? (m : OrdMap α) (name : String) : Option α :=
  findEntry name m.entries

/-- Whether a name is present. -/
def contains (m : OrdMap α) (name : String) : Bool :=
  (m.get? name).isSome

/-- Write a value under a name: in place when the name is present, else
at the end. -/
def insert (m : OrdMap α) (name : String) (value : α) : OrdMap α :=
  ⟨putEntry name value m.entries, nodup_putEntry name value _ m.nodup⟩

/-- Remove a name; the others keep their order. -/
def erase (m : OrdMap α) (name : String) : OrdMap α :=
  ⟨dropEntry name m.entries, nodup_dropEntry name _ m.nodup⟩

/-- Write every entry of a list, in order. -/
def insertAll (m : OrdMap α) (entries : List (String × α)) : OrdMap α :=
  entries.foldl (fun m e => m.insert e.1 e.2) m

/-- The map that a list of entries writes: a repeated name keeps its
first place and its last value. -/
def ofList (entries : List (String × α)) : OrdMap α :=
  empty.insertAll entries

/-- Keep the entries that a test accepts. -/
def filter (m : OrdMap α) (keep : String → α → Bool) : OrdMap α :=
  ⟨m.entries.filter fun e => keep e.1 e.2,
    (List.filter_sublist.map Prod.fst).nodup m.nodup⟩

/-- Transform the values, leaving out the entries that `f` gives
nothing for. -/
def filterMap (f : String → α → Option β) (m : OrdMap α) : OrdMap β :=
  ⟨m.entries.filterMap fun e => (f e.1 e.2).map fun v => (e.1, v),
    (entryNames_filterMap_sublist f m.entries).nodup m.nodup⟩

/-- Compare by content, in whatever order: as many entries, and each of
the first map's found in the second with a value that `eq` accepts. -/
def sameBy (eq : α → α → Bool) (a b : OrdMap α) : Bool :=
  a.size == b.size &&
    a.entries.all fun e =>
      match b.get? e.1 with
      | some v => eq e.2 v
      | none => false

end OrdMap

end RuledList
