/-
Which items a pass matches. A rule looks at the names in an item and at
nothing else, so the positions that a pass reports are a matter of the
registry and of the names in each item (`Pass.unmatched_renderFrom`):
neither values nor the order of names, what is bound, the globals or
what render functions do can change them. Maps that compare equal have
the same names (`OrdMap.mem_keys_of_sameBy`), so they are matched alike.
-/
import Mathlib.Data.List.Perm.Subperm
import RuledList.Proofs.OrdMap.Write
import RuledList.Rule.Pass

namespace RuledList

-- =============================================================== equality

/-- Maps that compare equal have the same names. -/
theorem OrdMap.mem_keys_of_sameBy {α : Type} {eq : α → α → Bool}
    {a b : OrdMap α} (h : a.sameBy eq b = true) (name : String) :
    name ∈ a.keys ↔ name ∈ b.keys := by
  obtain ⟨hsize, hall⟩ := Bool.and_eq_true_iff.1 h
  have hsub : a.keys ⊆ b.keys := by
    intro n hn
    obtain ⟨e, he, rfl⟩ := List.mem_map.1 hn
    have hfound := List.all_eq_true.1 hall e he
    apply contains_iff.1
    rw [contains]
    cases hget : b.get? e.1 with
    | none => rw [hget] at hfound; cases hfound
    | some v => rfl
  have hlen : b.keys.length ≤ a.keys.length := by
    rw [keys, keys, entryNames, entryNames, List.length_map,
      List.length_map]
    exact Nat.le_of_eq (beq_iff_eq.1 hsize).symm
  exact ((List.subperm_of_subset a.nodup hsub).perm_of_length_le
    hlen).mem_iff

-- =============================================================== matching

/-- A rule looks at the names in an item. -/
theorem Rule.accepts_congr {a b : Props}
    (h : ∀ name, name ∈ a.keys ↔ name ∈ b.keys) (r : Rule) :
    r.accepts a = r.accepts b := by
  have hcontains : a.contains r.name = b.contains r.name := by
    rw [Bool.eq_iff_iff, OrdMap.contains_iff, OrdMap.contains_iff]
    exact h r.name
  have hall : (a.keys.all fun key => key == r.name || r.props.contains key)
      = b.keys.all fun key => key == r.name || r.props.contains key := by
    rw [Bool.eq_iff_iff, List.all_eq_true, List.all_eq_true]
    exact forall_congr' fun name => imp_congr_left (h name)
  rw [accepts, accepts, hcontains, hall]

namespace Registry

theorem select?_congr {a b : Props}
    (h : ∀ name, name ∈ a.keys ↔ name ∈ b.keys) (r : Registry) :
    r.select? a = r.select? b := by
  rw [select?, select?]
  exact congrArg (r.rules.find? ·)
    (funext fun rule => rule.accepts_congr h)

/-- The positions of the items that no rule accepts. -/
def unmatchedFrom (r : Registry) : (index : Nat) → List Props → List Nat
  | _, [] => []
  | index, item :: rest =>
    if (r.select? item).isNone then
      index :: r.unmatchedFrom (index + 1) rest
    else r.unmatchedFrom (index + 1) rest

end Registry

/-- A pass reports the positions of the items that no rule accepts. -/
theorem Pass.unmatched_renderFrom (registry : Registry)
    (bound attrs : Props) (data : List Props) :
    ∀ (index : Nat) (p : Pass),
      (renderFrom registry bound attrs index data p).2.1
        = registry.unmatchedFrom index data := by
  induction data with
  | nil => intro index p; rfl
  | cons item rest ih =>
      intro index p
      unfold renderFrom Registry.unmatchedFrom
      cases registry.select? item with
      | none => exact congrArg (index :: ·) (ih (index + 1) _)
      | some rule => exact ih (index + 1) _

end RuledList
