/-
What mounting makes. Whether a map mounts depends on its list of items
alone, and the instance that comes out on the map and the definition
alone: the surroundings are neither asked about anything nor changed in
anything but the record of what happened. So the same map mounts to the
same instance at any time and in any company.
-/
import RuledList.Instance.Basic

namespace RuledList.Instance

/-- The globals of a new instance do not depend on the surroundings. -/
theorem setUp_globals (d : Definition) (bound attrs : Props)
    (data : List Props) (a b : Ambient) :
    (setUp d bound attrs data a).1 = (setUp d bound attrs data b).1 := by
  unfold setUp
  cases d.scope with
  | shared cell => rfl
  | perInstance => cases d.config.setup? <;> rfl

theorem setUp_cells (d : Definition) (bound attrs : Props)
    (data : List Props) (a : Ambient) :
    (setUp d bound attrs data a).2.cells = a.cells := by
  unfold setUp
  cases d.scope with
  | shared cell => rfl
  | perInstance => cases d.config.setup? <;> rfl

/-- The instance that a map with a list of items mounts to. -/
def mounted (component : Nat) (d : Definition) (passed : Props)
    (data : List Props) : Instance :=
  let bound := boundOf d.surface passed
  let attrs := attrsOf d.surface passed
  ⟨component, d, bound, attrs, data,
    (setUp d bound attrs data .start).1, .ofNames d.surface.emits⟩

/-- A map whose list of items is one mounts, and leaves the shared
globals alone. -/
theorem mount_of_items (component : Nat) (d : Definition)
    {passed : Props} {data : List Props}
    (h : passedItems passed = .ok data) (a : Ambient) :
    (mount component d passed a).1
        = .ok (mounted component d passed data)
      ∧ (mount component d passed a).2.cells = a.cells := by
  unfold mount mounted
  rw [h]
  refine ⟨?_, setUp_cells ..⟩
  show Except.ok (Instance.mk component d _ _ data (setUp _ _ _ _ a).1 _)
    = _
  rw [setUp_globals d _ _ data a .start]

theorem mount_of_error (component : Nat) (d : Definition)
    {passed : Props} {e : BindingError}
    (h : passedItems passed = .error e) (a : Ambient) :
    mount component d passed a = (.error e, a) := by
  unfold mount
  rw [h]

/-- A mount fails for its list of items, and for nothing else. -/
theorem mount_eq_error_iff_items {component : Nat} {d : Definition}
    {passed : Props} {a : Ambient} {e : BindingError} :
    (mount component d passed a).1 = .error e
      ↔ passedItems passed = .error e := by
  cases hp : passedItems passed with
  | error reason =>
      rw [mount_of_error component d hp]
      exact ⟨fun h => by cases h; rfl, fun h => by cases h; rfl⟩
  | ok data =>
      rw [(mount_of_items component d hp a).1]
      exact ⟨fun h => (nomatch h), fun h => (nomatch h)⟩

/-- What mounts has a list of items, and is the instance made of it. -/
theorem mount_inv {component : Nat} {d : Definition} {passed : Props}
    {a b : Ambient} {i : Instance}
    (h : mount component d passed a = (.ok i, b)) :
    ∃ data, passedItems passed = .ok data
      ∧ i = mounted component d passed data ∧ b.cells = a.cells := by
  cases hp : passedItems passed with
  | error e =>
      rw [mount_of_error component d hp] at h
      cases h
  | ok data =>
      obtain ⟨hi, hcells⟩ := mount_of_items component d hp a
      rw [h] at hi hcells
      injection hi with hi
      exact ⟨data, rfl, hi, hcells⟩

end RuledList.Instance
