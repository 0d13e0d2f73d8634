/-
Who shares globals with whom. A component whose instances share their
globals gets a cell when it is defined, and cells are only ever added;
so of components defined one after the other no two share a cell
(`Definition.ofAll_cell_unique`), and instances that share a cell come
from one component.
-/
import RuledList.Proofs.Instance.Mount

namespace RuledList

-- ================================================================ cells

namespace Cells

/-- The map in a cell, if there is such a cell. -/
def map? (c : Cells) (cell : Nat) : Option Globals := c.maps[cell]?

theorem map?_write_self (c : Cells) (cell : Nat) (g : Globals) :
    (c.write cell g).map? cell = (c.map? cell).map fun _ => g := by
  unfold write map?
  exact List.getElem?_set_self'

theorem map?_write_other (c : Cells) {cell other : Nat} (g : Globals)
    (h : cell ≠ other) : (c.write cell g).map? other = c.map? other := by
  unfold write map?
  exact List.getElem?_set_ne h

theorem read_eq_map? (c : Cells) (cell : Nat) :
    c.read cell = (c.map? cell).getD Globals.fresh := rfl

end Cells

-- =========================================================== components

namespace Definition

/-- The cell that all instances of a component share, if they share
one. -/
def cell? (d : Definition) : Option Nat :=
  match d.scope with
  | .perInstance => none
  | .shared cell => some cell

/-- The instances of functional components, and no others, share a
cell. -/
theorem isFunctional_iff {d : Definition} :
    d.isFunctional = true ↔ ∃ cell, d.cell? = some cell := by
  unfold cell? isFunctional
  cases d.scope with
  | perInstance =>
      exact ⟨fun h => absurd h (by decide), fun ⟨_, h⟩ => nomatch h⟩
  | shared cell => exact ⟨fun _ => ⟨cell, rfl⟩, fun _ => rfl⟩

/-- Define components from rules, one after the other. -/
def ofAll : List (Registry × OutputConfig) → Ambient →
    List Definition × Ambient
  | [], a => ([], a)
  | (registry, config) :: rest, a =>
    let (d, a) := ofRegistry registry config a
    let (ds, a) := ofAll rest a
    (d :: ds, a)

section Produced

variable (registry : Registry) (config : OutputConfig) (a : Ambient)

/-- What is produced is made of the rules and the configuration, and its
instances share a new cell if it is so configured. -/
theorem ofRegistry_eq :
    (ofRegistry registry config a).1
      = ⟨registry, config, .ofRules registry.rules,
          if config.functional then .shared a.cells.maps.length
          else .perInstance⟩ := by
  unfold ofRegistry
  cases config.functional with
  | false => rfl
  | true => cases config.setup?.isSome <;> rfl

theorem length_cells_ofRegistry :
    (ofRegistry registry config a).2.cells.maps.length
      = a.cells.maps.length + if config.functional then 1 else 0 := by
  unfold ofRegistry
  cases config.functional with
  | false => rfl
  | true => cases config.setup?.isSome <;> exact List.length_append

/-- A component that is defined gets a new cell, or none. -/
theorem ofRegistry_cells :
    let out := ofRegistry registry config a
    a.cells.maps.length ≤ out.2.cells.maps.length
      ∧ ∀ cell, out.1.cell? = some cell →
        cell = a.cells.maps.length ∧ cell < out.2.cells.maps.length := by
  intro out
  have hlen : out.2.cells.maps.length = _ :=
    length_cells_ofRegistry registry config a
  refine ⟨by omega, fun cell hcell => ?_⟩
  have hmade : out.1 = _ := ofRegistry_eq registry config a
  unfold cell? at hcell
  rw [hmade] at hcell
  cases hf : config.functional with
  | false =>
      rw [hf] at hcell
      cases hcell
  | true =>
      rw [hf] at hcell hlen
      cases hcell
      rw [if_pos rfl] at hlen
      exact ⟨rfl, by omega⟩

end Produced

/-- Components that are defined get cells that were not there before. -/
theorem le_ofAll_cell (sources : List (Registry × OutputConfig)) :
    ∀ (a : Ambient) {n : Nat} {d : Definition} {cell : Nat},
      (ofAll sources a).1[n]? = some d → d.cell? = some cell →
        a.cells.maps.length ≤ cell := by
  induction sources with
  | nil => intro a n d cell h; cases h
  | cons source rest ih =>
      intro a n d cell h hcell
      obtain ⟨hle, hnew⟩ := ofRegistry_cells source.1 source.2 a
      cases n with
      | zero =>
          cases h
          exact Nat.le_of_eq (hnew cell hcell).1.symm
      | succ n => exact Nat.le_trans hle (ih _ h hcell)

/-- No two of the components that are defined one after the other share
a cell. -/
theorem ofAll_cell_unique (sources : List (Registry × OutputConfig)) :
    ∀ (a : Ambient) {m n : Nat} {d e : Definition} {cell : Nat},
      (ofAll sources a).1[m]? = some d → (ofAll sources a).1[n]? = some e →
      d.cell? = some cell → e.cell? = some cell → m = n := by
  induction sources with
  | nil => intro a m n d e cell h; cases h
  | cons source rest ih =>
      intro a m n d e cell hm hn hd he
      obtain ⟨-, hnew⟩ := ofRegistry_cells source.1 source.2 a
      -- a later component cannot have the cell of the first one
      have hlater : ∀ {k : Nat} {f : Definition},
          (ofRegistry source.1 source.2 a).1.cell? = some cell →
          (ofAll rest (ofRegistry source.1 source.2 a).2).1[k]? = some f →
          f.cell? ≠ some cell := by
        intro k f hfirst hk hf
        have hlt := (hnew cell hfirst).2
        have hle := le_ofAll_cell rest _ hk hf
        omega
      cases m with
      | zero =>
          cases hm
          cases n with
          | zero => rfl
          | succ n => exact absurd he (hlater hd hn)
      | succ m =>
          cases n with
          | zero => cases hn; exact absurd hd (hlater he hm)
          | succ n => exact congrArg (· + 1) (ih _ hm hn hd he)

end Definition

-- ============================================================ instances

namespace Instance

/-- The cell that an instance shares, if it shares one. -/
def cell? (i : Instance) : Option Nat :=
  match i.globals with
  | .own _ => none
  | .shared cell => some cell

theorem cell?_mounted (component : Nat) (d : Definition) (passed : Props)
    (data : List Props) :
    (mounted component d passed data).cell? = d.cell? := by
  unfold mounted cell? setUp Definition.cell?
  cases d.scope with
  | shared cell => rfl
  | perInstance => cases d.config.setup? <;> rfl

/-- An instance that shares a cell reads the map in it. -/
theorem readGlobals_of_cell? {i : Instance} {cell : Nat}
    (h : i.cell? = some cell) (a : Ambient) :
    i.readGlobals a = a.cells.read cell := by
  unfold cell? at h
  unfold readGlobals
  cases hg : i.globals with
  | own g => rw [hg] at h; cases h
  | shared c => rw [hg] at h; cases h; rfl

/-- In surroundings that agree about the cell that an instance shares, it
reads the same globals. -/
theorem readGlobals_congr {i : Instance} {a b : Ambient}
    (h : ∀ cell, i.cell? = some cell →
      a.cells.map? cell = b.cells.map? cell) :
    i.readGlobals a = i.readGlobals b := by
  cases hg : i.globals with
  | own g =>
      unfold readGlobals
      rw [hg]
  | shared cell =>
      have hcell : i.cell? = some cell := by
        unfold cell?
        rw [hg]
      rw [readGlobals_of_cell? hcell, readGlobals_of_cell? hcell,
        Cells.read_eq_map?, Cells.read_eq_map?, h cell hcell]

end Instance

end RuledList
