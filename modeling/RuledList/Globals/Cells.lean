/-
Globals that several holders share. A shared map lives in a cell, and
a holder keeps the number of the cell; two holders share a map exactly
when their numbers are equal. Cells are only ever added.
-/
import RuledList.Globals.Basic

namespace RuledList

/-- The shared globals maps, by number. -/
structure Cells where
  maps : List Globals

namespace Cells

/-- No shared maps. -/
def empty : Cells := ⟨[]⟩

/-- The map in a cell; a number that was never given out shows an empty
one. -/
def read (c : Cells) (cell : Nat) : Globals :=
  c.maps[cell]?.getD Globals.fresh

/-- Replace the map in a cell. -/
def write (c : Cells) (cell : Nat) (g : Globals) : Cells :=
  ⟨c.maps.set cell g⟩

/-- Add a cell with an empty map; the number of the cell comes first. -/
def add (c : Cells) : Nat × Cells :=
  (c.maps.length, ⟨c.maps ++ [Globals.fresh]⟩)

theorem read_write_self (c : Cells) (cell : Nat) (g : Globals)
    (h : cell < c.maps.length) : (c.write cell g).read cell = g := by
  simp [read, write, h]

end Cells

end RuledList
