import Readout.Fault

/-!
# Grids

A grid holds one cell per index into a shape, in row-major order. A shape
without axes holds a single cell. Grids of one shape stack along a new first
axis, and the rows of a grid are its parts along the first axis.
-/

namespace Readout

/-- The number of cells of a shape. -/
def volume : List Nat → Nat
  | [] => 1
  | size :: inner => size * volume inner

@[simp] theorem volume_nil : volume [] = 1 := rfl

@[simp] theorem volume_cons (size : Nat) (inner : List Nat) :
    volume (size :: inner) = size * volume inner := rfl

/-- Cells arranged along the axes of a shape. -/
structure Grid (α : Type) where
  /-- The number of indices of each axis. -/
  shape : List Nat
  /-- The cells, last axis fastest. -/
  cells : List α
  /-- There is one cell for each index. -/
  length_cells : cells.length = volume shape

namespace Grid

/-- The grid without axes. -/
def single (cell : α) : Grid α :=
  ⟨[], [cell], rfl⟩

/-- The grid with one axis. -/
def vector (cells : List α) : Grid α :=
  ⟨[cells.length], cells, by simp⟩

/-- The grid of a shape that holds the same cell everywhere. -/
def fill (shape : List Nat) (cell : α) : Grid α :=
  ⟨shape, List.replicate (volume shape) cell, List.length_replicate⟩

/-- The grid of a shape with given cells, if their number is right. -/
def ofShape? (shape : List Nat) (cells : List α) : Option (Grid α) :=
  if length_cells : cells.length = volume shape then
    some ⟨shape, cells, length_cells⟩
  else none

/-- Apply a function to every cell. -/
def map (function : α → β) (grid : Grid α) : Grid β :=
  ⟨grid.shape, grid.cells.map function, by simp [grid.length_cells]⟩

/-- Cut a list of cells into rows of one shape. -/
def cut
    (inner : List Nat) :
    (count : Nat) →
    (cells : List α) →
    cells.length = count * volume inner →
    List (Grid α)
  | 0, _, _ => []
  | count + 1, cells, length_cells =>
      ⟨inner, cells.take (volume inner), by
        rw [List.length_take, length_cells, Nat.add_mul]
        omega⟩ ::
      cut inner count (cells.drop (volume inner)) (by
        rw [List.length_drop, length_cells, Nat.add_mul]
        omega)

/-- The parts of a grid along its first axis. -/
def rows : Grid α → List (Grid α)
  | ⟨[], _, _⟩ => []
  | ⟨size :: inner, cells, length_cells⟩ => cut inner size cells length_cells

/-- The axes that two shapes have in common, from the first on. -/
def sharedAxes : List Nat → List Nat → List Nat
  | left :: lefts, right :: rights =>
      if left = right then left :: sharedAxes lefts rights else []
  | _, _ => []

/-- The cells of grids of one shape fill a grid with one more axis. -/
theorem length_flatMap_cells
    (shape : List Nat)
    (grids : List (Grid α))
    (sameShape : ∀ grid ∈ grids, grid.shape = shape) :
    (grids.flatMap cells).length = volume (grids.length :: shape) := by
  induction grids with
  | nil => simp
  | cons grid rest inductionHypothesis =>
      have restShape := inductionHypothesis fun other member =>
        sameShape other (List.mem_cons_of_mem grid member)
      rw [List.flatMap_cons, List.length_append, restShape, grid.length_cells,
        sameShape grid List.mem_cons_self]
      simp only [volume_cons, List.length_cons, Nat.add_mul]
      omega

/-- Stack grids along a new first axis. No grids at all make an empty vector. -/
def stack : List (Grid α) → Except Fault (Grid α)
  | [] => .ok (vector [])
  | first :: rest =>
      if sameShape : ∀ grid ∈ first :: rest, grid.shape = first.shape then
        .ok ⟨(first :: rest).length :: first.shape, (first :: rest).flatMap cells,
          length_flatMap_cells first.shape (first :: rest) sameShape⟩
      else
        .error (.ragged
          ((first :: rest).length ::
            rest.foldl (fun axes grid => sharedAxes axes grid.shape) first.shape))

/-- The cell of a grid that has exactly one. -/
def only (grid : Grid α) : Except Fault α :=
  match grid.cells with
  | [] => .error .noTruth
  | [cell] => .ok cell
  | _ :: _ :: _ => .error .manyTruths

@[simp] theorem cells_single (cell : α) : (single cell).cells = [cell] := rfl

@[simp] theorem cells_vector (cells : List α) : (vector cells).cells = cells := rfl

@[simp] theorem shape_vector (cells : List α) :
    (vector cells).shape = [cells.length] := rfl

@[simp] theorem only_single (cell : α) : (single cell).only = .ok cell := rfl

/-- As many rows are cut as asked for. -/
@[simp] theorem length_cut
    (inner : List Nat)
    (count : Nat)
    (cells : List α)
    (length_cells : cells.length = count * volume inner) :
    (cut inner count cells length_cells).length = count := by
  induction count generalizing cells with
  | zero => rfl
  | succ count inductionHypothesis =>
      rw [cut, List.length_cons, inductionHypothesis]

/-- Single cells stack to a vector. -/
theorem stack_map_single (cells : List α) :
    stack (cells.map single) = .ok (vector cells) := by
  cases cells with
  | nil => rfl
  | cons first rest =>
      have sameShape : ∀ grid ∈ single first :: rest.map single,
          grid.shape = (single first).shape := by
        intro grid member
        rcases List.mem_cons.mp member with rfl | member
        · rfl
        · obtain ⟨cell, _, rfl⟩ := List.mem_map.mp member
          rfl
      rw [List.map_cons, stack, dif_pos sameShape]
      simp [vector, single, List.flatMap_map]

end Grid
end Readout
