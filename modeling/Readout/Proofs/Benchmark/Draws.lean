import Readout.Benchmark.Pass
import Readout.Proofs.Period
import Readout.Proofs.Views

/-!
# What the passes of a benchmark draw

The widths and the numbers of the passes depend on the random source alone, not
on what is read back. A source of widths that are short enough to be read never
fails, and every number drawn fits into its width.
-/

namespace Readout
namespace Benchmark

/-- The width and the number of a pass. -/
structure Draw where
  /-- The width, as it was taken. -/
  width : Value
  /-- The number. -/
  number : Nat
  /-- The random source after the pass. -/
  generator : Generator

namespace Setup

/-- Draw the width and the number of the pass with a given index. -/
def draw (setup : Setup) (index : Nat) (generator : Generator) :
    Except Fault Draw := do
  let width ← setup.widths.width generator index
  let number ← drawNumber width.1 width.2
  return ⟨width.1, number.1, number.2⟩

/-- The random source before the pass with a given index, as long as all earlier
draws succeed. -/
def source (setup : Setup) : Nat → Generator
  | 0 => Generator.ofSeed setup.seed
  | index + 1 =>
      match setup.draw index (setup.source index) with
      | .ok draw => draw.generator
      | .error _ => setup.source index

/-- The draw of the pass with a given index. -/
def drawAt (setup : Setup) (index : Nat) : Except Fault Draw :=
  setup.draw index (setup.source index)

/-- The width of a pass as a number of bits. -/
def size (setup : Setup) (index : Nat) : Nat :=
  match setup.drawAt index with
  | .ok draw => (draw.width.integer?.getD 0).toNat
  | .error _ => 0

/-- The number that a pass writes. -/
def number (setup : Setup) (index : Nat) : Nat :=
  match setup.drawAt index with
  | .ok draw => draw.number
  | .error _ => 0

end Setup

/-- A pass takes a width that can be read, and draws a number of as many bits as the
width counts, which leaves the random source to the next pass. -/
def Readable (setup : Setup) (index : Nat) : Prop :=
  ∃ width rest,
    setup.widths.width (setup.source index) index = .ok (width, rest) ∧
    width.IsInteger (setup.size index) ∧
    setup.size index ≤ Word.capacity ∧
    rest.bits (setup.size index) = (setup.number index, setup.source (index + 1))

/-! ## What a draw says of a pass -/

section DrawAt

variable {setup : Setup} {index : Nat} {draw : Draw}

theorem number_of_drawAt (drawn : setup.drawAt index = .ok draw) :
    setup.number index = draw.number := by
  rw [Setup.number, drawn]

theorem source_succ_of_drawAt (drawn : setup.drawAt index = .ok draw) :
    setup.source (index + 1) = draw.generator := by
  have drawnNow : setup.draw index (setup.source index) = .ok draw := drawn
  rw [Setup.source, drawnNow]

theorem size_of_drawAt
    {size : Nat}
    (drawn : setup.drawAt index = .ok draw)
    (isWidth : draw.width.IsInteger size) :
    setup.size index = size := by
  rw [Setup.size, drawn]
  change (draw.width.integer?.getD 0).toNat = size
  rw [Value.integer?_eq_some_iff.mpr isWidth]
  rfl

/-- What a pass draws begins with its width. -/
theorem exists_width_of_drawAt (drawn : setup.drawAt index = .ok draw) :
    ∃ rest, setup.widths.width (setup.source index) index = .ok (draw.width, rest) := by
  rw [Setup.drawAt, Setup.draw] at drawn
  obtain ⟨⟨width, rest⟩, taken, drawn⟩ := except_bind_eq_ok_iff.mp drawn
  obtain ⟨number, _, same⟩ := except_bind_eq_ok_iff.mp drawn
  cases same
  exact ⟨rest, taken⟩

end DrawAt

/-! ## Passes that can be read -/

/-- A number drawn for a width that is an integer has that many bits. -/
theorem drawNumber_of_isInteger
    {width : Value}
    {size : Nat}
    (isWidth : width.IsInteger size)
    (generator : Generator) :
    drawNumber width generator = .ok (generator.bits size) := by
  unfold drawNumber
  rw [isWidth.isPositive_eq, isWidth.count_eq]
  cases size with
  | zero => simp [bind, Except.bind, pure, Except.pure, Generator.bits,
      Generator.words]
  | succ size =>
      have positive : (0 : Int) < (size + 1 : Nat) := by omega
      simp only [bind, Except.bind, pure, Except.pure, positive, decide_true,
        if_true, Int.toNat_natCast]

section Width

variable
  {setup : Setup}
  {index size : Nat}
  {width : Value}
  {rest : Generator}

/-- A pass draws a number of as many bits as its width is. -/
theorem drawAt_of_width
    (taken : setup.widths.width (setup.source index) index = .ok (width, rest))
    (isWidth : width.IsInteger size) :
    setup.drawAt index =
      .ok ⟨width, (rest.bits size).1, (rest.bits size).2⟩ := by
  rw [Setup.drawAt, Setup.draw, taken]
  simp only [bind, Except.bind, drawNumber_of_isInteger isWidth]
  rfl

/-- A pass draws what can be read if its width is short. -/
theorem readable_of_width
    (taken : setup.widths.width (setup.source index) index = .ok (width, rest))
    (isWidth : width.IsInteger size)
    (short : size ≤ Word.capacity) :
    Readable setup index := by
  have drawn := drawAt_of_width taken isWidth
  have sizeKnown := size_of_drawAt drawn isWidth
  rw [Readable, sizeKnown, number_of_drawAt drawn, source_succ_of_drawAt drawn]
  exact ⟨width, rest, taken, isWidth, short, rfl⟩

/-- A pass can be read if it draws a short width. -/
theorem readable_of_drawAt
    {draw : Draw}
    (drawn : setup.drawAt index = .ok draw)
    (isWidth : draw.width.IsInteger size)
    (short : size ≤ Word.capacity) :
    Readable setup index := by
  obtain ⟨rest, taken⟩ := exists_width_of_drawAt drawn
  exact readable_of_width taken isWidth short

end Width

/-- A pass that can be read draws a number that fits into its width. -/
theorem Readable.exists_drawAt
    {setup : Setup}
    {index : Nat}
    (readable : Readable setup index) :
    ∃ width, setup.drawAt index =
        .ok ⟨width, setup.number index, setup.source (index + 1)⟩ ∧
      width.IsInteger (setup.size index) ∧
      setup.size index ≤ Word.capacity ∧
      setup.number index < 2 ^ setup.size index := by
  obtain ⟨width, rest, taken, isWidth, short, drawn⟩ := readable
  have fits := Generator.bits_lt (setup.size index) rest
  rw [drawn] at fits
  refine ⟨width, ?_, isWidth, short, fits⟩
  rw [drawAt_of_width taken isWidth, drawn]

/-! ## Sources of readable widths -/

theorem cyclic_mem
    {items : List α}
    (fallback : α)
    (nonempty : items ≠ [])
    (index : Nat) :
    cyclic fallback items index ∈ items := by
  have inside : index % items.length < items.length :=
    Nat.mod_lt index (List.length_pos_iff.mpr nonempty)
  rw [cyclic, List.getD_eq_getElem?_getD, List.getElem?_eq_getElem inside,
    Option.getD_some]
  exact List.getElem_mem inside

/-- A source of widths yields integers from zero to the capacity of a word: it
repeats such integers, or draws them below the successor of one. -/
def ShortWidths : WidthSource → Prop
  | .given widths =>
      widths ≠ [] ∧
        ∀ width ∈ widths, ∃ size : Nat, width.IsInteger size ∧ size ≤ 63
  | .drawn largest =>
      ∃ bound : Nat, largest.successor = .ok (bound + 1) ∧ bound ≤ 63

/-- A width is drawn if the random source finds one. -/
theorem width_drawn
    {largest : Value}
    {bound : Int}
    {generator : Generator}
    {choice : Nat × Generator}
    (index : Nat)
    (following : largest.successor = .ok bound)
    (positive : 0 < bound)
    (found : generator.below? bound.toNat = some choice) :
    (WidthSource.drawn largest).width generator index =
      .ok (.integer choice.1, choice.2) := by
  rw [WidthSource.width, following]
  simp only [bind, Except.bind]
  rw [if_neg (Int.not_le.mpr positive), found]

/-- A source of short widths always yields one. -/
theorem ShortWidths.exists_width
    {widths : WidthSource}
    (short : ShortWidths widths)
    (generator : Generator)
    (index : Nat) :
    ∃ width size rest, widths.width generator index = .ok (width, rest) ∧
      width.IsInteger (Nat.cast size) ∧ size ≤ Word.capacity := by
  cases widths with
  | given widths =>
      obtain ⟨nonempty, allShort⟩ := short
      obtain ⟨size, isWidth, bounded⟩ :=
        allShort _ (cyclic_mem .nothing nonempty index)
      exact ⟨_, size, generator, rfl, isWidth, bounded⟩
  | drawn largest =>
      obtain ⟨bound, following, bounded⟩ := short
      have below : ∃ choice, generator.below? ((bound : Int) + 1).toNat =
          some choice ∧ choice.1 < ((bound : Int) + 1).toNat :=
        Generator.exists_below (by omega) (by omega) generator
      obtain ⟨choice, found, small⟩ := below
      refine ⟨.integer choice.1, choice.1, choice.2,
        width_drawn index following (by omega) found, .proper _, ?_⟩
      rw [Word.capacity]
      omega

/-- With short widths, every pass draws what can be read. -/
theorem ShortWidths.readable
    {setup : Setup}
    (short : ShortWidths setup.widths)
    (index : Nat) :
    Readable setup index := by
  obtain ⟨width, size, rest, taken, isWidth, bounded⟩ :=
    short.exists_width (setup.source index) index
  exact readable_of_width taken isWidth bounded

end Benchmark
end Readout
