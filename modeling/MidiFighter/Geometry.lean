import MidiFighter.Display
import MidiFighter.Wrap

/-!
# Geometric animations

The four renderers of `display.c`. They place an animation around a button
of the 8 by 8 grid with `uint8_t` rows and columns: to the left of and below
the grid a coordinate wraps to a large byte, and the code relies on that to
find it out of range.

A renderer is given as the list of the cells it lights (`squareCells` and
its siblings) behind a common prologue, and a frame as the list of its
stores to the LED buffer. `SquareLit` and its siblings evaluate the same
formulas over the integers, without a grid. `mem_cellsOf` compares the two:
the cells lit are those of the integer formulas that lie in the grid.
-/

namespace MidiFighter

open Wrap

def geometricAnimationRows : UInt8 := 8
def geometricAnimationCols : UInt8 := 8

def geometricAnimationStepsCircle : UInt8 := 14
def geometricAnimationStepsStar : UInt8 := 11
def geometricAnimationStepsTriangle : UInt8 := 15

def geometricStarMaxTailLength : UInt8 := 3

def AnimationType.steps : AnimationType → UInt8
  | .square => geometricAnimationStepsSquare
  | .circle => geometricAnimationStepsCircle
  | .star => geometricAnimationStepsStar
  | .triangle => geometricAnimationStepsTriangle

/-! ## Rows and columns -/

def getGeometricButtonRow (btnId : UInt8) : UInt8 := (btnId >>> 2) &&& 0x07

/-- The column of a button, from the left. The right half of the grid has
the buttons from 32 on. -/
def getGeometricButtonColumn (btnId : UInt8) : UInt8 :=
  let thisColumn := btnId &&& 0x03
  if btnId ≥ 32 then thisColumn + 4 else thisColumn

def getButtonIdFromRowColumn (buttonRow buttonColumn : UInt8) : UInt8 :=
  if buttonRow ≥ geometricAnimationRows then 0xFF
  else if buttonColumn ≥ geometricAnimationCols then 0xFF
  else if buttonColumn < 4 then buttonRow * 4 + buttonColumn
  else buttonRow * 4 + (buttonColumn &&& 0x03) + 32

abbrev Cell := UInt8 × UInt8

def Cell.InGrid (cell : Cell) : Prop :=
  cell.1 < geometricAnimationRows ∧ cell.2 < geometricAnimationCols

def Cell.buttonId (cell : Cell) : UInt8 := getButtonIdFromRowColumn cell.1 cell.2

def geometricButton (btnId : UInt8) : Cell :=
  (getGeometricButtonRow btnId, getGeometricButtonColumn btnId)

theorem geometricButton_inGrid : ∀ {btnId : UInt8}, btnId < 64 →
    (geometricButton btnId).InGrid :=
  @(forall_byte (by unfold Cell.InGrid; decide +kernel))

theorem buttonId_geometricButton : ∀ {btnId : UInt8}, btnId < 64 →
    (geometricButton btnId).buttonId = btnId :=
  @(forall_byte (by decide +kernel))

theorem Cell.InGrid.toNat_buttonId {cell : Cell} (h : cell.InGrid) :
    cell.buttonId.toNat = 4 * cell.1.toNat + cell.2.toNat % 4 + 32 * (cell.2.toNat / 4) := by
  obtain ⟨row, col⟩ := cell
  obtain ⟨hrow, hcol⟩ : row.toNat < 8 ∧ col.toNat < 8 :=
    ⟨UInt8.lt_iff_toNat_lt.mp h.1, UInt8.lt_iff_toNat_lt.mp h.2⟩
  have hmask : (col &&& 0x03).toNat = col.toNat % 4 := by
    rw [UInt8.toNat_and]
    exact Nat.and_two_pow_sub_one_eq_mod col.toNat 2
  have h4 : (4 : UInt8).toNat = 4 := rfl
  have h32 : (32 : UInt8).toNat = 32 := rfl
  simp only [Cell.buttonId, getButtonIdFromRowColumn, if_neg (UInt8.not_le.mpr h.1),
    if_neg (UInt8.not_le.mpr h.2), UInt8.lt_iff_toNat_lt, h4]
  split_ifs <;> simp only [UInt8.toNat_add, UInt8.toNat_mul, hmask, h4, h32] <;> omega

theorem Cell.InGrid.buttonId_lt {cell : Cell} (h : cell.InGrid) : cell.buttonId.toNat < 64 := by
  have hrow : cell.1.toNat < 8 := UInt8.lt_iff_toNat_lt.mp h.1
  have hcol : cell.2.toNat < 8 := UInt8.lt_iff_toNat_lt.mp h.2
  rw [h.toNat_buttonId]
  omega

theorem Cell.buttonId_lt_iff {cell : Cell} : cell.buttonId < 64 ↔ cell.InGrid := by
  refine ⟨fun h => ?_, fun h => UInt8.lt_iff_toNat_lt.mpr h.buttonId_lt⟩
  unfold Cell.buttonId getButtonIdFromRowColumn at h
  split_ifs at h with hrow hcol
  · exact absurd h (by decide)
  · exact absurd h (by decide)
  all_goals exact ⟨UInt8.not_le.mp hrow, UInt8.not_le.mp hcol⟩

theorem Cell.InGrid.buttonId_inj {cell cell' : Cell} (h : cell.InGrid) (h' : cell'.InGrid)
    (heq : cell.buttonId.toNat = cell'.buttonId.toNat) : cell = cell' := by
  have hrow : cell.1.toNat < 8 := UInt8.lt_iff_toNat_lt.mp h.1
  have hrow' : cell'.1.toNat < 8 := UInt8.lt_iff_toNat_lt.mp h'.1
  have hcol : cell.2.toNat < 8 := UInt8.lt_iff_toNat_lt.mp h.2
  have hcol' : cell'.2.toNat < 8 := UInt8.lt_iff_toNat_lt.mp h'.2
  rw [h.toNat_buttonId, h'.toNat_buttonId] at heq
  exact Prod.ext (UInt8.toNat_inj.mp (by omega)) (UInt8.toNat_inj.mp (by omega))

/-! ## Cells lit -/

/-- The rows and columns between which an animation is drawn. -/
structure Edges where
  minRow : UInt8
  maxRow : UInt8
  minCol : UInt8
  maxCol : UInt8

namespace Edges

def rows (e : Edges) : List UInt8 := window geometricAnimationRows e.minRow e.maxRow

def cols (e : Edges) : List UInt8 := window geometricAnimationCols e.minCol e.maxCol

/-- The edges at distance `pos`, of all but the triangle. -/
def around (btnRow btnCol pos : UInt8) : Edges :=
  ⟨btnRow - pos, btnRow + pos, btnCol - pos, btnCol + pos⟩

def ofTriangle (btnRow btnCol pos : UInt8) : Edges :=
  ⟨btnRow - (pos - 1), btnRow + pos, btnCol - (1 + (pos - 1) * 2), btnCol + (1 + (pos - 1) * 2)⟩

def cells (e : Edges) (lightLed : UInt8 → UInt8 → Bool) : List Cell :=
  e.rows.flatMap fun thisRow =>
    (e.cols.filter (lightLed thisRow)).map fun thisCol => (thisRow, thisCol)

theorem mem_cells {e : Edges} {lightLed : UInt8 → UInt8 → Bool} {row col : UInt8} :
    (row, col) ∈ e.cells lightLed ↔ row ∈ e.rows ∧ col ∈ e.cols ∧ lightLed row col := by
  simp only [cells, List.mem_flatMap, List.mem_map, List.mem_filter, Prod.mk.injEq]
  constructor
  · rintro ⟨_, hrow, _, hcol, rfl, rfl⟩
    exact ⟨hrow, hcol⟩
  · rintro ⟨hrow, hcol⟩
    exact ⟨row, hrow, col, hcol, rfl, rfl⟩

end Edges

def squareCells (btnRow btnCol pos : UInt8) : List Cell :=
  let e := Edges.around btnRow btnCol pos
  e.cells fun thisRow thisCol =>
    if thisRow = e.minRow ∨ thisRow = e.maxRow then true
    else decide (thisCol = e.minCol ∨ thisCol = e.maxCol)

def getDistanceFromCenterInSteps (btnRow btnCol thisRow thisCol : UInt8) : UInt8 :=
  let rowDistance := if btnRow > thisRow then btnRow - thisRow else thisRow - btnRow
  let colDistance := if btnCol > thisCol then btnCol - thisCol else thisCol - btnCol
  rowDistance + colDistance

/-- `maximum_distance_steps`, where `pos` is `minimum_distance_steps`. -/
def maximumDistanceSteps (pos : UInt8) : UInt8 :=
  let circleIncrementer := if pos >>> 1 ≤ 3 then pos >>> 1 else 3
  if pos = 1 then pos else pos + circleIncrementer

def circleCells (btnRow btnCol pos : UInt8) : List Cell :=
  let e := Edges.around btnRow btnCol pos
  let minimumDistanceSteps := pos
  e.cells fun thisRow thisCol =>
    let distanceInSteps := getDistanceFromCenterInSteps btnRow btnCol thisRow thisCol
    if distanceInSteps < minimumDistanceSteps then false
    else if distanceInSteps = minimumDistanceSteps then
      decide (thisRow = e.minRow ∨ thisRow = e.maxRow ∨ thisCol = e.minCol ∨ thisCol = e.maxCol)
    else decide (distanceInSteps ≤ maximumDistanceSteps pos)

def starTips (btnRow btnCol : UInt8) (e : Edges) (tailPosition : UInt8) : List Cell :=
  [(e.maxRow - tailPosition, btnCol), (e.minRow + tailPosition, btnCol),
    (e.maxRow - tailPosition, e.minCol + tailPosition),
    (e.maxRow - tailPosition, e.maxCol - tailPosition),
    (e.minRow + tailPosition, e.minCol + tailPosition),
    (e.minRow + tailPosition, e.maxCol - tailPosition),
    (btnRow, e.minCol + tailPosition), (btnRow, e.maxCol - tailPosition)]

/-- The loop `while (counter > 0 && tail_position < MAX_TAIL_LENGTH)`, cut off
after `turns` turns. -/
def starLoop (btnRow btnCol : UInt8) (e : Edges) : Nat → UInt8 → UInt8 → List Cell
  | 0, _, _ => []
  | turns + 1, counter, tailPosition =>
      if counter > 0 ∧ tailPosition < geometricStarMaxTailLength then
        (starTips btnRow btnCol e tailPosition).filter (fun cell => cell.buttonId < 64) ++
          starLoop btnRow btnCol e turns (counter - 1) (tailPosition + 1)
      else []

-- after `MAX_TAIL_LENGTH` turns the second test of the loop fails
def starCells (btnRow btnCol pos : UInt8) : List Cell :=
  starLoop btnRow btnCol (.around btnRow btnCol pos) geometricStarMaxTailLength.toNat pos 0

def triangleCells (btnRow btnCol pos : UInt8) : List Cell :=
  let e := Edges.ofTriangle btnRow btnCol pos
  let startRow := if e.minRow < geometricAnimationRows then e.minRow else 0
  let endRow := if e.maxRow < geometricAnimationRows then e.maxRow else geometricAnimationRows - 1
  (if startRow = e.minRow then e.cols.map fun thisCol => (startRow, thisCol) else []) ++
    (if endRow = e.maxRow then [(endRow, btnCol)] else []) ++
    e.rows.flatMap fun thisRow =>
      let distanceFromBottom := thisRow - e.minRow
      let leftCol := e.minCol + distanceFromBottom
      let rightCol := e.maxCol - distanceFromBottom
      (if leftCol < geometricAnimationCols then [(thisRow, leftCol)] else []) ++
        (if rightCol < geometricAnimationCols then [(thisRow, rightCol)] else [])

def cellsOf : AnimationType → UInt8 → UInt8 → UInt8 → List Cell
  | .square => squareCells
  | .circle => circleCells
  | .star => starCells
  | .triangle => triangleCells

/-! ## Renderers -/

/-- The stores that light a button, in the order of the buffer. -/
def lightLed (src : Rgb) (btnId : UInt8) : List (Nat × UInt8) :=
  let ledIndex := (btnId * 3).toNat
  [(ledIndex, src.b), (ledIndex + 1, src.r), (ledIndex + 2, src.g)]

def lightCells (src : Rgb) (cells : List Cell) : List (Nat × UInt8) :=
  cells.flatMap fun cell => lightLed src cell.buttonId

def GeometricAnimation.nextPos (a : GeometricAnimation) (updateAnimation : Bool) : UInt8 :=
  if updateAnimation then a.pos + 1 else a.pos

/-- What the four `run_geometric_*_animation` share: advance the position,
and then light the cells for it. -/
def runAnimation (type : AnimationType) (src : Rgb) (updateAnimation : Bool)
    (a : GeometricAnimation) : GeometricAnimation × List (Nat × UInt8) :=
  let a := if updateAnimation then { a with pos := a.pos + 1 } else a
  if updateAnimation ∧ a.pos ≥ type.steps then (a, [])
  else if a.pos = 0 then (a, [])
  else
    let btnRow := getGeometricButtonRow a.btnId
    let btnCol := getGeometricButtonColumn a.btnId
    (a, lightCells src (cellsOf type btnRow btnCol a.pos))

def runGeometricSquareAnimation := runAnimation .square
def runGeometricCircleAnimation := runAnimation .circle
def runGeometricStarAnimation := runAnimation .star
def runGeometricTriangleAnimation := runAnimation .triangle

def runGeometricAnimation : AnimationType → Rgb → Bool → GeometricAnimation →
    GeometricAnimation × List (Nat × UInt8)
  | .square => runGeometricSquareAnimation
  | .circle => runGeometricCircleAnimation
  | .star => runGeometricStarAnimation
  | .triangle => runGeometricTriangleAnimation

/-! ## The formulas over the integers -/

section

variable (btnRow btnCol pos thisRow thisCol : Int)

def InSquare : Prop :=
  (btnRow - pos ≤ thisRow ∧ thisRow ≤ btnRow + pos) ∧
    btnCol - pos ≤ thisCol ∧ thisCol ≤ btnCol + pos

def OnEdge : Prop :=
  thisRow = btnRow - pos ∨ thisRow = btnRow + pos ∨ thisCol = btnCol - pos ∨ thisCol = btnCol + pos

def SquareLit : Prop :=
  InSquare btnRow btnCol pos thisRow thisCol ∧ OnEdge btnRow btnCol pos thisRow thisCol

def CircleLit : Prop :=
  let distance := |thisRow - btnRow| + |thisCol - btnCol|
  let maximumDistance := if pos = 1 then pos else pos + min (pos / 2) 3
  InSquare btnRow btnCol pos thisRow thisCol ∧
    (distance = pos ∧ OnEdge btnRow btnCol pos thisRow thisCol ∨
      pos < distance ∧ distance ≤ maximumDistance)

/-- One of the eight rays, `tail` cells behind its tip. -/
def StarRay (tail : Int) : Prop :=
  let top := btnRow + pos - tail
  let bottom := btnRow - pos + tail
  let left := btnCol - pos + tail
  let right := btnCol + pos - tail
  thisRow = top ∧ thisCol = btnCol ∨ thisRow = bottom ∧ thisCol = btnCol ∨
    thisRow = top ∧ thisCol = left ∨ thisRow = top ∧ thisCol = right ∨
    thisRow = bottom ∧ thisCol = left ∨ thisRow = bottom ∧ thisCol = right ∨
    thisRow = btnRow ∧ thisCol = left ∨ thisRow = btnRow ∧ thisCol = right

def StarLit : Prop :=
  ∃ tail : Fin 3, (tail.val : Int) < pos ∧ StarRay btnRow btnCol pos thisRow thisCol tail.val

def TriangleLit : Prop :=
  let minRow := btnRow - (pos - 1)
  let maxRow := btnRow + pos
  let minCol := btnCol - (1 + (pos - 1) * 2)
  let maxCol := btnCol + (1 + (pos - 1) * 2)
  thisRow = minRow ∧ (minCol ≤ thisCol ∧ thisCol ≤ maxCol) ∨
    thisRow = maxRow ∧ thisCol = btnCol ∨
    (minRow ≤ thisRow ∧ thisRow ≤ maxRow) ∧
      (thisCol = minCol + (thisRow - minRow) ∨ thisCol = maxCol - (thisRow - minRow))

instance : Decidable (InSquare btnRow btnCol pos thisRow thisCol) :=
  inferInstanceAs (Decidable ((_ ∧ _) ∧ _ ∧ _))

instance : Decidable (OnEdge btnRow btnCol pos thisRow thisCol) :=
  inferInstanceAs (Decidable (_ ∨ _ ∨ _ ∨ _))

instance : Decidable (SquareLit btnRow btnCol pos thisRow thisCol) :=
  inferInstanceAs (Decidable (_ ∧ _))

instance : Decidable (CircleLit btnRow btnCol pos thisRow thisCol) :=
  inferInstanceAs (Decidable (_ ∧ (_ ∧ _ ∨ _ ∧ _)))

instance (tail : Int) : Decidable (StarRay btnRow btnCol pos thisRow thisCol tail) :=
  inferInstanceAs (Decidable (_ ∧ _ ∨ _ ∧ _ ∨ _ ∧ _ ∨ _ ∧ _ ∨ _ ∧ _ ∨ _ ∧ _ ∨ _ ∧ _ ∨ _ ∧ _))

instance : Decidable (StarLit btnRow btnCol pos thisRow thisCol) :=
  inferInstanceAs (Decidable (∃ tail : Fin 3, _ ∧ StarRay _ _ _ _ _ tail.val))

instance : Decidable (TriangleLit btnRow btnCol pos thisRow thisCol) :=
  inferInstanceAs (Decidable (_ ∧ (_ ∧ _) ∨ _ ∧ _ ∨ (_ ∧ _) ∧ (_ ∨ _)))

/-- The square is the set of cells at Chebyshev distance `pos`. -/
theorem squareLit_iff :
    SquareLit btnRow btnCol pos thisRow thisCol ↔
      max |thisRow - btnRow| |thisCol - btnCol| = pos := by
  rw [SquareLit, InSquare, OnEdge, Int.abs_eq_natAbs, Int.abs_eq_natAbs]
  omega

end

def Lit : AnimationType → Int → Int → Int → Int → Int → Prop
  | .square => SquareLit
  | .circle => CircleLit
  | .star => StarLit
  | .triangle => TriangleLit

instance (type : AnimationType) (btnRow btnCol pos thisRow thisCol : Int) :
    Decidable (Lit type btnRow btnCol pos thisRow thisCol) :=
  match type with
  | .square => inferInstanceAs (Decidable (SquareLit ..))
  | .circle => inferInstanceAs (Decidable (CircleLit ..))
  | .star => inferInstanceAs (Decidable (StarLit ..))
  | .triangle => inferInstanceAs (Decidable (TriangleLit ..))

/-- The integer formulas at the bytes of the code. -/
def Cell.LitAround (type : AnimationType) (btnRow btnCol pos : UInt8) (cell : Cell) : Prop :=
  Lit type btnRow.toNat btnCol.toNat pos.toNat cell.1.toNat cell.2.toNat

instance (type : AnimationType) (btnRow btnCol pos : UInt8) (cell : Cell) :
    Decidable (cell.LitAround type btnRow btnCol pos) :=
  inferInstanceAs (Decidable (Lit ..))

/-! ## Rendering in bytes -/

theorem mem_starLoop {btnRow btnCol : UInt8} {e : Edges} {cell : Cell} :
    ∀ {turns : Nat} {counter tailPosition : UInt8}, tailPosition.toNat + turns ≤ 3 →
      (cell ∈ starLoop btnRow btnCol e turns counter tailPosition ↔
        ∃ i < turns, i < counter.toNat ∧
          cell ∈ starTips btnRow btnCol e (tailPosition + UInt8.ofNat i) ∧ cell.InGrid)
  | 0, _, _, _ => by simp [starLoop]
  | turns + 1, counter, tailPosition, hturns => by
      have hmax : geometricStarMaxTailLength.toNat = 3 := rfl
      have hone : (1 : UInt8).toNat = 1 := rfl
      have hzero : (0 : UInt8).toNat = 0 := rfl
      have hlt : tailPosition < geometricStarMaxTailLength :=
        UInt8.lt_iff_toNat_lt.mpr (by omega)
      rw [starLoop]
      by_cases hcounter : counter > 0
      · have hcounter' : 0 < counter.toNat := UInt8.lt_iff_toNat_lt.mp hcounter
        have hpred : (counter - 1).toNat = counter.toNat - 1 := by
          have := UInt8.toNat_lt counter
          rw [UInt8.toNat_sub, hone]
          omega
        have hsucc : (tailPosition + 1).toNat = tailPosition.toNat + 1 := by
          rw [UInt8.toNat_add, hone]
          omega
        have htail : ∀ i,
            tailPosition + 1 + UInt8.ofNat i = tailPosition + UInt8.ofNat (i + 1) := by
          intro i
          rw [UInt8.ofNat_add, UInt8.add_assoc, UInt8.add_comm 1]
          rfl
        rw [if_pos ⟨hcounter, hlt⟩, List.mem_append, List.mem_filter, decide_eq_true_iff,
          Cell.buttonId_lt_iff, mem_starLoop (by omega)]
        simp only [htail, hpred]
        constructor
        · rintro (htip | ⟨i, hi, hcount, htip⟩)
          · exact ⟨0, by omega, hcounter', by simpa using htip⟩
          · exact ⟨i + 1, by omega, by omega, htip⟩
        · rintro ⟨i, hi, hcount, htip⟩
          cases i with
          | zero => exact .inl (by simpa using htip)
          | succ i => exact .inr ⟨i, by omega, by omega, htip⟩
      · have hcounter' : counter.toNat = 0 := by
          rw [gt_iff_lt, UInt8.lt_iff_toNat_lt, hzero] at hcounter
          omega
        rw [if_neg fun h => hcounter h.1]
        refine iff_of_false (List.not_mem_nil) ?_
        rintro ⟨i, -, hcount, -⟩
        omega

/-- The bottom row, the top and the two sides of the triangle, a row or column
past the grid excluded by the tests of the code. -/
theorem mem_triangleCells_iff {btnRow btnCol pos row col : UInt8} {e : Edges}
    (he : Edges.ofTriangle btnRow btnCol pos = e) :
    (row, col) ∈ triangleCells btnRow btnCol pos ↔
      (row < geometricAnimationRows ∧ row = e.minRow ∧ col ∈ e.cols ∨
        row < geometricAnimationRows ∧ row = e.maxRow ∧ col = btnCol ∨
        row ∈ e.rows ∧ col < geometricAnimationCols ∧
          (col = e.minCol + (row - e.minRow) ∨ col = e.maxCol - (row - e.minRow))) := by
  have hstart : ∀ x : UInt8, (if x < geometricAnimationRows then x else 0) = x ↔
      x < geometricAnimationRows := forall_byte (by decide +kernel)
  have hend : ∀ x : UInt8, (if x < geometricAnimationRows then x
      else geometricAnimationRows - 1) = x ↔ x < geometricAnimationRows :=
    forall_byte (by decide +kernel)
  simp only [triangleCells, he, hstart, hend, List.mem_append, or_assoc]
  refine or_congr ?_ (or_congr ?_ ?_)
  · by_cases hmin : e.minRow < geometricAnimationRows
    · simp only [if_pos hmin, List.mem_map, Prod.mk.injEq]
      constructor
      · rintro ⟨_, hcol, rfl, rfl⟩
        exact ⟨hmin, rfl, hcol⟩
      · rintro ⟨-, rfl, hcol⟩
        exact ⟨col, hcol, rfl, rfl⟩
    · simp only [if_neg hmin, List.not_mem_nil, false_iff]
      rintro ⟨hrow, rfl, -⟩
      exact hmin hrow
  · by_cases hmax : e.maxRow < geometricAnimationRows
    · simp only [if_pos hmax, List.mem_singleton, Prod.mk.injEq]
      exact ⟨fun h => ⟨h.1 ▸ hmax, h⟩, And.right⟩
    · simp only [if_neg hmax, List.not_mem_nil, false_iff]
      rintro ⟨hrow, rfl, -⟩
      exact hmax hrow
  · have hside : ∀ (thisRow thisCol : UInt8),
        (row, col) ∈ (if thisCol < geometricAnimationCols then [(thisRow, thisCol)] else []) ↔
          row = thisRow ∧ col < geometricAnimationCols ∧ col = thisCol := by
      intro thisRow thisCol
      split_ifs with h
      · rw [List.mem_singleton, Prod.mk.injEq]
        exact ⟨fun heq => ⟨heq.1, heq.2 ▸ h, heq.2⟩, fun heq => ⟨heq.1, heq.2.2⟩⟩
      · refine iff_of_false List.not_mem_nil ?_
        rintro ⟨-, hcol, rfl⟩
        exact h hcol
    simp only [List.mem_flatMap, List.mem_append, hside, ← and_or_left]
    constructor
    · rintro ⟨_, hrow, rfl, hcol⟩
      exact ⟨hrow, hcol⟩
    · rintro ⟨hrow, hcol⟩
      exact ⟨row, hrow, rfl, hcol⟩

theorem ofTriangle_eq (btnRow btnCol pos : UInt8) :
    Edges.ofTriangle btnRow btnCol pos =
      ⟨UInt8.ofInt (btnRow.toNat - (pos.toNat - 1)), UInt8.ofInt (btnRow.toNat + pos.toNat),
        UInt8.ofInt (btnCol.toNat - (1 + (pos.toNat - 1) * 2)),
        UInt8.ofInt (btnCol.toNat + (1 + (pos.toNat - 1) * 2))⟩ := by
  simp only [ofInt_sub, UInt8.ofInt_add, UInt8.ofInt_mul, ofInt_toNat]
  rfl

theorem Cell.InGrid.toNat_lt {row col : UInt8} (h : Cell.InGrid (row, col)) :
    row.toNat < 8 ∧ col.toNat < 8 :=
  ⟨UInt8.lt_iff_toNat_lt.mp h.1, UInt8.lt_iff_toNat_lt.mp h.2⟩

section

variable {row col : UInt8} (h : Cell.InGrid (row, col)) {a : Int} (hlow : -248 ≤ a)
  (hhigh : a < 256)

include h hlow hhigh

/-- A row of the grid meets a wrapped row where it meets the integer one. -/
theorem Cell.InGrid.row_eq_iff : row = UInt8.ofInt a ↔ (row.toNat : Int) = a :=
  eq_ofInt_iff hlow hhigh h.1

theorem Cell.InGrid.col_eq_iff : col = UInt8.ofInt a ↔ (col.toNat : Int) = a :=
  eq_ofInt_iff hlow hhigh h.2

end

/-- No position reaches further than a turn of the byte range. -/
theorem AnimationType.pos_lt (type : AnimationType) {pos : UInt8} (h : pos < type.steps) :
    pos.toNat < 15 := by
  have hsteps : type.steps.toNat ≤ 15 := by cases type <;> decide
  exact Nat.lt_of_lt_of_le (UInt8.lt_iff_toNat_lt.mp h) hsteps

theorem toNat_maximumDistanceSteps : ∀ {pos : UInt8}, pos.toNat < 15 →
    ((maximumDistanceSteps pos).toNat : Int) =
      if (pos.toNat : Int) = 1 then (pos.toNat : Int)
      else pos.toNat + min ((pos.toNat : Int) / 2) 3 :=
  @(forall_byte (by decide +kernel))

section

variable {btnRow btnCol pos row col : UInt8} (hbutton : Cell.InGrid (btnRow, btnCol))

include hbutton

section

variable (hpos : pos.toNat < 15)

include hpos

theorem mem_around :
    row ∈ (Edges.around btnRow btnCol pos).rows ∧ col ∈ (Edges.around btnRow btnCol pos).cols ↔
      Cell.InGrid (row, col) ∧
        InSquare btnRow.toNat btnCol.toNat pos.toNat row.toNat col.toNat := by
  obtain ⟨hrow, hcol⟩ := hbutton.toNat_lt
  have hrows : geometricAnimationRows.toNat = 8 := rfl
  have hcols : geometricAnimationCols.toNat = 8 := rfl
  simp only [Edges.rows, Edges.cols, Edges.around, sub_eq_ofInt, add_eq_ofInt]
  rw [mem_window (by decide) (by omega) (by omega) (by omega) (by omega),
    mem_window (by decide) (by omega) (by omega) (by omega) (by omega)]
  exact ⟨fun h => ⟨⟨h.1.1, h.2.1⟩, h.1.2, h.2.2⟩, fun h => ⟨⟨h.1.1, h.2.1⟩, h.1.2, h.2.2⟩⟩

theorem onEdge_around (hcell : Cell.InGrid (row, col)) :
    (row = (Edges.around btnRow btnCol pos).minRow ∨
        row = (Edges.around btnRow btnCol pos).maxRow ∨
        col = (Edges.around btnRow btnCol pos).minCol ∨
        col = (Edges.around btnRow btnCol pos).maxCol) ↔
      OnEdge btnRow.toNat btnCol.toNat pos.toNat row.toNat col.toNat := by
  obtain ⟨hrow, hcol⟩ := hbutton.toNat_lt
  simp only [Edges.around, sub_eq_ofInt, add_eq_ofInt]
  rw [hcell.row_eq_iff (by omega) (by omega), hcell.row_eq_iff (by omega) (by omega),
    hcell.col_eq_iff (by omega) (by omega), hcell.col_eq_iff (by omega) (by omega), OnEdge]

end

theorem mem_squareCells (hsteps : pos < geometricAnimationStepsSquare) :
    (row, col) ∈ squareCells btnRow btnCol pos ↔
      Cell.InGrid (row, col) ∧ Cell.LitAround .square btnRow btnCol pos (row, col) := by
  have hpos := AnimationType.square.pos_lt hsteps
  rw [squareCells, Edges.mem_cells, ← and_assoc, mem_around hbutton hpos, and_assoc]
  refine and_congr_right fun hcell => and_congr_right fun _ => ?_
  rw [← onEdge_around hbutton hpos hcell]
  split_ifs with hrow
  · exact iff_of_true rfl (or_assoc.mp (.inl hrow))
  · rw [decide_eq_true_iff, ← or_assoc, or_iff_right hrow]

theorem toNat_getDistanceFromCenterInSteps (hcell : Cell.InGrid (row, col)) :
    ((getDistanceFromCenterInSteps btnRow btnCol row col).toNat : Int) =
      |(row.toNat : Int) - btnRow.toNat| + |(col.toNat : Int) - btnCol.toNat| := by
  obtain ⟨hrow, hcol⟩ := hbutton.toNat_lt
  obtain ⟨hrow', hcol'⟩ := hcell.toNat_lt
  simp only [getDistanceFromCenterInSteps, gt_iff_lt, UInt8.lt_iff_toNat_lt, Int.abs_eq_natAbs]
  split_ifs <;> simp only [UInt8.toNat_add, UInt8.toNat_sub] <;> omega

theorem mem_circleCells (hsteps : pos < geometricAnimationStepsCircle) :
    (row, col) ∈ circleCells btnRow btnCol pos ↔
      Cell.InGrid (row, col) ∧ Cell.LitAround .circle btnRow btnCol pos (row, col) := by
  have hpos := AnimationType.circle.pos_lt hsteps
  rw [circleCells, Edges.mem_cells, ← and_assoc, mem_around hbutton hpos, and_assoc]
  refine and_congr_right fun hcell => and_congr_right fun _ => ?_
  have hdistance := toNat_getDistanceFromCenterInSteps hbutton hcell
  have hmaximum := toNat_maximumDistanceSteps hpos
  have hedge := onEdge_around hbutton hpos hcell
  rw [← hdistance, ← hmaximum, ← hedge, Nat.cast_inj, Nat.cast_lt, Nat.cast_le,
    UInt8.toNat_inj, ← UInt8.lt_iff_toNat_lt, ← UInt8.le_iff_toNat_le]
  dsimp only
  generalize getDistanceFromCenterInSteps btnRow btnCol row col = distance
  -- the three branches of the code: nearer than the circle, on it, beyond it
  split_ifs with hlt heq
  · have hnear : ¬pos < distance := UInt8.lt_asymm hlt
    simp [hnear, UInt8.ne_of_lt hlt]
  · simp [heq]
  · have hbeyond : pos < distance := UInt8.lt_of_le_of_ne (UInt8.not_lt.mp hlt) (Ne.symm heq)
    simp [heq, hbeyond]

theorem mem_starTips_around (hpos : pos.toNat < 15) (hcell : Cell.InGrid (row, col)) {tail : UInt8}
    (htail : tail.toNat < 3) :
    (row, col) ∈ starTips btnRow btnCol (.around btnRow btnCol pos) tail ↔
      StarRay btnRow.toNat btnCol.toNat pos.toNat row.toNat col.toNat tail.toNat := by
  obtain ⟨hrow, hcol⟩ := hbutton.toNat_lt
  have htop : row = btnRow + pos - tail ↔
      (row.toNat : Int) = btnRow.toNat + pos.toNat - tail.toNat := by
    rw [add_eq_ofInt, ofInt_sub_byte, hcell.row_eq_iff (by omega) (by omega)]
  have hbottom : row = btnRow - pos + tail ↔
      (row.toNat : Int) = btnRow.toNat - pos.toNat + tail.toNat := by
    rw [sub_eq_ofInt, ofInt_add_byte, hcell.row_eq_iff (by omega) (by omega)]
  have hleft : col = btnCol - pos + tail ↔
      (col.toNat : Int) = btnCol.toNat - pos.toNat + tail.toNat := by
    rw [sub_eq_ofInt, ofInt_add_byte, hcell.col_eq_iff (by omega) (by omega)]
  have hright : col = btnCol + pos - tail ↔
      (col.toNat : Int) = btnCol.toNat + pos.toNat - tail.toNat := by
    rw [add_eq_ofInt, ofInt_sub_byte, hcell.col_eq_iff (by omega) (by omega)]
  simp only [starTips, Edges.around, List.mem_cons, List.not_mem_nil, or_false, Prod.mk.injEq,
    htop, hbottom, hleft, hright, StarRay, Nat.cast_inj, UInt8.toNat_inj]

theorem mem_starCells (hsteps : pos < geometricAnimationStepsStar) :
    (row, col) ∈ starCells btnRow btnCol pos ↔
      Cell.InGrid (row, col) ∧ Cell.LitAround .star btnRow btnCol pos (row, col) := by
  have hpos := AnimationType.star.pos_lt hsteps
  have htail : ∀ i < 3, (0 + UInt8.ofNat i).toNat = i := by decide
  rw [starCells, mem_starLoop (by decide)]
  constructor
  · rintro ⟨i, hi, hcount, htip, hcell⟩
    rw [mem_starTips_around hbutton hpos hcell (by rw [htail i hi]; exact hi), htail i hi] at htip
    exact ⟨hcell, ⟨i, hi⟩, Int.ofNat_lt.mpr hcount, htip⟩
  · rintro ⟨hcell, ⟨i, hi⟩, hcount, htip⟩
    refine ⟨i, hi, Int.ofNat_lt.mp hcount, ?_, hcell⟩
    rw [mem_starTips_around hbutton hpos hcell (by rw [htail i hi]; exact hi), htail i hi]
    exact htip

theorem mem_triangleCells (hpos : 0 < pos) (hsteps : pos < geometricAnimationStepsTriangle) :
    (row, col) ∈ triangleCells btnRow btnCol pos ↔
      Cell.InGrid (row, col) ∧ Cell.LitAround .triangle btnRow btnCol pos (row, col) := by
  obtain ⟨hrow, hcol⟩ := hbutton.toNat_lt
  have hlt := AnimationType.triangle.pos_lt hsteps
  have hpos' : 0 < pos.toNat := UInt8.lt_iff_toNat_lt.mp hpos
  have hrows : geometricAnimationRows.toNat = 8 := rfl
  have hcols : geometricAnimationCols.toNat = 8 := rfl
  rw [mem_triangleCells_iff (ofTriangle_eq btnRow btnCol pos)]
  simp only [Edges.rows, Edges.cols]
  rw [mem_window (by decide) (by omega) (by omega) (by omega) (by omega),
    mem_window (by decide) (by omega) (by omega) (by omega) (by omega)]
  refine (and_iff_right_of_imp ?_).symm.trans (and_congr_right fun hcell => ?_)
  · rintro (⟨hr, -, hc, -⟩ | ⟨hr, -, hc⟩ | ⟨⟨hr, -⟩, hc, -⟩)
    · exact ⟨hr, hc⟩
    · exact ⟨hr, hc ▸ hbutton.2⟩
    · exact ⟨hr, hc⟩
  · obtain ⟨hrow', hcol'⟩ := hcell.toNat_lt
    simp only [Cell.LitAround, Lit, TriangleLit]
    generalize hminRow : (btnRow.toNat - (pos.toNat - 1) : Int) = minRow
    generalize hmaxRow : (btnRow.toNat + pos.toNat : Int) = maxRow
    generalize hminCol : (btnCol.toNat - (1 + (pos.toNat - 1) * 2) : Int) = minCol
    generalize hmaxCol : (btnCol.toNat + (1 + (pos.toNat - 1) * 2) : Int) = maxCol
    have hdistance : row - UInt8.ofInt minRow = UInt8.ofInt (row.toNat - minRow) := by
      rw [ofInt_sub, ofInt_toNat]
    rw [hdistance, ← UInt8.ofInt_add, ← ofInt_sub, hcell.row_eq_iff (by omega) (by omega),
      hcell.row_eq_iff (by omega) (by omega), hcell.col_eq_iff (by omega) (by omega),
      hcell.col_eq_iff (by omega) (by omega), Nat.cast_inj, UInt8.toNat_inj]
    have hgrid : row < geometricAnimationRows ∧ col < geometricAnimationCols := hcell
    simp only [hgrid, true_and]

/-- The cells a renderer lights are the cells of the integer formulas that
lie in the grid. -/
theorem mem_cellsOf {type : AnimationType} {cell : Cell} (hpos : 0 < pos)
    (hsteps : pos < type.steps) :
    cell ∈ cellsOf type btnRow btnCol pos ↔
      cell.InGrid ∧ cell.LitAround type btnRow btnCol pos := by
  cases type with
  | square => exact mem_squareCells hbutton hsteps
  | circle => exact mem_circleCells hbutton hsteps
  | star => exact mem_starCells hbutton hsteps
  | triangle => exact mem_triangleCells hbutton hpos hsteps

end

theorem cellsOf_inGrid {type : AnimationType} {btnId pos : UInt8} (hbtn : btnId < 64)
    (hpos : 0 < pos) (hsteps : pos < type.steps) :
    ∀ cell ∈ cellsOf type (getGeometricButtonRow btnId) (getGeometricButtonColumn btnId) pos,
      cell.InGrid := fun _ hcell =>
  ((mem_cellsOf (geometricButton_inGrid hbtn) hpos hsteps).mp hcell).1

/-! ## The stores of a frame -/

/-- The byte index of a button's LED does not wrap. -/
theorem toNat_ledIndex {btnId : UInt8} (h : btnId.toNat < 64) :
    (btnId * 3).toNat = 3 * btnId.toNat := by
  have h3 : (3 : UInt8).toNat = 3 := rfl
  rw [UInt8.toNat_mul, h3]
  omega

theorem applyWrites_lightLed {btnId : UInt8} (h : btnId.toNat < 64) (src : Rgb)
    (buffer : Nat → UInt8) :
    Cells.applyWrites buffer (lightLed src btnId) = writeBrg buffer btnId.toNat src := by
  rw [lightLed, toNat_ledIndex h, writeBrg]

theorem address_lt_of_mem_lightCells {src : Rgb} {cells : List Cell} {w : Nat × UInt8}
    (hgrid : ∀ cell ∈ cells, cell.InGrid) (hw : w ∈ lightCells src cells) : w.1 < 192 := by
  obtain ⟨cell, hcell, hw⟩ := List.mem_flatMap.mp hw
  have hbutton := (hgrid cell hcell).buttonId_lt
  have hindex := toNat_ledIndex hbutton
  simp only [lightLed, List.mem_cons, List.not_mem_nil, or_false] at hw
  rcases hw with rfl | rfl | rfl <;> dsimp only <;> omega

theorem readBrg_lightCells {src : Rgb} {cell : Cell} (hcell : cell.InGrid) :
    ∀ {cells : List Cell} {buffer : Nat → UInt8}, (∀ cell ∈ cells, cell.InGrid) →
      readBrg (Cells.applyWrites buffer (lightCells src cells)) cell.buttonId.toNat =
        if cell ∈ cells then src else readBrg buffer cell.buttonId.toNat
  | [], _, _ => rfl
  | first :: cells, buffer, hgrid => by
      obtain ⟨hfirst, hcells⟩ := List.forall_mem_cons.mp hgrid
      rw [lightCells, List.flatMap_cons, Cells.applyWrites_append,
        applyWrites_lightLed hfirst.buttonId_lt, ← lightCells, readBrg_lightCells hcell hcells,
        readBrg_writeBrg]
      by_cases heq : cell = first
      · simp [heq]
      · have hne : cell.buttonId.toNat ≠ first.buttonId.toNat := fun h =>
          heq (hcell.buttonId_inj hfirst h)
        simp [heq, hne]

/-- A renderer lights the cells of the position it moves to, while that is a
position of the animation. -/
theorem runAnimation_eq (type : AnimationType) (src : Rgb) (updateAnimation : Bool)
    (a : GeometricAnimation) :
    runAnimation type src updateAnimation a =
      ({ a with pos := a.nextPos updateAnimation },
        if 0 < a.nextPos updateAnimation ∧
            (updateAnimation → a.nextPos updateAnimation < type.steps) then
          lightCells src (cellsOf type (getGeometricButtonRow a.btnId)
            (getGeometricButtonColumn a.btnId) (a.nextPos updateAnimation))
        else []) := by
  have hadvance : (if updateAnimation then { a with pos := a.pos + 1 } else a) =
      { a with pos := a.nextPos updateAnimation } := by
    cases updateAnimation <;> rfl
  simp only [runAnimation, hadvance, ge_iff_le]
  generalize a.nextPos updateAnimation = pos
  by_cases hsteps : updateAnimation ∧ type.steps ≤ pos
  · rw [if_pos hsteps, if_neg fun h => UInt8.not_le.mpr (h.2 hsteps.1) hsteps.2]
  · have hsteps' : updateAnimation → pos < type.steps := fun h =>
      UInt8.not_le.mp fun hle => hsteps ⟨h, hle⟩
    rw [if_neg hsteps]
    by_cases hpos : pos = 0
    · rw [if_pos hpos, if_neg fun h => (UInt8.ne_of_lt h.1).symm hpos]
    · rw [if_neg hpos, if_pos ⟨UInt8.pos_iff_ne_zero.mpr hpos, hsteps'⟩]

theorem runGeometricAnimation_eq (type : AnimationType) :
    runGeometricAnimation type = runAnimation type := by
  cases type <;> rfl

/-- A frame of an animation, drawn in wrapping bytes, is the drawing over the
integers clipped to the grid. -/
theorem geometric_rendering (type : AnimationType) (src : Rgb) (updateAnimation : Bool)
    (a : GeometricAnimation) (buffer : Nat → UInt8) (pos : UInt8) (hbtn : a.btnId < 64)
    (hp : a.nextPos updateAnimation = pos) (hpos : 1 ≤ pos) (hsteps : pos < type.steps) :
    let frame := Cells.applyWrites buffer (runGeometricAnimation type src updateAnimation a).2
    let btnRow := getGeometricButtonRow a.btnId
    let btnCol := getGeometricButtonColumn a.btnId
    (∀ row col, row < geometricAnimationRows → col < geometricAnimationCols →
      readBrg frame (getButtonIdFromRowColumn row col).toNat =
        if Lit type btnRow.toNat btnCol.toNat pos.toNat row.toNat col.toNat then src
        else readBrg buffer (getButtonIdFromRowColumn row col).toNat) ∧
      (∀ address, 192 ≤ address → frame address = buffer address) ∧
      getButtonIdFromRowColumn btnRow btnCol = a.btnId ∧
      ∀ row col : Int, Lit .square btnRow.toNat btnCol.toNat pos.toNat row col ↔
        max |row - btnRow.toNat| |col - btnCol.toNat| = pos.toNat := by
  intro frame btnRow btnCol
  have hpos' : 0 < pos := UInt8.lt_iff_toNat_lt.mpr (UInt8.le_iff_toNat_le.mp hpos)
  have hbutton := geometricButton_inGrid hbtn
  have hframe : frame =
      Cells.applyWrites buffer (lightCells src (cellsOf type btnRow btnCol pos)) := by
    simp only [frame, runGeometricAnimation_eq, runAnimation_eq, hp]
    rw [if_pos ⟨hpos', fun _ => hsteps⟩]
  have hgrid : ∀ cell ∈ cellsOf type btnRow btnCol pos, cell.InGrid :=
    cellsOf_inGrid hbtn hpos' hsteps
  refine ⟨fun row col hrow hcol => ?_, fun address haddress => ?_, buttonId_geometricButton hbtn,
    fun row col => squareLit_iff ..⟩
  · have hcell : Cell.InGrid (row, col) := ⟨hrow, hcol⟩
    have hmem : (row, col) ∈ cellsOf type btnRow btnCol pos ↔
        Lit type btnRow.toNat btnCol.toNat pos.toNat row.toNat col.toNat :=
      (mem_cellsOf hbutton hpos' hsteps).trans (and_iff_right hcell)
    rw [hframe]
    refine (readBrg_lightCells hcell hgrid).trans ?_
    simp only [hmem, Cell.buttonId]
  · rw [hframe]
    refine Cells.applyWrites_of_notMem fun hmem => ?_
    obtain ⟨w, hw, rfl⟩ := List.mem_map.mp hmem
    exact absurd (address_lt_of_mem_lightCells hgrid hw) (Nat.not_lt.mpr haddress)

/-- The triangle around the corner button reaches one column past the grid:
that column wraps to 255 and lights nothing. -/
theorem geometric_rendering_corner :
    let a : GeometricAnimation := ⟨0, .triangle, 0, none⟩
    let frame := Cells.applyWrites (fun _ => 0) (runGeometricTriangleAnimation ⟨1, 2, 3⟩ true a).2
    readBrg frame 0 = ⟨1, 2, 3⟩ ∧ readBrg frame 1 = ⟨1, 2, 3⟩ ∧ readBrg frame 4 = ⟨1, 2, 3⟩ ∧
      readBrg frame 5 = ⟨0, 0, 0⟩ := by
  have h := (geometric_rendering .triangle ⟨1, 2, 3⟩ true ⟨0, .triangle, 0, none⟩ (fun _ => 0) 1
    (by decide) (by decide) (by decide) (by decide)).1
  have hlit : Lit .triangle 0 0 1 0 0 ∧ Lit .triangle 0 0 1 0 1 ∧ Lit .triangle 0 0 1 1 0 ∧
      ¬Lit .triangle 0 0 1 1 1 := by decide
  exact ⟨(h 0 0 (by decide) (by decide)).trans (if_pos hlit.1),
    (h 0 1 (by decide) (by decide)).trans (if_pos hlit.2.1),
    (h 1 0 (by decide) (by decide)).trans (if_pos hlit.2.2.1),
    (h 1 1 (by decide) (by decide)).trans (if_neg hlit.2.2.2)⟩

end MidiFighter
