import Mathlib.Data.Sym.Sym2
import MidiFighter.Frame

/-!
# The ball demo

While the device sleeps, `ball_demo_run` lets two balls bounce over the 8 by
8 buttons. `ball_grid` holds for each cell the id of the ball on it, and the
balls are moved while the grid is scanned.

The static variables of `repeat_collision_limit_reached` should remember the
two balls that collided last. They are never assigned, so every collision
counts as a new one: `repeatCollision_correct_iff` says how far the check
still does what it is for.
-/

namespace MidiFighter

/-! ## Repeated collisions -/

def repeatBallCollisionLimit : UInt8 := 0xFF

def ballDemoMaxBalls : UInt8 := 2

/-- The static variables of `repeat_collision_limit_reached`. -/
structure RepeatCollision where
  lastThisBall : UInt8
  lastThatBall : UInt8
  repeatCollisionCounter : UInt8

def RepeatCollision.boot : RepeatCollision := ⟨0xFF, 0xFF, 0⟩

def repeatCollisionLimitReached (r : RepeatCollision) (thisBall thatBall : UInt8) :
    RepeatCollision × Bool :=
  if (thisBall = r.lastThisBall ∧ thatBall = r.lastThatBall) ∨
      (thisBall = r.lastThatBall ∧ thatBall = r.lastThisBall) then
    let counter := r.repeatCollisionCounter + 1
    if counter ≥ repeatBallCollisionLimit then ({ r with repeatCollisionCounter := 0 }, true)
    else ({ r with repeatCollisionCounter := counter }, false)
  else
    -- the two balls are not stored
    ({ r with repeatCollisionCounter := 0 }, false)

/-! ## Balls -/

/-- Entry `ball_id` of the arrays `ball_*`. -/
structure Ball where
  horizontalDirection : Bool
  horizontalSlowdownFactor : UInt8
  horizontalSlowdownCounter : UInt8
  verticalDirection : Bool
  verticalSlowdownCounter : UInt8
  verticalSlowdownFactor : UInt8
  verticalMax : UInt8
  color : UInt8

/-- The variables of the demo. The first values of `random` are the next
ones `random16` returns. -/
structure BallDemo where
  ballIndex : UInt8
  ball : UInt8 → Ball
  ballGrid : Cell → UInt8
  newBallDelayCounter : UInt8
  direction : Bool
  repeatCollision : RepeatCollision
  random : Nat → UInt16

def overrideBallSlowdownFactor : UInt8 := 0xF0
def verticalSlowdownFactors : List UInt8 := [0x0C, 0x0A, 0x08, 0x07, 0x06, 0x05, 0x04, 0x03]
def ballDemoNewBallDelayLimit : UInt8 := 0x18
def ballDemoMaxSlowdownFactor : UInt8 := 0xFF
def ballDemoGLedLimit : UInt16 := 0x30

/-- What a run does apart from its result: the table entries it uses, and
explosions. -/
inductive BallEffect where
  | ballGrid (cell : Cell)
  | verticalSlowdownFactors (index : UInt8)
  | defaultColor (index : UInt8)
  | explosion

namespace BallDemo

def boot (random : Nat → UInt16) : BallDemo where
  ballIndex := 0
  ball := fun _ => ⟨false, 0, 0, false, 0, 0, 0, 0⟩
  ballGrid := fun _ => 0
  newBallDelayCounter := ballDemoNewBallDelayLimit
  direction := true
  repeatCollision := .boot
  random := random

def random16 (s : BallDemo) : UInt16 × BallDemo :=
  (s.random 0, { s with random := fun n => s.random (n + 1) })

def modifyBall (s : BallDemo) (ballId : UInt8) (f : Ball → Ball) : BallDemo :=
  { s with ball := Function.update s.ball ballId (f (s.ball ballId)) }

theorem ball_modifyBall (s : BallDemo) (ballId : UInt8) (f : Ball → Ball) (b : UInt8) :
    (s.modifyBall ballId f).ball b = if b = ballId then f (s.ball b) else s.ball b := by
  by_cases heq : b = ballId
  · subst heq
    rw [if_pos rfl]
    exact Function.update_self ..
  · rw [if_neg heq]
    exact Function.update_of_ne heq ..

end BallDemo

def ballDemoSetup (s : BallDemo) : BallDemo := { s with ballGrid := fun _ => ballDemoMaxBalls }

def ballColor (value : UInt16) : UInt8 :=
  let color := (value &&& 0x1F).toUInt8
  if color < 18 then color + 1 else color - 17

def newBallCell (direction : Bool) (value : UInt16) : Cell :=
  let ballHorizontalPosition := if direction then 7 else 0
  let ballVerticalPosition := (value &&& 0x07).toUInt8 + 2
  (if ballVerticalPosition ≥ 8 then 7 else ballVerticalPosition, ballHorizontalPosition)

/-- The first half of `new_ball`: the colour and the cell of the ball. Each
ball comes in on the other side than the last one. -/
def drawBall (s : BallDemo) : UInt8 × Cell × BallDemo :=
  let s := { s with direction := !s.direction }
  let (value, s) := s.random16
  let color := ballColor value
  let s := s.modifyBall s.ballIndex fun ball => { ball with horizontalDirection := s.direction }
  let (value, s) := s.random16
  (color, newBallCell s.direction value, s)

def placeBall (s : BallDemo) (cell : Cell) (color : UInt8) : BallDemo :=
  let s := { s with ballGrid := Function.update s.ballGrid cell s.ballIndex }
  let (value, s) := s.random16
  let s := s.modifyBall s.ballIndex fun ball =>
    { ball with
      color := color
      horizontalSlowdownFactor := 8 + (value &&& 0x1F).toUInt8
      verticalMax := cell.1
      verticalDirection := false
      verticalSlowdownFactor := ballDemoMaxSlowdownFactor
      horizontalSlowdownCounter := 0
      verticalSlowdownCounter := 0 }
  { s with ballIndex := (s.ballIndex + 1) % ballDemoMaxBalls }

def newBall (s : BallDemo) : (BallDemo × Bool) × List BallEffect :=
  let newBallDelayCounter := s.newBallDelayCounter + 1
  if newBallDelayCounter < ballDemoNewBallDelayLimit then
    (({ s with newBallDelayCounter := newBallDelayCounter }, false), [])
  else
    let (color, cell, s) := drawBall { s with newBallDelayCounter := 0 }
    if s.ballGrid cell < ballDemoMaxBalls then ((s, false), [.ballGrid cell])
    else ((placeBall s cell color, true), [.ballGrid cell])

def baseRowOffset (ball : Ball) (thisRow : UInt8) : UInt8 := (ball.verticalMax - thisRow) &&& 0x07

/-- `move_ball_vertically`: the new row, and the ball. Below the floor the
row wraps to 0xFF. -/
def moveBallVertically (ball : Ball) (thisRow : UInt8) : UInt8 × Ball :=
  let verticalCount := ball.verticalSlowdownCounter + 1
  let factor := verticalSlowdownFactors.getD (baseRowOffset ball thisRow).toNat 0
  if verticalCount ≥ factor then
    let newRow := if ball.verticalDirection then thisRow - 1 else thisRow + 1
    if newRow ≤ ball.verticalMax then (newRow, { ball with verticalSlowdownCounter := 0 })
    else
      -- the floor or the ceiling: turn, and move on the next turn
      (thisRow,
        { ball with
          verticalDirection := !ball.verticalDirection
          verticalSlowdownCounter := factor })
  else (thisRow, { ball with verticalSlowdownCounter := verticalCount })

def moveBallHorizontally (ball : Ball) (thisCol : UInt8) : UInt8 × Ball :=
  let horizontalCount := ball.horizontalSlowdownCounter + 1
  if horizontalCount ≥ ball.horizontalSlowdownFactor then
    let newCol := if ball.horizontalDirection then thisCol - 1 else thisCol + 1
    if newCol < 8 then (newCol, { ball with horizontalSlowdownCounter := 0 })
    else
      (thisCol,
        { ball with
          horizontalDirection := !ball.horizontalDirection
          horizontalSlowdownCounter := ball.horizontalSlowdownFactor })
  else (thisCol, { ball with horizontalSlowdownCounter := horizontalCount })

/-- `change_ball_colors_after_collision` gives that ball a new colour, and
this ball none. -/
def changeBallColorsAfterCollision (s : BallDemo) (thatBall : UInt8) : BallDemo :=
  let (randomValue, s) := s.random16
  s.modifyBall thatBall fun ball => { ball with color := ballColor (randomValue >>> 5) }

/-! ## The scan -/

/-- The local variables of the scan, around what it changes. `balls_on_grid`
counts visits: a ball that moves on to a later cell is met there again. -/
structure Scan where
  device : Device
  demo : BallDemo
  disableCollision : UInt8 → Bool
  ballsOnGrid : UInt8

def verticalCollision (s : BallDemo) (thisBall thatBall : UInt8) (direction : Bool) : BallDemo :=
  let s := s.modifyBall thisBall fun ball => { ball with verticalDirection := direction }
  let s := s.modifyBall thatBall fun ball => { ball with verticalDirection := !direction }
  let s := s.modifyBall thisBall fun ball =>
    { ball with verticalSlowdownCounter := overrideBallSlowdownFactor }
  changeBallColorsAfterCollision s thatBall

def horizontalCollision (s : BallDemo) (thisBall thatBall : UInt8) (direction : Bool) : BallDemo :=
  let s := s.modifyBall thisBall fun ball => { ball with horizontalDirection := direction }
  let s := s.modifyBall thatBall fun ball => { ball with horizontalDirection := !direction }
  let s := s.modifyBall thisBall fun ball =>
    { ball with horizontalSlowdownCounter := overrideBallSlowdownFactor }
  changeBallColorsAfterCollision s thatBall

def explode (s : Scan) (this new : Cell) : Scan × List BallEffect :=
  let (value, demo) := s.demo.random16
  let ballGrid := Function.update demo.ballGrid this ballDemoMaxBalls
  let ballGrid := Function.update ballGrid new ballDemoMaxBalls
  ({ s with
      device := startGeometricAnimation s.device this.buttonId (value &&& 0x03).toUInt8
      demo := { demo with ballGrid := ballGrid }
      ballsOnGrid :=
        if new.1 < this.1 ∨ new.2 < this.2 then s.ballsOnGrid - 2 else s.ballsOnGrid },
    [.ballGrid this, .ballGrid new, .explosion])

/-- The first half of a collision: repeats and the vertical direction. -/
def collideVertically (s : Scan) (this new : Cell) (thisBall thatBall : UInt8) :
    Scan × List BallEffect :=
  if s.disableCollision thisBall then (s, [])
  else
    let (repeatCollision, limitReached) :=
      repeatCollisionLimitReached s.demo.repeatCollision thisBall thatBall
    let s := { s with demo := { s.demo with repeatCollision := repeatCollision } }
    if limitReached then explode s this new
    else if new.1 > this.1 then
      ({ s with demo := verticalCollision s.demo thisBall thatBall false }, [])
    else if new.1 < this.1 then
      ({ s with demo := verticalCollision s.demo thisBall thatBall true }, [])
    else (s, [])

/-- The second half, which also follows an explosion. -/
def collideHorizontally (s : BallDemo) (this new : Cell) (thisBall thatBall : UInt8) : BallDemo :=
  if new.2 > this.2 then horizontalCollision s thisBall thatBall false
  else if new.2 < this.2 then horizontalCollision s thisBall thatBall true
  else s

def collide (s : Scan) (this new : Cell) (thisBall thatBall : UInt8) : Scan × List BallEffect :=
  let (s, effects) := collideVertically s this new thisBall thatBall
  ({ s with
      demo := collideHorizontally s.demo this new thisBall thatBall
      disableCollision := Function.update s.disableCollision thatBall true },
    effects)

def moveTo (s : BallDemo) (this new : Cell) (thisBall : UInt8) : BallDemo :=
  let ballGrid := Function.update s.ballGrid this ballDemoMaxBalls
  { s with ballGrid := Function.update ballGrid new thisBall }

def movedBall (ball : Ball) (this : Cell) : Cell × Ball :=
  let (newCol, ball) := moveBallHorizontally ball this.2
  let (newRow, ball) := moveBallVertically ball this.1
  ((newRow, newCol), ball)

/-- The ball of a cell wants to go to another; each case counts it. -/
def visitBall (s : Scan) (this new : Cell) (thisBall : UInt8) : Scan × List BallEffect :=
  let thatBall := s.demo.ballGrid new
  let s := { s with ballsOnGrid := s.ballsOnGrid + 1 }
  if thatBall ≥ ballDemoMaxBalls then
    ({ s with demo := moveTo s.demo this new thisBall }, [.ballGrid this, .ballGrid new])
  else if thatBall = thisBall then (s, [])
  else collide s this new thisBall thatBall

def scanCell (s : Scan) (this : Cell) : Scan × List BallEffect :=
  let thisBall := s.demo.ballGrid this
  if thisBall < ballDemoMaxBalls then
    let baseRowOffset := baseRowOffset (s.demo.ball thisBall) this.1
    let (new, ball) := movedBall (s.demo.ball thisBall) this
    let s := { s with demo := s.demo.modifyBall thisBall fun _ => ball }
    let (s, effects) := visitBall s this new thisBall
    (s, [.ballGrid this, .verticalSlowdownFactors baseRowOffset, .ballGrid new] ++ effects)
  else (s, [.ballGrid this])

theorem scanCell_eq {s : Scan} {this : Cell}
    (hball : s.demo.ballGrid this < ballDemoMaxBalls) :
    scanCell s this =
      let ball := s.demo.ball (s.demo.ballGrid this)
      let moved := movedBall ball this
      let visit := visitBall
        { s with demo := s.demo.modifyBall (s.demo.ballGrid this) fun _ => moved.2 } this moved.1
        (s.demo.ballGrid this)
      (visit.1,
        [.ballGrid this, .verticalSlowdownFactors (baseRowOffset ball this.1), .ballGrid moved.1] ++
          visit.2) :=
  if_pos hball

def gridCells : List Cell :=
  (List.range 8).flatMap fun row =>
    (List.range 8).map fun col => (UInt8.ofNat row, UInt8.ofNat col)

def scanGrid (d : Device) (s : BallDemo) : Scan × List BallEffect :=
  let start : Scan := ⟨d, s, fun _ => false, 0⟩
  (Machine.final scanCell start gridCells, Machine.outputs scanCell start gridCells)

def updateBalls (d : Device) (s : BallDemo) : (Device × BallDemo) × List BallEffect :=
  let scan := (scanGrid d s).1
  let effects := (scanGrid d s).2
  if scan.ballsOnGrid < ballDemoMaxBalls then
    let new := newBall scan.demo
    ((scan.device, new.1.1), effects ++ new.2)
  else ((scan.device, scan.demo), effects)

def cellColor (s : BallDemo) (cell : Cell) : UInt8 :=
  let ballId := s.ballGrid cell
  if ballId ≥ ballDemoMaxBalls then 0 else (s.ball ballId).color

def restartBallCounter (d : Device) : Device :=
  { d with
    display :=
      { d.display with
        gLedCounter :=
          Function.update d.display.gLedCounter ballDemoLedCounter ballDemoGLedLimit } }

/-- `ball_demo_run` without its stores to the LED buffer. -/
def runBalls (d : Device) (s : BallDemo) : (Device × BallDemo) × List BallEffect :=
  let updated :=
    if d.display.gLedCounter ballDemoLedCounter = 0 then updateBalls (restartBallCounter d) s
    else ((d, s), [])
  (updated.1,
    updated.2 ++
      gridCells.flatMap fun cell => [.ballGrid cell, .defaultColor (cellColor updated.1.2 cell)])

def lightBalls (s : BallDemo) (buffer : Nat → UInt8) : Nat → UInt8 :=
  gridCells.foldl
    (fun buffer cell =>
      writeBrg buffer cell.buttonId.toNat (palette.getD (cellColor s cell).toNat ⟨0, 0, 0⟩))
    buffer

def ballDemoRun (s : Screen BallDemo) : Screen BallDemo :=
  let (d, demo) := (runBalls s.engine.device s.ballDemo).1
  { engine := { s.engine with device := d }
    ballDemo := demo
    gDisplayBuffer := lightBalls demo s.gDisplayBuffer }

/-! ## What the check for repeats is for -/

/-- The unordered pair that collided last, and how often it has done so
again. -/
structure Repeats where
  pair : Option (Sym2 UInt8)
  count : Nat

/-- What the check is for: two balls that keep hitting each other are parted
in the end. Every 255th repetition of a pair is reported. -/
def Repeats.collide (r : Repeats) (call : UInt8 × UInt8) : Repeats × List Bool :=
  let pair := s(call.1, call.2)
  if r.pair = some pair then
    if r.count + 1 = 255 then (⟨some pair, 0⟩, [true]) else (⟨some pair, r.count + 1⟩, [false])
  else (⟨some pair, 0⟩, [false])

def repeatStep (r : RepeatCollision) (call : UInt8 × UInt8) : RepeatCollision × List Bool :=
  let (r, limitReached) := repeatCollisionLimitReached r call.1 call.2
  (r, [limitReached])

def IsCollision (call : UInt8 × UInt8) : Prop :=
  call.1 < ballDemoMaxBalls ∧ call.2 < ballDemoMaxBalls ∧ call.1 ≠ call.2

instance : DecidablePred IsCollision := fun _ => inferInstanceAs (Decidable (_ ∧ _ ∧ _))

theorem IsCollision.pair_eq {call : UInt8 × UInt8} (h : IsCollision call) :
    s(call.1, call.2) = s(0, 1) := by
  obtain ⟨h₁, h₂, hne⟩ := h
  have htwo : ∀ b : UInt8, b < ballDemoMaxBalls → b = 0 ∨ b = 1 := forall_byte (by decide +kernel)
  rcases htwo _ h₁ with hthis | hthis <;> rcases htwo _ h₂ with hthat | hthat
  · exact absurd (hthis.trans hthat.symm) hne
  · rw [hthis, hthat]
  · rw [hthis, hthat, Sym2.eq_swap]
  · exact absurd (hthis.trans hthat.symm) hne

/-- No ball is the one of the static initialisers, and nothing else is ever
compared with. -/
theorem repeatStep_outputs : ∀ {calls : List (UInt8 × UInt8)} {r : RepeatCollision},
    r.lastThisBall = 0xFF → (∀ call ∈ calls, IsCollision call) →
    Machine.outputs repeatStep r calls = List.replicate calls.length false
  | [], _, _, _ => rfl
  | call :: calls, r, hthis, hcalls => by
      obtain ⟨⟨h₁, h₂, -⟩, hcalls⟩ := List.forall_mem_cons.mp hcalls
      have hball : ∀ b : UInt8, b < ballDemoMaxBalls → b ≠ 0xFF := forall_byte (by decide +kernel)
      have hnew : ¬((call.1 = r.lastThisBall ∧ call.2 = r.lastThatBall) ∨
          (call.1 = r.lastThatBall ∧ call.2 = r.lastThisBall)) := by
        rw [hthis]
        rintro (⟨heq, -⟩ | ⟨-, heq⟩)
        · exact hball _ h₁ heq
        · exact hball _ h₂ heq
      have hstep : repeatStep r call = ({ r with repeatCollisionCounter := 0 }, [false]) := by
        rw [repeatStep, repeatCollisionLimitReached, if_neg hnew]
      have hthis' : (repeatStep r call).1.lastThisBall = 0xFF := by
        rw [hstep]
        exact hthis
      rw [Machine.outputs_cons, repeatStep_outputs hthis' hcalls, hstep]
      rfl

theorem repeats_run : ∀ {calls : List (UInt8 × UInt8)} {count : Nat},
    (∀ call ∈ calls, IsCollision call) → count + calls.length < 255 →
    Machine.final Repeats.collide ⟨some s(0, 1), count⟩ calls =
        ⟨some s(0, 1), count + calls.length⟩ ∧
      Machine.outputs Repeats.collide ⟨some s(0, 1), count⟩ calls =
        List.replicate calls.length false
  | [], _, _, _ => ⟨rfl, rfl⟩
  | call :: calls, count, hcalls, hcount => by
      obtain ⟨hcall, hcalls⟩ := List.forall_mem_cons.mp hcalls
      rw [List.length_cons] at hcount ⊢
      have hlimit : ¬count + 1 = 255 := by omega
      have hcount' : count + 1 + calls.length < 255 := by omega
      have hstep : Repeats.collide ⟨some s(0, 1), count⟩ call =
          (⟨some s(0, 1), count + 1⟩, [false]) := by
        rw [Repeats.collide, hcall.pair_eq, if_pos rfl, if_neg hlimit]
      obtain ⟨hfinal, houtputs⟩ := repeats_run hcalls hcount'
      rw [Machine.final_cons, Machine.outputs_cons, hstep, hfinal, houtputs, Nat.add_right_comm,
        Nat.add_assoc]
      exact ⟨rfl, rfl⟩

theorem repeats_first {call : UInt8 × UInt8} (hcall : IsCollision call) :
    Repeats.collide ⟨none, 0⟩ call = (⟨some s(0, 1), 0⟩, [false]) := by
  rw [Repeats.collide, hcall.pair_eq, if_neg (Option.some_ne_none _).symm]

theorem true_mem_repeats {calls : List (UInt8 × UInt8)}
    (hcalls : ∀ call ∈ calls, IsCollision call) (hlong : 254 < calls.length) :
    true ∈ Machine.outputs Repeats.collide ⟨some s(0, 1), 0⟩ calls := by
  have htake : ∀ call ∈ calls.take 254, IsCollision call := fun call hcall =>
    hcalls call (List.mem_of_mem_take hcall)
  have hlength : (calls.take 254).length = 254 := by
    rw [List.length_take]
    omega
  have hsplit : calls = calls.take 254 ++ calls[254] :: calls.drop 255 := by
    rw [← List.drop_eq_getElem_cons hlong, List.take_append_drop]
  refine Machine.mem_outputs.mpr ⟨_, _, _, hsplit, ?_⟩
  have hpair := (hcalls _ (List.getElem_mem hlong)).pair_eq
  rw [(repeats_run htake (by omega)).1, hlength, Repeats.collide, hpair, if_pos rfl, if_pos rfl]
  exact List.mem_singleton_self _

/-- The check does what it is for as long as it is called fewer than 256
times. -/
theorem repeatCollision_correct_iff (calls : List (UInt8 × UInt8))
    (hcalls : ∀ call ∈ calls, IsCollision call) :
    Machine.outputs repeatStep .boot calls = Machine.outputs Repeats.collide ⟨none, 0⟩ calls ↔
      calls.length < 256 := by
  rw [repeatStep_outputs rfl hcalls]
  cases calls with
  | nil => exact ⟨fun _ => by decide, fun _ => rfl⟩
  | cons first calls =>
      obtain ⟨hfirst, hcalls⟩ := List.forall_mem_cons.mp hcalls
      rw [Machine.outputs_cons, repeats_first hfirst, List.length_cons]
      constructor
      · intro heq
        by_contra hlong
        have htrue : true ∈ List.replicate (calls.length + 1) false := by
          rw [heq]
          exact List.mem_append_right _ (true_mem_repeats hcalls (by omega))
        exact Bool.noConfusion (List.eq_of_mem_replicate htrue)
      · intro hshort
        have hcount : 0 + calls.length < 255 := by omega
        rw [(repeats_run hcalls hcount).2]
        rfl

/-- The two balls hit each other twice. -/
theorem repeatCollision_correct_iff_twice :
    Machine.outputs repeatStep .boot [(0, 1), (1, 0)] =
      Machine.outputs Repeats.collide ⟨none, 0⟩ [(0, 1), (1, 0)] :=
  (repeatCollision_correct_iff [(0, 1), (1, 0)] (by simp [IsCollision]; decide)).mpr (by decide)

/-- Of 256 collisions of the two balls the last one is the 255th repetition,
but the check reports none. -/
theorem repeatCollision_unreported :
    let calls : List (UInt8 × UInt8) := List.replicate 256 (0, 1)
    true ∈ Machine.outputs Repeats.collide ⟨none, 0⟩ calls ∧
      true ∉ Machine.outputs repeatStep .boot calls := by
  intro calls
  have hcall : IsCollision (0, 1) := by decide
  have hcalls : ∀ n, ∀ call ∈ List.replicate n ((0, 1) : UInt8 × UInt8), IsCollision call :=
    fun n call hmem => List.eq_of_mem_replicate hmem ▸ hcall
  constructor
  · rw [show calls = (0, 1) :: List.replicate 255 (0, 1) from rfl, Machine.outputs_cons,
      repeats_first hcall]
    exact List.mem_append_right _ (true_mem_repeats (hcalls 255)
      (by rw [List.length_replicate]; decide))
  · rw [repeatStep_outputs rfl (hcalls 256)]
    exact fun hmem => Bool.noConfusion (List.eq_of_mem_replicate hmem)

end MidiFighter
