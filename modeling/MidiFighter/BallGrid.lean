import MidiFighter.BallDemo
import MidiFighter.Occupancy

/-!
# The ball grid

The scan of `ball_demo_run` moves balls into cells it has yet to come to, so
it may meet a ball again. The visits it counts decide whether there is room
for a new ball.

`ScanOk` is the invariant between two turns of the scan: the grid is well
formed (`BallsOk`), and the visits cover the balls that the rest of the scan
will not meet. So a new ball is only made when the ball whose turn it is is
off the grid, and `ballGrid_invariant` follows for every run.
-/

namespace MidiFighter

open Occupancy

/-! ## What stays the same -/

/-- The balls are where they were, under the same heights; a colour may have
changed to another one of the palette. -/
structure SameBalls (s s' : BallDemo) : Prop where
  grid : s'.ballGrid = s.ballGrid
  index : s'.ballIndex = s.ballIndex
  max : ∀ b, (s'.ball b).verticalMax = (s.ball b).verticalMax
  color : ∀ b, (s.ball b).color < 20 → (s'.ball b).color < 20

namespace SameBalls

theorem of_eq {s s' : BallDemo} (hgrid : s'.ballGrid = s.ballGrid)
    (hindex : s'.ballIndex = s.ballIndex) (hball : s'.ball = s.ball) : SameBalls s s' :=
  ⟨hgrid, hindex, fun b => by rw [hball], fun b h => by rw [hball]; exact h⟩

theorem refl (s : BallDemo) : SameBalls s s := of_eq rfl rfl rfl

theorem trans {s s' s'' : BallDemo} (h : SameBalls s s') (h' : SameBalls s' s'') :
    SameBalls s s'' :=
  ⟨h'.grid.trans h.grid, h'.index.trans h.index, fun b => (h'.max b).trans (h.max b),
    fun b hb => h'.color b (h.color b hb)⟩

theorem random16 {s s' : BallDemo} (h : SameBalls s s') : SameBalls s s'.random16.2 :=
  ⟨h.grid, h.index, h.max, h.color⟩

theorem modifyBall {s s' : BallDemo} (h : SameBalls s s') {ballId : UInt8} {f : Ball → Ball}
    (hmax : ∀ ball, (f ball).verticalMax = ball.verticalMax)
    (hcolor : ∀ ball, ball.color < 20 → (f ball).color < 20) :
    SameBalls s (s'.modifyBall ballId f) := by
  refine ⟨h.grid, h.index, fun b => ?_, fun b hb => ?_⟩
  · rw [BallDemo.ball_modifyBall, ← h.max b]
    split_ifs
    · exact hmax _
    · rfl
  · rw [BallDemo.ball_modifyBall]
    split_ifs
    · exact hcolor _ (h.color b hb)
    · exact h.color b hb

theorem repeatCollision (s : BallDemo) (r : RepeatCollision) :
    SameBalls s { s with repeatCollision := r } := of_eq rfl rfl rfl

end SameBalls

theorem ballColor_lt (value : UInt16) : ballColor value < 20 := by
  have hbytes : ∀ color : UInt8, color < 32 → (if color < 18 then color + 1 else color - 17) < 20 :=
    forall_byte (by decide +kernel)
  have hmask : (value &&& 0x1F).toUInt8 < 32 := by
    rw [UInt8.lt_iff_toNat_lt, UInt16.toNat_toUInt8, UInt16.toNat_and]
    exact (Nat.mod_le ..).trans_lt (Nat.and_lt_two_pow _ (by decide : 31 < 2 ^ 5))
  exact hbytes _ hmask

theorem changeBallColorsAfterCollision_same {s s' : BallDemo} (h : SameBalls s s')
    (thatBall : UInt8) : SameBalls s (changeBallColorsAfterCollision s' thatBall) := by
  show SameBalls s (s'.random16.2.modifyBall thatBall fun ball =>
    { ball with color := ballColor (s'.random16.1 >>> 5) })
  exact .modifyBall h.random16 (fun _ => rfl) fun _ _ => ballColor_lt _

theorem verticalCollision_same (s : BallDemo) (thisBall thatBall : UInt8) (direction : Bool) :
    SameBalls s (verticalCollision s thisBall thatBall direction) := by
  refine changeBallColorsAfterCollision_same ?_ thatBall
  refine .modifyBall (.modifyBall (.modifyBall (.refl s) ?_ ?_) ?_ ?_) ?_ ?_
  all_goals first | exact fun _ => rfl | exact fun _ h => h

theorem horizontalCollision_same (s : BallDemo) (thisBall thatBall : UInt8) (direction : Bool) :
    SameBalls s (horizontalCollision s thisBall thatBall direction) := by
  refine changeBallColorsAfterCollision_same ?_ thatBall
  refine .modifyBall (.modifyBall (.modifyBall (.refl s) ?_ ?_) ?_ ?_) ?_ ?_
  all_goals first | exact fun _ => rfl | exact fun _ h => h

theorem collideHorizontally_same (s : BallDemo) (this new : Cell) (thisBall thatBall : UInt8) :
    SameBalls s (collideHorizontally s this new thisBall thatBall) := by
  unfold collideHorizontally
  split_ifs
  · exact horizontalCollision_same ..
  · exact horizontalCollision_same ..
  · exact .refl s

theorem moveBallHorizontally_ball (ball : Ball) (thisCol : UInt8) :
    (moveBallHorizontally ball thisCol).2.verticalMax = ball.verticalMax ∧
      (moveBallHorizontally ball thisCol).2.color = ball.color := by
  unfold moveBallHorizontally
  dsimp only
  split_ifs <;> exact ⟨rfl, rfl⟩

theorem moveBallVertically_ball (ball : Ball) (thisRow : UInt8) :
    (moveBallVertically ball thisRow).2.verticalMax = ball.verticalMax ∧
      (moveBallVertically ball thisRow).2.color = ball.color := by
  unfold moveBallVertically
  dsimp only
  split_ifs <;> exact ⟨rfl, rfl⟩

theorem movedBall_same (s : BallDemo) (ballId : UInt8) (this : Cell) :
    SameBalls s (s.modifyBall ballId fun _ => (movedBall (s.ball ballId) this).2) := by
  obtain ⟨hmax, hcolor⟩ := moveBallHorizontally_ball (s.ball ballId) this.2
  obtain ⟨hmax', hcolor'⟩ :=
    moveBallVertically_ball (moveBallHorizontally (s.ball ballId) this.2).2 this.1
  refine ⟨rfl, rfl, fun b => ?_, fun b hb => ?_⟩
  · rw [BallDemo.ball_modifyBall]
    split_ifs with heq
    · rw [heq]
      exact hmax'.trans hmax
    · rfl
  · rw [BallDemo.ball_modifyBall]
    split_ifs with heq
    · rw [heq] at hb
      exact (hcolor'.trans hcolor) ▸ hb
    · exact hb

theorem moveBallHorizontally_lt (ball : Ball) {thisCol : UInt8} (hcol : thisCol < 8) :
    (moveBallHorizontally ball thisCol).1 < 8 := by
  unfold moveBallHorizontally
  generalize (if ball.horizontalDirection then thisCol - 1 else thisCol + 1) = newCol
  dsimp only
  split_ifs with _ hnew
  · exact hnew
  all_goals exact hcol

theorem moveBallVertically_le (ball : Ball) {thisRow : UInt8} (hrow : thisRow ≤ ball.verticalMax) :
    (moveBallVertically ball thisRow).1 ≤ ball.verticalMax := by
  unfold moveBallVertically
  generalize (if ball.verticalDirection then thisRow - 1 else thisRow + 1) = newRow
  dsimp only
  split_ifs with _ hnew
  · exact hnew
  all_goals exact hrow

/-! ## The invariant -/

/-- What holds from the boot on, with or without a set-up. -/
structure BallsSane (s : BallDemo) : Prop where
  index : s.ballIndex < ballDemoMaxBalls
  max : ∀ b, (s.ball b).verticalMax < 8
  color : ∀ b, (s.ball b).color < 20

/-- A ball stands on at most one cell, not above its highest row, and if the
next ball to be made is on the grid, every ball is. -/
structure BallsOk (s : BallDemo) : Prop extends BallsSane s where
  atMostOnce : AtMostOnce Cell.InGrid (· < ballDemoMaxBalls) s.ballGrid
  row : ∀ c, c.InGrid → s.ballGrid c < ballDemoMaxBalls → c.1 ≤ (s.ball (s.ballGrid c)).verticalMax
  turn : On Cell.InGrid s.ballGrid s.ballIndex →
    ∀ b, b < ballDemoMaxBalls → On Cell.InGrid s.ballGrid b

theorem BallsSane.same {s s' : BallDemo} (h : BallsSane s) (hs : SameBalls s s') :
    BallsSane s' :=
  ⟨hs.index ▸ h.index, fun b => hs.max b ▸ h.max b, fun b => hs.color b (h.color b)⟩

theorem BallsOk.same {s s' : BallDemo} (h : BallsOk s) (hs : SameBalls s s') : BallsOk s' where
  toBallsSane := h.toBallsSane.same hs
  atMostOnce := by
    rw [hs.grid]
    exact h.atMostOnce
  row := by
    intro c hc
    rw [hs.grid, hs.max]
    exact h.row c hc
  turn := by
    rw [hs.grid, hs.index]
    exact h.turn

def NoBalls (ballGrid : Cell → UInt8) : Prop := ∀ c, c.InGrid → ¬ballGrid c < ballDemoMaxBalls

theorem BallsSane.ok_of_noBalls {s : BallDemo} (h : BallsSane s)
    (hempty : NoBalls s.ballGrid) : BallsOk s where
  toBallsSane := h
  atMostOnce := fun c _ hc _ hball _ => absurd hball (hempty c hc)
  row := fun c hc hball => absurd hball (hempty c hc)
  turn := by
    rintro ⟨c, hc, hball⟩
    exact absurd (hball ▸ h.index) (hempty c hc)

theorem ballDemoSetup_ok {s : BallDemo} (h : BallsSane s) : BallsOk (ballDemoSetup s) :=
  BallsSane.ok_of_noBalls ⟨h.index, h.max, h.color⟩ fun _ _ => UInt8.lt_irrefl ballDemoMaxBalls

theorem not_ball_maxBalls : ¬ballDemoMaxBalls < ballDemoMaxBalls := UInt8.lt_irrefl _

theorem ne_of_ball {b b' : UInt8} (hb : b < ballDemoMaxBalls) (hb' : ¬b' < ballDemoMaxBalls) :
    b' ≠ b := fun heq => hb' (heq ▸ hb)

theorem ball_cases {a a' b : UInt8} (ha : a < ballDemoMaxBalls) (ha' : a' < ballDemoMaxBalls)
    (hne : a' ≠ a) (hb : b < ballDemoMaxBalls) : b = a ∨ b = a' := by
  have htwo : ballDemoMaxBalls.toNat = 2 := rfl
  simp only [UInt8.lt_iff_toNat_lt, htwo, ne_eq, ← UInt8.toNat_inj] at *
  omega

theorem collideVertically_sane {s : Scan} (h : BallsSane s.demo) (this new : Cell)
    (thisBall thatBall : UInt8) :
    BallsSane (collideVertically s this new thisBall thatBall).1.demo := by
  unfold collideVertically
  dsimp only
  split_ifs
  · exact h
  · exact ⟨h.index, h.max, h.color⟩
  · exact h.same ((SameBalls.repeatCollision ..).trans (verticalCollision_same ..))
  · exact h.same ((SameBalls.repeatCollision ..).trans (verticalCollision_same ..))
  · exact h.same (.repeatCollision ..)

theorem visitBall_sane {s : Scan} (h : BallsSane s.demo) (this new : Cell) (thisBall : UInt8) :
    BallsSane (visitBall s this new thisBall).1.demo := by
  unfold visitBall
  dsimp only
  split_ifs
  · exact ⟨h.index, h.max, h.color⟩
  · exact h
  · have hvertical := collideVertically_sane (s := { s with ballsOnGrid := s.ballsOnGrid + 1 }) h
      this new thisBall (s.demo.ballGrid new)
    exact hvertical.same (collideHorizontally_same ..)

theorem scanCell_sane {s : Scan} (h : BallsSane s.demo) (this : Cell) :
    BallsSane (scanCell s this).1.demo := by
  by_cases hball : s.demo.ballGrid this < ballDemoMaxBalls
  · rw [scanCell_eq hball]
    exact visitBall_sane (s := { s with demo := _ }) (h.same (movedBall_same ..)) ..
  · rw [scanCell, if_neg hball]
    exact h

/-! ## Moves and collisions -/

section

variable {s : BallDemo} {this new : Cell} (h : BallsOk s) (hthis : this.InGrid) (hnew : new.InGrid)
  (hball : s.ballGrid this < ballDemoMaxBalls)

include h hthis hnew hball

theorem moveTo_ok (hfree : ¬s.ballGrid new < ballDemoMaxBalls)
    (hrow : new.1 ≤ (s.ball (s.ballGrid this)).verticalMax) :
    BallsOk (moveTo s this new (s.ballGrid this)) where
  index := h.index
  max := h.max
  color := h.color
  atMostOnce := h.atMostOnce.move hthis hball new not_ball_maxBalls
  row := by
    intro c hc hball'
    simp only [moveTo] at hball' ⊢
    by_cases hcn : c = new
    · subst hcn
      rw [Function.update_self]
      exact hrow
    · rw [Function.update_of_ne hcn] at hball' ⊢
      by_cases hct : c = this
      · rw [hct, Function.update_self] at hball'
        exact absurd hball' not_ball_maxBalls
      · rw [Function.update_of_ne hct] at hball' ⊢
        exact h.row c hc hball'
  turn := by
    intro hon b hb
    have hne : s.ballIndex ≠ ballDemoMaxBalls := UInt8.ne_of_lt h.index
    exact (h.turn (hon.of_move hthis hne) b hb).move hnew (ne_of_ball hb hfree)
      (ne_of_ball hb not_ball_maxBalls)

theorem noBalls_of_explosion (hthat : s.ballGrid new < ballDemoMaxBalls)
    (hne : s.ballGrid new ≠ s.ballGrid this) :
    NoBalls (Function.update (Function.update s.ballGrid this ballDemoMaxBalls) new
      ballDemoMaxBalls) := by
  intro c hc hball'
  by_cases hcn : c = new
  · rw [hcn, Function.update_self] at hball'
    exact not_ball_maxBalls hball'
  · rw [Function.update_of_ne hcn] at hball'
    by_cases hct : c = this
    · rw [hct, Function.update_self] at hball'
      exact not_ball_maxBalls hball'
    · rw [Function.update_of_ne hct] at hball'
      rcases ball_cases hball hthat hne hball' with heq | heq
      · exact hct (h.atMostOnce c this hc hthis hball' heq)
      · exact hcn (h.atMostOnce c new hc hnew hball' heq)

end

inductive CollisionEnd (s : Scan) (this new : Cell) (s' : Scan) (effects : List BallEffect) :
    Prop where
  | bounced (hsame : SameBalls s.demo s'.demo) (hcount : s'.ballsOnGrid = s.ballsOnGrid)
      (heffects : effects = [])
  | exploded (hempty : NoBalls s'.demo.ballGrid)
      (heffects : effects = [.ballGrid this, .ballGrid new, .explosion])

section

variable {s : Scan} {this new : Cell} (h : BallsOk s.demo) (hthis : this.InGrid)
  (hnew : new.InGrid) (hball : s.demo.ballGrid this < ballDemoMaxBalls)
  (hthat : s.demo.ballGrid new < ballDemoMaxBalls)
  (hne : s.demo.ballGrid new ≠ s.demo.ballGrid this) (thisBall thatBall : UInt8)

include h hthis hnew hball hthat hne

theorem collideVertically_end :
    CollisionEnd s this new (collideVertically s this new thisBall thatBall).1
      (collideVertically s this new thisBall thatBall).2 := by
  unfold collideVertically
  by_cases hdisabled : s.disableCollision thisBall
  · rw [if_pos hdisabled]
    exact .bounced (.refl _) rfl rfl
  · rw [if_neg hdisabled]
    generalize repeatCollisionLimitReached s.demo.repeatCollision thisBall thatBall = repeats
    obtain ⟨repeatCollision, limitReached⟩ := repeats
    have hsame := SameBalls.repeatCollision s.demo repeatCollision
    have hempty := noBalls_of_explosion h hthis hnew hball hthat hne
    dsimp only
    split_ifs
    · exact .exploded hempty rfl
    · exact .bounced (hsame.trans (verticalCollision_same ..)) rfl rfl
    · exact .bounced (hsame.trans (verticalCollision_same ..)) rfl rfl
    · exact .bounced hsame rfl rfl

theorem collide_end :
    CollisionEnd s this new (collide s this new thisBall thatBall).1
      (collide s this new thisBall thatBall).2 := by
  have hhorizontal :=
    collideHorizontally_same (collideVertically s this new thisBall thatBall).1.demo this new
      thisBall thatBall
  cases collideVertically_end h hthis hnew hball hthat hne thisBall thatBall with
  | bounced hsame hcount heffects => exact .bounced (hsame.trans hhorizontal) hcount heffects
  | exploded hempty heffects => exact .exploded (hhorizontal.grid ▸ hempty) heffects

end

/-! ## The scan -/

def BallEffect.Ok : BallEffect → Prop
  | .ballGrid cell => cell.InGrid
  | .verticalSlowdownFactors index => index.toNat < MidiFighter.verticalSlowdownFactors.length
  | .defaultColor index => index.toNat < palette.length
  | .explosion => True

/-- From a well-formed grid to the next: what was looked up lies in its table,
and a ball stays on the grid unless something explodes. -/
structure BallsKept (s s' : BallDemo) (effects : List BallEffect) : Prop where
  balls : BallsOk s'
  inTable : ∀ e ∈ effects, e.Ok
  on : ∀ b, b < ballDemoMaxBalls → On Cell.InGrid s.ballGrid b →
    On Cell.InGrid s'.ballGrid b ∨ .explosion ∈ effects

theorem BallsKept.refl {s : BallDemo} (h : BallsOk s) : BallsKept s s [] :=
  ⟨h, fun _ he => absurd he List.not_mem_nil, fun _ _ hon => .inl hon⟩

theorem BallsKept.trans {s s' s'' : BallDemo} {effects effects' : List BallEffect}
    (h : BallsKept s s' effects) (h' : BallsKept s' s'' effects') :
    BallsKept s s'' (effects ++ effects') := by
  refine ⟨h'.balls, List.forall_mem_append.mpr ⟨h.inTable, h'.inTable⟩, fun b hb hon => ?_⟩
  rcases h.on b hb hon with hon | hexplosion
  · exact (h'.on b hb hon).imp_right (List.mem_append_right _)
  · exact .inr (List.mem_append_left _ hexplosion)

/-- Between two turns of the scan: the visits cover the balls that the rest
will not meet. After an explosion nothing is counted any more. -/
structure ScanOk (rest : List Cell) (s : Scan) : Prop where
  balls : BallsOk s.demo
  counted : NoBalls s.demo.ballGrid ∨
    s.ballsOnGrid.toNat + rest.length ≤ 64 ∧
      Counted Cell.InGrid (· < ballDemoMaxBalls) s.demo.ballGrid rest s.ballsOnGrid.toNat

theorem movedBall_inGrid {s : BallDemo} (h : BallsOk s) {this : Cell} (hthis : this.InGrid)
    (hball : s.ballGrid this < ballDemoMaxBalls) :
    let ball := s.ball (s.ballGrid this)
    (movedBall ball this).1.InGrid ∧ (movedBall ball this).1.1 ≤ ball.verticalMax := by
  intro ball
  have hmax := (moveBallHorizontally_ball ball this.2).1
  have hrow : (moveBallVertically (moveBallHorizontally ball this.2).2 this.1).1 ≤
      ball.verticalMax := by
    have hthisRow := h.row this hthis hball
    rw [← hmax] at hthisRow ⊢
    exact moveBallVertically_le _ hthisRow
  exact ⟨⟨UInt8.lt_of_le_of_lt hrow (h.max _), moveBallHorizontally_lt ball hthis.2⟩, hrow⟩

theorem baseRowOffset_lt (ball : Ball) (thisRow : UInt8) :
    (baseRowOffset ball thisRow).toNat < verticalSlowdownFactors.length := by
  rw [baseRowOffset, UInt8.toNat_and]
  exact Nat.and_lt_two_pow _ (by decide : 7 < 2 ^ 3)

inductive ScanTurn (s : Scan) (this : Cell) (s' : Scan) (effects : List BallEffect) : Prop where
  | free (hfree : ¬s.demo.ballGrid this < ballDemoMaxBalls) (hs : s' = s)
  | visited (hball : s.demo.ballGrid this < ballDemoMaxBalls)
      (hcount : s'.ballsOnGrid = s.ballsOnGrid + 1)
      (hgrid : ∀ c, c.InGrid → s'.demo.ballGrid c < ballDemoMaxBalls →
        s'.demo.ballGrid c = s.demo.ballGrid this ∨
          c ≠ this ∧ s'.demo.ballGrid c = s.demo.ballGrid c)
      (hon : ∀ b, b < ballDemoMaxBalls → On Cell.InGrid s.demo.ballGrid b →
        On Cell.InGrid s'.demo.ballGrid b)
  | exploded (hempty : NoBalls s'.demo.ballGrid) (heffects : .explosion ∈ effects)

theorem ScanTurn.stayed {s s' : Scan} {this : Cell} {effects : List BallEffect}
    (hball : s.demo.ballGrid this < ballDemoMaxBalls)
    (hcount : s'.ballsOnGrid = s.ballsOnGrid + 1) (hgrid : s'.demo.ballGrid = s.demo.ballGrid) :
    ScanTurn s this s' effects := by
  refine .visited hball hcount (fun c _ _ => ?_) fun b _ hon => hgrid ▸ hon
  rw [hgrid]
  by_cases hc : c = this
  · exact .inl (by rw [hc])
  · exact .inr ⟨hc, rfl⟩

theorem visitBall_turn {s : Scan} (h : BallsOk s.demo) {this new : Cell} (hthis : this.InGrid)
    (hnew : new.InGrid) (hball : s.demo.ballGrid this < ballDemoMaxBalls)
    (hrow : new.1 ≤ (s.demo.ball (s.demo.ballGrid this)).verticalMax) :
    let visit := visitBall s this new (s.demo.ballGrid this)
    ScanTurn s this visit.1 visit.2 ∧ BallsOk visit.1.demo ∧ ∀ e ∈ visit.2, e.Ok := by
  intro visit
  by_cases hfree : s.demo.ballGrid new ≥ ballDemoMaxBalls
  · have hvisit : visit = _ := if_pos hfree
    have hfree' : ¬s.demo.ballGrid new < ballDemoMaxBalls := UInt8.not_lt.mpr hfree
    rw [hvisit]
    refine ⟨.visited hball rfl (fun c hc hc' => ?_) (fun b hb hon => ?_),
      moveTo_ok h hthis hnew hball hfree' hrow, by simp [BallEffect.Ok, hthis, hnew]⟩
    · exact move_apply (UInt8.ne_of_lt hc')
    · exact hon.move hnew (ne_of_ball hb hfree') (ne_of_ball hb not_ball_maxBalls)
  · have hthat := UInt8.not_le.mp hfree
    by_cases hsame : s.demo.ballGrid new = s.demo.ballGrid this
    · have hvisit : visit = _ := (if_neg hfree).trans (if_pos hsame)
      rw [hvisit]
      exact ⟨.stayed hball rfl rfl, h, by simp⟩
    · have hvisit : visit = _ := (if_neg hfree).trans (if_neg hsame)
      rw [hvisit]
      let counted : Scan := { s with ballsOnGrid := s.ballsOnGrid + 1 }
      cases collide_end (s := counted) h hthis hnew hball hthat hsame (s.demo.ballGrid this)
          (s.demo.ballGrid new) with
      | bounced hbounced hcount heffects =>
          exact ⟨.stayed hball hcount hbounced.grid, h.same hbounced, by rw [heffects]; simp⟩
      | exploded hempty heffects =>
          have hsane := visitBall_sane h.toBallsSane this new (s.demo.ballGrid this)
          rw [show visitBall s this new (s.demo.ballGrid this) = _ from hvisit] at hsane
          refine ⟨.exploded hempty ?_, hsane.ok_of_noBalls hempty, ?_⟩
          · rw [heffects]
            simp
          · rw [heffects]
            simp [BallEffect.Ok, hthis, hnew]

theorem ScanTurn.on {s s' : Scan} {this : Cell} {effects : List BallEffect}
    (hturn : ScanTurn s this s' effects) {b : UInt8} (hb : b < ballDemoMaxBalls)
    (hon : On Cell.InGrid s.demo.ballGrid b) :
    On Cell.InGrid s'.demo.ballGrid b ∨ .explosion ∈ effects := by
  cases hturn with
  | free _ hs => exact .inl (hs ▸ hon)
  | visited _ _ _ hkeep => exact .inl (hkeep b hb hon)
  | exploded _ heffects => exact .inr heffects

theorem scanCell_turn {s : Scan} (h : BallsOk s.demo) {this : Cell} (hthis : this.InGrid) :
    ScanTurn s this (scanCell s this).1 (scanCell s this).2 ∧ BallsOk (scanCell s this).1.demo ∧
      ∀ e ∈ (scanCell s this).2, e.Ok := by
  by_cases hball : s.demo.ballGrid this < ballDemoMaxBalls
  · obtain ⟨hnew, hrow⟩ := movedBall_inGrid h hthis hball
    have hsame := movedBall_same s.demo (s.demo.ballGrid this) this
    rw [← hsame.max] at hrow
    obtain ⟨hturn, hok, heffects⟩ := visitBall_turn (s := { s with demo := _ }) (h.same hsame)
      hthis hnew hball hrow
    rw [scanCell_eq hball]
    refine ⟨?_, hok, fun e he => ?_⟩
    · cases hturn with
      | free hfree => exact absurd hball hfree
      | visited _ hcount hgrid hon => exact .visited hball hcount hgrid hon
      | exploded hempty hexplosion => exact .exploded hempty (List.mem_append_right _ hexplosion)
    · rcases List.mem_append.mp he with he | he
      · simp only [List.mem_cons, List.not_mem_nil, or_false] at he
        rcases he with rfl | rfl | rfl
        · exact hthis
        · exact baseRowOffset_lt ..
        · exact hnew
      · exact heffects e he
  · rw [scanCell, if_neg hball]
    refine ⟨.free hball rfl, h, fun e he => ?_⟩
    rw [List.mem_singleton.mp he]
    exact hthis

theorem ScanOk.turn {s s' : Scan} {this : Cell} {rest : List Cell} {effects : List BallEffect}
    (h : ScanOk (this :: rest) s) (hturn : ScanTurn s this s' effects) (hthis : this.InGrid)
    (hok : BallsOk s'.demo) : ScanOk rest s' := by
  refine ⟨hok, ?_⟩
  cases hturn with
  | free hfree hs =>
      subst hs
      refine h.counted.imp_right fun ⟨hle, hcounted⟩ => ⟨?_, hcounted.skip hfree⟩
      rw [List.length_cons] at hle
      omega
  | visited hball hcount hgrid hon =>
      rcases h.counted with hempty | ⟨hle, hcounted⟩
      · exact absurd hball (hempty this hthis)
      · have hone : (1 : UInt8).toNat = 1 := rfl
        have hcount' : s'.ballsOnGrid.toNat = s.ballsOnGrid.toNat + 1 := by
          rw [List.length_cons] at hle
          rw [hcount, UInt8.toNat_add, hone]
          omega
        rw [hcount']
        rw [List.length_cons] at hle
        exact .inr ⟨by omega, hcounted.visit hgrid⟩
  | exploded hempty => exact .inl hempty

theorem scan_run : ∀ {cells : List Cell} {s : Scan}, (∀ c ∈ cells, c.InGrid) → ScanOk cells s →
    ScanOk [] (Machine.final scanCell s cells) ∧
      BallsKept s.demo (Machine.final scanCell s cells).demo (Machine.outputs scanCell s cells)
  | [], _, _, h => ⟨h, .refl h.balls⟩
  | c :: cells, s, hcells, h => by
      obtain ⟨hc, hcells⟩ := List.forall_mem_cons.mp hcells
      obtain ⟨hturn, hok, heffects⟩ := scanCell_turn h.balls hc
      obtain ⟨hend, hkept⟩ := scan_run hcells (h.turn hturn hc hok)
      rw [Machine.final_cons, Machine.outputs_cons]
      exact ⟨hend, .trans ⟨hok, heffects, fun _ hb hon => hturn.on hb hon⟩ hkept⟩

theorem mem_gridCells {c : Cell} : c ∈ gridCells ↔ c.InGrid := by
  obtain ⟨row, col⟩ := c
  have height : (8 : UInt8).toNat = 8 := rfl
  simp only [gridCells, List.mem_flatMap, List.mem_range, List.mem_map, Prod.mk.injEq, Cell.InGrid,
    geometricAnimationRows, geometricAnimationCols, UInt8.lt_iff_toNat_lt, height]
  constructor
  · rintro ⟨r, hr, k, hk, rfl, rfl⟩
    rw [UInt8.toNat_ofNat', UInt8.toNat_ofNat']
    omega
  · rintro ⟨hr, hk⟩
    exact ⟨row.toNat, hr, col.toNat, hk, UInt8.ofNat_toNat, UInt8.ofNat_toNat⟩

/-- A scan that has counted fewer than two visits leaves room for a ball. -/
theorem not_on_ballIndex {s : Scan} (h : ScanOk [] s) (hcount : s.ballsOnGrid < ballDemoMaxBalls) :
    ¬On Cell.InGrid s.demo.ballGrid s.demo.ballIndex := by
  intro hon
  rcases h.counted with hempty | ⟨-, hcounted⟩
  · obtain ⟨c, hc, hball⟩ := hon
    exact hempty c hc (hball ▸ h.balls.index)
  · have hboth : ∀ b ∈ ({0, 1} : Finset UInt8),
        b < ballDemoMaxBalls ∧ On Cell.InGrid s.demo.ballGrid b := by
      intro b hb
      have hlt : b < ballDemoMaxBalls := by
        rcases Finset.mem_insert.mp hb with rfl | hb
        · decide
        · rw [Finset.mem_singleton.mp hb]
          decide
      exact ⟨hlt, h.balls.turn hon b hlt⟩
    have htwo : 2 ≤ s.ballsOnGrid.toNat := hcounted.card_le hboth
    exact absurd (UInt8.lt_iff_toNat_lt.mp hcount) (Nat.not_lt.mpr htwo)

/-! ## New balls -/

theorem drawBall_same (s : BallDemo) (delay : UInt8) :
    SameBalls s (drawBall { s with newBallDelayCounter := delay }).2.2 := by
  have hdirection : SameBalls s
      { s with newBallDelayCounter := delay, direction := !s.direction } := .of_eq rfl rfl rfl
  refine SameBalls.random16 (.modifyBall hdirection.random16 ?_ ?_)
  · exact fun _ => rfl
  · exact fun _ h => h

theorem newBallCell_inGrid (direction : Bool) (value : UInt16) :
    (newBallCell direction value).InGrid := by
  constructor
  · unfold newBallCell
    dsimp only
    split_ifs with hlow
    · decide
    · exact UInt8.not_le.mp hlow
  · cases direction
    · exact (by decide : (0 : UInt8) < 8)
    · exact (by decide : (7 : UInt8) < 8)

theorem placeBall_ball (s : BallDemo) (cell : Cell) (color b : UInt8) :
    ((placeBall s cell color).ball b).verticalMax =
        (if b = s.ballIndex then cell.1 else (s.ball b).verticalMax) ∧
      ((placeBall s cell color).ball b).color =
        if b = s.ballIndex then color else (s.ball b).color := by
  unfold placeBall
  dsimp only
  rw [BallDemo.ball_modifyBall]
  by_cases hb : b = s.ballIndex
  · simp [hb, BallDemo.random16]
  · simp [hb, BallDemo.random16]

theorem placeBall_sane {s : BallDemo} (h : BallsSane s) {cell : Cell} (hcell : cell.InGrid)
    {color : UInt8} (hcolor : color < 20) : BallsSane (placeBall s cell color) where
  index := by
    have hbytes : ∀ i : UInt8, (i + 1) % ballDemoMaxBalls < ballDemoMaxBalls :=
      forall_byte (by decide +kernel)
    exact hbytes s.ballIndex
  max := by
    intro b
    rw [(placeBall_ball s cell color b).1]
    split_ifs
    · exact hcell.1
    · exact h.max b
  color := by
    intro b
    rw [(placeBall_ball s cell color b).2]
    split_ifs
    · exact hcolor
    · exact h.color b

theorem placeBall_ok {s : BallDemo} (h : BallsOk s)
    (hfresh : ¬On Cell.InGrid s.ballGrid s.ballIndex) {cell : Cell} (hcell : cell.InGrid)
    {color : UInt8} (hcolor : color < 20) : BallsOk (placeBall s cell color) where
  toBallsSane := placeBall_sane h.toBallsSane hcell hcolor
  atMostOnce := h.atMostOnce.place cell hfresh
  row := by
    intro c hc hball
    rw [(placeBall_ball s cell color _).1]
    show c.1 ≤ if Function.update s.ballGrid cell s.ballIndex c = s.ballIndex then _ else
      (s.ball (Function.update s.ballGrid cell s.ballIndex c)).verticalMax
    replace hball : Function.update s.ballGrid cell s.ballIndex c < ballDemoMaxBalls := hball
    by_cases hcc : c = cell
    · rw [hcc, Function.update_self, if_pos rfl]
      exact UInt8.le_refl _
    · rw [Function.update_of_ne hcc] at hball ⊢
      rw [if_neg fun heq => hfresh ⟨c, hc, heq⟩]
      exact h.row c hc hball
  turn := by
    intro hon b hb
    have hbytes : ∀ i : UInt8, i < ballDemoMaxBalls → (i + 1) % ballDemoMaxBalls ≠ i :=
      forall_byte (by decide +kernel)
    have hindex := (placeBall_sane h.toBallsSane hcell hcolor).index
    rcases ball_cases h.index hindex (hbytes _ h.index) hb with rfl | rfl
    · exact on_update_self hcell _
    · exact hon

theorem newBall_sane {s : BallDemo} (h : BallsSane s) : BallsSane (newBall s).1.1 := by
  let s' := { s with newBallDelayCounter := 0 }
  have hsane : BallsSane (drawBall s').2.2 := h.same (drawBall_same s 0)
  unfold newBall
  dsimp only
  split_ifs
  · exact ⟨h.index, h.max, h.color⟩
  · exact hsane
  · exact placeBall_sane hsane (newBallCell_inGrid ..) (ballColor_lt _)

theorem newBall_kept {s : BallDemo} (h : BallsOk s)
    (hfresh : ¬On Cell.InGrid s.ballGrid s.ballIndex) :
    BallsKept s (newBall s).1.1 (newBall s).2 := by
  let s' := { s with newBallDelayCounter := 0 }
  have hsame : SameBalls s (drawBall s').2.2 := drawBall_same s 0
  have hcell : (drawBall s').2.1.InGrid := newBallCell_inGrid ..
  have heffect : ∀ e ∈ [BallEffect.ballGrid (drawBall s').2.1], e.Ok :=
    fun e he => (List.mem_singleton.mp he) ▸ hcell
  unfold newBall
  dsimp only
  split_ifs with hdelay hconflict
  · exact ⟨h.same (.of_eq rfl rfl rfl), fun e he => absurd he List.not_mem_nil,
      fun _ _ hon => .inl hon⟩
  · exact ⟨h.same hsame, heffect, fun _ _ hon => .inl (hsame.grid ▸ hon)⟩
  · have hfresh' : ¬On Cell.InGrid (drawBall s').2.2.ballGrid (drawBall s').2.2.ballIndex := by
      rw [hsame.grid, hsame.index]
      exact hfresh
    refine ⟨placeBall_ok (h.same hsame) hfresh' hcell (ballColor_lt _), heffect, fun b hb hon => ?_⟩
    rw [← hsame.grid] at hon
    exact .inl (hon.update (ne_of_ball hb hconflict) _)

/-! ## Runs -/

theorem scanGrid_sane {s : BallDemo} (h : BallsSane s) (d : Device) :
    BallsSane (scanGrid d s).1.demo := by
  have hstep : ∀ (s : Scan) (c : Cell), BallsSane s.demo → True →
      BallsSane (scanCell s c).1.demo := fun s c hs _ => scanCell_sane hs c
  exact Machine.final_invariant (fun s : Scan => BallsSane s.demo) hstep h Machine.along_true

theorem scanGrid_ok {s : BallDemo} (h : BallsOk s) (d : Device) :
    ScanOk [] (scanGrid d s).1 ∧ BallsKept s (scanGrid d s).1.demo (scanGrid d s).2 := by
  have hlength : (0 : UInt8).toNat + gridCells.length ≤ 64 := by decide
  have hmem : ∀ c, c ∈ gridCells ↔ c.InGrid := fun _ => mem_gridCells
  unfold scanGrid
  generalize gridCells = cells at hlength hmem
  exact scan_run (fun c => (hmem c).mp) ⟨h, .inr ⟨hlength, counted_start fun c => (hmem c).mpr⟩⟩

theorem updateBalls_sane {s : BallDemo} (h : BallsSane s) (d : Device) :
    BallsSane (updateBalls d s).1.2 := by
  have hscan := scanGrid_sane h d
  unfold updateBalls
  generalize scanGrid d s = scan at hscan
  dsimp only
  split_ifs
  · exact newBall_sane hscan
  · exact hscan

theorem updateBalls_kept {s : BallDemo} (h : BallsOk s) (d : Device) :
    BallsKept s (updateBalls d s).1.2 (updateBalls d s).2 := by
  obtain ⟨hscan, hkept⟩ := scanGrid_ok h d
  unfold updateBalls
  generalize scanGrid d s = scan at hscan hkept
  dsimp only
  split_ifs with hcount
  · exact hkept.trans (newBall_kept hscan.balls (not_on_ballIndex hscan hcount))
  · exact hkept

theorem cellColor_lt {s : BallDemo} (h : BallsSane s) (cell : Cell) :
    (cellColor s cell).toNat < palette.length := by
  have hcolor : cellColor s cell < 20 := by
    unfold cellColor
    dsimp only
    split_ifs
    · decide
    · exact h.color _
  exact UInt8.lt_iff_toNat_lt.mp hcolor

theorem lightEffects_ok {s : BallDemo} (h : BallsSane s) :
    ∀ e ∈ gridCells.flatMap fun cell =>
      [BallEffect.ballGrid cell, .defaultColor (cellColor s cell)], e.Ok := by
  intro e he
  obtain ⟨cell, hcell, he⟩ := List.mem_flatMap.mp he
  simp only [List.mem_cons, List.not_mem_nil, or_false] at he
  rcases he with rfl | rfl
  · exact mem_gridCells.mp hcell
  · exact cellColor_lt h cell

theorem runBalls_sane {s : BallDemo} (h : BallsSane s) (d : Device) :
    BallsSane (runBalls d s).1.2 := by
  unfold runBalls
  dsimp only
  split_ifs
  · exact updateBalls_sane h _
  · exact h

theorem runBalls_kept {s : BallDemo} (h : BallsOk s) (d : Device) :
    BallsKept s (runBalls d s).1.2 (runBalls d s).2 := by
  -- lighting the buttons changes no ball
  have hlights : ∀ {s : BallDemo}, BallsOk s → BallsKept s s _ :=
    fun hs => ⟨hs, lightEffects_ok hs.toBallsSane, fun _ _ hon => .inl hon⟩
  unfold runBalls
  dsimp only
  split_ifs
  · have hkept := updateBalls_kept h (restartBallCounter d)
    exact hkept.trans (hlights hkept.balls)
  · exact hlights h

inductive BallEvent where
  | setup
  | run (d : Device)

/-- The demo on its own: `ball_demo_run` meets the device in any state. -/
def ballStep (s : BallDemo) : BallEvent → BallDemo × List BallEffect
  | .setup => (ballDemoSetup s, [])
  | .run d => ((runBalls d s).1.2, (runBalls d s).2)

theorem ballStep_ok {s : BallDemo} (h : BallsOk s) (ev : BallEvent) :
    BallsOk (ballStep s ev).1 ∧ ∀ e ∈ (ballStep s ev).2, e.Ok := by
  cases ev with
  | setup => exact ⟨ballDemoSetup_ok h.toBallsSane, fun _ he => absurd he List.not_mem_nil⟩
  | run d => exact ⟨(runBalls_kept h d).balls, (runBalls_kept h d).inTable⟩

/-- Once the grid has been cleared the balls are never lost or doubled,
whatever came before, whatever `random16` returns and whatever the check for
repeated collisions holds. -/
theorem ballGrid_invariant (random : Nat → UInt16) (repeatCollision : RepeatCollision)
    (pre post : List BallEvent) :
    let boot := { BallDemo.boot random with repeatCollision := repeatCollision }
    let start := Machine.final ballStep boot (pre ++ [.setup])
    let s := Machine.final ballStep start post
    (∀ c c', c.InGrid → c'.InGrid → s.ballGrid c < 2 → s.ballGrid c = s.ballGrid c' → c = c') ∧
      (∀ d b, b < 2 → (∃ c, c.InGrid ∧ s.ballGrid c = b) →
        (∃ c, c.InGrid ∧ (ballStep s (.run d)).1.ballGrid c = b) ∨
          .explosion ∈ (ballStep s (.run d)).2) ∧
      (∀ e ∈ Machine.outputs ballStep start post, e.Ok) ∧
      (∀ c, c.InGrid → s.ballGrid c < 2 → c.1 ≤ (s.ball (s.ballGrid c)).verticalMax) ∧
      ∀ b, (s.ball b).color.toNat < palette.length := by
  intro boot start s
  have hboot : BallsSane boot :=
    ⟨(by decide : (0 : UInt8) < 2), fun _ => (by decide : (0 : UInt8) < 8),
      fun _ => (by decide : (0 : UInt8) < 20)⟩
  have hpre : BallsSane (Machine.final ballStep boot pre) := by
    refine Machine.final_invariant BallsSane (fun s ev hs _ => ?_) hboot Machine.along_true
    cases ev with
    | setup => exact (ballDemoSetup_ok hs).toBallsSane
    | run d => exact runBalls_sane hs d
  have hstart : BallsOk start := by
    rw [show start = ballDemoSetup _ from Machine.final_append boot pre [.setup]]
    exact ballDemoSetup_ok hpre
  have hs : BallsOk s :=
    Machine.final_invariant BallsOk (fun s ev hs _ => (ballStep_ok hs ev).1) hstart
      Machine.along_true
  refine ⟨hs.atMostOnce, fun d => (runBalls_kept hs d).on, ?_, hs.row, fun b => ?_⟩
  · exact Machine.outputs_safe BallsOk BallEffect.Ok (fun s ev hs _ => (ballStep_ok hs ev).1)
      (fun s ev hs _ => (ballStep_ok hs ev).2) hstart Machine.along_true
  · exact UInt8.lt_iff_toNat_lt.mp (hs.color b)

end MidiFighter
