import MidiFighter.Geometry

/-!
# Animation slots

`geometric_animation_state` draws the four animation slots, and the timer
interrupt decides which of its calls advance them. A start takes the slots
in turn, whether the animation in it is over or not, so slots change their
type and length while frames are drawn.

The machine interleaves starts, bank changes (which start an animation),
timer interrupts and frames in any order. `animationStep_move` says what one
event does to the slots; the invariant `SlotOk` and the life of a started
animation (`slot_run`) follow from it by induction.

All slots share one counter. A start reloads it like a frame but advances
nothing, so `animation_pace` needs that no start comes while a tick is due.
-/

namespace MidiFighter

/-! ## Frames -/

/-- The variables of the LED engine that no MIDI function uses, around the
device. -/
structure Engine where
  device : Device
  tick : UInt16
  halfMsCounter : UInt16
  oneSecondCounter : UInt8

namespace Engine

def slot (e : Engine) (i : Fin 4) : GeometricAnimation := e.device.display.geometricAnimation i

def nextSlot (e : Engine) : Fin 4 := e.device.display.assignGeometricAnimationId

def updateAnimation (e : Engine) : Bool :=
  e.device.display.gLedCounter animationLedCounter = 0

end Engine

/-- The interrupt `TIMER1_OVF_vect`. -/
def timerOverflow (e : Engine) : Engine :=
  let counters := fun i =>
    let count := e.device.display.gLedCounter i
    if count > 0 then count - 1 else count
  let (tick, displayFlashCounter) :=
    if e.device.midiClockEnabled = false then
      if e.tick = 75 then (1, e.device.display.displayFlashCounter + 1)
      else (e.tick + 1, e.device.display.displayFlashCounter)
    else (e.tick, e.device.display.displayFlashCounter)
  { e with
    tick := tick
    halfMsCounter := e.halfMsCounter + 1
    device :=
      { e.device with
        display :=
          { e.device.display with
            gLedCounter :=
              if counters geometricAnimationGLedIdx = 0 then
                Function.update counters geometricAnimationGLedIdx 16
              else counters
            displayFlashCounter := displayFlashCounter } } }

section

-- the bytes at address 0, where a pointer that was never set points
variable (nullColor : Rgb)

/-- The three bytes behind `geometric_animation_color_ptr`. -/
def colorAt (d : Device) : Option ColorSource → Rgb
  | none => nullColor
  | some (.defaultBankActive bank button) =>
      readRgb d.store.colors.defaultBankActive (bankCell bank.toNat (3 * button.toNat))
  | some (.defaultColor color) => palette.getD color.toNat nullColor

/-- One turn of the loop of `geometric_animation_state`: draw a slot that is
not over. -/
def animateSlot (d : Device) (updateAnimation : Bool) (a : GeometricAnimation) :
    GeometricAnimation × List (Nat × UInt8) :=
  if a.pos < a.type.steps then
    runGeometricAnimation a.type (colorAt nullColor d a.colorPtr) updateAnimation a
  else (a, [])

def geometricAnimationState (d : Device) : Device × List (Nat × UInt8) :=
  let updateAnimation := decide (d.display.gLedCounter animationLedCounter = 0)
  let counters :=
    if updateAnimation then
      Function.update d.display.gLedCounter animationLedCounter geometricAnimationGLedLimit
    else d.display.gLedCounter
  let turn := Machine.sweep (animateSlot nullColor d updateAnimation)
  ({ d with
      display :=
        { d.display with
          gLedCounter := counters
          geometricAnimation :=
            Machine.final turn d.display.geometricAnimation (List.finRange 4) } },
    Machine.outputs turn d.display.geometricAnimation (List.finRange 4))

/-! ## The machine -/

inductive AnimationEvent where
  | start (buttonId animationId : UInt8)
  | timer
  | changeBank (thisBank : UInt8)
  | frame
deriving DecidableEq

def AnimationEvent.Allowed : AnimationEvent → Prop
  | .start buttonId animationId => buttonId < 64 ∧ animationId < geometricAnimationTypes
  | _ => True

instance : DecidablePred AnimationEvent.Allowed
  | .start .. => inferInstanceAs (Decidable (_ ∧ _))
  | .timer | .changeBank _ | .frame => inferInstanceAs (Decidable True)

def animationStep (e : Engine) : AnimationEvent → Engine × List (Nat × UInt8)
  | .start buttonId animationId =>
      ({ e with device := startGeometricAnimation e.device buttonId animationId }, [])
  | .timer => (timerOverflow e, [])
  | .changeBank thisBank => ({ e with device := changeBank e.device thisBank }, [])
  | .frame =>
      let (d, stores) := geometricAnimationState nullColor e.device
      ({ e with device := d }, stores)

/-! ## Slots after an event -/

def AnimationType.ofId (animationId : UInt8) : AnimationType :=
  if animationId = 1 then .circle
  else if animationId = 0 then .square
  else if animationId = 2 then .star
  else .triangle

def startedAnimation (d : Device) (buttonId animationId : UInt8) : GeometricAnimation :=
  ⟨buttonId, .ofId animationId, 0, some (setGeometricAnimationColorSource d buttonId)⟩

def AnimationEvent.started (d : Device) : AnimationEvent → Option GeometricAnimation
  | .start buttonId animationId => some (startedAnimation d buttonId animationId)
  | .changeBank thisBank =>
      let thisAnimation :=
        if d.setting .animations < geometricAnimationTypes then d.setting .animations else 0
      some (startedAnimation { d with gBankSelected := thisBank } (bankSelectKeyId thisBank)
        thisAnimation)
  | .timer | .frame => none

theorem startGeometricAnimation_slots (d : Device) {buttonId animationId : UInt8}
    (hid : animationId < geometricAnimationTypes) :
    (startGeometricAnimation d buttonId animationId).display.geometricAnimation =
        Function.update d.display.geometricAnimation d.display.assignGeometricAnimationId
          (startedAnimation d buttonId animationId) ∧
      (startGeometricAnimation d buttonId animationId).display.assignGeometricAnimationId =
        d.display.assignGeometricAnimationId + 1 := by
  have hids : ∀ id : UInt8, id < geometricAnimationTypes → id = 0 ∨ id = 1 ∨ id = 2 ∨ id = 3 :=
    forall_byte (by decide +kernel)
  by_cases hcount : d.display.gLedCounter 1 = 0
  · rw [startGeometricAnimation, if_pos hcount]
    rcases hids animationId hid with rfl | rfl | rfl | rfl <;> exact ⟨rfl, rfl⟩
  · rw [startGeometricAnimation, if_neg hcount]
    rcases hids animationId hid with rfl | rfl | rfl | rfl <;> exact ⟨rfl, rfl⟩

def GeometricAnimation.advance (a : GeometricAnimation) (updateAnimation : Bool) :
    GeometricAnimation :=
  if a.pos < a.type.steps then { a with pos := a.nextPos updateAnimation } else a

theorem animateSlot_eq (d : Device) (updateAnimation : Bool) (a : GeometricAnimation) :
    animateSlot nullColor d updateAnimation a =
      (a.advance updateAnimation,
        if a.pos < a.type.steps ∧ 0 < a.nextPos updateAnimation ∧
            a.nextPos updateAnimation < a.type.steps then
          lightCells (colorAt nullColor d a.colorPtr) (cellsOf a.type
            (getGeometricButtonRow a.btnId) (getGeometricButtonColumn a.btnId)
            (a.nextPos updateAnimation))
        else []) := by
  unfold animateSlot GeometricAnimation.advance
  by_cases hpos : a.pos < a.type.steps
  · simp only [runGeometricAnimation_eq, runAnimation_eq, hpos, true_and]
    -- without an update the position is the one just tested
    cases updateAnimation with
    | true => simp
    | false => simp [GeometricAnimation.nextPos, hpos]
  · simp [hpos]

/-- A slot whose animation is over, or one that can be drawn: its button is on
the grid and its colour pointer is set. All slots are over at power-on, and
only a start fills one. -/
def SlotOk (a : GeometricAnimation) : Prop :=
  a.type.steps ≤ a.pos ∨ a.btnId < 64 ∧ a.colorPtr.isSome

def slotStores (e : Engine) (i : Fin 4) : List (Nat × UInt8) :=
  (animateSlot nullColor e.device e.updateAnimation (e.slot i)).2

/-- What an event does to the slots: a start fills the next slot and moves
on, a frame draws and advances every slot. -/
inductive SlotMove (e : Engine) (ev : AnimationEvent) (e' : Engine)
    (stores : List (Nat × UInt8)) : Prop where
  | started (a : GeometricAnimation) (hev : ev.started e.device = some a) (hpos : a.pos = 0)
      (hok : SlotOk a) (hslot : e'.slot = Function.update e.slot e.nextSlot a)
      (hnext : e'.nextSlot = e.nextSlot + 1) (hstores : stores = [])
  | timer (hev : ev = .timer) (hslot : e'.slot = e.slot) (hnext : e'.nextSlot = e.nextSlot)
      (hstores : stores = [])
  | frame (hev : ev = .frame) (hslot : ∀ i, e'.slot i = (e.slot i).advance e.updateAnimation)
      (hnext : e'.nextSlot = e.nextSlot)
      (hstores : stores = (List.finRange 4).flatMap (slotStores nullColor e))

theorem animationStep_move (e : Engine) {ev : AnimationEvent} (hallowed : ev.Allowed) :
    SlotMove nullColor e ev (animationStep nullColor e ev).1 (animationStep nullColor e ev).2 := by
  cases ev with
  | start buttonId animationId =>
      obtain ⟨hslot, hnext⟩ := startGeometricAnimation_slots e.device hallowed.2
      exact .started _ rfl rfl (.inr ⟨hallowed.1, rfl⟩) hslot hnext rfl
  | timer => exact .timer rfl rfl rfl rfl
  | changeBank thisBank =>
      obtain ⟨hslot, hnext⟩ := startGeometricAnimation_slots
        { e.device with gBankSelected := thisBank } (bankAnimation_lt e.device)
      exact .started _ rfl rfl (.inr ⟨bankSelectKeyId_lt thisBank, rfl⟩) hslot hnext rfl
  | frame =>
      refine .frame rfl (fun i => ?_) rfl (Machine.outputs_sweep _ (List.nodup_finRange 4))
      have hslot := Machine.final_sweep (animateSlot nullColor e.device e.updateAnimation)
        (m := e.slot) (List.nodup_finRange 4) i
      rw [if_pos (List.mem_finRange i), animateSlot_eq] at hslot
      exact hslot

/-! ## The invariant of the slots -/

theorem advance_ok {a : GeometricAnimation} (h : SlotOk a) (updateAnimation : Bool) :
    SlotOk (a.advance updateAnimation) := by
  unfold GeometricAnimation.advance
  split_ifs with hpos
  · rcases h with hover | hready
    · exact absurd hpos (UInt8.not_lt.mpr hover)
    · exact .inr hready
  · exact h

theorem animationStep_ok {e : Engine} {ev : AnimationEvent} (h : ∀ i, SlotOk (e.slot i))
    (hallowed : ev.Allowed) : ∀ i, SlotOk ((animationStep nullColor e ev).1.slot i) := by
  intro i
  cases animationStep_move nullColor e hallowed with
  | started a hev hpos hok hslot =>
      rw [hslot]
      by_cases hi : i = e.nextSlot
      · rw [hi, Function.update_self]
        exact hok
      · rw [Function.update_of_ne hi]
        exact h i
  | timer hev hslot =>
      rw [hslot]
      exact h i
  | frame hev hslot =>
      rw [hslot]
      exact advance_ok (h i) e.updateAnimation

theorem address_lt_of_mem_slotStores {e : Engine} {i : Fin 4} (h : SlotOk (e.slot i))
    {w : Nat × UInt8} (hw : w ∈ slotStores nullColor e i) : w.1 < 192 := by
  rw [slotStores, animateSlot_eq] at hw
  dsimp only at hw
  split_ifs at hw with hdrawn
  · obtain ⟨hpos, hnext, hsteps⟩ := hdrawn
    rcases h with hover | ⟨hbtn, -⟩
    · exact absurd hpos (UInt8.not_lt.mpr hover)
    · exact address_lt_of_mem_lightCells (cellsOf_inGrid hbtn hnext hsteps) hw
  · exact absurd hw List.not_mem_nil

theorem address_lt_of_mem_animationStep {e : Engine} {ev : AnimationEvent}
    (h : ∀ i, SlotOk (e.slot i)) (hallowed : ev.Allowed) {w : Nat × UInt8}
    (hw : w ∈ (animationStep nullColor e ev).2) : w.1 < 192 := by
  cases animationStep_move nullColor e hallowed with
  | started a hev hpos hok hslot hnext hstores => exact absurd (hstores ▸ hw) List.not_mem_nil
  | timer hev hslot hnext hstores => exact absurd (hstores ▸ hw) List.not_mem_nil
  | frame hev hslot hnext hstores =>
      rw [hstores] at hw
      obtain ⟨i, -, hw⟩ := List.mem_flatMap.mp hw
      exact address_lt_of_mem_slotStores nullColor (h i) hw

/-! ## The life of an animation -/

def GeometricAnimation.after (a : GeometricAnimation) (n : Nat) : GeometricAnimation :=
  { a with pos := UInt8.ofNat (min (a.pos.toNat + n) a.type.steps.toNat) }

theorem AnimationType.toNat_steps_le (type : AnimationType) : type.steps.toNat ≤ 15 := by
  cases type <;> decide

theorem toNat_after_pos (a : GeometricAnimation) (n : Nat) :
    (a.after n).pos.toNat = min (a.pos.toNat + n) a.type.steps.toNat := by
  have hsteps := a.type.toNat_steps_le
  rw [GeometricAnimation.after, UInt8.toNat_ofNat']
  omega

theorem after_pos_le (a : GeometricAnimation) (n : Nat) : (a.after n).pos ≤ a.type.steps := by
  rw [UInt8.le_iff_toNat_le, toNat_after_pos]
  exact Nat.min_le_right ..

theorem after_add (a : GeometricAnimation) (m n : Nat) : (a.after m).after n = a.after (m + n) := by
  have hpos := toNat_after_pos a m
  have heq : (a.after m).type = a.type := rfl
  rw [GeometricAnimation.after, hpos, heq, GeometricAnimation.after, GeometricAnimation.after]
  congr 2
  omega

theorem after_zero {a : GeometricAnimation} (h : a.pos ≤ a.type.steps) : a.after 0 = a := by
  have hpos : (a.after 0).pos = a.pos := by
    apply UInt8.toNat_inj.mp
    rw [toNat_after_pos]
    exact Nat.min_eq_left (UInt8.le_iff_toNat_le.mp h)
  exact congrArg (fun pos => ({ a with pos := pos } : GeometricAnimation)) hpos

theorem advance_eq_after {a : GeometricAnimation} (h : a.pos ≤ a.type.steps)
    (updateAnimation : Bool) :
    a.advance updateAnimation = a.after (if updateAnimation then 1 else 0) := by
  by_cases hpos : a.pos < a.type.steps
  · cases updateAnimation with
    | false =>
        rw [GeometricAnimation.advance, if_pos hpos]
        exact (after_zero h).symm
    | true =>
        have hnext : (a.pos + 1).toNat = (a.after 1).pos.toNat := by
          have hone : (1 : UInt8).toNat = 1 := rfl
          have hlt := UInt8.lt_iff_toNat_lt.mp hpos
          have hsteps := a.type.toNat_steps_le
          rw [toNat_after_pos, UInt8.toNat_add, hone]
          omega
        rw [GeometricAnimation.advance, if_pos hpos]
        exact congrArg (fun pos => { a with pos := pos }) (UInt8.toNat_inj.mp hnext)
  · have hover : (a.after 0).pos = (a.after (if updateAnimation then 1 else 0)).pos := by
      have hge := UInt8.le_iff_toNat_le.mp (UInt8.not_lt.mp hpos)
      apply UInt8.toNat_inj.mp
      rw [toNat_after_pos, toNat_after_pos]
      omega
    rw [GeometricAnimation.advance, if_neg hpos]
    exact (after_zero h).symm.trans (congrArg (fun pos => { a with pos := pos }) hover)

def updateTicks : Engine → List AnimationEvent → Nat
  | _, [] => 0
  | e, ev :: evs =>
      (if ev = .frame ∧ e.updateAnimation then 1 else 0) +
        updateTicks (animationStep nullColor e ev).1 evs

def AnimationEvent.isStart : AnimationEvent → Bool
  | .start .. | .changeBank _ => true
  | .timer | .frame => false

/-- A slot that is not started again is aged by the update ticks. `k` starts
have taken a slot since this one was filled. -/
theorem slot_run {i : Fin 4} : ∀ {evs : List AnimationEvent} {e : Engine} {k : Nat},
    (∀ ev ∈ evs, ev.Allowed) → (e.slot i).pos ≤ (e.slot i).type.steps →
    e.nextSlot.val = (i.val + k) % 4 → 0 < k → k + evs.countP AnimationEvent.isStart ≤ 4 →
    (Machine.final (animationStep nullColor) e evs).slot i =
      (e.slot i).after (updateTicks nullColor e evs)
  | [], e, _, _, hpos, _, _, _ => (after_zero hpos).symm
  | ev :: evs, e, k, hallowed, hpos, hnext, hk, hstarts => by
      obtain ⟨hev, hevs⟩ := List.forall_mem_cons.mp hallowed
      rw [List.countP_cons] at hstarts
      rw [Machine.final_cons, updateTicks]
      cases animationStep_move nullColor e hev with
      | started a ha _ hok hslot hnext' =>
          have hstart : ev.isStart = true := by
            cases ev with
            | start | changeBank => rfl
            | timer | frame => exact absurd ha (Option.some_ne_none _).symm
          have hframe : ev ≠ .frame := by
            rintro rfl
            exact Bool.false_ne_true hstart
          rw [hstart, if_pos rfl] at hstarts
          have hne : i ≠ e.nextSlot := fun h => by omega
          have hkeep : (animationStep nullColor e ev).1.slot i = e.slot i := by
            rw [hslot, Function.update_of_ne hne]
          have hnext'' : (animationStep nullColor e ev).1.nextSlot.val = (i.val + (k + 1)) % 4 := by
            rw [hnext', Fin.val_add]
            omega
          rw [if_neg fun h => hframe h.1, Nat.zero_add, ← hkeep]
          exact slot_run hevs (hkeep ▸ hpos) hnext'' (by omega) (by omega)
      | timer hev hslot hnext' =>
          subst hev
          rw [if_neg fun h => AnimationEvent.noConfusion h.1, Nat.zero_add]
          exact slot_run hevs hpos hnext hk hstarts
      | frame hev hslot hnext' =>
          subst hev
          have hage : (animationStep nullColor e .frame).1.slot i =
              (e.slot i).after (if e.updateAnimation then 1 else 0) :=
            (hslot i).trans (advance_eq_after hpos e.updateAnimation)
          have hpos' : ((animationStep nullColor e .frame).1.slot i).pos ≤
              ((animationStep nullColor e .frame).1.slot i).type.steps := by
            rw [hage]
            exact after_pos_le ..
          rw [slot_run hevs hpos' hnext hk hstarts, hage, after_add]
          simp

theorem started_run {e : Engine} {ev : AnimationEvent} {a : GeometricAnimation}
    {post : List AnimationEvent} (hev : ev.Allowed) (ha : ev.started e.device = some a)
    (hpost : ∀ ev ∈ post, ev.Allowed) (hstarts : post.countP AnimationEvent.isStart < 4) :
    a.pos = 0 ∧
      (Machine.final (animationStep nullColor) e (ev :: post)).slot e.nextSlot =
        a.after (updateTicks nullColor (animationStep nullColor e ev).1 post) := by
  cases animationStep_move nullColor e hev with
  | started a' ha' hpos hok hslot hnext =>
      obtain rfl : a' = a := Option.some.inj (ha'.symm.trans ha)
      have hfilled : (animationStep nullColor e ev).1.slot e.nextSlot = a' := by
        rw [hslot, Function.update_self]
      have hle : ((animationStep nullColor e ev).1.slot e.nextSlot).pos ≤
          ((animationStep nullColor e ev).1.slot e.nextSlot).type.steps := by
        rw [hfilled, hpos]
        exact UInt8.zero_le
      have hnext' : (animationStep nullColor e ev).1.nextSlot.val = (e.nextSlot.val + 1) % 4 := by
        rw [hnext, Fin.val_add]
        rfl
      refine ⟨hpos, ?_⟩
      rw [Machine.final_cons, slot_run nullColor hpost hle hnext' Nat.one_pos (by omega), hfilled]
  | timer hev' =>
      subst hev'
      exact absurd ha (Option.some_ne_none _).symm
  | frame hev' =>
      subst hev'
      exact absurd ha (Option.some_ne_none _).symm

/-- The stores of a slot `n` update ticks after its start: none before the
first tick and none from tick `STEPS` on. -/
theorem slotStores_after {e : Engine} {i : Fin 4} {a : GeometricAnimation} {n : Nat}
    (hslot : e.slot i = a.after n) (hpos : a.pos = 0) :
    let tick := n + if e.updateAnimation then 1 else 0
    slotStores nullColor e i =
      if 0 < tick ∧ tick < a.type.steps.toNat then
        lightCells (colorAt nullColor e.device a.colorPtr) (cellsOf a.type
          (getGeometricButtonRow a.btnId) (getGeometricButtonColumn a.btnId) (UInt8.ofNat tick))
      else [] := by
  intro tick
  have hsteps := a.type.toNat_steps_le
  have hzero : a.pos.toNat = 0 := congrArg UInt8.toNat hpos
  have hage : (a.after n).pos.toNat = min n a.type.steps.toNat := by
    rw [toNat_after_pos, hzero, Nat.zero_add]
  have hnext : ((a.after n).nextPos e.updateAnimation).toNat =
      min n a.type.steps.toNat + if e.updateAnimation then 1 else 0 := by
    have hone : (1 : UInt8).toNat = 1 := rfl
    unfold GeometricAnimation.nextPos
    split_ifs
    · rw [UInt8.toNat_add, hone, hage]
      omega
    · exact hage
  rw [slotStores, hslot, animateSlot_eq]
  by_cases htick : 0 < tick ∧ tick < a.type.steps.toNat
  · have hpos' : (a.after n).nextPos e.updateAnimation = UInt8.ofNat tick := by
      apply UInt8.toNat_inj.mp
      rw [hnext, UInt8.toNat_ofNat']
      omega
    have hdrawn : (a.after n).pos < a.type.steps ∧
        0 < (a.after n).nextPos e.updateAnimation ∧
        (a.after n).nextPos e.updateAnimation < a.type.steps := by
      simp only [UInt8.lt_iff_toNat_lt, hage, hnext, show (0 : UInt8).toNat = 0 from rfl]
      omega
    rw [if_pos htick, ← hpos']
    exact if_pos hdrawn
  · rw [if_neg htick]
    refine if_neg fun h => htick ?_
    simp only [UInt8.lt_iff_toNat_lt, hage, hnext, show (a.after n).type = a.type from rfl,
      show (0 : UInt8).toNat = 0 from rfl] at h
    omega

/-- Slots stay well formed whatever the order of starts, bank changes,
interrupts and frames, and a started animation that is not overwritten is at
the position of its update ticks until it is over. -/
theorem animation_slots (e : Engine)
    (hboot : e.slot = (Device.start e.device.store).display.geometricAnimation)
    (evs : List AnimationEvent) (hallowed : ∀ ev ∈ evs, ev.Allowed) :
    let run := Machine.final (animationStep nullColor) e
    (∀ i, SlotOk ((run evs).slot i)) ∧
      (∀ w ∈ Machine.outputs (animationStep nullColor) e evs, w.1 < 192) ∧
      ∀ pre ev post a, evs = pre ++ ev :: post → ev.started (run pre).device = some a →
        post.countP AnimationEvent.isStart < 4 →
        let i := (run pre).nextSlot
        let n := updateTicks nullColor (run (pre ++ [ev])) post
        let tick := n + if (run evs).updateAnimation then 1 else 0
        (run evs).slot i = { a with pos := UInt8.ofNat (min n a.type.steps.toNat) } ∧
          (animationStep nullColor (run evs) .frame).2 =
            (List.finRange 4).flatMap (slotStores nullColor (run evs)) ∧
          slotStores nullColor (run evs) i =
            if 0 < tick ∧ tick < a.type.steps.toNat then
              lightCells (colorAt nullColor (run evs).device a.colorPtr) (cellsOf a.type
                (getGeometricButtonRow a.btnId) (getGeometricButtonColumn a.btnId)
                (UInt8.ofNat tick))
            else [] := by
  intro run
  have hstart : ∀ i, SlotOk (e.slot i) := fun i => .inl (by rw [hboot]; exact UInt8.le_refl _)
  have halong : Machine.Along (animationStep nullColor) (fun _ ev => ev.Allowed) e evs :=
    Machine.along_of_forall_mem hallowed
  have hstep : ∀ (e : Engine) (ev : AnimationEvent), (∀ i, SlotOk (e.slot i)) → ev.Allowed →
      ∀ i, SlotOk ((animationStep nullColor e ev).1.slot i) :=
    fun e ev h hev => animationStep_ok nullColor h hev
  refine ⟨Machine.final_invariant _ hstep hstart halong,
    Machine.outputs_safe _ (fun w => w.1 < 192) hstep
      (fun e ev h hev w => address_lt_of_mem_animationStep nullColor h hev) hstart halong, ?_⟩
  rintro pre ev post a rfl ha hstarts i n tick
  have hev : ev.Allowed := hallowed ev (by simp)
  have hpost : ∀ ev ∈ post, ev.Allowed := fun ev h => hallowed ev (by simp [h])
  obtain ⟨hpos, hslot⟩ := started_run nullColor hev ha hpost hstarts
  have hfirst : run (pre ++ [ev]) = (animationStep nullColor (run pre) ev).1 :=
    Machine.final_append e pre [ev]
  have hlast : run (pre ++ ev :: post) =
      Machine.final (animationStep nullColor) (run pre) (ev :: post) :=
    Machine.final_append e pre (ev :: post)
  rw [← hlast, ← hfirst] at hslot
  refine ⟨?_, Machine.outputs_sweep _ (List.nodup_finRange 4),
    slotStores_after nullColor hslot hpos⟩
  rw [hslot, GeometricAnimation.after, hpos]
  simp [n]

/-! ## The pace of the animations -/

namespace Engine

/-- `g_led_counter[1]`, which paces the animations of all slots. -/
def animationCounter (e : Engine) : UInt16 := e.device.display.gLedCounter animationLedCounter

/-- The event starts an animation while an update tick is due. The start
reloads the counter that has reached 0, and the next frame does not see the
tick. -/
def LosesTick (e : Engine) (ev : AnimationEvent) : Prop :=
  ev.isStart = true ∧ e.updateAnimation = true

instance (e : Engine) (ev : AnimationEvent) : Decidable (e.LosesTick ev) :=
  inferInstanceAs (Decidable (_ ∧ _))

theorem updateAnimation_iff {e : Engine} : e.updateAnimation = true ↔ e.animationCounter = 0 :=
  decide_eq_true_iff

end Engine

/-- What an event does to `g_led_counter[1]`. A start reloads it as a frame
does, but advances nothing. -/
def AnimationEvent.count (counter : UInt16) : AnimationEvent → UInt16
  | .timer => if counter > 0 then counter - 1 else counter
  | .start .. | .changeBank _ | .frame =>
      if counter = 0 then geometricAnimationGLedLimit else counter

theorem startGeometricAnimation_counter (d : Device) (buttonId animationId : UInt8) :
    (startGeometricAnimation d buttonId animationId).display.gLedCounter animationLedCounter =
      if d.display.gLedCounter animationLedCounter = 0 then geometricAnimationGLedLimit
      else d.display.gLedCounter animationLedCounter := by
  unfold startGeometricAnimation startGeometricCircleAnimation startGeometricSquareAnimation
    startGeometricStarAnimation startGeometricTriangleAnimation startAnimation animationLedCounter
  split_ifs <;> rfl

theorem geometricAnimationState_counter (d : Device) :
    (geometricAnimationState nullColor d).1.display.gLedCounter animationLedCounter =
      if d.display.gLedCounter animationLedCounter = 0 then geometricAnimationGLedLimit
      else d.display.gLedCounter animationLedCounter := by
  simp only [geometricAnimationState, decide_eq_true_iff]
  by_cases hcount : d.display.gLedCounter animationLedCounter = 0
  · rw [if_pos hcount, if_pos hcount, Function.update_self]
  · rw [if_neg hcount, if_neg hcount]

theorem animationStep_counter (e : Engine) (ev : AnimationEvent) :
    (animationStep nullColor e ev).1.animationCounter = ev.count e.animationCounter := by
  cases ev with
  | start buttonId animationId => exact startGeometricAnimation_counter ..
  | changeBank thisBank => exact startGeometricAnimation_counter ..
  | timer =>
      have hne : animationLedCounter ≠ geometricAnimationGLedIdx := by decide
      simp only [animationStep, timerOverflow, Engine.animationCounter, AnimationEvent.count]
      -- the interrupt reloads another counter
      split_ifs <;> simp_all [Function.update_of_ne]
  | frame => exact geometricAnimationState_counter ..

/-- A tick that is due stays due until a frame, unless a start takes it. -/
theorem updateAnimation_step {e : Engine} {ev : AnimationEvent} (hdue : e.updateAnimation = true)
    (hlost : ¬e.LosesTick ev) (hframe : ev ≠ .frame) :
    (animationStep nullColor e ev).1.updateAnimation = true := by
  rw [Engine.updateAnimation_iff] at hdue ⊢
  rw [animationStep_counter, hdue]
  cases ev with
  | start => exact absurd ⟨rfl, Engine.updateAnimation_iff.mpr hdue⟩ hlost
  | changeBank => exact absurd ⟨rfl, Engine.updateAnimation_iff.mpr hdue⟩ hlost
  | timer => rfl
  | frame => exact absurd rfl hframe

theorem updateAnimation_run : ∀ {evs : List AnimationEvent} {e : Engine},
    e.updateAnimation = true →
    Machine.Along (animationStep nullColor) (fun e ev => ¬e.LosesTick ev) e evs → .frame ∉ evs →
    (Machine.final (animationStep nullColor) e evs).updateAnimation = true
  | [], _, hdue, _, _ => hdue
  | ev :: evs, e, hdue, ⟨hkept, halong⟩, hframes => by
      obtain ⟨hframe, hframes⟩ := not_or.mp (mt List.mem_cons.mpr hframes)
      rw [Machine.final_cons]
      exact updateAnimation_run (updateAnimation_step nullColor hdue hkept (Ne.symm hframe)) halong
        hframes

/-- Starts that take no tick leave the ticks as they are without them. The
two runs agree on the counter only. -/
theorem updateTicks_filter : ∀ {evs : List AnimationEvent} {e e' : Engine},
    e.animationCounter = e'.animationCounter →
    Machine.Along (animationStep nullColor) (fun e ev => ¬e.LosesTick ev) e evs →
    updateTicks nullColor e evs =
      updateTicks nullColor e' (evs.filter fun ev => !ev.isStart)
  | [], _, _, _, _ => rfl
  | ev :: evs, e, e', hcount, ⟨hkept, halong⟩ => by
      have hdue : e.updateAnimation = e'.updateAnimation := by
        rw [Bool.eq_iff_iff, Engine.updateAnimation_iff, Engine.updateAnimation_iff, hcount]
      have hstep := animationStep_counter nullColor e ev
      by_cases hstart : ev.isStart = true
      · have hcount' : (animationStep nullColor e ev).1.animationCounter = e'.animationCounter := by
          have hrunning : e.animationCounter ≠ 0 := fun h =>
            hkept ⟨hstart, Engine.updateAnimation_iff.mpr h⟩
          rw [hstep, ← hcount]
          cases ev with
          | start => exact if_neg hrunning
          | changeBank => exact if_neg hrunning
          | timer | frame => exact Bool.noConfusion hstart
        have hframe : ¬(ev = .frame ∧ e.updateAnimation = true) := by
          rintro ⟨rfl, -⟩
          exact Bool.noConfusion hstart
        rw [updateTicks, if_neg hframe, Nat.zero_add, updateTicks_filter hcount' halong,
          List.filter_cons_of_neg (by simp [hstart])]
      · have hcount' : (animationStep nullColor e ev).1.animationCounter =
            (animationStep nullColor e' ev).1.animationCounter := by
          rw [hstep, animationStep_counter, hcount]
        rw [updateTicks, List.filter_cons_of_pos (by simp [hstart]), updateTicks, hdue,
          updateTicks_filter hcount' halong]

/-- The frame after a tick advances every running animation, and starts do
not change how many ticks there are, as long as no animation is started
while a tick is due. -/
theorem animation_pace (e : Engine) (evs : List AnimationEvent)
    (hkept : Machine.Along (animationStep nullColor) (fun e ev => ¬e.LosesTick ev) e evs) :
    let run := Machine.final (animationStep nullColor) e
    (∀ pre mid post, evs = pre ++ mid ++ .frame :: post → .frame ∉ mid →
      (run pre).updateAnimation = true →
      ∀ i, ((run (pre ++ mid)).slot i).pos < ((run (pre ++ mid)).slot i).type.steps →
        ((run (pre ++ mid ++ [.frame])).slot i).pos = ((run (pre ++ mid)).slot i).pos + 1) ∧
      updateTicks nullColor e evs =
        updateTicks nullColor e (evs.filter fun ev => !ev.isStart) := by
  refine ⟨?_, updateTicks_filter nullColor rfl hkept⟩
  rintro pre mid post rfl hmid hdue i hactive
  obtain ⟨hpre, hmid'⟩ := Machine.along_append.mp (Machine.along_append.mp hkept).1
  have hdue' : (Machine.final (animationStep nullColor) e (pre ++ mid)).updateAnimation = true := by
    rw [Machine.final_append]
    exact updateAnimation_run nullColor hdue hmid' hmid
  rw [Machine.final_append e (pre ++ mid)]
  generalize Machine.final (animationStep nullColor) e (pre ++ mid) = e' at hactive hdue' ⊢
  have hallowed : AnimationEvent.frame.Allowed := trivial
  cases animationStep_move nullColor e' hallowed with
  | frame _ hslot =>
      rw [Machine.final_cons, Machine.final_nil, hslot, hdue', GeometricAnimation.advance,
        if_pos hactive]
      rfl
  | started a ha => exact absurd ha (Option.some_ne_none _).symm
  | timer hev => exact AnimationEvent.noConfusion hev

end

/-- A star on button 27, in the colour of its keys. The first frame after the
start takes it to position 1, where it lights button 31 above it. After 11
ticks it is over and stores nothing. -/
theorem animation_slots_star :
    let device := Device.start { darkStore with colors := ⟨fun _ => 0, fun _ => 24⟩ }
    let e : Engine :=
      ⟨{ device with display := { device.display with gLedCounter := fun _ => 1 } }, 0, 0, 0⟩
    let run := Machine.final (animationStep ⟨0, 0, 0⟩) e
    let first := [.start 27 2, .timer, .frame]
    let rounds : List AnimationEvent :=
      (List.replicate 11 (List.replicate 112 .timer ++ [.frame])).flatten
    (((run first).slot 0).pos = 1 ∧
        readBrg (Cells.applyWrites (fun _ => 0) (slotStores ⟨0, 0, 0⟩ (run first) 0)) 31 =
          ⟨24, 24, 24⟩) ∧
      ((run (.start 27 2 :: rounds)).slot 0).pos = 11 ∧
        slotStores ⟨0, 0, 0⟩ (run (.start 27 2 :: rounds)) 0 = [] := by
  intro device e run first rounds
  have hquiet : ∀ ev ∈ rounds, ev = .timer ∨ ev = .frame := by
    intro ev hev
    obtain ⟨_, hround, hev⟩ := List.mem_flatten.mp hev
    rw [List.eq_of_mem_replicate hround, List.mem_append] at hev
    exact hev.imp List.eq_of_mem_replicate List.eq_of_mem_singleton
  have hallowed : ∀ ev ∈ .start 27 2 :: rounds, ev.Allowed := by
    refine List.forall_mem_cons.mpr ⟨by decide, fun ev hev => ?_⟩
    rcases hquiet ev hev with rfl | rfl <;> trivial
  have hstarts : rounds.countP AnimationEvent.isStart = 0 := by
    refine List.countP_eq_zero.mpr fun ev hev => ?_
    rcases hquiet ev hev with rfl | rfl <;> decide
  have hticks : updateTicks ⟨0, 0, 0⟩ (run [.start 27 2]) [.timer, .frame] = 1 := by
    decide +kernel
  have hticks' : updateTicks ⟨0, 0, 0⟩ (run [.start 27 2]) rounds = 11 := by
    decide +kernel
  have hdrawn : (run first).updateAnimation = false := by decide +kernel
  obtain ⟨-, -, hlife⟩ := animation_slots ⟨0, 0, 0⟩ e rfl first (by decide)
  obtain ⟨-, -, hlife'⟩ := animation_slots ⟨0, 0, 0⟩ e rfl (.start 27 2 :: rounds) hallowed
  obtain ⟨hslot, -, hstores⟩ := hlife [] (.start 27 2) [.timer, .frame] _ rfl rfl (by decide)
  obtain ⟨hslot', -, hstores'⟩ :=
    hlife' [] (.start 27 2) rounds _ rfl rfl (by rw [hstarts]; decide)
  rw [List.nil_append, hticks] at hslot hstores
  rw [List.nil_append, hticks'] at hslot' hstores'
  refine ⟨⟨congrArg GeometricAnimation.pos hslot, ?_⟩, congrArg GeometricAnimation.pos hslot', ?_⟩
  · refine (congrArg (fun stores => readBrg (Cells.applyWrites (fun _ => 0) stores) 31)
      hstores).trans ?_
    rw [hdrawn]
    decide +kernel
  · -- a star has 11 steps
    refine hstores'.trans (if_neg fun htick => ?_)
    exact absurd htick.2 (Nat.not_lt.mpr (Nat.le_add_right 11 _))

/-- A second start just before the interrupt: the frame still advances the
first animation. -/
theorem animation_pace_star :
    let device := Device.start darkStore
    let e : Engine :=
      ⟨{ device with display := { device.display with gLedCounter := fun _ => 1 } }, 0, 0, 0⟩
    let run := Machine.final (animationStep ⟨0, 0, 0⟩) e
    ((run [.start 27 2, .start 28 2, .timer, .frame]).slot 0).pos =
        ((run [.start 27 2, .start 28 2, .timer]).slot 0).pos + 1 ∧
      updateTicks ⟨0, 0, 0⟩ e [.start 27 2, .start 28 2, .timer, .frame] =
        updateTicks ⟨0, 0, 0⟩ e [.timer, .frame] := by
  intro device e run
  obtain ⟨hframe, hticks⟩ := animation_pace ⟨0, 0, 0⟩ e
    [.start 27 2, .start 28 2, .timer, .frame] (by decide +kernel)
  exact ⟨hframe [.start 27 2, .start 28 2, .timer] [] [] rfl List.not_mem_nil
    (by decide +kernel) 0 (by decide +kernel), hticks⟩

/-- A second start between the interrupt and the frame: the counter has
reached 0, the start reloads it, and the frame advances nothing. -/
theorem start_takes_tick :
    let device := Device.start darkStore
    let e : Engine :=
      ⟨{ device with display := { device.display with gLedCounter := fun _ => 1 } }, 0, 0, 0⟩
    let run := Machine.final (animationStep ⟨0, 0, 0⟩) e
    (run [.start 27 2, .timer]).updateAnimation = true ∧
      ((run [.start 27 2, .timer, .start 28 2]).slot 0).pos = 0 ∧
      ((run [.start 27 2, .timer, .start 28 2, .frame]).slot 0).pos = 0 ∧
      updateTicks ⟨0, 0, 0⟩ e [.start 27 2, .timer, .start 28 2, .frame] = 0 ∧
      updateTicks ⟨0, 0, 0⟩ e [.timer, .frame] = 1 := by
  decide +kernel

end MidiFighter
