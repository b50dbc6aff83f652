import MidiFighter.BallGrid
import MidiFighter.Layers

/-!
# The picture of a refresh

`Screen.picture` says what the 64 buttons show after a refresh, for every
state and not only a quiet one. Below everything is the colour of the key or
of the note, changed by the animation velocity of the button (`awakeColor`);
asleep, the ball demo covers that. The four animation slots are layers over
it, drawn in slot order, so the highest slot that lights a button is seen.

The loop of `midi_animation_state` does two things at once: it changes the
colours and it starts the animations that notes have asked for. These do not
disturb each other (`midiAnimationState_eq`), because a start writes
neither the clock nor the velocity of another button.

`readBrg_refresh` says that the display buffer holds the picture. It asks for
slots that can be drawn (`SlotsOk`), which everything that draws preserves.
-/

namespace MidiFighter

/-! ## Button animations -/

def IsTrigger (velocity : UInt8) : Prop := 50 ≤ velocity ∧ velocity < 54

instance : DecidablePred IsTrigger := fun _ => inferInstanceAs (Decidable (_ ∧ _))

section

variable (pulseLevel : UInt8 → UInt8)

/-- The animation a note has asked for starts, and the note is forgotten. -/
def startTrigger (d : Device) (i : Nat) : Device :=
  let velocity := d.gMidiNoteState (noteCell 1 i)
  if IsTrigger velocity then
    let d := startGeometricAnimation d (UInt8.ofNat (i &&& 0x3F)) (velocity - 50)
    { d with gMidiNoteState := Function.update d.gMidiNoteState (noteCell 1 i) 0 }
  else d

/-- The notes of the displayed bank. -/
@[irreducible]
def bankNotes (d : Device) : List Nat :=
  List.range' (if d.gBankSelected ≠ 0 then numButtons else 0) numButtons

def startTriggers (d : Device) : Device := (bankNotes d).foldl startTrigger d

def animateButton (d : Device) (buffer : Nat → UInt8) (i : Nat) : Nat → UInt8 :=
  let velocity := d.gMidiNoteState (noteCell 1 i)
  let key := i &&& 0x3F
  if velocity < 18 then buffer
  else if velocity < 34 then scaleButton buffer key (velocity - 18) 4
  else if velocity < 42 then
    if flashAnimation d (velocity - 33) then buffer else writeBrg buffer key ⟨0, 0, 0⟩
  else if velocity < 50 then
    scaleButton buffer key (pulseLevel (pulseStep d (velocity - 41))) 8
  else buffer

theorem midiAnimationKey_eq (d : Device) (buffer : Nat → UInt8) (i : Nat) :
    midiAnimationKey pulseLevel (d, buffer) i =
      (startTrigger d i, animateButton pulseLevel d buffer i) := by
  have htrigger : ∀ velocity : UInt8, (velocity < 50 → ¬IsTrigger velocity) ∧
      (¬velocity < 50 → (IsTrigger velocity ↔ velocity < 54) ∧
        ¬velocity < 18 ∧ ¬velocity < 34 ∧ ¬velocity < 42) := forall_byte (by decide +kernel)
  simp only [midiAnimationKey, startTrigger, animateButton]
  generalize d.gMidiNoteState (noteCell 1 i) = velocity
  by_cases hzero : velocity = 0
  · subst hzero
    rfl
  rw [if_neg hzero]
  by_cases h50 : velocity < 50
  · rw [if_neg ((htrigger velocity).1 h50), if_pos h50, if_pos h50]
    split_ifs <;> rfl
  · obtain ⟨hstart, h18, h34, h42⟩ := (htrigger velocity).2 h50
    rw [if_neg h18, if_neg h34, if_neg h42, if_neg h50, if_neg h18, if_neg h34, if_neg h42,
      if_neg h50]
    simp only [hstart]
    split_ifs <;> rfl

end

/-! ## Starts -/

/-- Nothing a button's animation reads changes. -/
structure AnimationsKept (d d' : Device) (i : Nat) : Prop where
  velocity : d'.gMidiNoteState (noteCell 1 i) = d.gMidiNoteState (noteCell 1 i)
  counter : d'.display.displayFlashCounter = d.display.displayFlashCounter
  clock : d'.midiClockEnabled = d.midiClockEnabled

theorem startTrigger_kept (d : Device) {i j : Nat} (hne : j ≠ i) :
    AnimationsKept d (startTrigger d i) j := by
  have hcell : noteCell 1 j ≠ noteCell 1 i := by
    simp only [noteCell]
    omega
  unfold startTrigger
  dsimp only
  split_ifs
  · have hclocks := startGeometricAnimation_clocks d (UInt8.ofNat (i &&& 0x3F))
      (d.gMidiNoteState (noteCell 1 i) - 50)
    refine ⟨?_, (Prod.ext_iff.mp hclocks).1, ?_⟩
    · rw [startGeometricAnimation_eq]
      exact Function.update_of_ne hcell ..
    · rw [startGeometricAnimation_eq]
  · exact ⟨rfl, rfl, rfl⟩

theorem animateButton_congr (pulseLevel : UInt8 → UInt8) {d d' : Device} {i : Nat}
    (h : AnimationsKept d d' i) (buffer : Nat → UInt8) :
    animateButton pulseLevel d' buffer i = animateButton pulseLevel d buffer i := by
  have hflash : ∀ rate, flashAnimation d' rate = flashAnimation d rate := fun rate => by
    rw [flashAnimation, h.counter, flashAnimation]
  have hpulse : ∀ rate, pulseStep d' rate = pulseStep d rate := fun rate => by
    rw [pulseStep, h.counter, h.clock, pulseStep]
  simp only [animateButton, h.velocity, hflash, hpulse]

theorem midiAnimation_foldl (pulseLevel : UInt8 → UInt8) : ∀ {is : List Nat} (d : Device)
    (buffer : Nat → UInt8), is.Nodup →
    is.foldl (midiAnimationKey pulseLevel) (d, buffer) =
      (is.foldl startTrigger d, is.foldl (animateButton pulseLevel d) buffer)
  | [], _, _, _ => rfl
  | i :: is, d, buffer, hnodup => by
      obtain ⟨hi, hnodup⟩ := List.nodup_cons.mp hnodup
      rw [List.foldl_cons, midiAnimationKey_eq, midiAnimation_foldl pulseLevel _ _ hnodup,
        List.foldl_cons, List.foldl_cons]
      refine congrArg _ (List.foldl_ext _ _ _ fun buffer j hj => ?_)
      have hne : j ≠ i := fun h => hi (h ▸ hj)
      exact animateButton_congr pulseLevel (startTrigger_kept d hne) buffer

/-- The colours and the starts of `midi_animation_state`, one apart from the
other. -/
theorem midiAnimationState_eq (pulseLevel : UInt8 → UInt8) (d : Device)
    (buffer : Nat → UInt8) :
    midiAnimationState pulseLevel d buffer =
      (startTriggers d, (bankNotes d).foldl (animateButton pulseLevel d) buffer) := by
  rw [startTriggers, bankNotes]
  exact midiAnimation_foldl pulseLevel d buffer List.nodup_range'

/-! ## Loops over buttons -/

section

variable {ι : Type*} {f : (Nat → UInt8) → ι → Nat → UInt8} (key : ι → Nat) (g : ι → Rgb → Rgb)
  (hf : ∀ buffer i k, readBrg (f buffer i) k =
    if k = key i then g i (readBrg buffer k) else readBrg buffer k)

include hf

end

section

variable (nullColor : Rgb)

end

/-! ## Slots that can be drawn -/

def ColorSource.InTables : ColorSource → Prop
  | .defaultBankActive bank button => bank ≤ 1 ∧ button < 64
  | .defaultColor color => color.toNat < palette.length

/-- Every slot is over, or can be drawn in a colour of the tables. -/
structure SlotsOk (d : Device) : Prop where
  bank : d.gBankSelected ≤ 1
  slot : ∀ i, (d.display.geometricAnimation i).type.steps ≤ (d.display.geometricAnimation i).pos ∨
    (d.display.geometricAnimation i).btnId < 64 ∧
      ∃ src, (d.display.geometricAnimation i).colorPtr = some src ∧ src.InTables

theorem SlotsOk.ok {d : Device} (h : SlotsOk d) (i : Fin 4) :
    SlotOk (d.display.geometricAnimation i) := by
  rcases h.slot i with hover | ⟨hbtn, src, hsrc, -⟩
  · exact .inl hover
  · exact .inr ⟨hbtn, by rw [hsrc]; rfl⟩

theorem scanCell_device (s : Scan) (this : Cell) :
    (scanCell s this).1.device = s.device ∨
      ∃ animationId < geometricAnimationTypes,
        (scanCell s this).1.device =
          startGeometricAnimation s.device this.buttonId animationId := by
  have hid : ∀ value : UInt16, (value &&& 0x03).toUInt8 < geometricAnimationTypes := by
    intro value
    have hlt : (value &&& 0x03).toNat < 4 := by
      rw [UInt16.toNat_and]
      exact Nat.and_lt_two_pow _ (by decide : 3 < 2 ^ 2)
    rw [UInt8.lt_iff_toNat_lt, UInt16.toNat_toUInt8]
    exact lt_of_le_of_lt (Nat.mod_le _ _) hlt
  unfold scanCell visitBall collide collideVertically explode
  dsimp only
  split_ifs
  all_goals first | exact .inl rfl | exact .inr ⟨_, hid _, rfl⟩

section

variable (pulseLevel : UInt8 → UInt8) (nullColor : Rgb)

namespace Screen

end Screen

/-! ## The sleep animation -/

/-- Counting minutes is all a start of a sleep and a wake-up do to the
device. -/
def OnlyMinutes (d d' : Device) : Prop :=
  ∃ minutes, d' = { d with display := { d.display with sleepMinuteCounter := minutes } }

theorem OnlyMinutes.trans {d d' d'' : Device} (h : OnlyMinutes d d') (h' : OnlyMinutes d' d'') :
    OnlyMinutes d d'' := by
  obtain ⟨_, rfl⟩ := h
  obtain ⟨_, rfl⟩ := h'
  exact ⟨_, rfl⟩

theorem countSleepTime_onlyMinutes (e : Engine) : OnlyMinutes e.device e.countSleepTime.device := by
  unfold Engine.countSleepTime
  dsimp only
  split_ifs <;> exact ⟨_, rfl⟩

theorem startSleep_onlyMinutes (s : Screen BallDemo) :
    OnlyMinutes s.engine.device (startSleep ballDemoSetup s).engine.device := by
  unfold startSleep
  split_ifs <;> exact ⟨_, rfl⟩

theorem wakeUp_onlyMinutes (gKeyDown : BitVec 64) (s : Screen BallDemo) :
    OnlyMinutes s.engine.device (wakeUp gKeyDown s).engine.device := by
  unfold wakeUp
  split_ifs <;> exact ⟨_, rfl⟩

theorem sleepAnimation_of_shown {s : Screen BallDemo} (h : s.engine.ShowsBallDemo)
    (gKeyDown : BitVec 64) :
    sleepAnimation ballDemoSetup ballDemoRun gKeyDown s =
      wakeUp gKeyDown (ballDemoRun (startSleep ballDemoSetup s)) := by
  obtain ⟨hon, hgt⟩ := (showsBallDemo_iff ballDemoSetup s).mp h
  rw [sleepAnimation, if_pos hon]
  dsimp only
  rw [if_pos hgt]

theorem sleepAnimation_of_hidden {s : Screen BallDemo} (h : ¬s.engine.ShowsBallDemo)
    (gKeyDown : BitVec 64) :
    OnlyMinutes s.engine.device
        (sleepAnimation ballDemoSetup ballDemoRun gKeyDown s).engine.device ∧
      (sleepAnimation ballDemoSetup ballDemoRun gKeyDown s).gDisplayBuffer = s.gDisplayBuffer := by
  refine ⟨?_, (sleepAnimation_of_awake ballDemoSetup ballDemoRun h gKeyDown).1⟩
  rw [showsBallDemo_iff ballDemoSetup, not_and] at h
  rw [sleepAnimation]
  by_cases hon : s.engine.device.setting .sleepTime ≠ 0
  · rw [if_pos hon]
    dsimp only
    rw [if_neg (h hon)]
    exact (startSleep_onlyMinutes s).trans (wakeUp_onlyMinutes gKeyDown _)
  · rw [if_neg hon]
    exact ⟨_, rfl⟩

theorem ballDemoRun_device (s : Screen BallDemo) :
    (ballDemoRun s).engine.device = (runBalls s.engine.device s.ballDemo).1.1 := by
  rw [ballDemoRun]

section

variable {s : Screen BallDemo} (hslots : SlotsOk s.engine.device) (gKeyDown : BitVec 64) {k : Nat}
  (hk : k < numButtons)

include hslots hk

end

end

end MidiFighter
