import MidiFighter.Animations
import MidiFighter.Leds

/-!
# A refresh, end to end

`default_display_run` fills the LED buffer in stages (key colours, note
colours, button animations, the sleep display, geometric animations) and
`led_update_pixels` sends it on the four strands. The buffer holds a button
as blue, red, green, a strand is sent green, red, blue, and each button has
two LEDs.

Each stage has one lemma about the colour a reader of the buffer sees
(`readBrg`). `frame_composition` puts them together with what the strands
are sent.
-/

namespace MidiFighter

/-! ## The refresh -/

namespace Engine

def sleepMinuteCounter (e : Engine) : UInt8 := e.device.display.sleepMinuteCounter

def setSleepMinuteCounter (e : Engine) (minutes : UInt8) : Engine :=
  { e with
    device := { e.device with display := { e.device.display with sleepMinuteCounter := minutes } } }

def countSleepTime (e : Engine) : Engine :=
  if e.halfMsCounter ≥ 2000 then
    let e := { e with halfMsCounter := 0, oneSecondCounter := e.oneSecondCounter + 1 }
    if e.oneSecondCounter ≥ 60 then
      { e.setSleepMinuteCounter (e.sleepMinuteCounter + 1) with oneSecondCounter := 0 }
    else e
  else e

end Engine

/-- What a refresh works on. The ball demo has variables of its own. -/
structure Screen (β : Type*) where
  engine : Engine
  ballDemo : β
  gDisplayBuffer : Nat → UInt8

section

variable {β : Type*} (ballDemoSetup : β → β) (ballDemoRun : Screen β → Screen β)
  (pulseLevel : UInt8 → UInt8) (nullColor : Rgb)

def startSleep (s : Screen β) : Screen β :=
  if s.engine.sleepMinuteCounter = s.engine.device.setting .sleepTime then
    { s with
      ballDemo := ballDemoSetup s.ballDemo
      engine := s.engine.setSleepMinuteCounter (s.engine.sleepMinuteCounter + 1) }
  else s

def wakeUp (gKeyDown : BitVec 64) (s : Screen β) : Screen β :=
  if gKeyDown ≠ 0 then
    { s with engine := { s.engine.setSleepMinuteCounter 0 with oneSecondCounter := 0 } }
  else s

/-- After `SLEEP_TIME` minutes without a key the ball demo is shown until
the next key; a sleep time of 0 turns it off. -/
def sleepAnimation (gKeyDown : BitVec 64) (s : Screen β) : Screen β :=
  if s.engine.device.setting .sleepTime ≠ 0 then
    let s := startSleep ballDemoSetup s
    let s :=
      if s.engine.sleepMinuteCounter > s.engine.device.setting .sleepTime then ballDemoRun s
      else s
    wakeUp gKeyDown s
  else s

def defaultDisplayRun (gKeyState gKeyDown : BitVec 64) (s : Screen β) : Screen β :=
  let buffer := infoDisplayActive s.engine.device gKeyState s.gDisplayBuffer
  let buffer := (midiColorState s.engine.device buffer).1
  let (d, buffer) := midiAnimationState pulseLevel s.engine.device buffer
  let s :=
    { s with
      engine := Engine.countSleepTime { s.engine with device := d }
      gDisplayBuffer := buffer }
  let s := sleepAnimation ballDemoSetup ballDemoRun gKeyDown s
  let (d, stores) := geometricAnimationState nullColor s.engine.device
  { s with
    engine := { s.engine with device := d }
    gDisplayBuffer := Cells.applyWrites s.gDisplayBuffer stores }

/-! ## Painting buttons in a loop -/

section

variable {f : (Nat → UInt8) → Nat → Nat → UInt8} (key : Nat → Nat) (paint : Nat → Option Rgb)
  (hf : ∀ buffer i, f buffer i = (paint i).elim buffer (writeBrg buffer (key i)))

include hf

theorem readBrg_paint (buffer : Nat → UInt8) (i k : Nat) :
    readBrg (f buffer i) k =
      if k = key i then (paint i).getD (readBrg buffer k) else readBrg buffer k := by
  rw [hf]
  cases paint i with
  | none => simp
  | some c => simp [readBrg_writeBrg]

theorem readBrg_foldl_of_ne {k : Nat} : ∀ {is : List Nat} {buffer : Nat → UInt8},
    (∀ i ∈ is, k ≠ key i) → readBrg (is.foldl f buffer) k = readBrg buffer k
  | [], _, _ => rfl
  | i :: is, buffer, h => by
      obtain ⟨hi, his⟩ := List.forall_mem_cons.mp h
      rw [List.foldl_cons, readBrg_foldl_of_ne his, readBrg_paint key paint hf, if_neg hi]

/-- A loop that paints every button at most once. -/
theorem readBrg_foldl {is : List Nat} (hkeys : is.Pairwise fun i j => key i ≠ key j) {i : Nat}
    (hi : i ∈ is) (buffer : Nat → UInt8) :
    readBrg (is.foldl f buffer) (key i) = (paint i).getD (readBrg buffer (key i)) := by
  obtain ⟨pre, post, rfl⟩ := List.append_of_mem hi
  obtain ⟨-, hpost, hpre⟩ := List.pairwise_append.mp hkeys
  have hpre' : ∀ j ∈ pre, key i ≠ key j := fun j hj => (hpre j hj i (List.mem_cons_self ..)).symm
  rw [List.foldl_append, List.foldl_cons,
    readBrg_foldl_of_ne key paint hf (List.pairwise_cons.mp hpost).1,
    readBrg_paint key paint hf, if_pos rfl, readBrg_foldl_of_ne key paint hf hpre']

end

/-! ## The stages -/

def keyColor (d : Device) (gKeyState : BitVec 64) (k : Nat) : Rgb :=
  let src :=
    if gKeyState.getLsbD k then d.store.colors.defaultBankActive
    else d.store.colors.defaultBankInactive
  readRgb src (bankCell d.gBankSelected.toNat (3 * k))

theorem readBrg_infoDisplayActive (d : Device) (gKeyState : BitVec 64) (buffer : Nat → UInt8)
    {k : Nat} (hk : k < numButtons) :
    readBrg (infoDisplayActive d gKeyState buffer) k = keyColor d gKeyState k :=
  readBrg_foldl id (fun i => some (keyColor d gKeyState i)) (fun _ _ => rfl) List.nodup_range
    (List.mem_range.mpr hk) buffer

/-- What one turn of the loop of `midi_color_state` paints. -/
def noteColor (d : Device) (i : Nat) : Option Rgb :=
  let velocity := d.gMidiNoteState (noteCell 0 i)
  if velocity > 0 then some (feedbackColor velocity) else none

theorem midiColorKey_buffer (d : Device) (buffer : Nat → UInt8) (i : Nat) :
    (midiColorKey d buffer i).1 = (noteColor d i).elim buffer (writeBrg buffer (i &&& 0x3F)) := by
  simp only [midiColorKey, noteColor]
  split_ifs <;> rfl

theorem key_eq_mod (i : Nat) : i &&& 0x3F = i % 64 := Nat.and_two_pow_sub_one_eq_mod i 6

theorem midiColorKeys_pairwise (d : Device) :
    (midiColorKeys d).Pairwise fun i j => i &&& 0x3F ≠ j &&& 0x3F := by
  have hsorted : (midiColorKeys d).Pairwise (· < ·) := List.pairwise_lt_range'
  refine hsorted.imp_of_mem fun {i j} hi hj hlt => ?_
  rw [midiColorKeys, List.mem_range'_1, numButtons] at hi hj
  rw [key_eq_mod, key_eq_mod]
  omega

theorem readBrg_midiColorState (d : Device) (buffer : Nat → UInt8) {k : Nat} (hk : k < numButtons) :
    let velocity := d.gMidiNoteState (noteCell 0 (numButtons * d.gBankSelected.toNat + k))
    readBrg (midiColorState d buffer).1 k =
      if velocity > 0 then feedbackColor velocity else readBrg buffer k := by
  intro velocity
  have hmem : numButtons * d.gBankSelected.toNat + k ∈ midiColorKeys d := by
    rw [midiColorKeys, List.mem_range'_1]
    omega
  have hkey : (numButtons * d.gBankSelected.toNat + k) &&& 0x3F = k := by
    rw [key_eq_mod]
    rw [numButtons] at hk ⊢
    omega
  have hread := readBrg_foldl (fun i => i &&& 0x3F) (noteColor d) (midiColorKey_buffer d)
    (midiColorKeys_pairwise d) hmem buffer
  rw [hkey] at hread
  rw [midiColorState, Machine.final_eq_foldl, hread, noteColor]
  split_ifs <;> rfl

theorem midiAnimationKey_eq_self {s : Device × (Nat → UInt8)} {i : Nat}
    (h : ¬(18 ≤ s.1.gMidiNoteState (noteCell 1 i) ∧ s.1.gMidiNoteState (noteCell 1 i) ≤ 53)) :
    midiAnimationKey pulseLevel s i = s := by
  have hbounds : ∀ velocity : UInt8, 53 < velocity → velocity ≠ 0 ∧ ¬velocity < 34 ∧
      ¬velocity < 42 ∧ ¬velocity < 50 ∧ ¬velocity < 54 := forall_byte (by decide +kernel)
  simp only [midiAnimationKey]
  generalize s.1.gMidiNoteState (noteCell 1 i) = velocity at h ⊢
  by_cases hlow : velocity < 18
  · split_ifs <;> rfl
  · have hhigh : 53 < velocity := UInt8.not_le.mp fun hle => h ⟨UInt8.not_lt.mp hlow, hle⟩
    obtain ⟨h0, h34, h42, h50, h54⟩ := hbounds velocity hhigh
    rw [if_neg h0, if_neg hlow, if_neg h34, if_neg h42, if_neg h50, if_neg h54]

theorem midiAnimationState_eq_self {d : Device} (hbank : d.gBankSelected ≤ 1)
    (buffer : Nat → UInt8)
    (h : ∀ k < numButtons,
      let velocity := d.gMidiNoteState (noteCell 1 (numButtons * d.gBankSelected.toNat + k))
      ¬(18 ≤ velocity ∧ velocity ≤ 53)) :
    midiAnimationState pulseLevel d buffer = (d, buffer) := by
  have hstart : ∀ bank : UInt8, bank ≤ 1 →
      (if bank ≠ 0 then numButtons else 0) = numButtons * bank.toNat :=
    forall_byte (by decide +kernel)
  refine List.foldlRecOn (motive := fun s => s = (d, buffer)) _ _ rfl ?_
  rintro _ rfl i hi
  rw [hstart d.gBankSelected hbank, List.mem_range'_1] at hi
  have hvelocity := h (i - numButtons * d.gBankSelected.toNat) (by omega)
  rw [Nat.add_sub_cancel' hi.1] at hvelocity
  exact midiAnimationKey_eq_self pulseLevel hvelocity

theorem geometricAnimationState_stores {d : Device}
    (h : ∀ i, (d.display.geometricAnimation i).type.steps ≤ (d.display.geometricAnimation i).pos) :
    (geometricAnimationState nullColor d).2 = [] := by
  rw [geometricAnimationState, Machine.outputs_sweep _ (List.nodup_finRange 4)]
  refine List.flatMap_eq_nil_iff.mpr fun i _ => ?_
  rw [animateSlot, if_neg (UInt8.not_lt.mpr (h i))]

/-- The sleep animation calls `ball_demo_run`: the start of a sleep period
counts one minute more, which wraps for the longest sleep time. -/
def Engine.ShowsBallDemo (e : Engine) : Prop :=
  let gEeSleepTime := e.device.setting .sleepTime
  let minutes := e.sleepMinuteCounter
  gEeSleepTime ≠ 0 ∧ (if minutes = gEeSleepTime then minutes + 1 else minutes) > gEeSleepTime

instance (e : Engine) : Decidable e.ShowsBallDemo := inferInstanceAs (Decidable (_ ∧ _))

theorem startSleep_frame (s : Screen β) :
    (startSleep ballDemoSetup s).gDisplayBuffer = s.gDisplayBuffer ∧
      (startSleep ballDemoSetup s).engine.slot = s.engine.slot := by
  unfold startSleep
  split_ifs <;> exact ⟨rfl, rfl⟩

theorem wakeUp_frame (gKeyDown : BitVec 64) (s : Screen β) :
    (wakeUp gKeyDown s).gDisplayBuffer = s.gDisplayBuffer ∧
      (wakeUp gKeyDown s).engine.slot = s.engine.slot := by
  unfold wakeUp
  split_ifs <;> exact ⟨rfl, rfl⟩

theorem showsBallDemo_iff (s : Screen β) :
    s.engine.ShowsBallDemo ↔ s.engine.device.setting .sleepTime ≠ 0 ∧
      (startSleep ballDemoSetup s).engine.sleepMinuteCounter >
        (startSleep ballDemoSetup s).engine.device.setting .sleepTime := by
  by_cases hstart : s.engine.sleepMinuteCounter = s.engine.device.setting .sleepTime
  · rw [startSleep, if_pos hstart, Engine.ShowsBallDemo]
    dsimp only
    rw [if_pos hstart]
    rfl
  · rw [startSleep, if_neg hstart, Engine.ShowsBallDemo, if_neg hstart]

theorem sleepAnimation_of_awake {s : Screen β} (h : ¬s.engine.ShowsBallDemo)
    (gKeyDown : BitVec 64) :
    (sleepAnimation ballDemoSetup ballDemoRun gKeyDown s).gDisplayBuffer = s.gDisplayBuffer ∧
      (sleepAnimation ballDemoSetup ballDemoRun gKeyDown s).engine.slot = s.engine.slot := by
  rw [showsBallDemo_iff ballDemoSetup, not_and] at h
  rw [sleepAnimation]
  by_cases hsleep : s.engine.device.setting .sleepTime ≠ 0
  · obtain ⟨hbuffer, hslot⟩ := startSleep_frame ballDemoSetup s
    obtain ⟨hbuffer', hslot'⟩ := wakeUp_frame gKeyDown (startSleep ballDemoSetup s)
    rw [if_pos hsleep]
    dsimp only
    rw [if_neg (h hsleep)]
    exact ⟨hbuffer'.trans hbuffer, hslot'.trans hslot⟩
  · rw [if_neg hsleep]
    exact ⟨rfl, rfl⟩

theorem slot_countSleepTime (e : Engine) : e.countSleepTime.slot = e.slot := by
  unfold Engine.countSleepTime
  dsimp only
  split_ifs <;> rfl

/-- A refresh that does not show the ball demo leaves the buffer to the key
and note colours. -/
theorem readBrg_defaultDisplayRun {s : Screen β} (gKeyState gKeyDown : BitVec 64)
    (hbank : s.engine.device.gBankSelected ≤ 1)
    (hsleep : ¬s.engine.countSleepTime.ShowsBallDemo)
    (hslots : ∀ i, (s.engine.slot i).type.steps ≤ (s.engine.slot i).pos)
    (hanimations : ∀ k < numButtons,
      let velocity := s.engine.device.gMidiNoteState
        (noteCell 1 (numButtons * s.engine.device.gBankSelected.toNat + k))
      ¬(18 ≤ velocity ∧ velocity ≤ 53)) {k : Nat} (hk : k < numButtons) :
    let velocity := s.engine.device.gMidiNoteState
      (noteCell 0 (numButtons * s.engine.device.gBankSelected.toNat + k))
    readBrg (defaultDisplayRun ballDemoSetup ballDemoRun pulseLevel nullColor gKeyState gKeyDown
        s).gDisplayBuffer k =
      if velocity > 0 then feedbackColor velocity
      else keyColor s.engine.device gKeyState k := by
  intro velocity
  let d := s.engine.device
  let buffer := (midiColorState d (infoDisplayActive d gKeyState s.gDisplayBuffer)).1
  have hanimated : midiAnimationState pulseLevel d buffer = (d, buffer) :=
    midiAnimationState_eq_self pulseLevel hbank buffer hanimations
  let awake : Screen β := ⟨s.engine.countSleepTime, s.ballDemo, buffer⟩
  let slept := sleepAnimation ballDemoSetup ballDemoRun gKeyDown awake
  obtain ⟨hbuffer, hslot⟩ : slept.gDisplayBuffer = buffer ∧ slept.engine.slot = s.engine.slot := by
    obtain ⟨hbuffer, hslot⟩ :=
      sleepAnimation_of_awake ballDemoSetup ballDemoRun (s := awake) hsleep gKeyDown
    exact ⟨hbuffer, hslot.trans (slot_countSleepTime s.engine)⟩
  have hstores : (geometricAnimationState nullColor slept.engine.device).2 = [] := by
    refine geometricAnimationState_stores nullColor fun i => ?_
    have hi := hslots i
    rw [← hslot] at hi
    exact hi
  have hrun : (defaultDisplayRun ballDemoSetup ballDemoRun pulseLevel nullColor gKeyState gKeyDown
      s).gDisplayBuffer = buffer := by
    rw [defaultDisplayRun]
    dsimp only
    rw [hanimated]
    exact (congrArg (Cells.applyWrites slept.gDisplayBuffer) hstores).trans hbuffer
  rw [hrun, readBrg_midiColorState d _ hk, readBrg_infoDisplayActive d gKeyState _ hk]

/-! ## What the LEDs are sent -/

/-- The 24 bits of a colour on a strand: green, red, blue. -/
def strandBits (c : Rgb) : List Bool :=
  Bits.lowBits c.g.toBitVec 8 ++ Bits.lowBits c.r.toBitVec 8 ++ Bits.lowBits c.b.toBitVec 8

/-- Both LEDs of a button are sent its colour in the buffer. -/
theorem ledSlice_button (buffer : Nat → UInt8) (k : Fin 64) {led : Nat}
    (hled : led = 2 * (k.val % 16) ∨ led = 2 * (k.val % 16) + 1) :
    ledSlice led (sentOn (strandPin ⟨k.val / 16, by omega⟩) (ledUpdatePixels buffer)) =
      strandBits (readBrg buffer k.val) := by
  have hbutton : 48 * (k.val / 16) + 3 * (led / 2) = 3 * k.val := by omega
  rw [ledSlice_ledUpdatePixels _ (by omega)]
  dsimp only
  rw [hbutton]
  rfl

def shownColor (d : Device) (gKeyState : BitVec 64) (k : Nat) : Option Rgb :=
  let bank := d.gBankSelected.toNat
  let velocity := d.gMidiNoteState (noteCell 0 (numButtons * bank + k))
  if velocity > 0 then abletonMidiFeedbackColors[velocity.toNat]?
  else if gKeyState.getLsbD k then
    some (readRgb d.store.colors.defaultBankActive (bankCell bank (3 * k)))
  else some (readRgb d.store.colors.defaultBankInactive (bankCell bank (3 * k)))

theorem feedbackColor_entry {d : Device} (h : VelocitiesOk d) {k : Nat} (hk : k < numButtons) :
    let velocity := d.gMidiNoteState (noteCell 0 (numButtons * d.gBankSelected.toNat + k))
    abletonMidiFeedbackColors[velocity.toNat]? = some (feedbackColor velocity) := by
  intro velocity
  have hbank : d.gBankSelected.toNat ≤ 1 := UInt8.le_iff_toNat_le.mp h.bank
  have hvelocity : velocity.toNat < abletonMidiFeedbackColors.length := by
    rw [abletonMidiFeedbackColors_length]
    rw [numButtons] at hk
    exact UInt8.lt_iff_toNat_lt.mp (h.velocity _ (by rw [numButtons]; omega))
  rw [feedbackColor, List.getD_eq_getElem?_getD, List.getElem?_eq_getElem hvelocity]
  rfl

theorem shownColor_eq {d : Device} (h : VelocitiesOk d) (gKeyState : BitVec 64) {k : Nat}
    (hk : k < numButtons) :
    let velocity := d.gMidiNoteState (noteCell 0 (numButtons * d.gBankSelected.toNat + k))
    shownColor d gKeyState k =
      some (if velocity > 0 then feedbackColor velocity else keyColor d gKeyState k) := by
  intro velocity
  rw [shownColor, feedbackColor_entry h hk, keyColor]
  split_ifs <;> rfl

/-- A refresh and the sending of the buffer, end to end. Awake, with all
animations over, both LEDs of a button are sent the colour its key and its
notes ask for, in the bit order of the strand. -/
theorem frame_composition (s : Screen β) (gKeyState gKeyDown : BitVec 64)
    (hvelocities : VelocitiesOk s.engine.device)
    (hsleep : ¬s.engine.countSleepTime.ShowsBallDemo)
    (hslots : ∀ i, (s.engine.slot i).type.steps ≤ (s.engine.slot i).pos)
    (hanimations : ∀ k < numButtons,
      let velocity := s.engine.device.gMidiNoteState
        (noteCell 1 (numButtons * s.engine.device.gBankSelected.toNat + k))
      ¬(18 ≤ velocity ∧ velocity ≤ 53)) (k : Fin 64) :
    let sent := ledUpdatePixels (defaultDisplayRun ballDemoSetup ballDemoRun pulseLevel nullColor
      gKeyState gKeyDown s).gDisplayBuffer
    ∃ c, shownColor s.engine.device gKeyState k.val = some c ∧
      ∀ led, led = 2 * (k.val % 16) ∨ led = 2 * (k.val % 16) + 1 →
        ledSlice led (sentOn (strandPin ⟨k.val / 16, by omega⟩) sent) =
          Bits.lowBits c.g.toBitVec 8 ++ Bits.lowBits c.r.toBitVec 8 ++
            Bits.lowBits c.b.toBitVec 8 := by
  intro sent
  refine ⟨_, shownColor_eq hvelocities gKeyState k.isLt, fun led hled => ?_⟩
  rw [ledSlice_button _ k hled, readBrg_defaultDisplayRun ballDemoSetup ballDemoRun pulseLevel
    nullColor gKeyState gKeyDown hvelocities.bank hsleep hslots hanimations k.isLt]
  rfl

/-! ## The colour of a started animation -/

/-- The palette entry that stands for a velocity in 1..120 is never its
feedback colour. -/
theorem paletteColor_ne_feedbackColor {velocity : UInt8} (hpos : 0 < velocity)
    (hlt : velocity < 121) :
    palette.getD (clamp (Int8.ofNat ((velocity.toNat - 1) / 6) - 1) 0 19).toUInt8.toNat nullColor ≠
      feedbackColor velocity := by
  have hbytes : ∀ velocity : UInt8, 0 < velocity → velocity < 121 →
      let color := (clamp (Int8.ofNat ((velocity.toNat - 1) / 6) - 1) 0 19).toUInt8.toNat
      color < palette.length ∧ palette.getD color ⟨0, 0, 0⟩ ≠ feedbackColor velocity :=
    forall_byte (by decide +kernel)
  obtain ⟨hlength, hne⟩ := hbytes velocity hpos hlt
  rw [List.getD_eq_getElem?_getD, List.getElem?_eq_getElem hlength] at hne ⊢
  exact hne

/-- An animation has the colour of its button's feedback for the velocities
121..127 at most, and then only where the table of active colours happens to
hold that colour. -/
theorem animationColor_matches_iff {d : Device} (h : VelocitiesOk d) (buffer : Nat → UInt8)
    {k : UInt8} (hk : k < 64)
    (hon : 0 < d.gMidiNoteState (noteCell 0 (numButtons * d.gBankSelected.toNat + k.toNat))) :
    let velocity := d.gMidiNoteState (noteCell 0 (numButtons * d.gBankSelected.toNat + k.toNat))
    let activeColor :=
      readRgb d.store.colors.defaultBankActive (bankCell d.gBankSelected.toNat (3 * k.toNat))
    colorAt nullColor d (some (setGeometricAnimationColorSource d k)) =
        readBrg (midiColorState d buffer).1 k.toNat ↔
      121 ≤ velocity ∧ abletonMidiFeedbackColors[velocity.toNat]? = some activeColor := by
  intro velocity activeColor
  have hbutton : k.toNat < numButtons := UInt8.lt_iff_toNat_lt.mp hk
  have hshown : readBrg (midiColorState d buffer).1 k.toNat = feedbackColor velocity := by
    rw [readBrg_midiColorState d buffer hbutton]
    exact if_pos hon
  have hentry : abletonMidiFeedbackColors[velocity.toNat]? = some (feedbackColor velocity) :=
    feedbackColor_entry h hbutton
  have hsource : setGeometricAnimationColorSource d k =
      if velocity ≤ 0 ∨ velocity ≥ 121 then .defaultBankActive d.gBankSelected k
      else .defaultColor (clamp (Int8.ofNat ((velocity.toNat - 1) / 6) - 1) 0 19).toUInt8 := by
    rw [setGeometricAnimationColorSource, Nat.add_comm k.toNat]
  have hpos : ¬velocity ≤ 0 := UInt8.not_le.mpr hon
  rw [hshown, hentry, Option.some_inj, hsource]
  by_cases hhigh : velocity ≥ 121
  · rw [if_pos (.inr hhigh)]
    exact ⟨fun heq => ⟨hhigh, heq.symm⟩, fun heq => heq.2.symm⟩
  · rw [if_neg (not_or.mpr ⟨hpos, hhigh⟩)]
    have hne := paletteColor_ne_feedbackColor nullColor hon (UInt8.not_le.mp hhigh)
    exact ⟨fun heq => absurd heq hne, fun heq => absurd heq.1 hhigh⟩

end

/-- A note on button 5 lights LEDs 10 and 11 of the first strand in the
colour of its velocity. -/
theorem frame_composition_note :
    let notes := fun i => if i = 5 then 17 else 0
    let device := { Device.start darkStore with gMidiNoteState := notes }
    let s : Screen Unit := ⟨⟨device, 0, 0, 0⟩, (), fun _ => 0⟩
    let sent := ledUpdatePixels (defaultDisplayRun id id id ⟨0, 0, 0⟩ 0 0 s).gDisplayBuffer
    ledSlice 10 (sentOn .pb6 sent) = strandBits ⟨13, 42, 0⟩ ∧
      ledSlice 11 (sentOn .pb6 sent) = strandBits ⟨13, 42, 0⟩ := by
  intro notes device s sent
  have hvelocities : VelocitiesOk device := by
    refine ⟨by decide, fun i _ => ?_⟩
    simp only [device, notes]
    split_ifs <;> decide
  have hanimations : ∀ k < numButtons,
      let velocity := device.gMidiNoteState
        (noteCell 1 (numButtons * device.gBankSelected.toNat + k))
      ¬(18 ≤ velocity ∧ velocity ≤ 53) := by
    decide +kernel
  obtain ⟨c, hcolor, hleds⟩ := frame_composition id id id ⟨0, 0, 0⟩ s 0 0 hvelocities
    (by decide) (fun _ => UInt8.le_refl _) hanimations 5
  obtain rfl : ⟨13, 42, 0⟩ = c := Option.some.inj hcolor
  exact ⟨hleds 10 (.inl rfl), hleds 11 (.inr rfl)⟩

/-- Velocity 121 on a bank whose active colour is the dim red of that
velocity. -/
theorem animationColor_matches_iff_red :
    let notes := fun i => if i = 5 then 121 else 0
    let red : Nat → UInt8 := fun cell => if cell % 3 = 0 then 9 else 0
    let store := { darkStore with colors := { darkStore.colors with defaultBankActive := red } }
    let device := { Device.start store with gMidiNoteState := notes }
    colorAt ⟨0, 0, 0⟩ device (some (setGeometricAnimationColorSource device 5)) =
      readBrg (midiColorState device fun _ => 0).1 5 := by
  intro notes red store device
  have hvelocities : VelocitiesOk device := by
    refine ⟨by decide, fun i _ => ?_⟩
    simp only [device, notes]
    split_ifs <;> decide
  exact (animationColor_matches_iff ⟨0, 0, 0⟩ hvelocities (fun _ => 0) (k := 5) (by decide)
    (by decide +kernel)).mpr ⟨by decide +kernel, by decide +kernel⟩

/-- A note of velocity 17 on button 5 is shown green; an animation started
there is red. -/
theorem animationColor_green_red :
    let notes := fun i => if i = 5 then 17 else 0
    let device := { Device.start darkStore with gMidiNoteState := notes }
    readBrg (midiColorState device fun _ => 0).1 5 = ⟨13, 42, 0⟩ ∧
      colorAt ⟨0, 0, 0⟩ device (some (setGeometricAnimationColorSource device 5)) = ⟨48, 0, 0⟩ := by
  intro notes device
  exact ⟨readBrg_midiColorState device _ (by decide), by decide +kernel⟩

end MidiFighter
