import Mathlib.Data.Fintype.Basic
import MidiFighter.Eeprom
import MidiFighter.Packets

/-!
# The device

The global variables behind the MIDI side of the firmware and the
functions of `midifighter64.c`, `midi.c` and `display.c` that work on
them: bank selection, the note feedback tables, the MIDI clock, and the
start of a geometric animation. The sysex receiver and the key scanner
have variables of their own, which nothing here touches.

- `g_midi_note_state[2][128]` is a cell memory addressed by `128 *
  channel_index + note`, so that a note above 127 is visible as a store
  behind its row.
- `system_time_ms` is incremented by an interrupt. A function that reads it
  takes the value it read as an argument `now`.
- The LED engine (`default_display_run` and the timer interrupt behind it)
  shares only the record `Display` and the note table with this code.
-/

namespace MidiFighter

/-! ## State -/

inductive AnimationType where
  | square
  | circle
  | star
  | triangle
deriving Repr, DecidableEq

/-- What `geometric_animation_color_ptr` points to:
`default_bank_active[bank] + 3 * button` or `default_color[color]`. -/
inductive ColorSource where
  | defaultBankActive (bank button : UInt8)
  | defaultColor (color : UInt8)
deriving Repr, DecidableEq

def geometricAnimationStepsSquare : UInt8 := 8

/-- One entry of the arrays `geometric_animation_*`. -/
structure GeometricAnimation where
  btnId : UInt8
  type : AnimationType
  pos : UInt8
  colorPtr : Option ColorSource
deriving Repr, DecidableEq

/-- The variables shared with the LED engine. The timer interrupt counts in
some of them and the key loop starts animations in others. -/
structure Display where
  gLedCounter : Fin 4 → UInt16
  geometricAnimation : Fin 4 → GeometricAnimation
  assignGeometricAnimationId : Fin 4
  displayFlashCounter : UInt16
  sleepMinuteCounter : UInt8

structure Device where
  store : Store
  gBankSelected : UInt8
  gMidiNoteState : Nat → UInt8
  gMidiNoteOffCounter : Nat → UInt8
  gBankSelectCounter : Fin 2 → UInt16
  midiClockEnabled : Bool
  ticks : UInt8
  display : Display
  /-- `Jump_To_Bootloader` was called, which does not return. -/
  inBootloader : Bool

namespace Device

def setting (d : Device) (f : Setting) : UInt8 := d.store.settings f

/-- The other variables as the static initialisers, `led_setup` and
`midi_setup` leave them. -/
def start (store : Store) : Device where
  store := store
  gBankSelected := 0
  gMidiNoteState := fun _ => 0
  gMidiNoteOffCounter := fun _ => 0
  gBankSelectCounter := fun _ => 0
  midiClockEnabled := false
  ticks := 0
  display :=
    { gLedCounter := fun _ => 0
      geometricAnimation := fun _ => ⟨0, .square, geometricAnimationStepsSquare, none⟩
      assignGeometricAnimationId := 0
      displayFlashCounter := 0
      sleepMinuteCounter := 0 }
  inBootloader := false

end Device

/-! ## Animations -/

def geometricAnimationGLedLimit : UInt16 := 0x70

/-- The entry of `g_led_counter` that paces the geometric animations. -/
def animationLedCounter : Fin 4 := 1

def geometricAnimationGLedIdx : Fin 4 := 3

def ballDemoLedCounter : Fin 4 := 2

/-- The address of `g_midi_note_state[channelIndex][note]`. -/
def noteCell (channelIndex note : Nat) : Nat := 128 * channelIndex + note

def clamp (value low high : Int8) : Int8 :=
  if value < low then low
  else if value > high then high
  else value

/-- The pointer `set_geometric_animation_color_source` stores. -/
def setGeometricAnimationColorSource (d : Device) (buttonId : UInt8) : ColorSource :=
  let velocity :=
    d.gMidiNoteState (noteCell 0 (buttonId.toNat + numButtons * d.gBankSelected.toNat))
  if velocity ≤ 0 ∨ velocity ≥ 121 then .defaultBankActive d.gBankSelected buttonId
  else .defaultColor (clamp (Int8.ofNat ((velocity.toNat - 1) / 6) - 1) 0 19).toUInt8

/-- The body the four `start_geometric_*_animation` share. -/
def startAnimation (type : AnimationType) (d : Device) (buttonId : UInt8) : Device :=
  { d with
    display :=
      { d.display with
        geometricAnimation := Function.update d.display.geometricAnimation
          d.display.assignGeometricAnimationId
          ⟨buttonId, type, 0, some (setGeometricAnimationColorSource d buttonId)⟩
        gLedCounter :=
          Function.update d.display.gLedCounter 3 geometricAnimationGLedLimit } }

def startGeometricSquareAnimation := startAnimation .square
def startGeometricCircleAnimation := startAnimation .circle
def startGeometricStarAnimation := startAnimation .star
def startGeometricTriangleAnimation := startAnimation .triangle

/-- `start_geometric_animation`; an unknown id still takes up a slot. -/
def startGeometricAnimation (d : Device) (buttonId animationId : UInt8) : Device :=
  let d :=
    if d.display.gLedCounter 1 = 0 then
      { d with
        display :=
          { d.display with
            gLedCounter :=
              Function.update d.display.gLedCounter 1 geometricAnimationGLedLimit } }
    else d
  let d :=
    if animationId = 1 then startGeometricCircleAnimation d buttonId
    else if animationId = 0 then startGeometricSquareAnimation d buttonId
    else if animationId = 2 then startGeometricStarAnimation d buttonId
    else if animationId = 3 then startGeometricTriangleAnimation d buttonId
    else d
  { d with
    display :=
      { d.display with
        assignGeometricAnimationId := d.display.assignGeometricAnimationId + 1 } }

theorem startGeometricAnimation_eq (d : Device) (buttonId animationId : UInt8) :
    startGeometricAnimation d buttonId animationId =
      { d with display := (startGeometricAnimation d buttonId animationId).display } := by
  unfold startGeometricAnimation startGeometricCircleAnimation startGeometricSquareAnimation
    startGeometricStarAnimation startGeometricTriangleAnimation startAnimation
  split_ifs <;> rfl

/-- The counters of the display that run on whatever is animated. -/
def Display.clocks (v : Display) : UInt16 × UInt8 := (v.displayFlashCounter, v.sleepMinuteCounter)

theorem startGeometricAnimation_clocks (d : Device) (buttonId animationId : UInt8) :
    (startGeometricAnimation d buttonId animationId).display.clocks = d.display.clocks := by
  unfold startGeometricAnimation startGeometricCircleAnimation startGeometricSquareAnimation
    startGeometricStarAnimation startGeometricTriangleAnimation startAnimation
  split_ifs <;> rfl

/-! ## Banks -/

def bankSelectKeyIds : Fin 2 → UInt8
  | 0 => 28
  | 1 => 63

/-- `this_key` of `change_bank`, on which its animation starts. -/
def bankSelectKeyId (thisBank : UInt8) : UInt8 :=
  if thisBank ≠ 0 then bankSelectKeyIds 1 else bankSelectKeyIds 0

theorem bankSelectKeyId_lt (thisBank : UInt8) : bankSelectKeyId thisBank < 64 := by
  unfold bankSelectKeyId
  split_ifs <;> decide

def mf64BankCc : UInt8 := 3

def gBankSelectCounterLimit : UInt16 := 1000

def changeBank (d : Device) (thisBank : UInt8) : Device :=
  let thisKey := bankSelectKeyId thisBank
  let thisAnimation :=
    if d.setting .animations < geometricAnimationTypes then d.setting .animations else 0
  { startGeometricAnimation { d with gBankSelected := thisBank } thisKey thisAnimation with
    gBankSelectCounter := fun _ => 0 }

theorem bankAnimation_lt (d : Device) :
    (if d.setting .animations < geometricAnimationTypes then d.setting .animations else 0)
      < geometricAnimationTypes := by
  split_ifs with h
  · exact h
  · decide

theorem changeBank_eq (d : Device) (thisBank : UInt8) :
    changeBank d thisBank =
      { d with
        gBankSelected := thisBank
        gBankSelectCounter := fun _ => 0
        display := (changeBank d thisBank).display } := by
  unfold changeBank
  dsimp only
  rw [startGeometricAnimation_eq]

theorem changeBank_clocks (d : Device) (thisBank : UInt8) :
    (changeBank d thisBank).display.clocks = d.display.clocks :=
  startGeometricAnimation_clocks ..

def sendChangeBankNotification (d : Device) (thisBank : UInt8) : List EventPacket :=
  [ccPacket (d.setting .midiChannel) mf64BankCc thisBank]

/-- `key_pressed`: a bank key starts its hold counter. 0 means no hold, so a
press at time 0 is recorded one tick early. -/
def keyPressed (d : Device) (thisKey : UInt8) (now : UInt16) : Device :=
  (List.finRange 2).foldl
    (fun d thisBank =>
      if thisKey = bankSelectKeyIds thisBank then
        { d with
          gBankSelectCounter :=
            Function.update (fun _ => 0) thisBank (if now > 0 then now else 0xFFFF) }
      else d)
    d

def keyReleased (d : Device) (thisKey : UInt8) : Device :=
  (List.finRange 2).foldl
    (fun d thisBank =>
      if thisKey = bankSelectKeyIds thisBank then
        { d with gBankSelectCounter := Function.update d.gBankSelectCounter thisBank 0 }
      else d)
    d

theorem keyPressed_cases (d : Device) (thisKey : UInt8) (now : UInt16) :
    ∃ counters, keyPressed d thisKey now = { d with gBankSelectCounter := counters } := by
  have hbanks : List.finRange 2 = [0, 1] := rfl
  rw [keyPressed, hbanks, List.foldl_cons, List.foldl_cons, List.foldl_nil]
  split_ifs
  all_goals exact ⟨_, rfl⟩

theorem keyReleased_cases (d : Device) (thisKey : UInt8) :
    ∃ counters, keyReleased d thisKey = { d with gBankSelectCounter := counters } := by
  have hbanks : List.finRange 2 = [0, 1] := rfl
  rw [keyReleased, hbanks, List.foldl_cons, List.foldl_cons, List.foldl_nil]
  split_ifs
  all_goals exact ⟨_, rfl⟩

/-- `service_bank_select_buttons`: the first bank whose key has been held long
enough is selected, and the host is told. The time difference wraps at 16
bits. -/
def serviceBankSelectButtons (d : Device) (now : UInt16) : Device × List EventPacket :=
  if d.setting .sideBank = 0 then (d, [])
  else
    let counterLimit := if d.setting .sideBank > 1 then 1 else gBankSelectCounterLimit
    match (List.finRange 2).find? fun thisBank =>
        d.gBankSelectCounter thisBank > 0 ∧ now - d.gBankSelectCounter thisBank ≥ counterLimit with
    | some thisBank =>
        let d := changeBank d (UInt8.ofNat thisBank)
        (d, sendChangeBankNotification d (UInt8.ofNat thisBank))
    | none => (d, [])

theorem serviceBankSelectButtons_cases (d : Device) (now : UInt16) :
    serviceBankSelectButtons d now = (d, [])
      ∨ ∃ thisBank : UInt8, thisBank ≤ 1 ∧ d.setting .sideBank ≠ 0 ∧
        serviceBankSelectButtons d now =
          (changeBank d thisBank, sendChangeBankNotification (changeBank d thisBank) thisBank) := by
  have hbank : ∀ thisBank : Fin 2, UInt8.ofNat thisBank ≤ 1 := by decide
  unfold serviceBankSelectButtons
  split
  · exact Or.inl rfl
  · rename_i hside
    dsimp only
    split
    · rename_i thisBank _
      exact Or.inr ⟨UInt8.ofNat thisBank, hbank thisBank, hside, rfl⟩
    · exact Or.inl rfl

/-! ## Note feedback -/

def noteOffFeedbackDelayLimit : UInt16 := 2

/-- `update_note_off_feedback_delay`: switch off the buttons whose note off
is old enough. -/
def updateNoteOffFeedbackDelay (d : Device) (now : UInt16) : Device :=
  let sysTime7 := now &&& 0x7F
  (List.range (numBanks * numButtons)).foldl
    (fun d thisKey =>
      let noteOffTime := d.gMidiNoteOffCounter thisKey
      if noteOffTime &&& 0x80 ≠ 0 then
        if sysTime7 - (noteOffTime &&& 0x7F).toUInt16 ≥ noteOffFeedbackDelayLimit then
          { d with
            gMidiNoteState := Function.update d.gMidiNoteState (noteCell 0 thisKey) 0
            gMidiNoteOffCounter := Function.update d.gMidiNoteOffCounter thisKey 0 }
        else d
      else d)
    d

theorem updateNoteOffFeedbackDelay_cases (d : Device) (now : UInt16) :
    ∃ noteState noteOffCounter, updateNoteOffFeedbackDelay d now =
      { d with gMidiNoteState := noteState, gMidiNoteOffCounter := noteOffCounter } := by
  unfold updateNoteOffFeedbackDelay
  dsimp only
  generalize List.range (numBanks * numButtons) = thisKeys
  induction thisKeys generalizing d with
  | nil => exact ⟨_, _, rfl⟩
  | cons thisKey thisKeys ih =>
      rw [List.foldl_cons]
      split
      · split
        · obtain ⟨noteState, noteOffCounter, hrest⟩ := ih _
          exact ⟨noteState, noteOffCounter, hrest⟩
        · exact ih d
      · exact ih d

inductive NoteTarget where
  /-- A button; those of bank 2 are 64 to 127. -/
  | button (keyId : UInt8)
  /-- The animation of a note, whatever its number. -/
  | animation (note : UInt8)
  | none
deriving Repr, DecidableEq

/-- The channel and range tests that the NoteOn and the NoteOff case of the
packet switch share. -/
def noteTarget (gEeMidiChannel : UInt8) (inputEvent : EventPacket) : NoteTarget :=
  let channel := inputEvent.data1 &&& 0x0F
  let note := inputEvent.data2
  let keyId := note - midiBasenote
  if channel = gEeMidiChannel then
    if keyId < 64 then .button keyId else .none
  else if channel = (gEeMidiChannel - 1) &&& 0x0F then
    if keyId < 64 then .button (keyId + 64) else .none
  else if channel = (gEeMidiChannel + 1) &&& 0x0F then .animation note
  else .none

def handleNoteOn (d : Device) (inputEvent : EventPacket) : Device :=
  match noteTarget (d.setting .midiChannel) inputEvent with
  | .button keyId =>
      { d with
        gMidiNoteState :=
          Function.update d.gMidiNoteState (noteCell 0 keyId.toNat) inputEvent.data3
        gMidiNoteOffCounter := Function.update d.gMidiNoteOffCounter keyId.toNat 0 }
  | .animation note =>
      { d with
        gMidiNoteState :=
          Function.update d.gMidiNoteState (noteCell 1 note.toNat) inputEvent.data3 }
  | .none => d

/-- The NoteOff case: a button is only marked with the time, an animation
is switched off at once. -/
def handleNoteOff (d : Device) (inputEvent : EventPacket) (now : UInt16) : Device :=
  match noteTarget (d.setting .midiChannel) inputEvent with
  | .button keyId =>
      { d with
        gMidiNoteOffCounter :=
          Function.update d.gMidiNoteOffCounter keyId.toNat ((now &&& 0x7F) ||| 0x80).toUInt8 }
  | .animation note =>
      { d with gMidiNoteState := Function.update d.gMidiNoteState (noteCell 1 note.toNat) 0 }
  | .none => d

def handleControlChange (d : Device) (inputEvent : EventPacket) : Device :=
  if inputEvent.data1 &&& 0x0F = d.setting .midiChannel then
    if inputEvent.data2 = mf64BankCc then
      changeBank d (if inputEvent.data3 > 0 then 1 else 0)
    else d
  else d

theorem handleNoteOn_cases (d : Device) (inputEvent : EventPacket) :
    ∃ noteState counter, handleNoteOn d inputEvent =
      { d with gMidiNoteState := noteState, gMidiNoteOffCounter := counter } := by
  unfold handleNoteOn
  split
  all_goals exact ⟨_, _, rfl⟩

theorem handleNoteOff_cases (d : Device) (inputEvent : EventPacket) (now : UInt16) :
    ∃ noteState counter, handleNoteOff d inputEvent now =
      { d with gMidiNoteState := noteState, gMidiNoteOffCounter := counter } := by
  unfold handleNoteOff
  split
  all_goals exact ⟨_, _, rfl⟩

theorem handleControlChange_cases (d : Device) (inputEvent : EventPacket) :
    handleControlChange d inputEvent = d
      ∨ (inputEvent.data1 &&& 0x0F = d.setting .midiChannel ∧ inputEvent.data2 = mf64BankCc)
        ∧ ∃ thisBank : UInt8, thisBank ≤ 1
          ∧ handleControlChange d inputEvent = changeBank d thisBank := by
  unfold handleControlChange
  split_ifs with hchannel hcc hvalue
  · exact Or.inr ⟨⟨hchannel, hcc⟩, 1, by decide, rfl⟩
  · exact Or.inr ⟨⟨hchannel, hcc⟩, 0, by decide, rfl⟩
  · exact Or.inl rfl
  · exact Or.inl rfl

/-! ## MIDI clock -/

def midiClockEnable (d : Device) (state : Bool) : Device :=
  { d with midiClockEnabled := state }

def midiClock (d : Device) : Device :=
  let d :=
    if d.midiClockEnabled = false then
      midiClockEnable { d with display := { d.display with displayFlashCounter := 0 } } true
    else d
  if d.ticks = 3 then
    { d with
      ticks := 1
      display :=
        { d.display with displayFlashCounter := d.display.displayFlashCounter + 1 } }
  else { d with ticks := d.ticks + 1 }

theorem midiClock_cases (d : Device) : ∃ enabled ticks display, midiClock d =
    { d with midiClockEnabled := enabled, ticks := ticks, display := display } := by
  unfold midiClock midiClockEnable
  dsimp only
  split_ifs
  iterate 4 exact ⟨_, _, _, rfl⟩

def handleRealTime (d : Device) (inputEvent : EventPacket) : Device :=
  if inputEvent.data1 = 0xF8 then midiClock (midiClockEnable d true)
  else if inputEvent.data1 = 0xFA then midiClockEnable d true
  else if inputEvent.data1 = 0xFC then midiClockEnable d false
  else d

theorem handleRealTime_cases (d : Device) (inputEvent : EventPacket) :
    ∃ enabled ticks display, handleRealTime d inputEvent =
      { d with midiClockEnabled := enabled, ticks := ticks, display := display } := by
  unfold handleRealTime
  split_ifs
  · obtain ⟨enabled, ticks, display, hclock⟩ := midiClock_cases (midiClockEnable d true)
    exact ⟨enabled, ticks, display, hclock⟩
  iterate 3 exact ⟨_, _, _, rfl⟩

/-! ## Notes -/

def midiStreamNoteCh (d : Device) (channel pitch : UInt8) (onoff : Bool) : List EventPacket :=
  [notePacket channel pitch onoff (d.setting .midiVelocity)]

/-- `midi_stream_note`: on the channel of the current bank. -/
def midiStreamNote (d : Device) (pitch : UInt8) (onoff : Bool) : List EventPacket :=
  [notePacket (d.setting .midiChannel - d.gBankSelected) pitch onoff
    (d.setting .midiVelocity)]

end MidiFighter
