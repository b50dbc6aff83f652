import MidiFighter.Receive

/-!
# Display refresh

The stages of `default_display_run` that read what the host has stored in
`g_midi_note_state`: `info_display_active` paints the colours of the
buttons, `midi_color_state` overrides them by velocity, and
`midi_animation_state` animates them by the velocity of the second row.
The stages after those, the sleep demo and the running geometric
animations, read neither row.

A velocity is a raw byte of a packet that becomes an index into
`ableton_midi_feedback_colors` many refreshes later, and a note number of
the animation channel is used as an index at once. Both are reported as
`TableIndex`es; `indices_inTable` says which packets keep all of them
inside their tables.
-/

namespace MidiFighter

/-! ## Colours by velocity -/

def abletonMidiFeedbackColors : List Rgb :=
  [⟨0, 0, 0⟩, ⟨8, 8, 8⟩, ⟨16, 16, 16⟩, ⟨24, 24, 24⟩, ⟨40, 12, 12⟩, ⟨48, 0, 0⟩, ⟨32, 0, 0⟩,
    ⟨16, 0, 0⟩, ⟨30, 22, 12⟩, ⟨42, 13, 0⟩, ⟨28, 9, 0⟩, ⟨14, 4, 0⟩, ⟨28, 28, 8⟩, ⟨30, 30, 0⟩,
    ⟨20, 20, 0⟩, ⟨10, 10, 0⟩, ⟨20, 38, 11⟩, ⟨13, 42, 0⟩, ⟨9, 28, 0⟩, ⟨4, 14, 0⟩, ⟨11, 40, 11⟩,
    ⟨0, 48, 0⟩, ⟨0, 32, 0⟩, ⟨0, 16, 0⟩, ⟨11, 38, 14⟩, ⟨0, 44, 4⟩, ⟨0, 29, 3⟩, ⟨0, 15, 2⟩,
    ⟨10, 36, 19⟩, ⟨6, 40, 14⟩, ⟨4, 26, 9⟩, ⟨2, 13, 4⟩, ⟨9, 32, 22⟩, ⟨0, 38, 22⟩, ⟨0, 25, 14⟩,
    ⟨0, 12, 7⟩, ⟨9, 24, 32⟩, ⟨0, 23, 36⟩, ⟨0, 15, 24⟩, ⟨0, 7, 12⟩, ⟨10, 19, 36⟩, ⟨0, 19, 39⟩,
    ⟨0, 13, 26⟩, ⟨0, 6, 13⟩, ⟨11, 11, 40⟩, ⟨0, 0, 48⟩, ⟨0, 0, 32⟩, ⟨0, 0, 16⟩, ⟨19, 10, 36⟩,
    ⟨19, 0, 39⟩, ⟨13, 0, 26⟩, ⟨6, 0, 13⟩, ⟨28, 8, 28⟩, ⟨30, 0, 30⟩, ⟨20, 0, 20⟩, ⟨10, 0, 10⟩,
    ⟨36, 10, 19⟩, ⟨42, 0, 13⟩, ⟨28, 0, 8⟩, ⟨14, 0, 4⟩, ⟨44, 3, 0⟩, ⟨28, 9, 0⟩, ⟨22, 15, 0⟩,
    ⟨12, 18, 0⟩, ⟨0, 10, 0⟩, ⟨0, 16, 9⟩, ⟨0, 15, 23⟩, ⟨0, 0, 48⟩, ⟨0, 12, 14⟩, ⟨6, 0, 38⟩,
    ⟨16, 16, 16⟩, ⟨8, 8, 8⟩, ⟨48, 0, 0⟩, ⟨23, 32, 5⟩, ⟨24, 33, 1⟩, ⟨15, 38, 1⟩, ⟨3, 26, 0⟩,
    ⟨0, 38, 20⟩, ⟨0, 25, 38⟩, ⟨0, 7, 44⟩, ⟨15, 0, 42⟩, ⟨19, 0, 40⟩, ⟨33, 4, 23⟩, ⟨12, 6, 0⟩,
    ⟨42, 12, 0⟩, ⟨22, 37, 1⟩, ⟨18, 40, 3⟩, ⟨0, 48, 0⟩, ⟨9, 42, 6⟩, ⟨12, 36, 15⟩, ⟨7, 32, 25⟩,
    ⟨13, 19, 36⟩, ⟨9, 15, 37⟩, ⟨19, 18, 33⟩, ⟨24, 3, 30⟩, ⟨40, 0, 15⟩, ⟨40, 15, 0⟩, ⟨34, 14, 0⟩,
    ⟨20, 36, 0⟩, ⟨24, 17, 1⟩, ⟨10, 8, 0⟩, ⟨3, 14, 3⟩, ⟨2, 15, 10⟩, ⟨3, 3, 7⟩, ⟨4, 6, 16⟩,
    ⟨19, 11, 5⟩, ⟨31, 0, 1⟩, ⟨37, 13, 10⟩, ⟨37, 18, 5⟩, ⟨30, 27, 5⟩, ⟨23, 33, 7⟩, ⟨19, 34, 3⟩,
    ⟨5, 5, 9⟩, ⟨24, 28, 12⟩, ⟨15, 30, 22⟩, ⟨19, 19, 32⟩, ⟨19, 14, 34⟩, ⟨6, 6, 6⟩, ⟨11, 11, 11⟩,
    ⟨21, 24, 24⟩, ⟨30, 0, 0⟩, ⟨9, 0, 0⟩, ⟨4, 39, 0⟩, ⟨1, 12, 0⟩, ⟨29, 28, 0⟩, ⟨11, 9, 0⟩,
    ⟨33, 17, 0⟩, ⟨14, 3, 0⟩]

set_option maxRecDepth 1000 in
theorem abletonMidiFeedbackColors_length : abletonMidiFeedbackColors.length = 128 := rfl

/-- `ableton_midi_feedback_colors[velocity]`. What lies behind the table is
not modelled: an index past its end reads as black. -/
def feedbackColor (velocity : UInt8) : Rgb :=
  abletonMidiFeedbackColors.getD velocity.toNat ⟨0, 0, 0⟩

/-- An index into one of the tables that packets have an influence on. The
machine puts out the indices it uses, so that whether they are in the table is
a property of the outputs. -/
inductive TableIndex where
  | gMidiNoteState (channelIndex index : Nat)
  | gMidiNoteOffCounter (index : Nat)
  | abletonMidiFeedbackColors (index : Nat)
  | defaultColor (index : Nat)
deriving Repr, DecidableEq

def TableIndex.InTable : TableIndex → Prop
  | .gMidiNoteState channelIndex index => channelIndex < 2 ∧ index < 128
  | .gMidiNoteOffCounter index => index < 128
  | .abletonMidiFeedbackColors index => index < MidiFighter.abletonMidiFeedbackColors.length
  | .defaultColor index => index < ColorId.all.length

instance : DecidablePred TableIndex.InTable
  | .gMidiNoteState .. => inferInstanceAs (Decidable (_ ∧ _))
  | .gMidiNoteOffCounter _ => inferInstanceAs (Decidable (_ < _))
  | .abletonMidiFeedbackColors _ => inferInstanceAs (Decidable (_ < _))
  | .defaultColor _ => inferInstanceAs (Decidable (_ < _))

/-! ## Stages of a refresh -/

/-- Write a colour to the LED buffer, whose order is blue, red, green. -/
def writeBrg (buffer : Nat → UInt8) (key : Nat) (c : Rgb) : Nat → UInt8 :=
  Cells.applyWrites buffer [(3 * key, c.b), (3 * key + 1, c.r), (3 * key + 2, c.g)]

def readBrg (buffer : Nat → UInt8) (key : Nat) : Rgb :=
  ⟨buffer (3 * key + 1), buffer (3 * key + 2), buffer (3 * key)⟩

theorem readBrg_writeBrg (buffer : Nat → UInt8) (key key' : Nat) (c : Rgb) :
    readBrg (writeBrg buffer key c) key' = if key' = key then c else readBrg buffer key' := by
  by_cases hkey : key' = key
  · subst hkey
    simp [readBrg, writeBrg]
  · have hother : ∀ j < 3, writeBrg buffer key c (3 * key' + j) = buffer (3 * key' + j) := by
      intro j hj
      refine Cells.applyWrites_of_notMem ?_
      simp only [List.map_cons, List.map_nil, List.mem_cons, List.not_mem_nil, or_false]
      omega
    rw [if_neg hkey, readBrg, hother 1 (by omega), hother 2 (by omega),
      show writeBrg buffer key c (3 * key') = buffer (3 * key') from hother 0 (by omega)]
    rfl

def infoDisplayActive (d : Device) (gKeyState : BitVec 64) (buffer : Nat → UInt8) : Nat → UInt8 :=
  (List.range numButtons).foldl
    (fun buffer i =>
      let src :=
        if gKeyState.getLsbD i then d.store.colors.defaultBankActive
        else d.store.colors.defaultBankInactive
      writeBrg buffer i (readRgb src (bankCell d.gBankSelected.toNat (3 * i))))
    buffer

/-- One turn of the loop of `midi_color_state`, with the table indices it
uses. -/
def midiColorKey (d : Device) (buffer : Nat → UInt8) (i : Nat) :
    (Nat → UInt8) × List TableIndex :=
  let velocity := d.gMidiNoteState (noteCell 0 i)
  if velocity > 0 then
    (writeBrg buffer (i &&& 0x3F) (feedbackColor velocity),
      [.gMidiNoteState 0 i, .abletonMidiFeedbackColors velocity.toNat])
  else (buffer, [.gMidiNoteState 0 i])

/-- The values of `i` in that loop; banks are 0 and 1. -/
def midiColorKeys (d : Device) : List Nat :=
  List.range' (numButtons * d.gBankSelected.toNat) numButtons

def midiColorState (d : Device) (buffer : Nat → UInt8) : (Nat → UInt8) × List TableIndex :=
  (Machine.final (midiColorKey d) buffer (midiColorKeys d),
    Machine.outputs (midiColorKey d) buffer (midiColorKeys d))

/-- `(ptr[j] * level) >> shift` for the three bytes of a button. -/
def scaleButton (buffer : Nat → UInt8) (key : Nat) (level : UInt8) (shift : Nat) : Nat → UInt8 :=
  let scaled := fun j => UInt8.ofNat (((buffer (3 * key + j)).toNat * level.toNat) >>> shift)
  Cells.applyWrites buffer
    [(3 * key, scaled 0), (3 * key + 1, scaled 1), (3 * key + 2, scaled 2)]

def flashAnimation (d : Device) (flashRate : UInt8) : Bool :=
  d.display.displayFlashCounter &&& ((1 : UInt16) <<< (8 - flashRate.toUInt16)) ≠ 0

def pulseStep (d : Device) (pulseRate : UInt8) : UInt8 :=
  let counter := d.display.displayFlashCounter
  (((if d.midiClockEnabled = false then counter <<< 4 else counter <<< 5)
    >>> (8 - pulseRate.toUInt16)) &&& 0xFF).toUInt8

section

-- `sin(rgb_freq * rgb_step) * 127 + 127`, from the C library
variable (pulseLevel : UInt8 → UInt8)

/-- One turn of the loop of `midi_animation_state`. A geometric animation is
started once and then forgotten. -/
def midiAnimationKey (s : Device × (Nat → UInt8)) (i : Nat) : Device × (Nat → UInt8) :=
  let (d, buffer) := s
  let velocity := d.gMidiNoteState (noteCell 1 i)
  let key := i &&& 0x3F
  if velocity = 0 then s
  else if velocity < 18 then s
  else if velocity < 34 then (d, scaleButton buffer key (velocity - 18) 4)
  else if velocity < 42 then
    if flashAnimation d (velocity - 33) then s else (d, writeBrg buffer key ⟨0, 0, 0⟩)
  else if velocity < 50 then
    (d, scaleButton buffer key (pulseLevel (pulseStep d (velocity - 41))) 8)
  else if velocity < 54 then
    let d := startGeometricAnimation d (UInt8.ofNat key) (velocity - 50)
    ({ d with gMidiNoteState := Function.update d.gMidiNoteState (noteCell 1 i) 0 }, buffer)
  else s

def midiAnimationState (d : Device) (buffer : Nat → UInt8) : Device × (Nat → UInt8) :=
  (List.range' (if d.gBankSelected ≠ 0 then numButtons else 0) numButtons).foldl
    (midiAnimationKey pulseLevel) (d, buffer)

/-! ## Packets and refreshes -/

def noteAccesses (gEeMidiChannel : UInt8) (p : EventPacket) : List TableIndex :=
  if p.cin = 0x9 then
    match noteTarget gEeMidiChannel p with
    | .button keyId => [.gMidiNoteState 0 keyId.toNat, .gMidiNoteOffCounter keyId.toNat]
    | .animation note => [.gMidiNoteState 1 note.toNat]
    | .none => []
  else if p.cin = 0x8 then
    match noteTarget gEeMidiChannel p with
    | .button keyId => [.gMidiNoteOffCounter keyId.toNat]
    | .animation note => [.gMidiNoteState 1 note.toNat]
    | .none => []
  else []

structure Panel where
  link : Link
  gDisplayBuffer : Nat → UInt8

inductive PanelEvent where
  | received (rx : Received)
  /-- A display refresh, with the readings of the clock and the key state. -/
  | refresh (bankTime delayTime : UInt16) (gKeyState : BitVec 64)

def panelStep (s : Panel) : PanelEvent → Panel × List TableIndex
  | .received rx =>
      ({ s with link := (receivePacket s.link rx).1 },
        if s.link.device.inBootloader then []
        else noteAccesses (s.link.device.setting .midiChannel) rx.packet)
  | .refresh bankTime delayTime gKeyState =>
      let d := (serviceBankSelectButtons s.link.device bankTime).1
      let d := updateNoteOffFeedbackDelay d delayTime
      let colored := midiColorState d (infoDisplayActive d gKeyState s.gDisplayBuffer)
      let animated := midiAnimationState pulseLevel d colored.1
      (⟨{ s.link with device := animated.1 }, animated.2⟩, colored.2)

end

/-! ## What the stages keep -/

/-- A real bank is selected and every velocity stored for a button is a
7-bit value. -/
structure VelocitiesOk (d : Device) : Prop where
  bank : d.gBankSelected ≤ 1
  velocity : ∀ i < 128, d.gMidiNoteState (noteCell 0 i) < 128

theorem VelocitiesOk.animation {d : Device} (h : VelocitiesOk d) (note : Nat) (velocity : UInt8) :
    VelocitiesOk
      { d with gMidiNoteState := Function.update d.gMidiNoteState (noteCell 1 note) velocity } := by
  refine ⟨h.bank, fun i hi => ?_⟩
  have hne : noteCell 0 i ≠ noteCell 1 note := by
    simp only [noteCell]
    omega
  show Function.update d.gMidiNoteState (noteCell 1 note) velocity (noteCell 0 i) < 128
  rw [Function.update_of_ne hne]
  exact h.velocity i hi

theorem VelocitiesOk.button {d : Device} (h : VelocitiesOk d) (keyId : Nat) {velocity : UInt8}
    (hv : velocity < 128) (counters : Nat → UInt8) :
    VelocitiesOk
      { d with
        gMidiNoteState := Function.update d.gMidiNoteState (noteCell 0 keyId) velocity
        gMidiNoteOffCounter := counters } := by
  refine ⟨h.bank, fun i hi => ?_⟩
  show Function.update d.gMidiNoteState (noteCell 0 keyId) velocity (noteCell 0 i) < 128
  by_cases hcell : noteCell 0 i = noteCell 0 keyId
  · rw [hcell, Function.update_self]
    exact hv
  · rw [Function.update_of_ne hcell]
    exact h.velocity i hi

theorem VelocitiesOk.of_eq {d d' : Device} (h : VelocitiesOk d) (hbank : d'.gBankSelected ≤ 1)
    (hnotes : d'.gMidiNoteState = d.gMidiNoteState) : VelocitiesOk d' :=
  ⟨hbank, fun i hi => by rw [hnotes]; exact h.velocity i hi⟩

theorem startGeometricAnimation_velocitiesOk {d : Device} (h : VelocitiesOk d)
    (buttonId animationId : UInt8) :
    VelocitiesOk (startGeometricAnimation d buttonId animationId) := by
  rw [startGeometricAnimation_eq]
  exact h.of_eq h.bank rfl

theorem changeBank_velocitiesOk {d : Device} (h : VelocitiesOk d) {thisBank : UInt8}
    (hbank : thisBank ≤ 1) : VelocitiesOk (changeBank d thisBank) := by
  rw [changeBank_eq]
  exact h.of_eq hbank rfl

theorem serviceBankSelectButtons_velocitiesOk {d : Device} (h : VelocitiesOk d) (now : UInt16) :
    VelocitiesOk (serviceBankSelectButtons d now).1 := by
  rcases serviceBankSelectButtons_cases d now with hserve | ⟨thisBank, hbank, -, hserve⟩
  · rw [hserve]
    exact h
  · rw [hserve]
    exact changeBank_velocitiesOk h hbank

theorem updateNoteOffFeedbackDelay_velocitiesOk {d : Device} (h : VelocitiesOk d) (now : UInt16) :
    VelocitiesOk (updateNoteOffFeedbackDelay d now) := by
  unfold updateNoteOffFeedbackDelay
  dsimp only
  generalize List.range (numBanks * numButtons) = thisKeys
  induction thisKeys generalizing d with
  | nil => exact h
  | cons thisKey thisKeys ih =>
      rw [List.foldl_cons]
      refine ih ?_
      split_ifs
      · exact h.button thisKey (by decide) _
      · exact h
      · exact h

theorem midiAnimationKey_velocitiesOk (pulseLevel : UInt8 → UInt8) {s : Device × (Nat → UInt8)}
    (h : VelocitiesOk s.1) (i : Nat) : VelocitiesOk (midiAnimationKey pulseLevel s i).1 := by
  obtain ⟨d, buffer⟩ := s
  unfold midiAnimationKey
  dsimp only
  split_ifs
  iterate 6 exact h
  · exact (startGeometricAnimation_velocitiesOk h _ _).animation i 0
  · exact h

theorem midiAnimationState_velocitiesOk (pulseLevel : UInt8 → UInt8) {d : Device}
    (h : VelocitiesOk d) (buffer : Nat → UInt8) :
    VelocitiesOk (midiAnimationState pulseLevel d buffer).1 := by
  unfold midiAnimationState
  refine List.foldlRecOn (motive := fun s : Device × (Nat → UInt8) => VelocitiesOk s.1) _ _ h ?_
  exact fun s hs i _ => midiAnimationKey_velocitiesOk pulseLevel hs i

/-! ## Index safety -/

/-- Where a note message reaches the tables its bytes are 7-bit: the note
number of the animation channel and the velocity for a button. -/
def SevenBitNote (gEeMidiChannel : UInt8) (p : EventPacket) : Prop :=
  p.cin = 0x9 ∨ p.cin = 0x8 →
    match noteTarget gEeMidiChannel p with
    | .button _ => p.cin = 0x9 → p.data3 < 128
    | .animation note => note < 128
    | .none => True

theorem button_lt {gEeMidiChannel keyId : UInt8} {p : EventPacket}
    (h : noteTarget gEeMidiChannel p = .button keyId) : keyId.toNat < 128 := by
  unfold noteTarget at h
  dsimp only at h
  split_ifs at h with _ hlt _ hlt
  · rw [← NoteTarget.button.inj h]
    exact lt_trans (UInt8.lt_iff_toNat_lt.mp hlt) (by decide)
  · rw [← NoteTarget.button.inj h, UInt8.toNat_add]
    have hlt' : (p.data2 - midiBasenote).toNat < 64 := UInt8.lt_iff_toNat_lt.mp hlt
    have h64 : (64 : UInt8).toNat = 64 := rfl
    omega

theorem noteAccesses_inTable {gEeMidiChannel : UInt8} {p : EventPacket}
    (h : SevenBitNote gEeMidiChannel p) : ∀ ix ∈ noteAccesses gEeMidiChannel p, ix.InTable := by
  unfold SevenBitNote at h
  unfold noteAccesses
  cases htarget : noteTarget gEeMidiChannel p with
  | button keyId =>
      have hkey := button_lt htarget
      split_ifs
      · simpa [TableIndex.InTable] using hkey
      · simpa [TableIndex.InTable] using hkey
      · simp
  | animation note =>
      rw [htarget] at h
      split_ifs with h9 h8
      · have hnote := UInt8.lt_iff_toNat_lt.mp (h (Or.inl h9))
        simpa [TableIndex.InTable] using hnote
      · have hnote := UInt8.lt_iff_toNat_lt.mp (h (Or.inr h8))
        simpa [TableIndex.InTable] using hnote
      · simp
  | none =>
      split_ifs
      iterate 3 simp

theorem receivePacket_velocitiesOk {l : Link} (h : VelocitiesOk l.device) {rx : Received}
    (hnote : SevenBitNote (l.device.setting .midiChannel) rx.packet) :
    VelocitiesOk (receivePacket l rx).1.device := by
  unfold SevenBitNote at hnote
  refine receivePacket_device h ?_ ?_ ?_ ?_ ?_
  · intro _
    obtain ⟨_, _, _, hclock⟩ := handleRealTime_cases l.device rx.packet
    rw [hclock]
    exact h.of_eq h.bank rfl
  · intro h9
    replace hnote := hnote (Or.inl h9)
    unfold handleNoteOn
    cases htarget : noteTarget (l.device.setting .midiChannel) rx.packet with
    | button keyId =>
        rw [htarget] at hnote
        exact h.button keyId.toNat (hnote h9) _
    | animation note => exact h.animation note.toNat _
    | none => exact h
  · intro _
    unfold handleNoteOff
    cases noteTarget (l.device.setting .midiChannel) rx.packet with
    | button keyId => exact h.of_eq h.bank rfl
    | animation note => exact h.animation note.toNat 0
    | none => exact h
  · intro _
    rcases handleControlChange_cases l.device rx.packet with hcc | ⟨-, thisBank, hbank, hcc⟩
    · rw [hcc]
      exact h
    · rw [hcc]
      exact changeBank_velocitiesOk h hbank
  · intro fn _ _ buffer _
    exact h.of_eq (call_bank fn h.bank buffer) (call_noteTables fn l.device buffer).1

/-- `midi_color_state` stays inside its tables when the velocities are 7-bit
values. -/
theorem midiColorState_inTable {d : Device} (h : VelocitiesOk d) (buffer : Nat → UInt8) :
    ∀ ix ∈ (midiColorState d buffer).2, ix.InTable := by
  intro ix hix
  obtain ⟨pre, i, post, hkeys, hread⟩ := Machine.mem_outputs.mp hix
  have hi : i ∈ midiColorKeys d := by
    rw [hkeys]
    simp
  have hbank : d.gBankSelected.toNat ≤ 1 := UInt8.le_iff_toNat_le.mp h.bank
  have hlt : i < 128 := by
    rw [midiColorKeys, List.mem_range'_1, numButtons] at hi
    omega
  unfold midiColorKey at hread
  dsimp only at hread
  split at hread
  · rcases List.mem_cons.mp hread with rfl | hread
    · exact ⟨by decide, hlt⟩
    · obtain rfl := List.mem_singleton.mp hread
      show _ < abletonMidiFeedbackColors.length
      rw [abletonMidiFeedbackColors_length]
      exact UInt8.lt_iff_toNat_lt.mp (h.velocity i hlt)
  · obtain rfl := List.mem_singleton.mp hread
    exact ⟨by decide, hlt⟩

/-- The colour number that `set_geometric_animation_color_source` computes
from a velocity is one of the palette, whatever is stored. -/
theorem setGeometricAnimationColorSource_inTable {d : Device} {buttonId color : UInt8}
    (h : setGeometricAnimationColorSource d buttonId = .defaultColor color) :
    (TableIndex.defaultColor color.toNat).InTable := by
  have hall : ∀ v : UInt8, ¬(v ≤ 0 ∨ v ≥ 121) →
      (clamp (Int8.ofNat ((v.toNat - 1) / 6) - 1) 0 19).toUInt8.toNat < 20 :=
    forall_byte (p := fun v => ¬(v ≤ 0 ∨ v ≥ 121) →
      (clamp (Int8.ofNat ((v.toNat - 1) / 6) - 1) 0 19).toUInt8.toNat < 20) (by decide +kernel)
  unfold setGeometricAnimationColorSource at h
  dsimp only at h
  split_ifs at h with hrange
  rw [← ColorSource.defaultColor.inj h]
  exact hall _ hrange

section

variable (pulseLevel : UInt8 → UInt8)

/-- The packet of an event has 7-bit note bytes, under the channel that is
set when it arrives. -/
def SevenBitEvent (s : Panel) : PanelEvent → Prop
  | .received rx => SevenBitNote (s.link.device.setting .midiChannel) rx.packet
  | .refresh .. => True

theorem panelStep_velocitiesOk {s : Panel} {e : PanelEvent} (h : VelocitiesOk s.link.device)
    (he : SevenBitEvent s e) : VelocitiesOk (panelStep pulseLevel s e).1.link.device := by
  cases e with
  | received rx => exact receivePacket_velocitiesOk h he
  | refresh bankTime delayTime gKeyState =>
      have hserved := updateNoteOffFeedbackDelay_velocitiesOk
        (serviceBankSelectButtons_velocitiesOk h bankTime) delayTime
      rw [panelStep]
      dsimp only
      generalize updateNoteOffFeedbackDelay _ delayTime = d at hserved
      exact midiAnimationState_velocitiesOk pulseLevel hserved _

theorem panelStep_inTable {s : Panel} {e : PanelEvent} (h : VelocitiesOk s.link.device)
    (he : SevenBitEvent s e) : ∀ ix ∈ (panelStep pulseLevel s e).2, ix.InTable := by
  cases e with
  | received rx =>
      intro ix hix
      rw [panelStep] at hix
      split at hix
      · cases hix
      · exact noteAccesses_inTable he ix hix
  | refresh bankTime delayTime gKeyState =>
      have hserved := updateNoteOffFeedbackDelay_velocitiesOk
        (serviceBankSelectButtons_velocitiesOk h bankTime) delayTime
      rw [panelStep]
      dsimp only
      generalize updateNoteOffFeedbackDelay _ delayTime = d at hserved
      exact midiColorState_inTable hserved _

/-- **Index safety.** In every run of packets and refreshes from power-on
whose note messages have 7-bit bytes where they reach the tables, every
index that the note handlers and `midi_color_state` use lies inside its
table, and so does every colour number that
`set_geometric_animation_color_source` computes in any state of the run. -/
theorem indices_inTable (store : Store) (buffer : Nat → UInt8) (events : List PanelEvent)
    (h : Machine.Along (panelStep pulseLevel) SevenBitEvent
      ⟨⟨Device.start store, .boot⟩, buffer⟩ events) :
    (∀ ix ∈ Machine.outputs (panelStep pulseLevel) ⟨⟨Device.start store, .boot⟩, buffer⟩ events,
        ix.InTable)
      ∧ ∀ pre, pre <+: events → ∀ buttonId color, setGeometricAnimationColorSource
        (Machine.final (panelStep pulseLevel) ⟨⟨Device.start store, .boot⟩, buffer⟩
          pre).link.device buttonId = .defaultColor color →
        (TableIndex.defaultColor color.toNat).InTable := by
  have hstart : VelocitiesOk (Device.start store) :=
    ⟨(by decide : (0 : UInt8) ≤ 1), fun _ _ => (by decide : (0 : UInt8) < 128)⟩
  refine ⟨?_, fun _ _ _ _ => setGeometricAnimationColorSource_inTable⟩
  exact Machine.outputs_safe (fun s : Panel => VelocitiesOk s.link.device) TableIndex.InTable
    (fun _ _ hs he => panelStep_velocitiesOk pulseLevel hs he)
    (fun _ _ hs he => panelStep_inTable pulseLevel hs he) hstart h

end

def darkStore : Store := ⟨fun _ => 0, 0, Setting.factory, ⟨fun _ => 0, fun _ => 0⟩⟩

/-- Button 0 is lit with the largest velocity, which the refresh looks up. -/
theorem indices_inTable_full :
    let indices := Machine.outputs (panelStep id) ⟨⟨Device.start darkStore, .boot⟩, fun _ => 0⟩
      [.received ⟨0, ⟨0x9, 0x92, 36, 127⟩⟩, .refresh 0 0 0]
    .abletonMidiFeedbackColors 127 ∈ indices ∧ ∀ ix ∈ indices, ix.InTable :=
  ⟨by decide +kernel,
    (indices_inTable id darkStore _ [.received ⟨0, ⟨0x9, 0x92, 36, 127⟩⟩, .refresh 0 0 0]
      ⟨fun _ _ => (by decide : (127 : UInt8) < 128), trivial, trivial⟩).1⟩

/-- A note of 200 on the animation channel is stored behind its row, and a
velocity of 200 is looked up behind the colours at the next refresh. -/
theorem indices_not_inTable :
    ¬(∀ ix ∈ Machine.outputs (panelStep id) ⟨⟨Device.start darkStore, .boot⟩, fun _ => 0⟩
        [.received ⟨0, ⟨0x9, 0x93, 200, 1⟩⟩], ix.InTable)
      ∧ ¬∀ ix ∈ Machine.outputs (panelStep id) ⟨⟨Device.start darkStore, .boot⟩, fun _ => 0⟩
        [.received ⟨0, ⟨0x9, 0x92, 36, 200⟩⟩, .refresh 0 0 0], ix.InTable := by
  constructor
  · intro h
    have hstored := h (.gMidiNoteState 1 200) (by decide +kernel)
    exact absurd hstored (by decide)
  · intro h
    have hshown := h (.abletonMidiFeedbackColors 200) (by decide +kernel)
    exact absurd hshown (by decide +kernel)

end MidiFighter
