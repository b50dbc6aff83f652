import MidiFighter.Receive

/-!
# Note feedback

The host lights a button by sending its note back. Buttons of bank 0 are
addressed on `G_EE_MIDI_CHANNEL`, those of bank 1 on the channel below it,
and a note off takes effect only some milliseconds later, in
`update_note_off_feedback_delay`.

Everything about the two feedback tables is derived from three facts about
a single button: which packets address it (`noteTarget_of_addresses` and
its converse), what a note message does to its two cells
(`handleNoteOn_cells`, `handleNoteOff_cells`), and what the delay loop does
to them (`updateNoteOffFeedbackDelay_button`).
-/

namespace MidiFighter

/-! ## Addressing -/

/-- The channel of a bank's buttons, as the note handlers compare it. -/
def bankChannel (gEeMidiChannel : UInt8) (bank : Nat) : UInt8 :=
  if bank = 0 then gEeMidiChannel else (gEeMidiChannel - 1) &&& 0x0F

@[simp] theorem bankChannel_zero (gEeMidiChannel : UInt8) :
    bankChannel gEeMidiChannel 0 = gEeMidiChannel := rfl

@[simp] theorem bankChannel_one (gEeMidiChannel : UInt8) :
    bankChannel gEeMidiChannel 1 = (gEeMidiChannel - 1) &&& 0x0F := rfl

def Addresses (gEeMidiChannel : UInt8) (bank k : Nat) (p : EventPacket) : Prop :=
  p.data1 &&& 0x0F = bankChannel gEeMidiChannel bank
    ∧ p.data2 = midi64KeyToNote (UInt8.ofNat k)

instance (gEeMidiChannel : UInt8) (bank k : Nat) (p : EventPacket) :
    Decidable (Addresses gEeMidiChannel bank k p) :=
  inferInstanceAs (Decidable (_ ∧ _))

def buttonCell (bank k : Nat) : Nat := numButtons * bank + k

theorem keyId_eq_iff {note : UInt8} {k : Nat} :
    note - midiBasenote = UInt8.ofNat k ↔ note = midi64KeyToNote (UInt8.ofNat k) := by
  rw [UInt8.sub_eq_iff_eq_add, midi64KeyToNote, UInt8.add_comm]

theorem ofNat_key_lt {k : Nat} (hk : k < 64) : UInt8.ofNat k < 64 := by
  rw [UInt8.lt_iff_toNat_lt, UInt8.toNat_ofNat']
  exact lt_of_le_of_lt (Nat.mod_le _ _) hk

/-- The channel below is never the channel itself, masked or not. -/
theorem channel_below_ne (gEeMidiChannel : UInt8) :
    (gEeMidiChannel - 1) &&& 0x0F ≠ gEeMidiChannel :=
  forall_byte (p := fun b => (b - 1) &&& 0x0F ≠ b) (by decide +kernel) gEeMidiChannel

section

variable {gEeMidiChannel : UInt8} {p : EventPacket}

/-- A message with the channel of a bank and the note of a key reaches the
button of that key in that bank. -/
theorem noteTarget_of_addresses {bank k : Nat} (hbank : bank < 2) (hk : k < 64)
    (h : Addresses gEeMidiChannel bank k p) :
    noteTarget gEeMidiChannel p = .button (UInt8.ofNat (buttonCell bank k)) := by
  obtain ⟨hchannel, hnote⟩ := h
  have hkey := keyId_eq_iff.mpr hnote
  have hlt := ofNat_key_lt hk
  unfold noteTarget
  dsimp only
  rw [hkey, hchannel]
  obtain rfl | rfl : bank = 0 ∨ bank = 1 := by omega
  · rw [bankChannel_zero, if_pos rfl, if_pos hlt, buttonCell, Nat.mul_zero, Nat.zero_add]
  · rw [bankChannel_one, if_neg (channel_below_ne _), if_pos rfl, if_pos hlt, buttonCell,
      UInt8.add_comm, UInt8.ofNat_add]
    rfl

theorem addresses_of_noteTarget {keyId : UInt8} (h : noteTarget gEeMidiChannel p = .button keyId) :
    ∃ bank k, bank < 2 ∧ k < 64 ∧ Addresses gEeMidiChannel bank k p
      ∧ keyId = UInt8.ofNat (buttonCell bank k) := by
  have hkey : ∀ note : UInt8, note = midi64KeyToNote (UInt8.ofNat (note - midiBasenote).toNat) :=
    fun note => keyId_eq_iff.mp (UInt8.ofNat_toNat).symm
  unfold noteTarget at h
  dsimp only at h
  split_ifs at h with h0 hlt h1 hlt
  · refine ⟨0, (p.data2 - midiBasenote).toNat, by decide, UInt8.lt_iff_toNat_lt.mp hlt,
      ⟨h0, hkey _⟩, ?_⟩
    rw [← NoteTarget.button.inj h, buttonCell, Nat.mul_zero, Nat.zero_add, UInt8.ofNat_toNat]
  · refine ⟨1, (p.data2 - midiBasenote).toNat, by decide, UInt8.lt_iff_toNat_lt.mp hlt,
      ⟨h1, hkey _⟩, ?_⟩
    rw [← NoteTarget.button.inj h, buttonCell, UInt8.ofNat_add, UInt8.ofNat_toNat, UInt8.add_comm]
    rfl

end

theorem buttonCell_lt {bank k : Nat} (hbank : bank < 2) (hk : k < 64) :
    buttonCell bank k < 128 := by
  simp only [buttonCell, numButtons]
  omega

theorem toNat_buttonCell {bank k : Nat} (hbank : bank < 2) (hk : k < 64) :
    (UInt8.ofNat (buttonCell bank k)).toNat = buttonCell bank k :=
  UInt8.toNat_ofNat_of_lt' (lt_trans (buttonCell_lt hbank hk) (by decide))

theorem buttonCell_inj {bank bank' k k' : Nat} (hk : k < 64) (hk' : k' < 64)
    (h : buttonCell bank k = buttonCell bank' k') : bank = bank' ∧ k = k' := by
  simp only [buttonCell, numButtons] at h
  omega

/-! ## Echo -/

/-- The note on of key `k` in `bank`, sent under `settings` and received
under the same settings with any tables, sets the button of that key in
that bank and clears its pending note off, and changes nothing else in the
tables. -/
def EchoAgrees (settings : Setting → UInt8) (bank k : Nat) : Prop :=
  ∀ (d : Device) (l : Link) (now : UInt16), d.store.settings = settings →
    d.gBankSelected = UInt8.ofNat bank → l.device.store.settings = settings →
    ∀ p ∈ midiStreamNote d (midi64KeyToNote (UInt8.ofNat k)) true,
      (packetSwitch l p now).1.device.gMidiNoteState
          = Function.update l.device.gMidiNoteState (noteCell 0 (buttonCell bank k)) p.data3
        ∧ (packetSwitch l p now).1.device.gMidiNoteOffCounter
          = Function.update l.device.gMidiNoteOffCounter (buttonCell bank k) 0

theorem packetSwitch_noteOn (l : Link) {p : EventPacket} (h : p.cin = 0x9) (now : UInt16) :
    packetSwitch l p now = ({ l with device := handleNoteOn l.device p }, []) := by
  simp [packetSwitch, h]

theorem packetSwitch_noteOff (l : Link) {p : EventPacket} (h : p.cin = 0x8) (now : UInt16) :
    packetSwitch l p now = ({ l with device := handleNoteOff l.device p now }, []) := by
  simp [packetSwitch, h]

section

variable {d : Device} {p : EventPacket}

theorem handleNoteOn_none (h : noteTarget (d.setting .midiChannel) p = .none) :
    handleNoteOn d p = d := by
  rw [handleNoteOn, h]

theorem handleNoteOn_button {keyId : UInt8}
    (h : noteTarget (d.setting .midiChannel) p = .button keyId) :
    handleNoteOn d p =
      { d with
        gMidiNoteState := Function.update d.gMidiNoteState (noteCell 0 keyId.toNat) p.data3
        gMidiNoteOffCounter := Function.update d.gMidiNoteOffCounter keyId.toNat 0 } := by
  rw [handleNoteOn, h]

theorem handleNoteOff_button {keyId : UInt8}
    (h : noteTarget (d.setting .midiChannel) p = .button keyId) (now : UInt16) :
    handleNoteOff d p now =
      { d with
        gMidiNoteOffCounter :=
          Function.update d.gMidiNoteOffCounter keyId.toNat
            ((now &&& 0x7F) ||| 0x80).toUInt8 } := by
  rw [handleNoteOff, h]

end

theorem notePacket_note {k : Nat} (hk : k < 64) (channel : UInt8) (onoff : Bool)
    (velocity : UInt8) :
    (notePacket channel (midi64KeyToNote (UInt8.ofNat k)) onoff velocity).data2
      = midi64KeyToNote (UInt8.ofNat k) := by
  have hmask : ∀ n : Fin 64, midi64KeyToNote (UInt8.ofNat n) &&& 0x7F
      = midi64KeyToNote (UInt8.ofNat n) := by decide
  exact hmask ⟨k, hk⟩

/-- What an echoed note on of key `k` addresses: in bank 0 nothing at all
when the setting is not a channel number. -/
theorem noteTarget_echo {bank k : Nat} (hbank : bank < 2) (hk : k < 64)
    (gEeMidiChannel velocity : UInt8) :
    noteTarget gEeMidiChannel (notePacket (gEeMidiChannel - UInt8.ofNat bank)
        (midi64KeyToNote (UInt8.ofNat k)) true velocity) =
      if bank = 1 ∨ gEeMidiChannel < 16 then .button (UInt8.ofNat (buttonCell bank k))
      else .none := by
  have hchannel := notePacket_channel (gEeMidiChannel - UInt8.ofNat bank)
    (midi64KeyToNote (UInt8.ofNat k)) true velocity
  have hnote := notePacket_note hk (gEeMidiChannel - UInt8.ofNat bank) true velocity
  generalize notePacket (gEeMidiChannel - UInt8.ofNat bank) (midi64KeyToNote (UInt8.ofNat k)) true
    velocity = p at hchannel hnote
  split
  · rename_i hrange
    refine noteTarget_of_addresses hbank hk ⟨hchannel.trans ?_, hnote⟩
    obtain rfl | rfl : bank = 0 ∨ bank = 1 := by omega
    · have hmask : gEeMidiChannel < 16 → gEeMidiChannel &&& 0x0F = gEeMidiChannel :=
        forall_byte (p := fun b => b < 16 → b &&& 0x0F = b) (by decide +kernel) gEeMidiChannel
      have hsend : gEeMidiChannel - UInt8.ofNat 0 = gEeMidiChannel := UInt8.sub_zero _
      rw [hsend]
      exact hmask (hrange.resolve_left (by decide))
    · rfl
  · rename_i hrange
    obtain ⟨hne, hge⟩ := not_or.mp hrange
    obtain rfl : bank = 0 := by omega
    have hsend : gEeMidiChannel - UInt8.ofNat 0 = gEeMidiChannel := UInt8.sub_zero _
    rw [hsend] at hchannel
    have hmiss : ¬gEeMidiChannel < 16 → gEeMidiChannel &&& 0x0F ≠ gEeMidiChannel
        ∧ gEeMidiChannel &&& 0x0F ≠ (gEeMidiChannel - 1) &&& 0x0F
        ∧ gEeMidiChannel &&& 0x0F ≠ (gEeMidiChannel + 1) &&& 0x0F :=
      forall_byte (p := fun b => ¬b < 16 → b &&& 0x0F ≠ b ∧ b &&& 0x0F ≠ (b - 1) &&& 0x0F
        ∧ b &&& 0x0F ≠ (b + 1) &&& 0x0F) (by decide +kernel) gEeMidiChannel
    obtain ⟨hself, hbelow, habove⟩ := hmiss hge
    unfold noteTarget
    dsimp only
    rw [hchannel, if_neg hself, if_neg hbelow, if_neg habove]

section

variable {bank k : Nat} (hbank : bank < 2) (hk : k < 64) {d : Device} {l : Link}
  (hd : d.gBankSelected = UInt8.ofNat bank) (hl : l.device.store.settings = d.store.settings)
  (now : UInt16) {p : EventPacket}
  (hp : p ∈ midiStreamNote d (midi64KeyToNote (UInt8.ofNat k)) true)

include hbank hk hd hl hp

/-- The packet switch takes an echoed note on as a note on, for the button
`noteTarget_echo` finds. -/
theorem packetSwitch_echo :
    (packetSwitch l p now).1.device = handleNoteOn l.device p
      ∧ noteTarget (l.device.setting .midiChannel) p =
        if bank = 1 ∨ l.device.setting .midiChannel < 16 then
          .button (UInt8.ofNat (buttonCell bank k))
        else .none := by
  obtain rfl := List.mem_singleton.mp hp
  have hchannel : l.device.setting .midiChannel = d.setting .midiChannel :=
    congrFun hl .midiChannel
  have htarget := noteTarget_echo hbank hk (d.setting .midiChannel) (d.setting .midiVelocity)
  rw [packetSwitch_noteOn _ (notePacket_cin ..), ← hchannel]
  rw [← hd, ← hchannel] at htarget
  exact ⟨rfl, htarget⟩

end

/-- Sender and receiver agree exactly when the bank is 1 or the setting is
a channel number. -/
theorem echoAgrees_iff_channel {bank k : Nat} (hbank : bank < 2) (hk : k < 64)
    (settings : Setting → UInt8) :
    EchoAgrees settings bank k ↔ bank = 1 ∨ settings .midiChannel < 16 := by
  constructor
  · intro hecho
    by_contra hrange
    -- a note off that is still pending shows that nothing happens
    let d : Device := Device.start ⟨fun _ => 0, 0, settings, ⟨fun _ => 0, fun _ => 0⟩⟩
    let l : Link := ⟨{ d with gMidiNoteOffCounter := fun _ => 1 }, .boot⟩
    have hmem := List.mem_singleton_self (notePacket (settings .midiChannel - UInt8.ofNat bank)
      (midi64KeyToNote (UInt8.ofNat k)) true (settings .midiVelocity))
    obtain ⟨hswitch, htarget⟩ := packetSwitch_echo hbank hk
      (d := { d with gBankSelected := UInt8.ofNat bank }) (l := l) rfl rfl 0 hmem
    have hcounter := (hecho { d with gBankSelected := UInt8.ofNat bank } l 0 rfl rfl rfl _ hmem).2
    have hnone := htarget.trans (if_neg hrange)
    rw [hswitch, handleNoteOn_none hnone] at hcounter
    have hcell := congrFun hcounter (buttonCell bank k)
    rw [Function.update_self] at hcell
    exact absurd hcell (by decide : (1 : UInt8) ≠ 0)
  · rintro hrange d l now rfl hd hl p hp
    obtain ⟨hswitch, htarget⟩ := packetSwitch_echo hbank hk hd hl now hp
    have hchannel : l.device.setting .midiChannel = d.store.settings .midiChannel :=
      congrFun hl .midiChannel
    rw [hchannel, if_pos hrange, ← hchannel] at htarget
    rw [hswitch, handleNoteOn_button htarget, toNat_buttonCell hbank hk]
    exact ⟨rfl, rfl⟩

/-! ## Pushed channels -/

/-- A sequence of config pushes, each given by its data bytes. -/
def pushConfigs (d : Device) (messages : List (List UInt8)) : Device :=
  Machine.final sysExCmdPushConfig d (messages.map (· ++ [0xF7]))

/-- The channel a push message sets is a channel number: 1 to 16, as the
editor counts. -/
def SetsChannel (data : List UInt8) : Prop :=
  let config := tvTableDecode (fun _ => 0) (data ++ [0xF7])
  1 ≤ config.midiChannel ∧ config.midiChannel ≤ 16

theorem pushConfigs_version {d : Device} (h : d.store.eeprom eeEepromVersion = eepromLayout)
    (messages : List (List UInt8)) :
    (pushConfigs d messages).store.eeprom eeEepromVersion = eepromLayout := by
  refine Machine.final_invariant (fun d : Device => d.store.eeprom eeEepromVersion = eepromLayout)
    (fun d buffer _ _ => ?_) h Machine.along_true
  rw [pushConfig_store]
  exact eepromSetup_version _

theorem pushConfigs_concat (d : Device) (init : List (List UInt8)) (data : List UInt8) :
    pushConfigs d (init ++ [data])
      = (sysExCmdPushConfig (pushConfigs d init) (data ++ [0xF7])).1 := by
  rw [pushConfigs, List.map_append, Machine.final_append]
  rfl

/-- The channel that is set after a sequence of pushes is the one of the
last push. -/
theorem pushConfigs_channel {d : Device} {s : Store} (hd : d.store = eepromFactoryReset s)
    (messages : List (List UInt8)) :
    (pushConfigs d messages).store.settings .midiChannel < 16
      ↔ ∀ data ∈ messages.getLast?, SetsChannel data := by
  have hver : d.store.eeprom eeEepromVersion = eepromLayout := by
    rw [hd, eepromFactoryReset_version]
  rcases List.eq_nil_or_concat' messages with rfl | ⟨init, data, rfl⟩
  · have hfactory : (pushConfigs d []).store.settings .midiChannel = 2 := by
      rw [pushConfigs, List.map_nil, Machine.final_nil, hd, eepromFactoryReset,
        eepromSaveEdits_settings]
      rfl
    rw [hfactory]
    simp
  · have hlast : (pushConfigs d (init ++ [data])).store.settings .midiChannel
        = (tvTableDecode (fun _ => 0) (data ++ [0xF7])).midiChannel - 1 := by
      rw [pushConfigs_concat, pushConfig_settings (pushConfigs_version hver init)]
      rfl
    have hrange : ∀ c : UInt8, c - 1 < 16 ↔ 1 ≤ c ∧ c ≤ 16 :=
      forall_byte (p := fun c => c - 1 < 16 ↔ 1 ≤ c ∧ c ≤ 16) (by decide +kernel)
    rw [List.getLast?_concat, hlast, hrange]
    simp [SetsChannel]

/-- **Send and receive agree on the channel.** From the factory settings,
after any sequence of config pushes, the echo of a key's note on lights the
button of that key and no other, exactly when the key was pressed in bank 1
or the last push set a channel from 1 to 16. -/
theorem echo_agrees_iff (s : Store) (d : Device) (hd : d.store = eepromFactoryReset s)
    (messages : List (List UInt8)) {bank k : Nat} (hbank : bank < 2) (hk : k < 64) :
    EchoAgrees (pushConfigs d messages).store.settings bank k ↔
      bank = 1 ∨ ∀ data ∈ messages.getLast?, SetsChannel data := by
  rw [echoAgrees_iff_channel hbank hk, pushConfigs_channel hd]

/-- Channel 5, key 7 in bank 0. -/
theorem echo_agrees_channel5 :
    let s : Store := ⟨fun _ => 0, 0, fun _ => 0, ⟨fun _ => 0, fun _ => 0⟩⟩
    let d := Device.start (eepromFactoryReset s)
    EchoAgrees (pushConfigs d [[0, 5, 1, 127]]).store.settings 0 7 := by
  intro s d
  refine (echo_agrees_iff s d rfl [[0, 5, 1, 127]] (by decide) (by decide)).mpr (Or.inr ?_)
  simp [SetsChannel, tvTableDecode, TvTable.midiChannel, tvTableSize]

/-- With a pushed channel of 17 the setting is 16: the note on goes out on
channel 0, which the receiver compares with 16. -/
theorem echo_not_agrees_channel17 :
    let s : Store := ⟨fun _ => 0, 0, fun _ => 0, ⟨fun _ => 0, fun _ => 0⟩⟩
    let d := Device.start (eepromFactoryReset s)
    (∀ b ∈ ([0, 17, 1, 127] : List UInt8), b < 128)
      ∧ ¬EchoAgrees (pushConfigs d [[0, 17, 1, 127]]).store.settings 0 7 := by
  intro s d
  refine ⟨by simp, ?_⟩
  rw [echoAgrees_iff_channel (by decide) (by decide), pushConfigs_channel (d := d) (s := s) rfl]
  simp [SetsChannel, tvTableDecode, TvTable.midiChannel, tvTableSize]

/-! ## One button -/

/-- The two cells of a button: its velocity and its note-off counter. -/
def Device.button (d : Device) (cell : Nat) : UInt8 × UInt8 :=
  (d.gMidiNoteState (noteCell 0 cell), d.gMidiNoteOffCounter cell)

/-- What a note off stores in the counter: the low seven bits of the time,
and a flag. -/
def noteOffStamp (now : UInt16) : UInt8 := ((now &&& 0x7F) ||| 0x80).toUInt8

def NoteOffDue (noteOffTime : UInt8) (now : UInt16) : Prop :=
  noteOffTime &&& 0x80 ≠ 0
    ∧ (now &&& 0x7F) - (noteOffTime &&& 0x7F).toUInt16 ≥ noteOffFeedbackDelayLimit

instance (noteOffTime : UInt8) (now : UInt16) : Decidable (NoteOffDue noteOffTime now) :=
  inferInstanceAs (Decidable (_ ∧ _))

def releaseButton (button : UInt8 × UInt8) (now : UInt16) : UInt8 × UInt8 :=
  if NoteOffDue button.2 now then (0, 0) else button

theorem noteCell_ne {cell : Nat} (h : cell < 128) (note : Nat) :
    noteCell 0 cell ≠ noteCell 1 note := by
  simp only [noteCell]
  omega

section

variable {bank k : Nat} (hbank : bank < 2) (hk : k < 64) (d : Device) (p : EventPacket)

include hbank hk

/-- The cells of a button are those of no other button and of no animation. -/
theorem noteTarget_ne_button (h : ¬Addresses (d.setting .midiChannel) bank k p) {keyId : UInt8}
    (hkey : noteTarget (d.setting .midiChannel) p = .button keyId) :
    keyId.toNat ≠ buttonCell bank k := by
  obtain ⟨bank', k', hbank', hk', haddr, rfl⟩ := addresses_of_noteTarget hkey
  rw [toNat_buttonCell hbank' hk']
  intro heq
  obtain ⟨rfl, rfl⟩ := buttonCell_inj hk' hk heq
  exact h haddr

theorem handleNoteOn_cells :
    (handleNoteOn d p).button (buttonCell bank k) =
      if Addresses (d.setting .midiChannel) bank k p then (p.data3, 0)
      else d.button (buttonCell bank k) := by
  split
  · rename_i haddr
    rw [handleNoteOn_button (noteTarget_of_addresses hbank hk haddr), toNat_buttonCell hbank hk]
    simp [Device.button]
  · rename_i haddr
    unfold handleNoteOn
    split
    · rename_i keyId hkey
      have hne := (noteTarget_ne_button hbank hk d p haddr hkey).symm
      simp [Device.button, noteCell, Function.update_of_ne hne]
    · rename_i note _
      have hne := noteCell_ne (buttonCell_lt hbank hk) note.toNat
      simp [Device.button, Function.update_of_ne hne]
    · rfl

theorem handleNoteOff_cells (now : UInt16) :
    (handleNoteOff d p now).button (buttonCell bank k) =
      if Addresses (d.setting .midiChannel) bank k p then
        ((d.button (buttonCell bank k)).1, noteOffStamp now)
      else d.button (buttonCell bank k) := by
  split
  · rename_i haddr
    rw [handleNoteOff_button (noteTarget_of_addresses hbank hk haddr), toNat_buttonCell hbank hk]
    simp [Device.button, noteOffStamp]
  · rename_i haddr
    unfold handleNoteOff
    split
    · rename_i keyId hkey
      have hne := (noteTarget_ne_button hbank hk d p haddr hkey).symm
      simp [Device.button, Function.update_of_ne hne]
    · rename_i note _
      have hne := noteCell_ne (buttonCell_lt hbank hk) note.toNat
      simp [Device.button, Function.update_of_ne hne]
    · rfl

end

/-! ## The delay loop -/

def releaseKey (now : UInt16) (d : Device) (thisKey : Nat) : Device :=
  if NoteOffDue (d.gMidiNoteOffCounter thisKey) now then
    { d with
      gMidiNoteState := Function.update d.gMidiNoteState (noteCell 0 thisKey) 0
      gMidiNoteOffCounter := Function.update d.gMidiNoteOffCounter thisKey 0 }
  else d

theorem updateNoteOffFeedbackDelay_eq (d : Device) (now : UInt16) :
    updateNoteOffFeedbackDelay d now
      = (List.range (numBanks * numButtons)).foldl (releaseKey now) d := by
  refine congrArg (List.foldl · d _) (funext₂ fun d thisKey => ?_)
  unfold releaseKey NoteOffDue
  dsimp only
  by_cases hflag : d.gMidiNoteOffCounter thisKey &&& 0x80 ≠ 0
  · simp only [hflag, if_true, true_and, ne_eq, not_false_eq_true]
  · simp only [hflag, if_false, false_and]

theorem releaseKey_button (now : UInt16) (d : Device) (thisKey cell : Nat) :
    (releaseKey now d thisKey).button cell =
      if cell = thisKey then releaseButton (d.button cell) now else d.button cell := by
  unfold releaseKey releaseButton
  by_cases hcell : cell = thisKey
  · subst hcell
    rw [if_pos rfl]
    split
    · simp [Device.button, *]
    · simp [Device.button, *]
  · rw [if_neg hcell]
    split
    · have hne : noteCell 0 cell ≠ noteCell 0 thisKey := by
        simp only [noteCell]
        omega
      simp [Device.button, Function.update_of_ne hcell, Function.update_of_ne hne]
    · rfl

theorem updateNoteOffFeedbackDelay_button (d : Device) (now : UInt16) {cell : Nat}
    (hcell : cell < 128) :
    (updateNoteOffFeedbackDelay d now).button cell = releaseButton (d.button cell) now := by
  have hloop : ∀ (thisKeys : List Nat) (d : Device), thisKeys.Nodup →
      (thisKeys.foldl (releaseKey now) d).button cell =
        if cell ∈ thisKeys then releaseButton (d.button cell) now else d.button cell := by
    intro thisKeys
    induction thisKeys with
    | nil => intro d _; rfl
    | cons thisKey thisKeys ih =>
        intro d hnodup
        rw [List.nodup_cons] at hnodup
        rw [List.foldl_cons, ih _ hnodup.2, releaseKey_button]
        by_cases hhead : cell = thisKey
        · subst hhead
          rw [if_neg hnodup.1, if_pos rfl, if_pos List.mem_cons_self]
        · simp only [List.mem_cons, hhead, false_or, if_false]
  rw [updateNoteOffFeedbackDelay_eq, hloop _ _ List.nodup_range]
  exact if_pos (List.mem_range.mpr hcell)

/-! ## Events -/

/-- What happens to the tables: a packet is received, a millisecond passes,
the delay loop runs. -/
inductive FeedbackEvent where
  | packet (p : EventPacket)
  | tick
  | update
deriving Repr, DecidableEq

/-- The device with the clock `system_time_ms`. -/
structure Clocked where
  link : Link
  systemTimeMs : UInt16

def feedbackStep (s : Clocked) : FeedbackEvent → Clocked × List EventPacket
  | .packet p =>
      let res := packetSwitch s.link p s.systemTimeMs
      ({ s with link := res.1 }, res.2)
  | .tick => ({ s with systemTimeMs := s.systemTimeMs + 1 }, [])
  | .update =>
      ({ s with
          link :=
            { s.link with device := updateNoteOffFeedbackDelay s.link.device s.systemTimeMs } },
        [])

namespace FeedbackEvent

def IsNote : FeedbackEvent → Prop
  | .packet p => (p.cin = 0x9 ∨ p.cin = 0x8) ∧ p.data2 < 128 ∧ p.data3 < 128
  | _ => True

def Addresses (gEeMidiChannel : UInt8) (bank k : Nat) : FeedbackEvent → Prop
  | .packet p => MidiFighter.Addresses gEeMidiChannel bank k p
  | _ => False

instance : DecidablePred IsNote
  | .packet _ => inferInstanceAs (Decidable (_ ∧ _))
  | .tick => inferInstanceAs (Decidable True)
  | .update => inferInstanceAs (Decidable True)

instance (gEeMidiChannel : UInt8) (bank k : Nat) :
    DecidablePred (FeedbackEvent.Addresses gEeMidiChannel bank k)
  | .packet _ => inferInstanceAs (Decidable (_ ∧ _))
  | .tick => inferInstanceAs (Decidable False)
  | .update => inferInstanceAs (Decidable False)

def packet? : FeedbackEvent → Option EventPacket
  | .packet p => some p
  | _ => none

end FeedbackEvent

def lastAddressed (gEeMidiChannel : UInt8) (bank k : Nat) (events : List FeedbackEvent) :
    Option EventPacket :=
  ((events.filterMap FeedbackEvent.packet?).filter
    fun p => Addresses gEeMidiChannel bank k p).getLast?

theorem lastAddressed_concat (gEeMidiChannel : UInt8) (bank k : Nat) (events : List FeedbackEvent)
    (e : FeedbackEvent) :
    lastAddressed gEeMidiChannel bank k (events ++ [e]) =
      match e with
      | .packet p =>
          if Addresses gEeMidiChannel bank k p then some p
          else lastAddressed gEeMidiChannel bank k events
      | _ => lastAddressed gEeMidiChannel bank k events := by
  unfold lastAddressed
  cases e with
  | packet p =>
      dsimp only
      rw [List.filterMap_append, List.filter_append,
        List.filterMap_cons_some (rfl : FeedbackEvent.packet? (.packet p) = some p),
        List.filterMap_nil]
      split
      · rename_i haddr
        rw [List.filter_singleton, decide_eq_true haddr]
        exact List.getLast?_concat
      · rename_i haddr
        rw [List.filter_singleton, decide_eq_false haddr]
        exact congrArg _ (List.append_nil _)
  | tick =>
      rw [List.filterMap_append, List.filterMap_cons_none rfl, List.filterMap_nil, List.append_nil]
  | update =>
      rw [List.filterMap_append, List.filterMap_cons_none rfl, List.filterMap_nil, List.append_nil]

theorem packet_mem_of_lastAddressed {gEeMidiChannel : UInt8} {bank k : Nat}
    {events : List FeedbackEvent} {p : EventPacket}
    (h : lastAddressed gEeMidiChannel bank k events = some p) : .packet p ∈ events := by
  have hmem := List.mem_of_mem_filter (List.mem_of_getLast? h)
  obtain ⟨e, he, hp⟩ := List.mem_filterMap.mp hmem
  cases e with
  | packet q =>
      obtain rfl := Option.some.inj hp
      exact he
  | tick => cases hp
  | update => cases hp

theorem lastAddressed_of_not_addresses {gEeMidiChannel : UInt8} {bank k : Nat}
    (events : List FeedbackEvent) {e : FeedbackEvent} (he : ¬e.Addresses gEeMidiChannel bank k) :
    lastAddressed gEeMidiChannel bank k (events ++ [e])
      = lastAddressed gEeMidiChannel bank k events := by
  rw [lastAddressed_concat]
  cases e with
  | packet p => exact if_neg he
  | tick => rfl
  | update => rfl

/-- What an event at time `now` does to the two cells of one button. -/
def buttonStep (gEeMidiChannel : UInt8) (bank k : Nat) (now : UInt16) (button : UInt8 × UInt8) :
    FeedbackEvent → UInt8 × UInt8
  | .packet p =>
      if Addresses gEeMidiChannel bank k p then
        if p.cin = 0x9 then (p.data3, 0) else (button.1, noteOffStamp now)
      else button
  | .tick => button
  | .update => releaseButton button now

section

variable {bank k : Nat} (hbank : bank < 2) (hk : k < 64) (s : Clocked)

theorem feedbackStep_store {e : FeedbackEvent} (he : e.IsNote) :
    (feedbackStep s e).1.link.device.store = s.link.device.store := by
  cases e with
  | packet p =>
      rcases he.1 with hon | hoff
      · obtain ⟨_, _, hnote⟩ := handleNoteOn_cases s.link.device p
        rw [feedbackStep, packetSwitch_noteOn _ hon, hnote]
      · obtain ⟨_, _, hnote⟩ := handleNoteOff_cases s.link.device p s.systemTimeMs
        rw [feedbackStep, packetSwitch_noteOff _ hoff, hnote]
  | tick => rfl
  | update =>
      obtain ⟨_, _, hdelay⟩ := updateNoteOffFeedbackDelay_cases s.link.device s.systemTimeMs
      rw [feedbackStep, hdelay]

include hbank hk

/-- Seen from one button, the device is its two cells: every event acts on
them as `buttonStep` does, whatever it does elsewhere. -/
theorem feedbackStep_button {e : FeedbackEvent} (he : e.IsNote) :
    (feedbackStep s e).1.link.device.button (buttonCell bank k) =
      buttonStep (s.link.device.setting .midiChannel) bank k s.systemTimeMs
        (s.link.device.button (buttonCell bank k)) e := by
  cases e with
  | packet p =>
      rw [buttonStep]
      rcases he.1 with hon | hoff
      · rw [feedbackStep, packetSwitch_noteOn _ hon, if_pos hon]
        exact handleNoteOn_cells hbank hk s.link.device p
      · have hne : p.cin ≠ 0x9 := fun hon => absurd (hon.symm.trans hoff) (by decide)
        rw [feedbackStep, packetSwitch_noteOff _ hoff, if_neg hne]
        exact handleNoteOff_cells hbank hk s.link.device p s.systemTimeMs
  | tick => rfl
  | update =>
      rw [feedbackStep, buttonStep]
      exact updateNoteOffFeedbackDelay_button s.link.device s.systemTimeMs
        (buttonCell_lt hbank hk)

end

/-! ## Time -/

theorem low7_eq (now : UInt16) : now &&& 0x7F = UInt16.ofNat (now.toNat % 128) := by
  rw [← UInt16.toNat_inj, UInt16.toNat_and, UInt16.toNat_ofNat']
  have hmask : (0x7F : UInt16).toNat = 2 ^ 7 - 1 := rfl
  rw [hmask, Nat.and_two_pow_sub_one_eq_mod]
  omega

/-- A stamp carries the flag and gives the seven bits of its time back. -/
theorem noteOffStamp_spec (t : UInt16) :
    noteOffStamp t &&& 0x80 ≠ 0 ∧ (noteOffStamp t &&& 0x7F).toUInt16 = t &&& 0x7F := by
  have hall : ∀ n : Fin 128, (UInt16.ofNat n ||| 0x80).toUInt8 &&& 0x80 ≠ 0
      ∧ ((UInt16.ofNat n ||| 0x80).toUInt8 &&& 0x7F).toUInt16 = UInt16.ofNat n := by
    decide +kernel
  have ht := hall ⟨t.toNat % 128, Nat.mod_lt _ (by decide)⟩
  rw [← low7_eq] at ht
  exact ht

/-- The test of the update `n` milliseconds after a note off at `t`. The
difference of the seven-bit times is taken in 16 bits: behind a multiple of
128 it is negative, which is as good as a large delay, and so a note off in
the last millisecond before it is due one millisecond early. -/
theorem noteOffDue_iff (t : UInt16) {n : Nat} (h127 : n ≤ 127) :
    NoteOffDue (noteOffStamp t) (t + UInt16.ofNat n) ↔ 2 ≤ n ∨ (n = 1 ∧ t.toNat % 128 = 127) := by
  obtain ⟨hflag, htime⟩ := noteOffStamp_spec t
  have hlimit : noteOffFeedbackDelayLimit.toNat = 2 := rfl
  have ht := UInt16.toNat_lt t
  rw [NoteOffDue, and_iff_right hflag, htime, low7_eq, low7_eq t, ge_iff_le,
    UInt16.le_iff_toNat_le, hlimit, UInt16.toNat_sub, UInt16.toNat_ofNat', UInt16.toNat_ofNat',
    UInt16.toNat_add, UInt16.toNat_ofNat']
  omega

/-! ## One button along a run -/

theorem releaseButton_zero (v : UInt8) (now : UInt16) : releaseButton (v, 0) now = (v, 0) := by
  have hflag : (0 : UInt8) &&& 0x80 = 0 := by decide
  exact if_neg fun hdue => hdue.1 hflag

theorem releaseButton_cases (button : UInt8 × UInt8) (now : UInt16) :
    releaseButton button now = button ∨ releaseButton button now = (0, 0) := by
  unfold releaseButton
  split
  · exact Or.inr rfl
  · exact Or.inl rfl

section

variable {gEeMidiChannel : UInt8} {bank k : Nat} {now : UInt16} {button : UInt8 × UInt8}
  {e : FeedbackEvent}

theorem buttonStep_lit (hbutton : button.2 = 0) (he : ¬e.Addresses gEeMidiChannel bank k) :
    buttonStep gEeMidiChannel bank k now button e = button := by
  cases e with
  | packet p => exact if_neg he
  | tick => rfl
  | update =>
      obtain ⟨v, counter⟩ := button
      obtain rfl : counter = 0 := hbutton
      exact releaseButton_zero v now

theorem buttonStep_pending {t : UInt16} (hbutton : button.2 = noteOffStamp t ∨ button.1 = 0)
    (he : ¬e.Addresses gEeMidiChannel bank k) :
    (buttonStep gEeMidiChannel bank k now button e).2 = noteOffStamp t
      ∨ (buttonStep gEeMidiChannel bank k now button e).1 = 0 := by
  cases e with
  | packet p =>
      have hsame : buttonStep gEeMidiChannel bank k now button (.packet p) = button := if_neg he
      rw [hsame]
      exact hbutton
  | tick => exact hbutton
  | update =>
      rcases releaseButton_cases button now with hsame | hdone
      · rw [buttonStep, hsame]
        exact hbutton
      · rw [buttonStep, hdone]
        exact Or.inr rfl

theorem buttonStep_off (hbutton : button.1 = 0)
    (he : ∀ p, e = .packet p → Addresses gEeMidiChannel bank k p → p.cin ≠ 0x9) :
    (buttonStep gEeMidiChannel bank k now button e).1 = 0 := by
  cases e with
  | packet p =>
      rw [buttonStep]
      split_ifs with haddr hon
      · exact absurd hon (he p rfl haddr)
      · exact hbutton
      · exact hbutton
  | tick => exact hbutton
  | update =>
      rcases releaseButton_cases button now with hsame | hdone
      · rw [buttonStep, hsame]
        exact hbutton
      · rw [buttonStep, hdone]

end

/-! ## Runs -/

/-- The cells of a button, read against the events so far: the last note on
is shown and nothing is pending, unless a note off came after it. -/
structure Settled (gEeMidiChannel : UInt8) (bank k : Nat) (h : List FeedbackEvent) (s : Clocked) :
    Prop where
  channel : s.link.device.setting .midiChannel = gEeMidiChannel
  noteOn : ∀ p, lastAddressed gEeMidiChannel bank k h = some p → p.cin = 0x9 →
    s.link.device.button (buttonCell bank k) = (p.data3, 0)
  silent : lastAddressed gEeMidiChannel bank k h = none →
    (s.link.device.button (buttonCell bank k)).2 = 0

/-- A note off was received at `t`, `n` milliseconds ago, and it is still
pending or has been carried out. -/
structure Fading (gEeMidiChannel : UInt8) (bank k : Nat) (t : UInt16) (n : Nat) (s : Clocked) :
    Prop where
  channel : s.link.device.setting .midiChannel = gEeMidiChannel
  time : s.systemTimeMs = t + UInt16.ofNat n
  pending : (s.link.device.button (buttonCell bank k)).2 = noteOffStamp t
    ∨ (s.link.device.button (buttonCell bank k)).1 = 0

section

variable {gEeMidiChannel : UInt8} {bank k : Nat} (hbank : bank < 2) (hk : k < 64)

theorem feedbackStep_channel {s : Clocked} {e : FeedbackEvent} (he : e.IsNote)
    (h : s.link.device.setting .midiChannel = gEeMidiChannel) :
    (feedbackStep s e).1.link.device.setting .midiChannel = gEeMidiChannel := by
  rw [Device.setting, feedbackStep_store s he]
  exact h

include hbank hk

theorem feedbackStep_settled {h : List FeedbackEvent} {s : Clocked} {e : FeedbackEvent}
    (hs : Settled gEeMidiChannel bank k h s) (he : e.IsNote) :
    Settled gEeMidiChannel bank k (h ++ [e]) (feedbackStep s e).1 := by
  have hbutton := feedbackStep_button hbank hk s he
  rw [hs.channel] at hbutton
  by_cases haddr : e.Addresses gEeMidiChannel bank k
  · -- the event is the last packet for the button now
    cases e with
    | packet q =>
        have hlast : lastAddressed gEeMidiChannel bank k (h ++ [.packet q]) = some q :=
          (lastAddressed_concat ..).trans (if_pos haddr)
        refine ⟨feedbackStep_channel he hs.channel, fun p hp hon => ?_, fun hnone => ?_⟩
        · rw [hlast] at hp
          obtain rfl := Option.some.inj hp
          rw [hbutton]
          exact (if_pos haddr).trans (if_pos hon)
        · rw [hlast] at hnone
          cases hnone
    | tick => exact haddr.elim
    | update => exact haddr.elim
  · have hlast := lastAddressed_of_not_addresses h haddr
    refine ⟨feedbackStep_channel he hs.channel, fun p hp hon => ?_, fun hnone => ?_⟩
    · rw [hlast] at hp
      have hold := hs.noteOn p hp hon
      rw [hbutton, buttonStep_lit (by rw [hold]) haddr, hold]
    · rw [hlast] at hnone
      have hold := hs.silent hnone
      rw [hbutton, buttonStep_lit hold haddr, hold]

theorem feedbackStep_fading {t : UInt16} {n : Nat} {s : Clocked} {e : FeedbackEvent}
    (hs : Fading gEeMidiChannel bank k t n s) (he : e.IsNote)
    (haddr : ¬e.Addresses gEeMidiChannel bank k) :
    Fading gEeMidiChannel bank k t (n + if e = .tick then 1 else 0) (feedbackStep s e).1 := by
  have hbutton := feedbackStep_button hbank hk s he
  rw [hs.channel] at hbutton
  refine ⟨feedbackStep_channel he hs.channel, ?_, ?_⟩
  · cases e with
    | packet q => exact hs.time
    | tick =>
        rw [if_pos rfl, UInt16.ofNat_add, ← UInt16.add_assoc, ← hs.time]
        rfl
    | update => exact hs.time
  · rw [hbutton]
    exact buttonStep_pending hs.pending haddr

theorem feedbackRun_fading {t : UInt16} : ∀ {events : List FeedbackEvent} {n : Nat} {s : Clocked},
    Fading gEeMidiChannel bank k t n s → (∀ e ∈ events, e.IsNote) →
    (∀ e ∈ events, ¬e.Addresses gEeMidiChannel bank k) →
      Fading gEeMidiChannel bank k t (n + events.count .tick)
        (Machine.final feedbackStep s events)
  | [], _, _, hs, _, _ => hs
  | e :: events, n, s, hs, hnotes, haddr => by
      rw [List.forall_mem_cons] at hnotes haddr
      have hrest := feedbackRun_fading (feedbackStep_fading hbank hk hs hnotes.1 haddr.1)
        hnotes.2 haddr.2
      rw [Nat.add_assoc, Nat.add_comm (if e = .tick then 1 else 0)] at hrest
      rw [List.count_cons, Machine.final_cons]
      simpa using hrest

/-- The first update 2 to 127 milliseconds after a note off finds it done or
carries it out. -/
theorem Fading.update {t : UInt16} {n : Nat} {s : Clocked}
    (hs : Fading gEeMidiChannel bank k t n s) (h2 : 2 ≤ n) (h127 : n ≤ 127) :
    ((feedbackStep s .update).1.link.device.button (buttonCell bank k)).1 = 0 := by
  rw [feedbackStep_button hbank hk s (e := .update) trivial, buttonStep]
  rcases hs.pending with hpending | hoff
  · have hdue := (noteOffDue_iff t h127).mpr (Or.inl h2)
    rw [← hs.time, ← hpending] at hdue
    rw [releaseButton, if_pos hdue]
  · rcases releaseButton_cases (s.link.device.button (buttonCell bank k)) s.systemTimeMs with
      hsame | hdone
    · rw [hsame]
      exact hoff
    · rw [hdone]

theorem feedbackRun_off {events : List FeedbackEvent} {s : Clocked}
    (hchannel : s.link.device.setting .midiChannel = gEeMidiChannel)
    (hoff : (s.link.device.button (buttonCell bank k)).1 = 0)
    (hevents : ∀ e ∈ events, e.IsNote
      ∧ ∀ p, e = .packet p → Addresses gEeMidiChannel bank k p → p.cin ≠ 0x9) :
    ((Machine.final feedbackStep s events).link.device.button (buttonCell bank k)).1 = 0 := by
  refine (Machine.final_invariant
    (fun s : Clocked => s.link.device.setting .midiChannel = gEeMidiChannel
      ∧ (s.link.device.button (buttonCell bank k)).1 = 0)
    (fun s e hs he => ⟨feedbackStep_channel he.1 hs.1, ?_⟩) ⟨hchannel, hoff⟩
    (Machine.along_of_forall_mem hevents)).2
  rw [feedbackStep_button hbank hk s he.1, hs.1]
  exact buttonStep_off hs.2 he.2

end

/-- The velocity of a button after a run from power-on at time `t₀`. -/
def shownVelocity (store : Store) (r : Receiver) (t₀ : UInt16) (bank k : Nat)
    (events : List FeedbackEvent) : UInt8 :=
  (Machine.final feedbackStep ⟨⟨Device.start store, r⟩, t₀⟩ events).link.device.gMidiNoteState
    (noteCell 0 (buttonCell bank k))

theorem feedbackRun_settled {bank k : Nat} (hbank : bank < 2) (hk : k < 64) (store : Store)
    (r : Receiver) (t₀ : UInt16) {events : List FeedbackEvent} (hnotes : ∀ e ∈ events, e.IsNote) :
    Settled (store.settings .midiChannel) bank k events
      (Machine.final feedbackStep ⟨⟨Device.start store, r⟩, t₀⟩ events) := by
  have hstart : Settled (store.settings .midiChannel) bank k [] ⟨⟨Device.start store, r⟩, t₀⟩ :=
    ⟨rfl, fun _ hp => absurd hp (by simp [lastAddressed]), fun _ => rfl⟩
  have hrun := Machine.final_history (Settled (store.settings .midiChannel) bank k)
    (fun _ _ _ hs he => feedbackStep_settled hbank hk hs he) hstart
    (Machine.along_of_forall_mem hnotes)
  exact hrun

section

variable {bank k : Nat} (hbank : bank < 2) (hk : k < 64) (store : Store) (r : Receiver)
  (t₀ : UInt16)

include hbank hk

/-- A note off that is followed by no other message for the button until an
update 2 to 127 ticks later, and by no note on after that. -/
theorem shownVelocity_of_noteOff {pre mid post : List FeedbackEvent} {p : EventPacket}
    (hnotes : ∀ e ∈ pre ++ [FeedbackEvent.packet p] ++ mid ++ [.update] ++ post, e.IsNote)
    (hoff : p.cin = 0x8) (haddr : Addresses (store.settings .midiChannel) bank k p)
    (hmid : ∀ e ∈ mid, ¬e.Addresses (store.settings .midiChannel) bank k)
    (h2 : 2 ≤ mid.count .tick) (h127 : mid.count .tick ≤ 127)
    (hpost : ∀ q, .packet q ∈ post →
      Addresses (store.settings .midiChannel) bank k q → q.cin ≠ 0x9) :
    shownVelocity store r t₀ bank k
      (pre ++ [FeedbackEvent.packet p] ++ mid ++ [.update] ++ post) = 0 := by
  simp only [List.mem_append, or_imp, forall_and] at hnotes
  obtain ⟨⟨⟨⟨hpre, hp⟩, hmidNotes⟩, -⟩, hpostNotes⟩ := hnotes
  have hchannel := (feedbackRun_settled hbank hk store r t₀ hpre).channel
  rw [shownVelocity]
  simp only [Machine.final_append, Machine.final_cons, Machine.final_nil]
  generalize Machine.final feedbackStep ⟨⟨Device.start store, r⟩, t₀⟩ pre = s at hchannel
  have hp' := hp (.packet p) (List.mem_singleton_self _)
  have hfading : Fading (store.settings .midiChannel) bank k s.systemTimeMs 0
      (feedbackStep s (.packet p)).1 := by
    refine ⟨feedbackStep_channel hp' hchannel, (UInt16.add_zero _).symm, Or.inl ?_⟩
    have hne : p.cin ≠ 0x9 := fun hon => absurd (hon.symm.trans hoff) (by decide)
    rw [feedbackStep_button hbank hk s hp', hchannel, buttonStep, if_pos haddr, if_neg hne]
  have hlater := feedbackRun_fading hbank hk hfading hmidNotes hmid
  rw [Nat.zero_add] at hlater
  refine feedbackRun_off hbank hk (feedbackStep_channel (e := .update) trivial hlater.channel)
    (hlater.update hbank hk h2 h127) fun e he => ⟨hpostNotes e he, ?_⟩
  rintro q rfl
  exact hpost q he

/-- An event that is not for the button leaves it, unless it is an update
while a note off is pending. -/
theorem shownVelocity_concat {events : List FeedbackEvent} {e : FeedbackEvent}
    (hnotes : ∀ e' ∈ events ++ [e], e'.IsNote)
    (haddr : ¬e.Addresses (store.settings .midiChannel) bank k)
    (hupdate : ¬(e = .update
      ∧ ∃ p, lastAddressed (store.settings .midiChannel) bank k events = some p ∧ p.cin = 0x8)) :
    shownVelocity store r t₀ bank k (events ++ [e])
      = shownVelocity store r t₀ bank k events := by
  rw [List.forall_mem_append] at hnotes
  have he := hnotes.2 e (List.mem_singleton_self e)
  have hsettled := feedbackRun_settled hbank hk store r t₀ hnotes.1
  have hbutton := feedbackStep_button hbank hk
    (Machine.final feedbackStep ⟨⟨Device.start store, r⟩, t₀⟩ events) he
  rw [hsettled.channel] at hbutton
  rw [shownVelocity, Machine.final_append, Machine.final_cons, Machine.final_nil]
  refine congrArg Prod.fst (hbutton.trans (?_ : _ = Device.button _ _))
  cases e with
  | packet q => exact if_neg haddr
  | tick => rfl
  | update =>
      -- nothing is pending: the last packet for the button was no note off
      refine buttonStep_lit ?_ haddr
      cases hlast : lastAddressed (store.settings .midiChannel) bank k events with
      | none => exact hsettled.silent hlast
      | some p =>
          have hcin := (hnotes.1 _ (packet_mem_of_lastAddressed hlast)).1
          have hon := hcin.resolve_right fun hoff => hupdate ⟨rfl, p, hlast, hoff⟩
          rw [hsettled.noteOn p hlast hon]

end

/-- **The last message wins.** For every key, over every run of note
messages, clock ticks and updates from power-on: after a note on the button
shows its velocity until the next message for it; 2 to 127 milliseconds
after a note off an update has switched the button off, and it stays off
until the next note on for it; and an event changes the button only if it
is a packet for it, or an update when the last packet for it was a note
off. -/
theorem feedback_lastMessageWins (store : Store) (r : Receiver) (t₀ : UInt16) {bank k : Nat}
    (hbank : bank < 2) (hk : k < 64) :
    (∀ events p, (∀ e ∈ events, e.IsNote) →
      lastAddressed (store.settings .midiChannel) bank k events = some p → p.cin = 0x9 →
      shownVelocity store r t₀ bank k events = p.data3)
    ∧ (∀ pre p mid post, (∀ e ∈ pre ++ [.packet p] ++ mid ++ [.update] ++ post, e.IsNote) →
      p.cin = 0x8 → Addresses (store.settings .midiChannel) bank k p →
      (∀ e ∈ mid, ¬e.Addresses (store.settings .midiChannel) bank k) →
      2 ≤ mid.count .tick → mid.count .tick ≤ 127 →
      (∀ q, .packet q ∈ post → Addresses (store.settings .midiChannel) bank k q → q.cin ≠ 0x9) →
      shownVelocity store r t₀ bank k (pre ++ [.packet p] ++ mid ++ [.update] ++ post) = 0)
    ∧ (∀ events e, (∀ e' ∈ events ++ [e], e'.IsNote) →
      shownVelocity store r t₀ bank k (events ++ [e]) ≠ shownVelocity store r t₀ bank k events →
      e.Addresses (store.settings .midiChannel) bank k
        ∨ (e = .update ∧ ∃ p, lastAddressed (store.settings .midiChannel) bank k events = some p
          ∧ p.cin = 0x8)) := by
  refine ⟨fun events p hnotes hp hon => ?_, ?_, fun events e hnotes hchange => ?_⟩
  · have hsettled := feedbackRun_settled hbank hk store r t₀ hnotes
    exact congrArg Prod.fst (hsettled.noteOn p hp hon)
  · intro pre p mid post hnotes hoff haddr hmid h2 h127 hpost
    exact shownVelocity_of_noteOff hbank hk store r t₀ hnotes hoff haddr hmid h2 h127 hpost
  · by_contra hnot
    obtain ⟨haddr, hupdate⟩ := not_or.mp hnot
    exact hchange (shownVelocity_concat hbank hk store r t₀ hnotes haddr hupdate)

/-- A note on for key 5 of bank 0 at time 0xFFFF, its note off two ticks
later (the clock has wrapped), and an update two ticks after that. -/
theorem feedback_lastMessageWins_wrapped :
    let store : Store := ⟨fun _ => 0, 0, Setting.factory, ⟨fun _ => 0, fun _ => 0⟩⟩
    shownVelocity store .boot 0xFFFF 0 5
        ([.packet ⟨0x9, 0x92, 41, 100⟩, .tick, .tick] ++ [.packet ⟨0x8, 0x82, 41, 0⟩]
          ++ [.tick, .tick] ++ [.update] ++ []) = 0 := by
  intro store
  exact (feedback_lastMessageWins store .boot 0xFFFF (by decide : 0 < 2) (by decide : 5 < 64)).2.1
    [.packet ⟨0x9, 0x92, 41, 100⟩, .tick, .tick] ⟨0x8, 0x82, 41, 0⟩ [.tick, .tick] [] (by decide)
    (by decide) (by decide) (by decide) (by decide) (by decide) (by simp)

end MidiFighter
