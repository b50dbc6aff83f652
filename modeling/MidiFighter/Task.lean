import MidiFighter.Combo
import MidiFighter.Receive

/-!
# The main task

`Midifighter_Task` and the boot sequence of `main`: a poll receives the
waiting packets, samples the keys, turns key edges into notes and control
changes, reports combos, and refreshes the display. What is not the
program's own doing is an input of the poll: the packets and key samples,
the readings of the millisecond clock, and the LED engine.

The system property is that no note gets stuck (`notes_paired`). A note on
goes out on the channel of the bank that is selected at the time; the note
off, perhaps many bank changes later, goes out on the channel that
`g_key_bank_last_up` remembers. The proof follows the stages of a poll:
for a fixed key `k` every stage but one is silent, and the key loop is
silent at every index but `k` (`keyLoop_tracks`), where it emits the edge
between the previous and the current sample of the key. What carries over
from poll to poll is the pending note (`pending`), a function of the
previous sample and of the remembered bank bit.
-/

namespace MidiFighter

open Pairing

/-! ## Inputs and state -/

structure Poll where
  /-- `USB_DeviceState == DEVICE_STATE_Configured`. -/
  configured : Bool
  received : List Received
  gKeyDebounceBuffer : List (BitVec 64)
  /-- `system_time_ms` when key `i` is served. -/
  keyTime : Nat → UInt16
  /-- The four readings of `system_time_ms` at the display refresh. -/
  refreshTime : UInt16
  storeTime : UInt16
  bankTime : UInt16
  delayTime : UInt16
  /-- `default_display_run`, on the variables it shares with the rest. -/
  defaultDisplayRun : Display → (Nat → UInt8) → Display × (Nat → UInt8)

structure System extends Link where
  keys : Keys
  combo : ComboRecognizer
  lastLedRefreshTimeMs : UInt16

/-! ## The key loop -/

def serveKeyDown (now : UInt16) (s : Device × Keys) (i : Nat) :
    (Device × Keys) × List EventPacket :=
  let (d, keys) := s
  if keys.gKeyDown.getLsbD i then
    let note := midi64KeyToNote (UInt8.ofNat i)
    let notes :=
      if d.setting .midiOutputMode < midiOutputModeCcsOnly then midiStreamNote d note true else []
    let ccs :=
      if d.setting .midiOutputMode > midiOutputModeNotesOnly then
        [ccPacket (d.setting .midiChannel) note 127]
      else []
    -- record the bank of the note on for the note off
    let gKeyBankLastUp :=
      if d.gBankSelected ≤ 0 then keys.gKeyBankLastUp &&& ~~~keyBit i
      else keys.gKeyBankLastUp ||| keyBit i
    let d :=
      if d.setting .animations < geometricAnimationTypes then
        startGeometricAnimation d (UInt8.ofNat i) (d.setting .animations)
      else d
    ((keyPressed d (UInt8.ofNat i) now, { keys with gKeyBankLastUp := gKeyBankLastUp }),
      notes ++ ccs)
  else (s, [])

def noteOffChannel (gEeMidiChannel : UInt8) (lastUp : Bool) : UInt8 :=
  if lastUp then (gEeMidiChannel - 1) &&& 0x0F else gEeMidiChannel

def serveKeyUp (s : Device × Keys) (i : Nat) : (Device × Keys) × List EventPacket :=
  let (d, keys) := s
  if keys.gKeyUp.getLsbD i then
    let note := midi64KeyToNote (UInt8.ofNat i)
    let channel := noteOffChannel (d.setting .midiChannel) (keys.gKeyBankLastUp.getLsbD i)
    let notes :=
      if d.setting .midiOutputMode < midiOutputModeCcsOnly then
        midiStreamNoteCh d channel note false
      else []
    let ccs :=
      if d.setting .midiOutputMode > midiOutputModeNotesOnly then
        [ccPacket (d.setting .midiChannel) note 0]
      else []
    ((keyReleased d (UInt8.ofNat i), keys), notes ++ ccs)
  else (s, [])

def serveKey (keyTime : Nat → UInt16) (s : Device × Keys) (i : Nat) :
    (Device × Keys) × List EventPacket :=
  let down := serveKeyDown (keyTime i) s i
  let up := serveKeyUp down.1 i
  (up.1, down.2 ++ up.2)

/-! ## Combos and display -/

def comboNote : Combo → UInt8
  | .a => 8
  | .b => 9
  | .c => 10
  | .d => 11
  | .e => 12

def serveCombos (d : Device) (keys : Keys) (r : ComboRecognizer) :
    ComboRecognizer × List EventPacket :=
  if d.setting .combosEnable ≠ 0 then
    let (r, action) := comboRecognize r keys.poll
    let channel :=
      if d.gBankSelected ≤ 0 then d.setting .midiChannel
      else (d.setting .midiChannel - 1) &&& 0x0F
    match action with
    | .down combo => (r, midiStreamNoteCh d channel (comboNote combo) true)
    | .release combo => (r, midiStreamNoteCh d channel (comboNote combo) false)
    | .none => (r, [])
  else (r, [])

def ledRefreshLimit : UInt16 := 25

/-- The display refresh; the time difference wraps at 16 bits. -/
def refreshDisplay (poll : Poll) (d : Device) (lastLedRefreshTimeMs : UInt16) :
    (Device × UInt16) × List EventPacket :=
  if poll.refreshTime - lastLedRefreshTimeMs ≥ ledRefreshLimit then
    let (d, packets) := serviceBankSelectButtons d poll.bankTime
    let d := updateNoteOffFeedbackDelay d poll.delayTime
    let (display, gMidiNoteState) := poll.defaultDisplayRun d.display d.gMidiNoteState
    (({ d with display := display, gMidiNoteState := gMidiNoteState }, poll.storeTime), packets)
  else ((d, lastLedRefreshTimeMs), [])

/-! ## The task -/

def usbRxPacketLimit : Nat := 512

/-- `key_read` and `key_calc`; a pressed key ends the sleep animation. -/
def scanKeys (s : System) (poll : Poll) : Device × Keys :=
  let keys := keyCalc (keyRead s.keys poll.gKeyDebounceBuffer)
  if keys.gKeyDown ≠ 0 then
    ({ s.device with display := { s.device.display with sleepMinuteCounter := 0 } }, keys)
  else (s.device, keys)

/-- The rest of a poll once the packets are in: keys, combos, display. -/
def serveKeys (s : System) (poll : Poll) : System × List EventPacket :=
  let scanned := scanKeys s poll
  let served := Machine.final (serveKey poll.keyTime) scanned (List.range 64)
  let notes := Machine.outputs (serveKey poll.keyTime) scanned (List.range 64)
  let combos := serveCombos served.1 served.2 s.combo
  let shown := refreshDisplay poll served.1 s.lastLedRefreshTimeMs
  ({ device := shown.1.1
     receiver := s.receiver
     keys := served.2
     combo := combos.1
     lastLedRefreshTimeMs := shown.1.2 },
    notes ++ combos.2 ++ shown.2)

def getIncomingUsbMidiMessages (s : System) (poll : Poll) : System × List EventPacket :=
  let rxs := poll.received.take usbRxPacketLimit
  ({ s with toLink := Machine.final receivePacket s.toLink rxs },
    Machine.outputs receivePacket s.toLink rxs)

/-- `Midifighter_Task`: packets, keys, combos, display. Nothing happens before
USB is configured, and a packet that enters the bootloader ends it. -/
def midifighterTask (s : System) (poll : Poll) : System × List EventPacket :=
  if poll.configured = false ∨ s.device.inBootloader = true then (s, [])
  else
    let (s, replies) := getIncomingUsbMidiMessages s poll
    if s.device.inBootloader = true then (s, replies)
    else ((serveKeys s poll).1, replies ++ (serveKeys s poll).2)

/-- `main` up to the first poll, with what the EEPROM and RAM hold at
power-on and the first key samples. Key 0 asks for the bootloader. -/
def boot (store : Store) (gKeyDebounceBuffer : List (BitVec 64)) : System :=
  let d := Device.start (eepromSetup store)
  let keys := keyCalc (keyRead Keys.boot gKeyDebounceBuffer)
  { device :=
      { d with
        inBootloader := keys.gKeyState.getLsbD 0
        display := { d.display with sleepMinuteCounter := d.setting .sleepTime } }
    receiver := .boot
    keys := keys
    combo := .boot
    lastLedRefreshTimeMs := 0 }

/-! ## Note messages -/

/-- A packet as an edge of the note `pitch`, on its channel. Packets that are
no note messages for the pitch are none. -/
def pitchEdge? (pitch : UInt8) (p : EventPacket) : Option (Edge UInt8) :=
  if p.data2 = pitch then
    if p.cin = 0x9 then some (.rise (p.data1 &&& 0x0F))
    else if p.cin = 0x8 then some (.fall (p.data1 &&& 0x0F))
    else none
  else none

def noteEdge? (k : Nat) : EventPacket → Option (Edge UInt8) :=
  pitchEdge? (midi64KeyToNote (UInt8.ofNat k))

theorem pitchEdge?_of_cin {pitch : UInt8} {p : EventPacket} (h : p.cin < 8) :
    pitchEdge? pitch p = none := by
  have h9 : p.cin ≠ 0x9 := fun heq => absurd (heq ▸ h) (by decide)
  have h8 : p.cin ≠ 0x8 := fun heq => absurd (heq ▸ h) (by decide)
  rw [pitchEdge?, if_neg h9, if_neg h8, ite_self]

theorem pitchEdge?_ccPacket (pitch channel cc value : UInt8) :
    pitchEdge? pitch (ccPacket channel cc value) = none := by
  have h9 : (0xB : UInt8) ≠ 0x9 := by decide
  have h8 : (0xB : UInt8) ≠ 0x8 := by decide
  rw [pitchEdge?, ccPacket_cin, if_neg h9, if_neg h8, ite_self]

theorem pitchEdge?_notePacket (pitch channel pitch' : UInt8) (onoff : Bool) (velocity : UInt8) :
    pitchEdge? pitch (notePacket channel pitch' onoff velocity) =
      if pitch' &&& 0x7F = pitch then
        some (if onoff then .rise (channel &&& 0x0F) else .fall (channel &&& 0x0F))
      else none := by
  rw [pitchEdge?, notePacket_cin, notePacket_channel]
  cases onoff <;> rfl

theorem midi64KeyToNote_toNat {k : Nat} (hk : k < 64) :
    (midi64KeyToNote (UInt8.ofNat k)).toNat = k + 36 := by
  have h36 : midiBasenote.toNat = 36 := rfl
  rw [midi64KeyToNote, UInt8.toNat_add, UInt8.toNat_ofNat', h36]
  omega

theorem keyNote_mask {k : Nat} (hk : k < 64) :
    midi64KeyToNote (UInt8.ofNat k) &&& 0x7F = midi64KeyToNote (UInt8.ofNat k) := by
  have hmask : ∀ n : Fin 64, midi64KeyToNote (UInt8.ofNat n) &&& 0x7F
      = midi64KeyToNote (UInt8.ofNat n) := by decide
  exact hmask ⟨k, hk⟩

theorem keyNote_inj {i k : Nat} (hi : i < 64) (hk : k < 64)
    (h : midi64KeyToNote (UInt8.ofNat i) = midi64KeyToNote (UInt8.ofNat k)) : i = k := by
  have hnat := congrArg UInt8.toNat h
  rw [midi64KeyToNote_toNat hi, midi64KeyToNote_toNat hk] at hnat
  omega

theorem comboNote_ne {k : Nat} (hk : k < 64) (combo : Combo) :
    comboNote combo &&& 0x7F ≠ midi64KeyToNote (UInt8.ofNat k) := by
  intro h
  have hcombo : (comboNote combo &&& 0x7F).toNat < 36 := by cases combo <;> decide
  rw [h, midi64KeyToNote_toNat hk] at hcombo
  omega

/-- The note of a message for an edge of key `i`. The control change that
goes with it is none. -/
theorem keyMessages_edges {i : Nat} (hi : i < 64) (pitch mode channel ccChannel : UInt8)
    (onoff : Bool) (velocity value : UInt8) :
    ((if mode < midiOutputModeCcsOnly then
          [notePacket channel (midi64KeyToNote (UInt8.ofNat i)) onoff velocity] else []) ++
        (if mode > midiOutputModeNotesOnly then
          [ccPacket ccChannel (midi64KeyToNote (UInt8.ofNat i)) value] else [])).filterMap
      (pitchEdge? pitch) =
      if midi64KeyToNote (UInt8.ofNat i) = pitch ∧ mode < midiOutputModeCcsOnly then
        [if onoff then .rise (channel &&& 0x0F) else .fall (channel &&& 0x0F)]
      else [] := by
  have hccs : (if mode > midiOutputModeNotesOnly then
      [ccPacket ccChannel (midi64KeyToNote (UInt8.ofNat i)) value] else []).filterMap
        (pitchEdge? pitch) = [] := by
    split
    · rw [List.filterMap_cons_none (pitchEdge?_ccPacket ..), List.filterMap_nil]
    · rfl
  have hedge := pitchEdge?_notePacket pitch channel (midi64KeyToNote (UInt8.ofNat i)) onoff velocity
  rw [keyNote_mask hi] at hedge
  rw [List.filterMap_append, hccs, List.append_nil]
  by_cases hmode : mode < midiOutputModeCcsOnly
  · rw [if_pos hmode]
    by_cases hpitch : midi64KeyToNote (UInt8.ofNat i) = pitch
    · rw [if_pos hpitch] at hedge
      rw [List.filterMap_cons_some hedge, List.filterMap_nil]
      exact (if_pos ⟨hpitch, hmode⟩).symm
    · rw [if_neg hpitch] at hedge
      rw [List.filterMap_cons_none hedge, List.filterMap_nil]
      exact (if_neg fun h => hpitch h.1).symm
  · rw [if_neg hmode, List.filterMap_nil]
    exact (if_neg fun h => hmode h.2).symm

/-! ## The key loop -/

/-- What stays when the loop serves the keys `served`: everything a later
key reads, and the remembered banks of the other keys. -/
structure Served (served : Nat → Prop) (s s' : Device × Keys) : Prop where
  store : s'.1.store = s.1.store
  bank : s'.1.gBankSelected = s.1.gBankSelected
  down : s'.2.gKeyDown = s.2.gKeyDown
  up : s'.2.gKeyUp = s.2.gKeyUp
  prev : s'.2.gKeyPrevState = s.2.gKeyPrevState
  lastUp : ∀ j < 64, ¬served j → s'.2.gKeyBankLastUp.getLsbD j = s.2.gKeyBankLastUp.getLsbD j

namespace Served

variable {served : Nat → Prop} {s s' s'' : Device × Keys}

theorem setting (h : Served served s s') (f : Setting) : s'.1.setting f = s.1.setting f :=
  congrArg (fun store => store.settings f) h.store

theorem refl (s : Device × Keys) : Served served s s :=
  ⟨rfl, rfl, rfl, rfl, rfl, fun _ _ _ => rfl⟩

theorem trans (h : Served served s s') (h' : Served served s' s'') : Served served s s'' where
  store := h'.store.trans h.store
  bank := h'.bank.trans h.bank
  down := h'.down.trans h.down
  up := h'.up.trans h.up
  prev := h'.prev.trans h.prev
  lastUp := fun j hj hns => (h'.lastUp j hj hns).trans (h.lastUp j hj hns)

theorem mono (h : Served served s s') (served' : Nat → Prop)
    (hsub : ∀ j, served j → served' j) : Served served' s s' :=
  { h with lastUp := fun j hj hns => h.lastUp j hj fun hs => hns (hsub j hs) }

end Served

theorem recordBank_getLsbD {i j : Nat} (hi : i < 64) (hj : j < 64) (bank : UInt8)
    (lastUp : BitVec 64) :
    (if bank ≤ 0 then lastUp &&& ~~~keyBit i else lastUp ||| keyBit i).getLsbD j =
      if j = i then decide (bank ≠ 0) else lastUp.getLsbD j := by
  have hzero : bank ≤ 0 ↔ bank = 0 := by
    rw [UInt8.le_iff_toNat_le, ← UInt8.toNat_inj]
    exact Nat.le_zero
  by_cases hbank : bank = 0
  · rw [if_pos (hzero.mpr hbank), BitVec.getLsbD_and, BitVec.getLsbD_not, getLsbD_keyBit hi]
    by_cases hji : j = i <;> simp [hji, hj, hbank]
  · rw [if_neg fun h => hbank (hzero.mp h), BitVec.getLsbD_or, getLsbD_keyBit hi]
    by_cases hji : j = i <;> simp [hji, hbank]

theorem serveKeyDown_served (now : UInt16) (s : Device × Keys) {i : Nat} (hi : i < 64) :
    Served (· = i) s (serveKeyDown now s i).1 := by
  obtain ⟨d, keys⟩ := s
  unfold serveKeyDown
  dsimp only
  split
  · have hbits : ∀ j < 64, j ≠ i → (if d.gBankSelected ≤ 0 then keys.gKeyBankLastUp &&& ~~~keyBit i
        else keys.gKeyBankLastUp ||| keyBit i).getLsbD j = keys.gKeyBankLastUp.getLsbD j := by
      intro j hj hne
      rw [recordBank_getLsbD hi hj, if_neg hne]
    split
    · obtain ⟨counters, hpressed⟩ := keyPressed_cases
        (startGeometricAnimation d (UInt8.ofNat i) (d.setting .animations)) (UInt8.ofNat i) now
      rw [hpressed, startGeometricAnimation_eq]
      exact ⟨rfl, rfl, rfl, rfl, rfl, hbits⟩
    · obtain ⟨counters, hpressed⟩ := keyPressed_cases d (UInt8.ofNat i) now
      rw [hpressed]
      exact ⟨rfl, rfl, rfl, rfl, rfl, hbits⟩
  · exact .refl _

theorem serveKeyUp_cases (s : Device × Keys) (i : Nat) :
    ∃ counters, (serveKeyUp s i).1 = ({ s.1 with gBankSelectCounter := counters }, s.2) := by
  obtain ⟨d, keys⟩ := s
  unfold serveKeyUp
  dsimp only
  split
  · obtain ⟨counters, hreleased⟩ := keyReleased_cases d (UInt8.ofNat i)
    rw [hreleased]
    exact ⟨counters, rfl⟩
  · exact ⟨_, rfl⟩

theorem serveKey_served (keyTime : Nat → UInt16) (s : Device × Keys) {i : Nat} (hi : i < 64) :
    Served (· = i) s (serveKey keyTime s i).1 := by
  obtain ⟨counters, hup⟩ := serveKeyUp_cases (serveKeyDown (keyTime i) s i).1 i
  refine (serveKeyDown_served (keyTime i) s hi).trans ?_
  rw [serveKey, hup]
  exact ⟨rfl, rfl, rfl, rfl, rfl, fun _ _ _ => rfl⟩

theorem keyLoop_served (keyTime : Nat → UInt16) : ∀ {is : List Nat} (s : Device × Keys),
    (∀ i ∈ is, i < 64) → Served (· ∈ is) s (Machine.final (serveKey keyTime) s is)
  | [], s, _ => .refl s
  | i :: is, s, h => by
      obtain ⟨hi, his⟩ := List.forall_mem_cons.mp h
      have hfirst := (serveKey_served keyTime s hi).mono (· ∈ i :: is)
        fun j hj => hj ▸ List.mem_cons_self
      have hrest := (keyLoop_served keyTime (serveKey keyTime s i).1 his).mono (· ∈ i :: is)
        fun j hj => List.mem_cons_of_mem i hj
      exact hfirst.trans hrest

theorem serveKeyDown_edges {i : Nat} (hi : i < 64) (pitch : UInt8) (now : UInt16) (d : Device)
    (keys : Keys) :
    (serveKeyDown now (d, keys) i).2.filterMap (pitchEdge? pitch) =
      if keys.gKeyDown.getLsbD i then
        if midi64KeyToNote (UInt8.ofNat i) = pitch
            ∧ d.setting .midiOutputMode < midiOutputModeCcsOnly then
          [.rise ((d.setting .midiChannel - d.gBankSelected) &&& 0x0F)]
        else []
      else [] := by
  unfold serveKeyDown
  dsimp only
  split
  · exact keyMessages_edges hi _ _ _ _ true _ _
  · rfl

theorem serveKeyUp_edges {i : Nat} (hi : i < 64) (pitch : UInt8) (d : Device) (keys : Keys) :
    (serveKeyUp (d, keys) i).2.filterMap (pitchEdge? pitch) =
      if keys.gKeyUp.getLsbD i then
        if midi64KeyToNote (UInt8.ofNat i) = pitch
            ∧ d.setting .midiOutputMode < midiOutputModeCcsOnly then
          [.fall (noteOffChannel (d.setting .midiChannel) (keys.gKeyBankLastUp.getLsbD i)
            &&& 0x0F)]
        else []
      else [] := by
  unfold serveKeyUp
  dsimp only
  split
  · exact keyMessages_edges hi _ _ _ _ false _ _
  · rfl

theorem serveKey_edges_of_ne {i : Nat} (hi : i < 64) {pitch : UInt8}
    (hne : midi64KeyToNote (UInt8.ofNat i) ≠ pitch) (keyTime : Nat → UInt16) (s : Device × Keys) :
    (serveKey keyTime s i).2.filterMap (pitchEdge? pitch) = [] := by
  have hdown := serveKeyDown_edges hi pitch (keyTime i) s.1 s.2
  have hup := serveKeyUp_edges hi pitch (serveKeyDown (keyTime i) s i).1.1
    (serveKeyDown (keyTime i) s i).1.2
  simp only [hne, false_and, if_false, ite_self] at hdown hup
  rw [serveKey, List.filterMap_append, hdown, hup, List.append_nil]

theorem keyLoop_edges_of_ne {pitch : UInt8} (keyTime : Nat → UInt16) {is : List Nat}
    (his : ∀ i ∈ is, i < 64) (hne : ∀ i ∈ is, midi64KeyToNote (UInt8.ofNat i) ≠ pitch)
    (s : Device × Keys) :
    (Machine.outputs (serveKey keyTime) s is).filterMap (pitchEdge? pitch) = [] := by
  rw [List.filterMap_eq_nil_iff]
  intro p hp
  obtain ⟨pre, i, post, rfl, hserved⟩ := Machine.mem_outputs.mp hp
  have hi : i ∈ pre ++ i :: post := by simp
  have hquiet := serveKey_edges_of_ne (his i hi) (hne i hi) keyTime
    (Machine.final (serveKey keyTime) s pre)
  exact List.filterMap_eq_nil_iff.mp hquiet p hserved

theorem keyLoop_edges_of_notMem {k : Nat} (hk : k < 64) (keyTime : Nat → UInt16)
    {is : List Nat} (his : ∀ i ∈ is, i < 64) (hne : k ∉ is) (s : Device × Keys) :
    (Machine.outputs (serveKey keyTime) s is).filterMap (noteEdge? k) = [] := by
  rw [noteEdge?]
  exact keyLoop_edges_of_ne keyTime his
    (fun i hi heq => hne (keyNote_inj (his i hi) hk heq ▸ hi)) s

/-! ## The edge of a key -/

/-- The note that is on while a key is held: the channel its note off will
use. -/
def held (gEeMidiChannel : UInt8) (state lastUp : Bool) : Option UInt8 :=
  if state then some (noteOffChannel gEeMidiChannel lastUp &&& 0x0F) else none

/-- A note on goes to the channel that the recorded bank bit will give the
note off. With a bank above 1 it would not. -/
theorem noteOnChannel_eq {bank : UInt8} (h : bank ≤ 1) (gEeMidiChannel : UInt8) :
    (gEeMidiChannel - bank) &&& 0x0F
      = noteOffChannel gEeMidiChannel (decide (bank ≠ 0)) &&& 0x0F := by
  have hbank : bank = 0 ∨ bank = 1 := by
    rw [UInt8.le_iff_toNat_le] at h
    rw [← UInt8.toNat_inj, ← UInt8.toNat_inj]
    have h1 : (1 : UInt8).toNat = 1 := rfl
    have h0 : (0 : UInt8).toNat = 0 := rfl
    omega
  rcases hbank with rfl | rfl
  · rw [UInt8.sub_zero]
    rfl
  · simp [noteOffChannel, UInt8.and_assoc]

theorem serveKeyDown_lastUp {i : Nat} (hi : i < 64) (now : UInt16) (d : Device) (keys : Keys) :
    (serveKeyDown now (d, keys) i).1.2.gKeyBankLastUp.getLsbD i =
      if keys.gKeyDown.getLsbD i then decide (d.gBankSelected ≠ 0)
      else keys.gKeyBankLastUp.getLsbD i := by
  unfold serveKeyDown
  dsimp only
  split
  · exact (recordBank_getLsbD hi hi ..).trans (if_pos rfl)
  · rfl

section

variable {k : Nat} (hk : k < 64) (keyTime : Nat → UInt16) {s : Device × Keys}
  (hmode : s.1.setting .midiOutputMode < midiOutputModeCcsOnly) (hbank : s.1.gBankSelected ≤ 1)
  {old new : Bool} (hdown : s.2.gKeyDown.getLsbD k = (new && !old))
  (hup : s.2.gKeyUp.getLsbD k = (old && !new))

include hk hmode hbank hdown hup

/-- Serving key `k` emits the edge between its previous state `old` and its
current state `new`. -/
theorem serveKey_tracks :
    Tracks (held (s.1.setting .midiChannel) old (s.2.gKeyBankLastUp.getLsbD k))
      ((serveKey keyTime s k).2.filterMap (noteEdge? k))
      (held (s.1.setting .midiChannel) new
        ((serveKey keyTime s k).1.2.gKeyBankLastUp.getLsbD k)) := by
  obtain ⟨d, keys⟩ := s
  have hserved := serveKeyDown_served (keyTime k) (d, keys) hk
  have hrise := serveKeyDown_edges hk (midi64KeyToNote (UInt8.ofNat k)) (keyTime k) d keys
  have hlast := serveKeyDown_lastUp hk (keyTime k) d keys
  have hfall := serveKeyUp_edges hk (midi64KeyToNote (UInt8.ofNat k))
    (serveKeyDown (keyTime k) (d, keys) k).1.1 (serveKeyDown (keyTime k) (d, keys) k).1.2
  obtain ⟨_, hkeys⟩ := serveKeyUp_cases (serveKeyDown (keyTime k) (d, keys) k).1 k
  rw [hserved.up, hserved.setting, hserved.setting, hup, hlast] at hfall
  have hfinal : (serveKey keyTime (d, keys) k).1.2.gKeyBankLastUp.getLsbD k
      = if keys.gKeyDown.getLsbD k then decide (d.gBankSelected ≠ 0)
        else keys.gKeyBankLastUp.getLsbD k := by
    rw [serveKey, hkeys]
    exact hlast
  rw [hfinal, noteEdge?, serveKey, List.filterMap_append, hrise, hfall, hdown]
  simp only [hmode, and_self, if_true]
  cases old with
  | false =>
      cases new with
      | false => exact .nil _
      | true =>
          rw [noteOnChannel_eq hbank]
          exact .rise_one _
  | true =>
      cases new with
      | false => exact .fall_one _
      | true => exact .nil _

/-- The whole loop emits that edge and no other of key `k`: the keys before
and after it are silent and leave what it reads. -/
theorem keyLoop_tracks :
    Tracks (held (s.1.setting .midiChannel) old (s.2.gKeyBankLastUp.getLsbD k))
      ((Machine.outputs (serveKey keyTime) s (List.range 64)).filterMap (noteEdge? k))
      (held (s.1.setting .midiChannel) new
        ((Machine.final (serveKey keyTime) s (List.range 64)).2.gKeyBankLastUp.getLsbD k)) := by
  obtain ⟨pre, post, hsplit⟩ := List.append_of_mem (List.mem_range.mpr hk)
  have hlt : ∀ i ∈ pre ++ k :: post, i < 64 := fun i hi => List.mem_range.mp (hsplit ▸ hi)
  have hnodup : (pre ++ k :: post).Nodup := hsplit ▸ List.nodup_range
  rw [List.nodup_append', List.nodup_cons] at hnodup
  obtain ⟨-, ⟨hpost, -⟩, hdisj⟩ := hnodup
  have hpre : k ∉ pre := fun h => hdisj h List.mem_cons_self
  have hltPre : ∀ i ∈ pre, i < 64 := fun i hi => hlt i (List.mem_append_left _ hi)
  have hltPost : ∀ i ∈ post, i < 64 :=
    fun i hi => hlt i (List.mem_append_right _ (List.mem_cons_of_mem k hi))
  rw [hsplit, Machine.outputs_append, Machine.final_append, Machine.outputs_cons,
    Machine.final_cons, List.filterMap_append, List.filterMap_append,
    keyLoop_edges_of_notMem hk keyTime hltPre hpre,
    keyLoop_edges_of_notMem hk keyTime hltPost hpost, List.nil_append, List.append_nil,
    (keyLoop_served keyTime _ hltPost).lastUp k hk hpost]
  have hserved := keyLoop_served keyTime s hltPre
  generalize Machine.final (serveKey keyTime) s pre = s' at hserved ⊢
  rw [← hserved.setting, ← hserved.lastUp k hk hpre]
  rw [← hserved.setting] at hmode
  rw [← hserved.bank] at hbank
  rw [← hserved.down] at hdown
  rw [← hserved.up] at hup
  exact serveKey_tracks hk keyTime hmode hbank hdown hup

end

/-! ## The stages after the key loop -/

theorem serveCombos_edges {k : Nat} (hk : k < 64) (d : Device) (keys : Keys)
    (r : ComboRecognizer) : (serveCombos d keys r).2.filterMap (noteEdge? k) = [] := by
  have hquiet : ∀ (channel : UInt8) (combo : Combo) (onoff : Bool),
      (midiStreamNoteCh d channel (comboNote combo) onoff).filterMap (noteEdge? k) = [] := by
    intro channel combo onoff
    have hedge := pitchEdge?_notePacket (midi64KeyToNote (UInt8.ofNat k)) channel
      (comboNote combo) onoff (d.setting .midiVelocity)
    rw [if_neg (comboNote_ne hk combo)] at hedge
    rw [noteEdge?, midiStreamNoteCh, List.filterMap_cons_none hedge, List.filterMap_nil]
  unfold serveCombos
  dsimp only
  split
  · split
    · exact hquiet _ _ _
    · exact hquiet _ _ _
    · rfl
  · rfl

/-- All the refresh does beside drawing: where the bank keys are enabled, a
held one selects its bank, which is reported as a control change. -/
theorem refreshDisplay_cases (poll : Poll) (d : Device) (last : UInt16) :
    (refreshDisplay poll d last).1.1.store = d.store
      ∧ ((refreshDisplay poll d last).1.1.gBankSelected = d.gBankSelected
          ∧ (refreshDisplay poll d last).2 = []
        ∨ d.setting .sideBank ≠ 0 ∧ (refreshDisplay poll d last).1.1.gBankSelected ≤ 1
          ∧ ∃ channel thisBank,
            (refreshDisplay poll d last).2 = [ccPacket channel mf64BankCc thisBank]) := by
  unfold refreshDisplay
  split
  · rcases serviceBankSelectButtons_cases d poll.bankTime with
      hserve | ⟨thisBank, hthis, hside, hserve⟩
    · obtain ⟨_, _, hdelay⟩ := updateNoteOffFeedbackDelay_cases d poll.delayTime
      rw [hserve]
      dsimp only
      rw [hdelay]
      exact ⟨rfl, Or.inl ⟨rfl, rfl⟩⟩
    · obtain ⟨_, _, hdelay⟩ :=
        updateNoteOffFeedbackDelay_cases (changeBank d thisBank) poll.delayTime
      rw [hserve]
      dsimp only
      rw [hdelay, changeBank_eq]
      exact ⟨rfl, Or.inr ⟨hside, hthis, _, thisBank, rfl⟩⟩
  · exact ⟨rfl, Or.inl ⟨rfl, rfl⟩⟩

theorem refreshDisplay_edges (poll : Poll) (d : Device) (last : UInt16) (pitch : UInt8) :
    (refreshDisplay poll d last).2.filterMap (pitchEdge? pitch) = [] := by
  rcases (refreshDisplay_cases poll d last).2 with ⟨-, hquiet⟩ | ⟨-, -, _, _, hreport⟩
  · rw [hquiet, List.filterMap_nil]
  · rw [hreport, List.filterMap_cons_none (pitchEdge?_ccPacket ..), List.filterMap_nil]

/-! ## No stuck notes -/

/-- The note of key `k` that is on between two polls. -/
def System.pending (s : System) (k : Nat) : Option UInt8 :=
  held (s.device.setting .midiChannel) (s.keys.gKeyPrevState.getLsbD k)
    (s.keys.gKeyBankLastUp.getLsbD k)

theorem scanKeys_cases (s : System) (poll : Poll) :
    ∃ display, scanKeys s poll =
      ({ s.device with display := display },
        keyCalc (keyRead s.keys poll.gKeyDebounceBuffer)) := by
  unfold scanKeys
  dsimp only
  split
  · exact ⟨_, rfl⟩
  · exact ⟨_, rfl⟩

theorem mem_keyIndices : ∀ i ∈ List.range 64, i < 64 := fun _ => List.mem_range.mp

theorem serveKeys_store (s : System) (poll : Poll) :
    (serveKeys s poll).1.device.store = s.device.store := by
  obtain ⟨display, hscan⟩ := scanKeys_cases s poll
  have hserved := keyLoop_served poll.keyTime (scanKeys s poll) mem_keyIndices
  rw [hscan] at hserved
  unfold serveKeys
  dsimp only
  rw [hscan, (refreshDisplay_cases poll _ _).1]
  exact hserved.store

theorem serveKeys_bank (s : System) (poll : Poll) :
    (serveKeys s poll).1.device.gBankSelected = s.device.gBankSelected
      ∨ s.device.setting .sideBank ≠ 0 ∧ (serveKeys s poll).1.device.gBankSelected ≤ 1 := by
  obtain ⟨display, hscan⟩ := scanKeys_cases s poll
  have hserved := keyLoop_served poll.keyTime (scanKeys s poll) mem_keyIndices
  rw [hscan] at hserved
  have hrefresh := (refreshDisplay_cases poll
    (Machine.final (serveKey poll.keyTime) (scanKeys s poll) (List.range 64)).1
    s.lastLedRefreshTimeMs).2
  rw [hscan, hserved.bank, hserved.setting] at hrefresh
  unfold serveKeys
  dsimp only
  rw [hscan]
  rcases hrefresh with ⟨hbank, -⟩ | ⟨hside, hbank, -⟩
  · exact Or.inl hbank
  · exact Or.inr ⟨hside, hbank⟩

theorem serveKeys_bank_le {s : System} (poll : Poll) (hbank : s.device.gBankSelected ≤ 1) :
    (serveKeys s poll).1.device.gBankSelected ≤ 1 := by
  rcases serveKeys_bank s poll with hkept | ⟨-, hle⟩
  · rw [hkept]
    exact hbank
  · exact hle

theorem serveKeys_tracks {k : Nat} (hk : k < 64) {s : System} (poll : Poll)
    (hmode : s.device.setting .midiOutputMode < midiOutputModeCcsOnly)
    (hbank : s.device.gBankSelected ≤ 1) :
    Tracks (s.pending k) ((serveKeys s poll).2.filterMap (noteEdge? k))
      ((serveKeys s poll).1.pending k) := by
  have hchannel : (serveKeys s poll).1.device.setting .midiChannel
      = s.device.setting .midiChannel :=
    congrArg (fun store => store.settings .midiChannel) (serveKeys_store s poll)
  obtain ⟨display, hscan⟩ := scanKeys_cases s poll
  have hserved := keyLoop_served poll.keyTime (scanKeys s poll) mem_keyIndices
  have htrack := keyLoop_tracks hk poll.keyTime (s := scanKeys s poll)
    (by rw [hscan]; exact hmode) (by rw [hscan]; exact hbank)
    (by rw [hscan]; exact keyCalc_down _ k) (by rw [hscan]; exact keyCalc_up _ k)
  have hquiet : (refreshDisplay poll
      (Machine.final (serveKey poll.keyTime) (scanKeys s poll) (List.range 64)).1
      s.lastLedRefreshTimeMs).2.filterMap (noteEdge? k) = [] :=
    refreshDisplay_edges ..
  rw [System.pending, System.pending, hchannel]
  unfold serveKeys
  dsimp only
  rw [List.filterMap_append, List.filterMap_append, serveCombos_edges hk, hquiet,
    List.append_nil, List.append_nil, hserved.prev]
  rw [hscan] at htrack ⊢
  exact htrack

theorem getIncomingUsbMidiMessages_edges (s : System) (poll : Poll) (pitch : UInt8) :
    (getIncomingUsbMidiMessages s poll).2.filterMap (pitchEdge? pitch) = [] := by
  refine List.filterMap_eq_nil_iff.mpr fun p hp => ?_
  obtain ⟨_, rx, _, _, hreply⟩ := Machine.mem_outputs.mp hp
  exact pitchEdge?_of_cin (receivePacket_cin _ rx p hreply)

theorem getIncomingUsbMidiMessages_bank {s : System} (poll : Poll)
    (hbank : s.device.gBankSelected ≤ 1) :
    (getIncomingUsbMidiMessages s poll).1.device.gBankSelected ≤ 1 :=
  Machine.final_invariant (fun l : Link => l.device.gBankSelected ≤ 1)
    (fun _ rx hl _ => receivePacket_bank hl rx) hbank Machine.along_true

theorem getIncomingUsbMidiMessages_keys (s : System) (poll : Poll) :
    (getIncomingUsbMidiMessages s poll).1.keys = s.keys
      ∧ (getIncomingUsbMidiMessages s poll).1.combo = s.combo :=
  ⟨rfl, rfl⟩

def KeepsSettings (s : System) (poll : Poll) : Prop :=
  (midifighterTask s poll).1.device.setting .midiChannel = s.device.setting .midiChannel
    ∧ (midifighterTask s poll).1.device.setting .midiOutputMode = s.device.setting .midiOutputMode

instance (s : System) (poll : Poll) : Decidable (KeepsSettings s poll) :=
  inferInstanceAs (Decidable (_ ∧ _))

/-- One poll: its packets may change settings and bank, but settings that
are the same after the poll were the same for the key loop. -/
theorem midifighterTask_tracks {k : Nat} (hk : k < 64) {s : System} {poll : Poll}
    (hmode : s.device.setting .midiOutputMode < midiOutputModeCcsOnly)
    (hbank : s.device.gBankSelected ≤ 1) (hkeep : KeepsSettings s poll) :
    Tracks (s.pending k) ((midifighterTask s poll).2.filterMap (noteEdge? k))
        ((midifighterTask s poll).1.pending k)
      ∧ (midifighterTask s poll).1.device.gBankSelected ≤ 1 := by
  unfold KeepsSettings midifighterTask at *
  have hquiet := getIncomingUsbMidiMessages_edges s poll (midi64KeyToNote (UInt8.ofNat k))
  have hbank' := getIncomingUsbMidiMessages_bank poll hbank
  have hkeys := (getIncomingUsbMidiMessages_keys s poll).1
  rw [← noteEdge?] at hquiet
  generalize getIncomingUsbMidiMessages s poll = received at *
  obtain ⟨s', replies⟩ := received
  dsimp only at *
  split
  · exact ⟨.nil _, hbank⟩
  · rename_i hskip
    rw [if_neg hskip] at hkeep
    split
    · rename_i hboot
      rw [if_pos hboot] at hkeep
      rw [hquiet, System.pending, System.pending, hkeep.1, hkeys]
      exact ⟨.nil _, hbank'⟩
    · rename_i hboot
      rw [if_neg hboot] at hkeep
      have hsetting : ∀ f, (serveKeys s' poll).1.device.setting f = s'.device.setting f :=
        fun f => congrArg (fun store => store.settings f) (serveKeys_store s' poll)
      rw [hsetting, hsetting] at hkeep
      have hpending : s.pending k = s'.pending k := by
        rw [System.pending, System.pending, hkeep.1, hkeys]
      refine ⟨?_, serveKeys_bank_le poll hbank'⟩
      rw [List.filterMap_append, hquiet, List.nil_append, hpending]
      exact serveKeys_tracks hk poll (by rw [hkeep.2]; exact hmode) hbank'

/-- **No stuck notes.** In every run from boot during which the channel and
an output mode with notes are kept, the note messages of a key that is not
held at boot alternate, starting with a note on, and every note off is on
the channel of the note on before it. -/
theorem notes_paired (store : Store) (samples : List (BitVec 64)) {k : Nat} (hk : k < 64)
    (hup : (boot store samples).keys.gKeyState.getLsbD k = false)
    (hmode : (boot store samples).device.setting .midiOutputMode < midiOutputModeCcsOnly)
    (polls : List Poll)
    (hkeep : Machine.Along midifighterTask KeepsSettings (boot store samples) polls) :
    Paired ((Machine.outputs midifighterTask (boot store samples) polls).filterMap
      (noteEdge? k)) := by
  have hpending : (boot store samples).pending k = none := by
    unfold System.pending held
    exact if_neg (by rw [Bool.not_eq_true]; exact hup)
  have htracks := outputs_tracks
    (fun s : System => s.device.setting .midiOutputMode < midiOutputModeCcsOnly
      ∧ s.device.gBankSelected ≤ 1)
    (fun s => s.pending k) (noteEdge? k)
    (fun s poll hs hkeep => ⟨by rw [hkeep.2]; exact hs.1,
      (midifighterTask_tracks hk hs.1 hs.2 hkeep).2⟩)
    (fun s poll hs hkeep => (midifighterTask_tracks hk hs.1 hs.2 hkeep).1)
    ⟨hmode, (by decide : (0 : UInt8) ≤ 1)⟩ hkeep
  rw [hpending] at htracks
  exact htracks.paired

/-- A poll at time 0 with a display that draws nothing. -/
def Poll.still (received : List Received) (keys : BitVec 64) : Poll where
  configured := true
  received := received
  gKeyDebounceBuffer := [keys]
  keyTime := fun _ => 0
  refreshTime := 0
  storeTime := 0
  bankTime := 0
  delayTime := 0
  defaultDisplayRun := fun display noteState => (display, noteState)

/-- Key 5 is pressed in bank 0 and released after the host has selected
bank 1. -/
theorem notes_paired_bankChange :
    let store : Store := ⟨fun _ => 1, 0, fun _ => 0, ⟨fun _ => 0, fun _ => 0⟩⟩
    let polls := [Poll.still [] 0x20, Poll.still [⟨0, ⟨0xB, 0xB1, 3, 127⟩⟩] 0x20, Poll.still [] 0]
    let notes := (Machine.outputs midifighterTask (boot store [0]) polls).filterMap (noteEdge? 5)
    notes = [.rise 1, .fall 1] ∧ Paired notes :=
  ⟨by decide +kernel,
    notes_paired ⟨fun _ => 1, 0, fun _ => 0, ⟨fun _ => 0, fun _ => 0⟩⟩ [0] (by decide)
      (by decide +kernel) (by decide +kernel)
      [Poll.still [] 0x20, Poll.still [⟨0, ⟨0xB, 0xB1, 3, 127⟩⟩] 0x20, Poll.still [] 0]
      (by decide +kernel)⟩

end MidiFighter
