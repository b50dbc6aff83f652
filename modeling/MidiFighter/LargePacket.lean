import MidiFighter.Receive

/-!
# Large packets

With `ENABLE_LUFA_2015_LARGE_PACKET_UPGRADE` the firmware receives up to 16
events at once, and `InterpretUsbMidiMessage` takes the place of the packet
switch. The two agree case by case, with one exception: the control change
case of `InterpretUsbMidiMessage` has no `break` and runs on into the
real-time case, where the status byte of the control change is compared
with the clock messages (`interpretUsbMidiMessage_control`).

`receivePaths_agree_iff` says for which events that makes a difference, and
`interpretLargePacket_eq` lifts the agreement to whole packets.
-/

namespace MidiFighter

/-- `InterpretUsbMidiMessage`, with the returned flag: was this an event? -/
def interpretUsbMidiMessage (l : Link) (inputEvent : EventPacket) (now : UInt16) :
    (Link × List EventPacket) × Bool :=
  let command := inputEvent.cin
  if command = 0 then ((l, []), false)
  else if command = 0xB then
    -- no break
    let d := handleControlChange l.device inputEvent
    (({ l with device := handleRealTime d inputEvent }, []), true)
  else if command = 0xF then
    (({ l with device := handleRealTime l.device inputEvent }, []), true)
  else if command = 0x9 then
    (({ l with device := handleNoteOn l.device inputEvent }, []), true)
  else if command = 0x8 then
    (({ l with device := handleNoteOff l.device inputEvent now }, []), true)
  else if command = 0x4 ∨ command = 0x5 ∨ command = 0x6 ∨ command = 0x7 then
    (receiveSysex l inputEvent, true)
  else ((l, []), true)

/-! ## One event -/

theorem interpretUsbMidiMessage_control (l : Link) {p : EventPacket} (h : p.cin = 0xB)
    (now : UInt16) :
    (interpretUsbMidiMessage l p now).1
      = ({ l with device := handleRealTime (handleControlChange l.device p) p }, []) := by
  simp [interpretUsbMidiMessage, h]

theorem packetSwitch_control (l : Link) {p : EventPacket} (h : p.cin = 0xB) (now : UInt16) :
    packetSwitch l p now = ({ l with device := handleControlChange l.device p }, []) := by
  simp [packetSwitch, h]

theorem interpretUsbMidiMessage_of_ne (l : Link) {p : EventPacket} (h : p.cin ≠ 0xB)
    (now : UInt16) : (interpretUsbMidiMessage l p now).1 = packetSwitch l p now := by
  unfold interpretUsbMidiMessage packetSwitch
  dsimp only
  rw [if_neg h, if_neg h]
  by_cases h0 : p.cin = 0
  · simp [h0]
  · rw [if_neg h0]
    split_ifs <;> rfl

/-- The clock messages that change the state of the clock: a tick always
does. -/
def MovesClock (d : Device) (p : EventPacket) : Prop :=
  p.data1 = 0xF8 ∨ (p.data1 = 0xFA ∧ d.midiClockEnabled = false)
    ∨ (p.data1 = 0xFC ∧ d.midiClockEnabled = true)

instance (d : Device) (p : EventPacket) : Decidable (MovesClock d p) :=
  inferInstanceAs (Decidable (_ ∨ _ ∨ _))

theorem midiClock_ticks (d : Device) : (midiClock d).ticks ≠ d.ticks := by
  have hnext : ∀ ticks : UInt8, (if ticks = 3 then 1 else ticks + 1) ≠ ticks :=
    forall_byte (p := fun ticks => (if ticks = 3 then 1 else ticks + 1) ≠ ticks)
      (by decide +kernel)
  have hticks : (midiClock d).ticks = if d.ticks = 3 then 1 else d.ticks + 1 := by
    unfold midiClock midiClockEnable
    dsimp only
    split_ifs <;> rfl
  rw [hticks]
  exact hnext d.ticks

theorem midiClockEnable_eq_iff (d : Device) (state : Bool) :
    midiClockEnable d state = d ↔ d.midiClockEnabled = state := by
  constructor
  · intro h
    rw [← h]
    rfl
  · rintro rfl
    rfl

theorem handleRealTime_eq_iff (d : Device) (p : EventPacket) :
    handleRealTime d p = d ↔ ¬MovesClock d p := by
  unfold handleRealTime MovesClock
  split_ifs with htick hstart hstop
  · refine iff_of_false (fun h => ?_) (fun h => h (Or.inl htick))
    have hticks : (midiClockEnable d true).ticks = d.ticks := rfl
    exact midiClock_ticks (midiClockEnable d true) ((congrArg Device.ticks h).trans hticks.symm)
  · rw [midiClockEnable_eq_iff]
    simp [hstart]
  · rw [midiClockEnable_eq_iff]
    simp [hstop]
  · simp [htick, hstart, hstop]

theorem handleControlChange_clock (d : Device) (p : EventPacket) :
    (handleControlChange d p).midiClockEnabled = d.midiClockEnabled := by
  rcases handleControlChange_cases d p with hcc | ⟨-, _, -, hcc⟩
  · rw [hcc]
  · rw [hcc, changeBank_eq]

theorem interpretUsbMidiMessage_control_iff (l : Link) {p : EventPacket} (h : p.cin = 0xB)
    (now : UInt16) :
    (interpretUsbMidiMessage l p now).1 = packetSwitch l p now ↔ ¬MovesClock l.device p := by
  have hmoves : MovesClock (handleControlChange l.device p) p ↔ MovesClock l.device p := by
    rw [MovesClock, handleControlChange_clock, MovesClock]
  rw [interpretUsbMidiMessage_control l h, packetSwitch_control l h, ← hmoves,
    ← handleRealTime_eq_iff]
  constructor
  · intro heq
    exact congrArg (fun res : Link × List EventPacket => res.1.device) heq
  · intro heq
    rw [heq]

/-- The missing `break` matters: a control change whose status byte reads as
a clock message that changes the state of the clock. -/
def DropsThrough (d : Device) (p : EventPacket) : Prop := p.cin = 0xB ∧ MovesClock d p

theorem interpretUsbMidiMessage_eq {l : Link} {p : EventPacket} (h : ¬DropsThrough l.device p)
    (now : UInt16) : (interpretUsbMidiMessage l p now).1 = packetSwitch l p now := by
  by_cases hcontrol : p.cin = 0xB
  · exact (interpretUsbMidiMessage_control_iff l hcontrol now).mpr fun hmoves =>
      h ⟨hcontrol, hmoves⟩
  · exact interpretUsbMidiMessage_of_ne l hcontrol now

/-- **The two receive paths.** In every state, `InterpretUsbMidiMessage`
leaves the state that the packet switch leaves and sends the same replies,
unless the missing `break` matters. -/
theorem receivePaths_agree_iff (l : Link) (p : EventPacket) (now : UInt16) :
    (interpretUsbMidiMessage l p now).1 = packetSwitch l p now ↔ ¬DropsThrough l.device p := by
  constructor
  · rintro heq ⟨hcontrol, hmoves⟩
    exact (interpretUsbMidiMessage_control_iff l hcontrol now).mp heq hmoves
  · intro h
    exact interpretUsbMidiMessage_eq h now

/-- A control change with status byte `F8` is also counted as a clock tick. -/
theorem receivePaths_not_agree :
    let l : Link :=
      ⟨Device.start ⟨fun _ => 1, 0, Setting.factory, ⟨fun _ => 0, fun _ => 0⟩⟩, .boot⟩
    (interpretUsbMidiMessage l ⟨0x0B, 0xF8, 0, 0⟩ 0).1 ≠ packetSwitch l ⟨0x0B, 0xF8, 0, 0⟩ 0 := by
  intro l
  rw [Ne, interpretUsbMidiMessage_control_iff l rfl, not_not]
  exact Or.inl rfl

/-! ## Large packets -/

/-- The loop over the events of a large packet. It ends at the first that is
none, and the bootloader ends everything. -/
def interpretLargePacket (l : Link) : List Received → Link × List EventPacket
  | [] => (l, [])
  | rx :: rxs =>
      if l.device.inBootloader then (l, [])
      else
        let res := interpretUsbMidiMessage l rx.packet rx.now
        if res.2 then
          let rest := interpretLargePacket res.1.1 rxs
          (rest.1, res.1.2 ++ rest.2)
        else res.1

theorem interpretUsbMidiMessage_valid (l : Link) (p : EventPacket) (now : UInt16) :
    (interpretUsbMidiMessage l p now).2 = decide (p.cin ≠ 0) := by
  unfold interpretUsbMidiMessage
  dsimp only
  by_cases h : p.cin = 0
  · simp [h]
  · rw [if_neg h]
    split_ifs <;> simp [h]

theorem receivePackets_inBootloader {l : Link} (h : l.device.inBootloader = true) :
    ∀ rxs : List Received, Machine.final receivePacket l rxs = l
      ∧ Machine.outputs receivePacket l rxs = []
  | [] => ⟨rfl, rfl⟩
  | rx :: rxs => by
      have hstep : receivePacket l rx = (l, []) := if_pos h
      rw [Machine.final_cons, Machine.outputs_cons, hstep]
      exact receivePackets_inBootloader h rxs

/-- A large packet is received like its events one by one, up to the first
that is none, as long as the missing `break` does not matter. -/
theorem interpretLargePacket_eq : ∀ {rxs : List Received} {l : Link},
    Machine.Along receivePacket (fun l rx => ¬DropsThrough l.device rx.packet) l
        (rxs.takeWhile fun rx => rx.packet.cin ≠ 0) →
      interpretLargePacket l rxs
        = (Machine.final receivePacket l (rxs.takeWhile fun rx => rx.packet.cin ≠ 0),
          Machine.outputs receivePacket l (rxs.takeWhile fun rx => rx.packet.cin ≠ 0))
  | [], _, _ => rfl
  | rx :: rxs, l, halong => by
      rw [interpretLargePacket]
      by_cases hboot : l.device.inBootloader = true
      · obtain ⟨hfinal, houtputs⟩ := receivePackets_inBootloader hboot
          ((rx :: rxs).takeWhile fun rx => rx.packet.cin ≠ 0)
        rw [if_pos hboot, hfinal, houtputs]
      · rw [if_neg hboot]
        dsimp only
        rw [interpretUsbMidiMessage_valid]
        by_cases hcin : rx.packet.cin = 0
        · -- nothing follows: the switch ignores such an event as well
          have hswitch : packetSwitch l rx.packet rx.now = (l, []) := by
            simp [packetSwitch, hcin]
          rw [if_neg (by simp [hcin]), List.takeWhile_cons_of_neg (by simp [hcin]),
            interpretUsbMidiMessage_of_ne l (by simp [hcin]), hswitch]
          rfl
        · rw [List.takeWhile_cons_of_pos (by simpa using hcin)] at halong ⊢
          obtain ⟨hagree, hrest⟩ := halong
          have hstep : receivePacket l rx = packetSwitch l rx.packet rx.now := if_neg hboot
          rw [hstep] at hrest
          rw [if_pos (by simp [hcin]), Machine.final_cons, Machine.outputs_cons, hstep,
            interpretUsbMidiMessage_eq hagree, interpretLargePacket_eq hrest]

end MidiFighter
