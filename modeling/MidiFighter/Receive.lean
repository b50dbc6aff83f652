import MidiFighter.Config
import MidiFighter.SysexRoundTrip

/-!
# Incoming packets

The packet switch of `Midifighter_GetIncomingUsbMidiMessages`. It works on
the device and on the sysex receiver; the effects of the receiver
(`SysexEffect`) are run on the device here, and what the device sends is
the output of the step.

For the sysex packets the switch factors through the receiver: as long as
no handler enters the bootloader, the device after a list of packets is
the device on which the calls the receiver makes were run in order
(`receivePackets_sysex`).
-/

namespace MidiFighter

structure Link where
  device : Device
  receiver : Receiver

def runEffect (d : Device) : SysexEffect SysExFn → Device × List EventPacket
  | .store _ _ => (d, [])
  | .handle _ => (d, [])
  | .command fn _ _ buffer => fn.call d buffer
  | .send packets => (d, packets)

def receiveSysex (l : Link) (inputEvent : EventPacket) : Link × List EventPacket :=
  let res := sysexStep configSetup l.receiver inputEvent
  (⟨Machine.final runEffect l.device res.2, res.1⟩, Machine.outputs runEffect l.device res.2)

def packetSwitch (l : Link) (inputEvent : EventPacket) (now : UInt16) :
    Link × List EventPacket :=
  if inputEvent.cin = 0xF then ({ l with device := handleRealTime l.device inputEvent }, [])
  else if inputEvent.cin = 0x9 then ({ l with device := handleNoteOn l.device inputEvent }, [])
  else if inputEvent.cin = 0x8 then
    ({ l with device := handleNoteOff l.device inputEvent now }, [])
  else if inputEvent.cin = 0xB then
    ({ l with device := handleControlChange l.device inputEvent }, [])
  else if inputEvent.cin = 0x4 ∨ inputEvent.cin = 0x5 ∨ inputEvent.cin = 0x6
      ∨ inputEvent.cin = 0x7 then
    receiveSysex l inputEvent
  else (l, [])

/-- A packet, received at some time. Nothing is received in the
bootloader. -/
structure Received where
  now : UInt16
  packet : EventPacket
deriving Repr, DecidableEq

def receivePacket (l : Link) (rx : Received) : Link × List EventPacket :=
  if l.device.inBootloader then (l, []) else packetSwitch l rx.packet rx.now

/-! ## Sysex packets -/

def EventPacket.IsSysex (p : EventPacket) : Prop :=
  p.cin = 0x4 ∨ p.cin = 0x5 ∨ p.cin = 0x6 ∨ p.cin = 0x7

theorem packetSwitch_sysex {l : Link} {p : EventPacket} (h : p.IsSysex) (now : UInt16) :
    packetSwitch l p now = receiveSysex l p := by
  unfold packetSwitch
  rcases h with h | h | h | h <;> simp [h]

theorem call_inBootloader {fn : SysExFn} (hfn : fn ≠ .sysExCmdSystem) (d : Device)
    (buffer : List UInt8) : (fn.call d buffer).1.inBootloader = d.inBootloader := by
  cases fn with
  | sysExCmdPushConfig =>
      obtain ⟨_, _, _, hpush, -⟩ := pushConfig_cases d buffer
      rw [SysExFn.call, hpush]
  | sysExCmdPullConfig =>
      rw [SysExFn.call]
      rcases pullConfig_cases d buffer with hpull | hpull <;> rw [hpull]
  | sysExCmdSystem => exact absurd rfl hfn
  | sysExCmdBulkXfer => rfl

def runCall (d : Device) (call : CommandCall SysExFn) : Device × List EventPacket :=
  call.fn.call d call.buffer

theorem runEffects_eq : ∀ (effects : List (SysexEffect SysExFn)) (d : Device),
    Machine.final runEffect d effects
      = Machine.final runCall d (effects.filterMap SysexEffect.call?)
  | [], _ => rfl
  | .store _ _ :: effects, d => runEffects_eq effects d
  | .handle _ :: effects, d => runEffects_eq effects d
  | .send _ :: effects, d => runEffects_eq effects d
  | .command fn _ _ buffer :: effects, d => runEffects_eq effects (fn.call d buffer).1

theorem runCalls_inBootloader {calls : List (CommandCall SysExFn)} {d : Device}
    (hboot : d.inBootloader = false) (h : ∀ call ∈ calls, call.fn ≠ .sysExCmdSystem) :
    (Machine.final runCall d calls).inBootloader = false := by
  have halong : Machine.Along runCall (fun _ call => call.fn ≠ .sysExCmdSystem) d calls :=
    Machine.along_of_forall_mem h
  exact Machine.final_invariant (fun d : Device => d.inBootloader = false)
    (fun d call hd hfn => (call_inBootloader hfn d call.buffer).trans hd) hboot halong

/-- Sysex packets reach the device through the calls the receiver makes. -/
theorem receivePackets_sysex : ∀ {rxs : List Received} {l : Link},
    l.device.inBootloader = false → (∀ rx ∈ rxs, rx.packet.IsSysex) →
    (∀ call ∈ (Machine.outputs (sysexStep configSetup) l.receiver
        (rxs.map Received.packet)).filterMap SysexEffect.call?, call.fn ≠ .sysExCmdSystem) →
      Machine.final receivePacket l rxs =
        ⟨Machine.final runCall l.device ((Machine.outputs (sysexStep configSetup) l.receiver
            (rxs.map Received.packet)).filterMap SysexEffect.call?),
          Machine.final (sysexStep configSetup) l.receiver (rxs.map Received.packet)⟩
  | [], _, _, _, _ => rfl
  | rx :: rxs, l, hboot, hsysex, hcalls => by
      rw [List.forall_mem_cons] at hsysex
      rw [List.map_cons, Machine.outputs_cons, List.filterMap_append,
        List.forall_mem_append] at hcalls
      have hstep : receivePacket l rx = receiveSysex l rx.packet := by
        rw [receivePacket, hboot, packetSwitch_sysex hsysex.1]
        rfl
      have hdevice := runEffects_eq (sysexStep configSetup l.receiver rx.packet).2 l.device
      have hboot' : (receiveSysex l rx.packet).1.device.inBootloader = false := by
        rw [receiveSysex, hdevice]
        exact runCalls_inBootloader hboot hcalls.1
      rw [Machine.final_cons, hstep, receivePackets_sysex hboot' hsysex.2 hcalls.2,
        List.map_cons, Machine.outputs_cons, List.filterMap_append, Machine.final_append,
        ← hdevice]
      rfl

theorem sysexHandle_calls_le {Fn : Type} (sysExCommandMap : Nat → Option Fn) (r : Receiver)
    (length : UInt8) :
    ((sysexHandle sysExCommandMap r length).filterMap SysexEffect.call?).length ≤ 1 := by
  refine (List.length_filterMap_le ..).trans ?_
  unfold sysexHandle
  dsimp only
  split
  · split
    · split <;> simp
    · simp
  · split
    · split <;> simp
    · simp

theorem sysexStep_calls {Fn : Type} (sysExCommandMap : Nat → Option Fn) (r : Receiver)
    (p : EventPacket) :
    ((sysexStep sysExCommandMap r p).2.filterMap SysexEffect.call?).length ≤ 1 := by
  have hcases := sysexStep_cases sysExCommandMap r p
  generalize sysexStep sysExCommandMap r p = res at hcases ⊢
  cases hcases with
  | idle => exact Nat.zero_le 1
  | start => exact Nat.zero_le 1
  | reject => exact Nat.zero_le 1
  | append => rw [storesAt_calls]; exact Nat.zero_le 1
  | discard => exact Nat.zero_le 1
  | finish =>
      rw [Receiver.process, List.filterMap_append, storesAt_calls, List.nil_append]
      split
      · exact sysexHandle_calls_le ..
      · exact Nat.zero_le 1

/-! ## Invariants of the device -/

/-- A property of the device survives a packet when each case of the switch
keeps it; in the sysex cases that is the handler the packet calls. -/
theorem packetSwitch_device {P : Device → Prop} {l : Link} {p : EventPacket} {now : UInt16}
    (h : P l.device)
    (hreal : p.cin = 0xF → P (handleRealTime l.device p))
    (hon : p.cin = 0x9 → P (handleNoteOn l.device p))
    (hoff : p.cin = 0x8 → P (handleNoteOff l.device p now))
    (hcontrol : p.cin = 0xB → P (handleControlChange l.device p))
    (hcall : ∀ fn command length buffer,
      .command fn command length buffer ∈ (sysexStep configSetup l.receiver p).2 →
      P (fn.call l.device buffer).1) :
    P (packetSwitch l p now).1.device := by
  unfold packetSwitch
  split_ifs with h15 h9 h8 h11 hsysex
  · exact hreal h15
  · exact hon h9
  · exact hoff h8
  · exact hcontrol h11
  · rw [receiveSysex]
    dsimp only
    rw [runEffects_eq]
    have hone := sysexStep_calls configSetup l.receiver p
    generalize heffects : (sysexStep configSetup l.receiver p).2 = effects at hone hcall ⊢
    match hcalls : effects.filterMap SysexEffect.call?, hone with
    | [], _ => exact h
    | [call], _ =>
        have hmem : call ∈ effects.filterMap SysexEffect.call? := by
          rw [hcalls]
          exact List.mem_singleton_self call
        obtain ⟨e, he, hsome⟩ := List.mem_filterMap.mp hmem
        cases e with
        | command fn command length buffer =>
            obtain rfl := Option.some.inj hsome
            exact hcall fn command length buffer he
        | store | handle | send => cases hsome
  · exact h

theorem receivePacket_device {P : Device → Prop} {l : Link} {rx : Received} (h : P l.device)
    (hreal : rx.packet.cin = 0xF → P (handleRealTime l.device rx.packet))
    (hon : rx.packet.cin = 0x9 → P (handleNoteOn l.device rx.packet))
    (hoff : rx.packet.cin = 0x8 → P (handleNoteOff l.device rx.packet rx.now))
    (hcontrol : rx.packet.cin = 0xB → P (handleControlChange l.device rx.packet))
    (hcall : ∀ fn command length buffer,
      .command fn command length buffer ∈ (sysexStep configSetup l.receiver rx.packet).2 →
      P (fn.call l.device buffer).1) :
    P (receivePacket l rx).1.device := by
  unfold receivePacket
  split
  · exact h
  · exact packetSwitch_device h hreal hon hoff hcontrol hcall

/-- A packet either reaches the sysex receiver, or it is not answered and
leaves settings and colours alone. -/
theorem receivePacket_cases (l : Link) (rx : Received) :
    receivePacket l rx = receiveSysex l rx.packet
      ∨ (receivePacket l rx).2 = []
        ∧ (receivePacket l rx).1.device.store = l.device.store := by
  unfold receivePacket packetSwitch
  split_ifs
  · exact Or.inr ⟨rfl, rfl⟩
  · obtain ⟨_, _, _, hclock⟩ := handleRealTime_cases l.device rx.packet
    rw [hclock]
    exact Or.inr ⟨rfl, rfl⟩
  · obtain ⟨_, _, hon⟩ := handleNoteOn_cases l.device rx.packet
    rw [hon]
    exact Or.inr ⟨rfl, rfl⟩
  · obtain ⟨_, _, hoff⟩ := handleNoteOff_cases l.device rx.packet rx.now
    rw [hoff]
    exact Or.inr ⟨rfl, rfl⟩
  · rcases handleControlChange_cases l.device rx.packet with hcc | ⟨-, _, -, hcc⟩
    · rw [hcc]
      exact Or.inr ⟨rfl, rfl⟩
    · rw [hcc, changeBank_eq]
      exact Or.inr ⟨rfl, rfl⟩
  · exact Or.inl rfl
  · exact Or.inr ⟨rfl, rfl⟩

/-! ## Replies -/

theorem midiStreamSysex_cin {length : UInt8} {data : List UInt8} :
    ∀ p ∈ midiStreamSysex length data, p.cin < 8 :=
  midiStreamSysexLoop_cin

/-- The receiver itself sends nothing but the identity reply. -/
theorem sysexStep_send {Fn : Type} {sysExCommandMap : Nat → Option Fn} {r : Receiver}
    {p : EventPacket} {packets : List EventPacket}
    (h : .send packets ∈ (sysexStep sysExCommandMap r p).2) :
    packets = midiStreamSysex (UInt8.ofNat identifyPayload.length) identifyPayload := by
  have hstore : ∀ {ptr : Option Nat} {bs : List UInt8},
      (.send packets : SysexEffect Fn) ∉ storesAt ptr bs := by
    intro ptr bs hmem
    obtain ⟨_, _, heq⟩ := mem_storesAt hmem
    cases heq
  have hcases := sysexStep_cases sysExCommandMap r p
  generalize sysexStep sysExCommandMap r p = res at hcases h
  cases hcases with
  | idle => cases h
  | start => cases h
  | reject => cases h
  | discard => cases h
  | append => exact absurd h hstore
  | @finish _ _ _ _ _ _ r₀ _ =>
      rcases List.mem_append.mp h with h | h
      · exact absurd h hstore
      · split at h
        · rcases List.mem_cons.mp h with h | h
          · cases h
          · rcases mem_sysexHandle h with ⟨_, -, -, heq⟩ | heq
            · cases heq
            · exact SysexEffect.send.inj heq
        · cases List.mem_singleton.mp h

theorem bulkPullLoop_cin {tag : UInt8} {source : Nat → UInt8} {total : Nat} :
    ∀ {parts : List Nat} {bytesRemaining index : Nat},
      ∀ p ∈ bulkPullLoop tag source total parts bytesRemaining index, p.cin < 8
  | part :: parts, _, _, p, hp => by
      rcases List.mem_append.mp hp with hp | hp
      · exact midiStreamSysex_cin p hp
      · exact bulkPullLoop_cin p hp

theorem call_cin (fn : SysExFn) (d : Device) (buffer : List UInt8) :
    ∀ p ∈ (fn.call d buffer).2, p.cin < 8 := by
  intro p hp
  cases fn with
  | sysExCmdPushConfig => exact midiStreamSysex_cin p hp
  | sysExCmdPullConfig =>
      rw [SysExFn.call] at hp
      rcases pullConfig_cases d buffer with hpull | hpull
      · rw [hpull] at hp
        exact midiStreamSysex_cin p hp
      · rw [hpull] at hp
        cases hp
  | sysExCmdSystem =>
      rw [SysExFn.call] at hp
      rcases system_cases d buffer with hsystem | hsystem | ⟨-, hsystem⟩
      · rw [hsystem] at hp
        cases hp
      · rw [hsystem] at hp
        cases hp
      · rw [hsystem] at hp
        exact midiStreamSysex_cin p hp
  | sysExCmdBulkXfer =>
      unfold SysExFn.call sysExCmdBulkXfer bulkPull at hp
      dsimp only at hp
      split at hp
      · split_ifs at hp
        iterate 2 cases hp
        iterate 2 exact bulkPullLoop_cin p hp
        iterate 2 cases hp
      · cases hp

theorem receivePacket_cin (l : Link) (rx : Received) :
    ∀ p ∈ (receivePacket l rx).2, p.cin < 8 := by
  intro p hp
  unfold receivePacket packetSwitch at hp
  split_ifs at hp
  iterate 5 cases hp
  · obtain ⟨pre, e, post, heq, hp⟩ := Machine.mem_outputs.mp hp
    have he : e ∈ (sysexStep configSetup l.receiver rx.packet).2 := by
      rw [heq]
      simp
    cases e with
    | store => cases hp
    | handle => cases hp
    | command fn _ _ buffer => exact call_cin fn _ buffer p hp
    | send packets =>
        rw [runEffect, sysexStep_send he] at hp
        exact midiStreamSysex_cin p hp
  · cases hp

theorem call_noteTables (fn : SysExFn) (d : Device) (buffer : List UInt8) :
    (fn.call d buffer).1.gMidiNoteState = d.gMidiNoteState
      ∧ (fn.call d buffer).1.gMidiNoteOffCounter = d.gMidiNoteOffCounter := by
  cases fn with
  | sysExCmdPushConfig =>
      obtain ⟨_, _, _, hpush, -⟩ := pushConfig_cases d buffer
      rw [SysExFn.call, hpush]
      exact ⟨rfl, rfl⟩
  | sysExCmdPullConfig =>
      rw [SysExFn.call]
      rcases pullConfig_cases d buffer with hpull | hpull <;> rw [hpull] <;> exact ⟨rfl, rfl⟩
  | sysExCmdSystem =>
      rw [SysExFn.call]
      rcases system_cases d buffer with hsystem | hsystem | ⟨-, hsystem⟩ <;> rw [hsystem] <;>
        exact ⟨rfl, rfl⟩
  | sysExCmdBulkXfer => exact ⟨rfl, rfl⟩

/-! ## The selected bank -/

theorem call_bank_of_ne {fn : SysExFn} (hfn : fn ≠ .sysExCmdPushConfig) (d : Device)
    (buffer : List UInt8) : (fn.call d buffer).1.gBankSelected = d.gBankSelected := by
  cases fn with
  | sysExCmdPushConfig => exact absurd rfl hfn
  | sysExCmdPullConfig =>
      rw [SysExFn.call]
      rcases pullConfig_cases d buffer with hpull | hpull <;> rw [hpull]
  | sysExCmdSystem =>
      rw [SysExFn.call]
      rcases system_cases d buffer with hsystem | hsystem | ⟨-, hsystem⟩ <;> rw [hsystem]
  | sysExCmdBulkXfer => rfl

theorem call_bank_cases (fn : SysExFn) (d : Device) (buffer : List UInt8) :
    (fn.call d buffer).1.gBankSelected = d.gBankSelected
      ∨ (fn.call d buffer).1.gBankSelected = 0 := by
  by_cases hfn : fn = .sysExCmdPushConfig
  · subst hfn
    obtain ⟨bank, _, _, hpush, hbank⟩ := pushConfig_cases d buffer
    rw [SysExFn.call, hpush]
    exact hbank
  · exact Or.inl (call_bank_of_ne hfn d buffer)

theorem call_bank (fn : SysExFn) {d : Device} (h : d.gBankSelected ≤ 1) (buffer : List UInt8) :
    (fn.call d buffer).1.gBankSelected ≤ 1 := by
  rcases call_bank_cases fn d buffer with hbank | hbank
  · rw [hbank]
    exact h
  · rw [hbank]
    decide

theorem receivePacket_bank {l : Link} (h : l.device.gBankSelected ≤ 1) (rx : Received) :
    (receivePacket l rx).1.device.gBankSelected ≤ 1 := by
  refine receivePacket_device (P := fun d => d.gBankSelected ≤ 1) h ?_ ?_ ?_ ?_
    (fun fn _ _ buffer _ => call_bank fn h buffer)
  · intro _
    obtain ⟨_, _, _, hclock⟩ := handleRealTime_cases l.device rx.packet
    rw [hclock]
    exact h
  · intro _
    obtain ⟨_, _, hon⟩ := handleNoteOn_cases l.device rx.packet
    rw [hon]
    exact h
  · intro _
    obtain ⟨_, _, hoff⟩ := handleNoteOff_cases l.device rx.packet rx.now
    rw [hoff]
    exact h
  · intro _
    rcases handleControlChange_cases l.device rx.packet with hcc | ⟨-, thisBank, hbank, hcc⟩
    · rw [hcc]
      exact h
    · rw [hcc, changeBank_eq]
      exact hbank

end MidiFighter
