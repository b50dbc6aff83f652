import MidiFighter.Endpoints
import MidiFighter.Serial

/-!
# The firmware at the bus

The firmware, its two endpoints and the host as one machine. The host asks
for transactions and sends them when it likes, configures the device and
detaches it; a wait of the driver for the host may end in time or not.

Whatever the schedule, the firmware runs as it does alone, with the packets
of the host in their order. What the host gets are whole packets of the
firmware in their order, and with a host in time it has all of them after
each flush of `Midifighter_Task`.
-/

namespace MidiFighter

/-! ## State and events -/

structure Usb where
  firmware : Firmware
  /-- `USB_DeviceState == DEVICE_STATE_Configured`. -/
  configured : Bool
  dataIn : DataIn
  dataOut : DataOut

inductive UsbEvent where
  | timer0 (pins : BitVec 64)
  | timer1
  /-- The main loop goes on. A reply may be flushed after any of its packets;
  `sysExCmdBulkXfer` does it after each of its messages. -/
  | main (flushes : Nat → Bool)
  | inToken
  | outToken
  /-- `EVENT_USB_Device_ConfigurationChanged`. -/
  | configure
  | detach

def UsbEvent.keeps : UsbEvent → Bool
  | .configure | .detach => false
  | _ => true

/-- The main loop calls `MIDI_Device_ReceiveEventPacket`. -/
def Firmware.asks (f : Firmware) : Bool :=
  match f.pc with
  | .receive usbRxPackets _ =>
      !f.device.inBootloader && decide (usbRxPackets < usbRxPacketLimit)
  | _ => false

/-- The outputs of a step, with the flushes among them. The source flushes at
fixed places; here `flushes` may put one behind any output. -/
def withFlushes (flushes : Nat → Bool) (emits : List Emit) : List Emit :=
  emits.zipIdx.flatMap fun emit => if flushes emit.2 then [emit.1, .flush] else [emit.1]

def DataIn.emit (takes : Nat → Bool) (configured : Bool) (e : DataIn) : Emit → DataIn
  | .packet p => e.sendEventPacket takes configured p
  | .flush => e.flush takes configured
  | .leds _ => e

namespace Usb

section

variable (pulseLevel : UInt8 → UInt8) (nullColor : Rgb) (takes gives : Nat → Bool)

def receive (s : Usb) : Option EventPacket × DataOut :=
  if s.firmware.asks then s.dataOut.receiveEventPacket gives s.configured else (none, s.dataOut)

def event (s : Usb) : UsbEvent → Option FirmwareEvent
  | .timer0 pins => some (.timer0 pins)
  | .timer1 => some .timer1
  | .main _ => some (.main s.configured (s.receive gives).1)
  | .inToken | .outToken | .configure | .detach => none

def step (s : Usb) : UsbEvent → Usb × List Emit
  | .timer0 pins =>
      ({ s with firmware := (s.firmware.step pulseLevel nullColor (.timer0 pins)).1 }, [])
  | .timer1 => ({ s with firmware := (s.firmware.step pulseLevel nullColor .timer1).1 }, [])
  | .main flushes =>
      let (packet, dataOut) := s.receive gives
      let (firmware, emits) := s.firmware.step pulseLevel nullColor (.main s.configured packet)
      let dataIn := (withFlushes flushes emits).foldl (DataIn.emit takes s.configured) s.dataIn
      ({ s with firmware := firmware, dataIn := dataIn, dataOut := dataOut }, emits)
  | .inToken => ({ s with dataIn := if s.configured then s.dataIn.inToken else s.dataIn }, [])
  | .outToken => ({ s with dataOut := if s.configured then s.dataOut.outToken else s.dataOut }, [])
  | .configure =>
      ({ s with
          configured := true
          dataIn := s.dataIn.configure
          dataOut := s.dataOut.configure }, [])
  | .detach => ({ s with configured := false }, [])

def events (s : Usb) : List UsbEvent → List FirmwareEvent
  | [] => []
  | ev :: evs =>
      (s.event gives ev).toList ++ events (s.step pulseLevel nullColor takes gives ev).1 evs

end

/-- The device at power-on, with what the host is going to send. -/
def boot (store : Store) (pins : List (BitVec 64)) (random : Nat → UInt16)
    (inputEvent : EventPacket) (pending : List (List EventPacket)) (configured : Bool) : Usb :=
  { firmware := .boot store pins random
    configured := configured
    dataIn := .start
    dataOut := .start inputEvent (pending.map (List.flatMap EventPacket.bytes)) }

end Usb

/-! ## What is emitted -/

theorem packetsOf_append (emits emits' : List Emit) :
    packetsOf (emits ++ emits') = packetsOf emits ++ packetsOf emits' :=
  List.filterMap_append ..

@[simp] theorem packetsOf_flush (emits : List Emit) :
    packetsOf (.flush :: emits) = packetsOf emits := rfl

theorem packetsOf_withFlushes (flushes : Nat → Bool) (emits : List Emit) :
    packetsOf (withFlushes flushes emits) = packetsOf emits := by
  unfold withFlushes
  suffices h : ∀ n, packetsOf ((emits.zipIdx n).flatMap fun emit =>
      if flushes emit.2 then [emit.1, .flush] else [emit.1]) = packetsOf emits from h 0
  induction emits with
  | nil => exact fun _ => rfl
  | cons emit emits ih =>
      intro n
      have hone : packetsOf (if flushes n then [emit, .flush] else [emit]) = packetsOf [emit] := by
        split
        · rw [show [emit, .flush] = [emit] ++ [.flush] from rfl, packetsOf_append,
            packetsOf_flush]
          exact List.append_nil _
        · rfl
      rw [List.zipIdx_cons, List.flatMap_cons, packetsOf_append, ih, hone,
        show emit :: emits = [emit] ++ emits from rfl, packetsOf_append]

theorem getLast?_withFlushes (flushes : Nat → Bool) (emits : List Emit) :
    (withFlushes flushes (emits ++ [.flush])).getLast? = some .flush := by
  unfold withFlushes
  rw [List.zipIdx_append, List.flatMap_append, List.zipIdx_singleton, List.flatMap_singleton]
  dsimp only
  split
  · rw [List.getLast?_append]
    rfl
  · exact List.getLast?_concat

namespace DataIn

variable {takes : Nat → Bool} {configured : Bool} {prompt : Prop}

/-- Whatever the host does, a packet is added at the end or dropped; with a
prompt host it is added, and a flush leaves nothing under way. -/
theorem Represents.emit {e : DataIn} {b : Batch EventPacket} (h : Represents e b)
    (hconfigured : prompt → configured = true) (htakes : prompt → ∀ n, takes n = true)
    (emit : Emit) :
    ∃ b', Represents (e.emit takes configured emit) b' ∧
      b'.messages.Sublist (b.messages ++ packetsOf [emit]) ∧
        (prompt → b'.messages = b.messages ++ packetsOf [emit] ∧
          (emit = .flush → b'.filling = [])) := by
  cases configured with
  | false =>
      have hkept : e.emit takes false emit = e := by
        cases emit with
        | packet p => rfl
        | flush => rfl
        | leds pulses => rfl
      rw [hkept]
      exact ⟨b, h, List.sublist_append_left _ _,
        fun hprompt => absurd (hconfigured hprompt) Bool.false_ne_true⟩
  | true =>
      cases emit with
      | packet p =>
          refine ⟨_, h.sendEventPacket takes p, ?_, fun hprompt => ⟨?_, Emit.noConfusion⟩⟩
          · rcases Batch.messages_send bankPackets (takes e.waits) p b with hdropped | hadded
            · rw [hdropped]
              exact List.sublist_append_left _ _
            · rw [hadded]
              exact List.Sublist.refl _
          · rw [htakes hprompt]
            exact Batch.messages_send_of_inTime bankPackets p b
      | flush =>
          have hnone : packetsOf [.flush] = [] := rfl
          refine ⟨_, h.flush takes, ?_, fun hprompt => ?_⟩
          · rw [Batch.messages_flush, hnone, List.append_nil]
          · rw [htakes hprompt, Batch.messages_flush, hnone, List.append_nil]
            exact ⟨rfl, fun _ => Batch.filling_flush b⟩
      | leds pulses =>
          have hnone : packetsOf [.leds pulses] = [] := rfl
          refine ⟨b, h, ?_, fun _ => ⟨?_, Emit.noConfusion⟩⟩
          · rw [hnone, List.append_nil]
          · rw [hnone, List.append_nil]

theorem Represents.emits (hconfigured : prompt → configured = true)
    (htakes : prompt → ∀ n, takes n = true) :
    ∀ (emits : List Emit) {e : DataIn} {b : Batch EventPacket}, Represents e b →
      ∃ b', Represents (emits.foldl (DataIn.emit takes configured) e) b' ∧
        b'.messages.Sublist (b.messages ++ packetsOf emits) ∧
          (prompt → b'.messages = b.messages ++ packetsOf emits ∧
            (emits.getLast? = some .flush → b'.filling = []))
  | [], e, b, h =>
      ⟨b, h, List.sublist_append_left _ _,
        fun _ => ⟨(List.append_nil _).symm, fun hlast => absurd hlast.symm (Option.some_ne_none _)⟩⟩
  | [emit], e, b, h => by
      obtain ⟨b', h', hmessages, hprompt⟩ := h.emit hconfigured htakes emit
      refine ⟨b', h', hmessages, fun hp => ⟨(hprompt hp).1, fun hlast => ?_⟩⟩
      exact (hprompt hp).2 (Option.some.inj hlast)
  | emit :: emit' :: emits, e, b, h => by
      obtain ⟨b', h', hmessages, hprompt⟩ := h.emit hconfigured htakes emit
      obtain ⟨b'', h'', hmessages', hprompt'⟩ :=
        Represents.emits hconfigured htakes (emit' :: emits) h'
      rw [show emit :: emit' :: emits = [emit] ++ (emit' :: emits) from rfl, packetsOf_append,
        ← List.append_assoc]
      refine ⟨b'', h'', hmessages'.trans (hmessages.append_right _), fun hp => ?_⟩
      rw [← (hprompt hp).1]
      refine ⟨(hprompt' hp).1, fun hlast => (hprompt' hp).2 ?_⟩
      rwa [List.singleton_append, List.getLast?_cons_cons] at hlast

end DataIn

/-! ## The flush -/

/-- Between the flush of a poll and the next packet. -/
def Firmware.Flushed (f : Firmware) : Prop := f.pc ∈ [.check, .store, Pc.bank]

instance (f : Firmware) : Decidable f.Flushed := inferInstanceAs (Decidable (_ ∈ _))

/-- Only the flush leads there. -/
theorem Firmware.PcStep.flushed {f : Firmware} {configured : Bool} {pc : Pc} {keys : Keys}
    (h : PcStep f configured pc keys) (hpc : pc ∈ [.check, .store, Pc.bank]) :
    f.device.inBootloader = true ∨ f.pc ∈ [.combos, .check, Pc.store] := by
  cases h with
  | halt hboot => exact Or.inl hboot
  | wait hstart hnot => exact absurd hpc (by decide)
  | begin hstart => exact absurd hpc (by decide)
  | fail hreceive hpackets hfails => simp at hpc
  | packet hreceive hpackets => simp at hpc
  | startRead hreceive => exact absurd hpc (by decide)
  | read hread =>
      split at hpc
      · simp at hpc
      · exact absurd hpc (by decide)
  | calculate hcalculate => exact absurd hpc (by decide)
  | serve hserve =>
      split at hpc
      · simp at hpc
      · exact absurd hpc (by decide)
  | point hfollows =>
      right
      generalize f.pc = pc' at hfollows
      simp only [Follows, List.mem_cons, Prod.mk.injEq, List.not_mem_nil, or_false]
        at hfollows hpc ⊢
      grind

theorem Firmware.mainStep_flushed (pulseLevel : UInt8 → UInt8) (nullColor : Rgb) (f : Firmware)
    (configured : Bool) (packet : Option EventPacket)
    (h : (f.mainStep pulseLevel nullColor configured packet).1.Flushed) :
    f.Flushed ∧ (f.mainStep pulseLevel nullColor configured packet).2 = [] ∨
      ∃ emits, (f.mainStep pulseLevel nullColor configured packet).2 = emits ++ [.flush] := by
  have hpc := (mainStep_pcStep pulseLevel nullColor f configured packet).flushed h
  by_cases hboot : f.device.inBootloader = true
  · rw [mainStep, if_pos hboot] at h ⊢
    exact Or.inl ⟨h, rfl⟩
  · rw [mainStep, if_neg hboot]
    have hcases : f.pc = .combos ∨ f.pc = .check ∨ f.pc = .store := by
      simpa using hpc.resolve_left hboot
    rcases hcases with hpc | hpc | hpc
    · rw [hpc]
      exact Or.inr ⟨_, rfl⟩
    · rw [hpc]
      exact Or.inl ⟨by rw [Flushed, hpc]; decide, rfl⟩
    · rw [hpc]
      exact Or.inl ⟨by rw [Flushed, hpc]; decide, rfl⟩

namespace Usb

section

variable (pulseLevel : UInt8 → UInt8) (nullColor : Rgb) (takes gives : Nat → Bool)

/-! ## The run of the firmware -/

/-- What is received is taken: the main loop does not ask in vain. -/
theorem taken_receive (s : Usb) (configured : Bool) :
    s.firmware.taken (.main configured (s.receive gives).1) = (s.receive gives).1.toList := by
  by_cases hasks : s.firmware.asks = true
  · obtain ⟨usbRxPackets, usbRxFailCount, hpc, hrunning, hlimit⟩ :
        ∃ usbRxPackets usbRxFailCount, s.firmware.pc = .receive usbRxPackets usbRxFailCount ∧
          s.firmware.device.inBootloader = false ∧ usbRxPackets < usbRxPacketLimit := by
      unfold Firmware.asks at hasks
      split at hasks
      · rename_i usbRxPackets usbRxFailCount hpc
        rw [Bool.and_eq_true, Bool.not_eq_true', decide_eq_true_eq] at hasks
        exact ⟨usbRxPackets, usbRxFailCount, hpc, hasks⟩
      · exact absurd hasks Bool.false_ne_true
    simp only [Firmware.taken, hpc, hrunning, Bool.false_eq_true, false_or, ge_iff_le,
      Nat.not_le.mpr hlimit, if_false]
  · rw [receive, if_neg hasks]
    unfold Firmware.taken
    dsimp only
    split
    · split
      · rfl
      · rfl
    · rfl

theorem step_firmware (s : Usb) (ev : UsbEvent) :
    (s.step pulseLevel nullColor takes gives ev).1.firmware =
        Machine.final (Firmware.step pulseLevel nullColor) s.firmware (s.event gives ev).toList ∧
      (s.step pulseLevel nullColor takes gives ev).2 =
        Machine.outputs (Firmware.step pulseLevel nullColor) s.firmware
          (s.event gives ev).toList := by
  cases ev with
  | timer0 pins => exact ⟨rfl, rfl⟩
  | timer1 => exact ⟨rfl, rfl⟩
  | main flushes => exact ⟨rfl, (List.append_nil _).symm⟩
  | inToken => exact ⟨rfl, rfl⟩
  | outToken => exact ⟨rfl, rfl⟩
  | configure => exact ⟨rfl, rfl⟩
  | detach => exact ⟨rfl, rfl⟩

theorem run_firmware : ∀ (evs : List UsbEvent) (s : Usb),
    (Machine.final (step pulseLevel nullColor takes gives) s evs).firmware =
        Machine.final (Firmware.step pulseLevel nullColor) s.firmware
          (s.events pulseLevel nullColor takes gives evs) ∧
      Machine.outputs (step pulseLevel nullColor takes gives) s evs =
        Machine.outputs (Firmware.step pulseLevel nullColor) s.firmware
          (s.events pulseLevel nullColor takes gives evs)
  | [], s => ⟨rfl, rfl⟩
  | ev :: evs, s => by
      obtain ⟨hfirmware, hemits⟩ := step_firmware pulseLevel nullColor takes gives s ev
      obtain ⟨hfinal, houtputs⟩ := run_firmware evs (s.step pulseLevel nullColor takes gives ev).1
      rw [Machine.final_cons, Machine.outputs_cons, hfinal, houtputs, events, Machine.final_append,
        Machine.outputs_append, hfirmware, hemits]
      exact ⟨rfl, rfl⟩

/-! ## What is carried -/

/-- `packets` have been sent and `taken` received of what the host had. -/
structure Carries (prompt : Prop) (pending : List (List EventPacket))
    (packets taken : List EventPacket) (s : Usb) : Prop where
  configured : prompt → s.configured = true
  dataIn : ∃ b, s.dataIn.Represents b ∧ b.messages.Sublist packets ∧
    (prompt → b.messages = packets ∧ (s.firmware.Flushed → b.filling = []))
  dataOut : ∃ i, s.dataOut.Represents i ∧ (taken ++ i.batches.flatten).Sublist pending.flatten ∧
    (prompt → taken ++ Inbox.readable i.batches = Inbox.readable pending)

variable {prompt : Prop} {pending : List (List EventPacket)} {packets taken : List EventPacket}
  {s : Usb}

theorem Carries.receive (h : Carries prompt pending packets taken s) :
    ∃ i, (s.receive gives).2.Represents i ∧
      (taken ++ (s.receive gives).1.toList ++ i.batches.flatten).Sublist pending.flatten ∧
        (prompt → taken ++ (s.receive gives).1.toList ++ Inbox.readable i.batches =
          Inbox.readable pending) := by
  obtain ⟨i, hi, hsublist, hreadable⟩ := h.dataOut
  have hnone : ∃ i, s.dataOut.Represents i ∧
      (taken ++ (none : Option EventPacket).toList ++ i.batches.flatten).Sublist pending.flatten ∧
        (prompt → taken ++ (none : Option EventPacket).toList ++ Inbox.readable i.batches =
          Inbox.readable pending) := by
    rw [Option.toList_none, List.append_nil]
    exact h.dataOut
  unfold Usb.receive
  split
  · cases hconfigured : s.configured with
    | false => exact hnone
    | true =>
        obtain ⟨hpacket, hrest⟩ := hi.receiveEventPacket gives
        refine ⟨i.read.2, hrest, ?_, fun hprompt => ?_⟩
        · rw [hpacket, List.append_assoc, ← Inbox.flatten_read]
          exact hsublist
        · rw [hpacket, List.append_assoc, ← Inbox.readable_read]
          exact hreadable hprompt
  · exact hnone

theorem Carries.step (h : Carries prompt pending packets taken s) (ev : UsbEvent)
    (htakes : prompt → ∀ n, takes n = true) (hkeeps : prompt → ev.keeps = true) :
    Carries prompt pending (packets ++ packetsOf (s.step pulseLevel nullColor takes gives ev).2)
      (taken ++ (s.event gives ev).toList.flatMap s.firmware.taken)
      (s.step pulseLevel nullColor takes gives ev).1 := by
  -- All events but the turns of the main loop are silent.
  have hquiet : ∀ {s' : Usb}, Carries prompt pending packets taken s' →
      Carries prompt pending (packets ++ []) (taken ++ []) s' := by
    intro s' h'
    rwa [List.append_nil, List.append_nil]
  obtain ⟨b, hb, hmessages, hall⟩ := h.dataIn
  obtain ⟨i, hi, hsublist, hreadable⟩ := h.dataOut
  cases ev with
  | timer0 pins => exact hquiet ⟨h.configured, h.dataIn, h.dataOut⟩
  | timer1 => exact hquiet ⟨h.configured, h.dataIn, h.dataOut⟩
  | inToken =>
      refine hquiet ⟨h.configured, ?_, h.dataOut⟩
      dsimp only [Usb.step]
      split
      · refine ⟨b.take, hb.inToken, ?_, ?_⟩
        · rwa [Batch.messages_take]
        · rw [Batch.messages_take]
          refine fun hprompt => ⟨(hall hprompt).1, fun hf => ?_⟩
          exact Batch.filling_take ((hall hprompt).2 hf)
      · exact h.dataIn
  | outToken =>
      refine hquiet ⟨h.configured, h.dataIn, ?_⟩
      dsimp only [Usb.step]
      split
      · refine ⟨i.arrive, hi.outToken, ?_⟩
        rw [Inbox.batches_arrive]
        exact ⟨hsublist, hreadable⟩
      · exact h.dataOut
  | configure =>
      have hnever : ¬prompt := fun hprompt => Bool.false_ne_true (hkeeps hprompt)
      refine hquiet ⟨fun _ => rfl, ?_, ?_⟩
      · exact ⟨b.reset, hb.configure, (Batch.messages_reset b).trans hmessages,
          fun hprompt => absurd hprompt hnever⟩
      · exact ⟨i.reset, hi.configure, ((Inbox.flatten_reset i).append_left taken).trans hsublist,
          fun hprompt => absurd hprompt hnever⟩
  | detach =>
      exact hquiet ⟨fun hprompt => absurd (hkeeps hprompt) Bool.false_ne_true, h.dataIn,
        h.dataOut⟩
  | main flushes =>
      have hevent : (s.event gives (.main flushes)).toList.flatMap s.firmware.taken =
          (s.receive gives).1.toList :=
        (List.flatMap_singleton ..).trans (s.taken_receive gives s.configured)
      rw [hevent]
      refine ⟨h.configured, ?_, h.receive gives⟩
      have hflushed := s.firmware.mainStep_flushed pulseLevel nullColor s.configured
        (s.receive gives).1
      dsimp only [Usb.step, Firmware.step]
      generalize s.firmware.mainStep pulseLevel nullColor s.configured (s.receive gives).1 =
        turn at hflushed ⊢
      obtain ⟨f, emits⟩ := turn
      dsimp only at hflushed ⊢
      by_cases hnone : emits = []
      · subst hnone
        rw [show packets ++ packetsOf [] = packets from List.append_nil _]
        refine ⟨b, hb, hmessages, fun hprompt => ⟨(hall hprompt).1, fun hf => ?_⟩⟩
        obtain ⟨hbefore, -⟩ | ⟨emits', hemits⟩ := hflushed hf
        · exact (hall hprompt).2 hbefore
        · exact absurd hemits.symm (List.append_ne_nil_of_right_ne_nil _ (List.cons_ne_nil _ _))
      · obtain ⟨b', hb', hmessages', hall'⟩ :=
          hb.emits h.configured htakes (withFlushes flushes emits)
        rw [packetsOf_withFlushes] at hmessages' hall'
        refine ⟨b', hb', hmessages'.trans (hmessages.append_right _),
          fun hprompt => ⟨?_, fun hf => ?_⟩⟩
        · rw [(hall' hprompt).1, (hall hprompt).1]
        · obtain ⟨-, hemits⟩ | ⟨emits', rfl⟩ := hflushed hf
          · exact absurd hemits hnone
          · exact (hall' hprompt).2 (getLast?_withFlushes flushes emits')

theorem boot_carries (prompt : Prop) (store : Store) (pins : List (BitVec 64))
    (random : Nat → UInt16) (inputEvent : EventPacket) (pending : List (List EventPacket))
    (configured : Bool) (hconfigured : prompt → configured = true) :
    Carries prompt pending [] [] (boot store pins random inputEvent pending configured) :=
  ⟨hconfigured, ⟨_, DataIn.start_represents, List.Sublist.refl _, fun _ => ⟨rfl, fun _ => rfl⟩⟩,
    ⟨_, DataOut.start_represents inputEvent pending, List.Sublist.refl _, fun _ => rfl⟩⟩

theorem takenAlong_event (f : Firmware) (evs : List FirmwareEvent) : ∀ ev : Option FirmwareEvent,
    f.takenAlong pulseLevel nullColor (ev.toList ++ evs) =
      ev.toList.flatMap f.taken ++ (Machine.final (Firmware.step pulseLevel nullColor) f
        ev.toList).takenAlong pulseLevel nullColor evs
  | none => rfl
  | some ev => by
      rw [Option.toList_some, List.flatMap_singleton]
      rfl

theorem Carries.run (htakes : prompt → ∀ n, takes n = true) : ∀ (evs : List UsbEvent) {s : Usb}
    {packets taken : List EventPacket}, Carries prompt pending packets taken s →
      (prompt → ∀ ev ∈ evs, ev.keeps = true) →
        Carries prompt pending
          (packets ++ packetsOf (Machine.outputs (Usb.step pulseLevel nullColor takes gives) s evs))
          (taken ++ s.firmware.takenAlong pulseLevel nullColor
            (s.events pulseLevel nullColor takes gives evs))
          (Machine.final (Usb.step pulseLevel nullColor takes gives) s evs)
  | [], s, packets, taken, h, _ => by
      rw [show packets ++ packetsOf (Machine.outputs _ s []) = packets from List.append_nil _,
        events, Firmware.takenAlong, List.append_nil]
      exact h
  | ev :: evs, s, packets, taken, h, hkeeps => by
      have hstep := h.step pulseLevel nullColor takes gives ev htakes
        fun hprompt => hkeeps hprompt ev List.mem_cons_self
      have hrun := Carries.run htakes evs hstep
        fun hprompt ev' hev => hkeeps hprompt ev' (List.mem_cons_of_mem _ hev)
      rw [Machine.outputs_cons, packetsOf_append, events, takenAlong_event, ← List.append_assoc,
        ← List.append_assoc, ← (step_firmware pulseLevel nullColor takes gives s ev).1]
      exact hrun

/-! ## The exchange with the host -/

/-- **A prompt host misses nothing.** If the host comes in time whenever the
driver waits and leaves the configuration alone, it gets the packets of the
firmware without a gap, and all of them by the end of each flush. The firmware
takes the packets of the host without a gap, up to a transaction without
packets, and all of these when nothing is under way. -/
theorem exchange_complete (store : Store) (pins : List (BitVec 64)) (random : Nat → UInt16)
    (inputEvent : EventPacket) (pending : List (List EventPacket)) (evs : List UsbEvent)
    (htakes : ∀ n, takes n = true) (hkeeps : ∀ ev ∈ evs, ev.keeps = true) :
    let start := boot store pins random inputEvent pending true
    let s := Machine.final (step pulseLevel nullColor takes gives) start evs
    let run := start.events pulseLevel nullColor takes gives evs
    let sent := packetsOf (Machine.outputs (Firmware.step pulseLevel nullColor) start.firmware run)
    let taken := start.firmware.takenAlong pulseLevel nullColor run
    (∃ received : List EventPacket, received <+: sent ∧
        s.dataIn.transactions.flatten = received.flatMap EventPacket.bytes) ∧
      (s.firmware.Flushed → s.dataIn.transactions.flatten = sent.flatMap EventPacket.bytes) ∧
      taken <+: Inbox.readable pending ∧
      (s.dataOut.bank = none → s.dataOut.pending = [] → taken = Inbox.readable pending) := by
  intro start s run sent taken
  obtain ⟨-, houtputs⟩ := run_firmware pulseLevel nullColor takes gives evs start
  have hcarries := (boot_carries True store pins random inputEvent pending true
    fun _ => rfl).run pulseLevel nullColor takes gives (fun _ => htakes) evs fun _ => hkeeps
  obtain ⟨b, hb, -, hall⟩ := hcarries.dataIn
  obtain ⟨i, hi, -, hreadable⟩ := hcarries.dataOut
  obtain ⟨hmessages, hflushed⟩ := hall trivial
  have hsent : b.received ++ b.filling = sent := by
    rw [List.nil_append, houtputs] at hmessages
    exact hmessages
  have htaken : taken ++ Inbox.readable i.batches = Inbox.readable pending := hreadable trivial
  refine ⟨⟨b.received, ⟨b.filling, hsent⟩, hb.received⟩, fun hf => ?_, ⟨_, htaken⟩,
    fun hbank hpending => ?_⟩
  · rw [← hsent, hflushed hf, List.append_nil]
    exact hb.received
  · have hbatch : i.batch = none := Option.map_eq_none_iff.mp (hi.bank.symm.trans hbank)
    have hnone : i.pending = [] := List.map_eq_nil_iff.mp (hi.pending.symm.trans hpending)
    rw [← htaken, Inbox.batches, hbatch, hnone]
    exact (List.append_nil _).symm

end

/-- The host sends a note, and the receive loop takes it. -/
theorem exchange_complete_note :
    let note := notePacket 2 36 true 100
    let start := boot Firmware.plainStore [] (fun _ => 0) ⟨0, 0, 0, 0⟩ [[note]] true
    start.firmware.takenAlong id ⟨0, 0, 0⟩ (start.events id ⟨0, 0, 0⟩ (fun _ => true)
      (fun _ => true) [.outToken, .main fun _ => false, .main fun _ => false]) = [note] := by
  have hrun := exchange_complete id ⟨0, 0, 0⟩ (fun _ => true) (fun _ => true) Firmware.plainStore []
    (fun _ => 0) ⟨0, 0, 0, 0⟩ [[notePacket 2 36 true 100]]
    [.outToken, .main fun _ => false, .main fun _ => false] (fun _ => rfl) (by decide)
  exact hrun.2.2.2 (by decide +kernel) (by decide +kernel)

end Usb

end MidiFighter
