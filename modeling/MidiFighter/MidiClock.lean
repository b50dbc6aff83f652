import MidiFighter.Animations

/-!
# The flash counter and the MIDI clock

`display_flash_counter` is advanced by the timer interrupt, or by every third
MIDI clock packet while the clock is enabled. `midi_clock` clears the counter
when the clock takes over, but the packet switch enables the clock just
before it calls `midi_clock`: the counter goes on from where it was.

Packets of any kind and interrupts are interleaved. `flashCounter_run` gives
the counter after a run in closed form, from which `flashCounter_le_iff`
reads off when it is as small as a restarted one.
-/

namespace MidiFighter

/-! ## The machine -/

structure ClockedLink where
  engine : Engine
  receiver : Receiver

inductive ClockedEvent where
  | packet (rx : Received)
  | timer

namespace EventPacket

def IsClock (p : EventPacket) : Prop := p.cin = 0xF ∧ p.data1 = 0xF8

def IsClockStop (p : EventPacket) : Prop := p.cin = 0xF ∧ p.data1 = 0xFC

instance : DecidablePred IsClock := fun p => inferInstanceAs (Decidable (p.cin = 0xF ∧ _))

end EventPacket

/-- The outputs are the clock packets that were processed. -/
def clockedStep (s : ClockedLink) : ClockedEvent → ClockedLink × List Received
  | .packet rx =>
      let l := (receivePacket ⟨s.engine.device, s.receiver⟩ rx).1
      (⟨{ s.engine with device := l.device }, l.receiver⟩,
        if s.engine.device.inBootloader = false ∧ rx.packet.IsClock then [rx] else [])
  | .timer => ({ s with engine := timerOverflow s.engine }, [])

/-! ## One event -/

/-- The variables behind the flash counter. -/
structure FlashClock where
  midiClockEnabled : Bool
  ticks : UInt8
  displayFlashCounter : UInt16

def Device.flashClock (d : Device) : FlashClock :=
  ⟨d.midiClockEnabled, d.ticks, d.display.displayFlashCounter⟩

def FlashClock.clock (f : FlashClock) : FlashClock :=
  if f.ticks = 3 then ⟨true, 1, f.displayFlashCounter + 1⟩
  else ⟨true, f.ticks + 1, f.displayFlashCounter⟩

theorem FlashClock.clock_enabled (f : FlashClock) : f.clock.midiClockEnabled = true := by
  unfold FlashClock.clock
  split_ifs <;> rfl

theorem flashClock_of_display {d d' : Device} (henabled : d'.midiClockEnabled = d.midiClockEnabled)
    (hticks : d'.ticks = d.ticks) (hclocks : d'.display.clocks = d.display.clocks) :
    d'.flashClock = d.flashClock := by
  have hcounter := congrArg Prod.fst hclocks
  simp only [Display.clocks] at hcounter
  rw [Device.flashClock, henabled, hticks, hcounter]
  rfl

theorem call_flashClock (fn : SysExFn) (d : Device) (buffer : List UInt8) :
    (fn.call d buffer).1.flashClock = d.flashClock := by
  cases fn with
  | sysExCmdPushConfig =>
      obtain ⟨_, _, _, hpush, -⟩ := pushConfig_cases d buffer
      refine flashClock_of_display ?_ ?_ (pushConfig_clocks d buffer)
      · rw [SysExFn.call, hpush]
      · rw [SysExFn.call, hpush]
  | sysExCmdPullConfig =>
      rw [SysExFn.call]
      rcases pullConfig_cases d buffer with hpull | hpull <;> rw [hpull]
  | sysExCmdSystem =>
      rw [SysExFn.call]
      rcases system_cases d buffer with hsystem | hsystem | ⟨-, hsystem⟩ <;> rw [hsystem] <;>
        exact flashClock_of_display rfl rfl rfl
  | sysExCmdBulkXfer => rfl

theorem midiClock_flashClock {d : Device} (h : d.midiClockEnabled = true) :
    (midiClock d).flashClock = d.flashClock.clock := by
  have henabled : ¬d.midiClockEnabled = false := by rw [h]; decide
  rw [midiClock, if_neg henabled]
  by_cases hticks : d.flashClock.ticks = 3
  · rw [FlashClock.clock, if_pos hticks]
    exact (congrArg Device.flashClock (if_pos hticks)).trans (congrArg (FlashClock.mk · _ _) h)
  · rw [FlashClock.clock, if_neg hticks]
    exact (congrArg Device.flashClock (if_neg hticks)).trans (congrArg (FlashClock.mk · _ _) h)

/-- The switch enables the clock first, so `midi_clock` has nothing to
clear. -/
theorem receivePacket_clock {l : Link} {rx : Received} (hclock : rx.packet.IsClock)
    (hboot : l.device.inBootloader = false) :
    (receivePacket l rx).1.device.flashClock = l.device.flashClock.clock := by
  rw [receivePacket, hboot, if_neg Bool.false_ne_true, packetSwitch, if_pos hclock.1,
    handleRealTime, if_pos hclock.2]
  exact midiClock_flashClock rfl

theorem receivePacket_flashClock {l : Link} {rx : Received} (hclock : ¬rx.packet.IsClock)
    (hstop : ¬rx.packet.IsClockStop) (henabled : l.device.midiClockEnabled = true) :
    (receivePacket l rx).1.device.flashClock = l.device.flashClock := by
  refine receivePacket_device (P := fun d => d.flashClock = l.device.flashClock) rfl
    (fun hcin => ?_) (fun _ => ?_) (fun _ => ?_) (fun _ => ?_)
    fun fn _ _ buffer _ => call_flashClock fn l.device buffer
  · rw [handleRealTime, if_neg fun h => hclock ⟨hcin, h⟩]
    split_ifs with hstart hstop'
    · exact congrArg (FlashClock.mk · _ _) henabled.symm
    · exact absurd ⟨hcin, hstop'⟩ hstop
    · rfl
  · obtain ⟨_, _, hon⟩ := handleNoteOn_cases l.device rx.packet
    rw [hon]
    rfl
  · obtain ⟨_, _, hoff⟩ := handleNoteOff_cases l.device rx.packet rx.now
    rw [hoff]
    rfl
  · rcases handleControlChange_cases l.device rx.packet with hcc | ⟨-, bank, -, hcc⟩
    · rw [hcc]
    · rw [hcc]
      refine flashClock_of_display ?_ ?_ (changeBank_clocks l.device bank)
      · rw [changeBank_eq]
      · rw [changeBank_eq]

theorem timerOverflow_flashClock {e : Engine} (h : e.device.midiClockEnabled = true) :
    (timerOverflow e).device.flashClock = e.device.flashClock := by
  unfold timerOverflow Device.flashClock
  simp [h]

theorem clockedStep_cases {s : ClockedLink} {ev : ClockedEvent}
    (henabled : s.engine.device.midiClockEnabled = true)
    (hstop : ∀ rx, ev = .packet rx → ¬rx.packet.IsClockStop) :
    ((clockedStep s ev).2 = [] ∧
        (clockedStep s ev).1.engine.device.flashClock = s.engine.device.flashClock)
      ∨ (clockedStep s ev).2.length = 1 ∧
        (clockedStep s ev).1.engine.device.flashClock = s.engine.device.flashClock.clock := by
  cases ev with
  | timer => exact .inl ⟨rfl, timerOverflow_flashClock henabled⟩
  | packet rx =>
      by_cases hclock : s.engine.device.inBootloader = false ∧ rx.packet.IsClock
      · exact .inr ⟨congrArg List.length (if_pos hclock), receivePacket_clock hclock.2 hclock.1⟩
      · refine .inl ⟨if_neg hclock, ?_⟩
        by_cases hboot : s.engine.device.inBootloader = false
        · exact receivePacket_flashClock (fun h => hclock ⟨hboot, h⟩) (hstop rx rfl) henabled
        · rw [clockedStep, receivePacket, if_pos (Bool.eq_true_of_not_eq_false hboot)]

/-! ## Runs -/

/-- The clock packets before the next one that advances the counter. -/
def FlashClock.delay (f : FlashClock) : Nat := (3 - f.ticks).toNat

theorem FlashClock.clock_cases (f : FlashClock) :
    f.clock.displayFlashCounter = f.displayFlashCounter + 1 ∧ f.delay = 0 ∧ f.clock.delay = 2
      ∨ f.clock.displayFlashCounter = f.displayFlashCounter ∧ f.delay = f.clock.delay + 1 := by
  have hbytes : ∀ ticks : UInt8, ticks ≠ 3 → (3 - ticks).toNat = (3 - (ticks + 1)).toNat + 1 :=
    forall_byte (by decide +kernel)
  have htwo : (3 - (1 : UInt8)).toNat = 2 := by decide
  unfold FlashClock.clock FlashClock.delay
  split_ifs with hticks
  · exact .inl ⟨rfl, by rw [hticks]; rfl, htwo⟩
  · exact .inr ⟨rfl, hbytes f.ticks hticks⟩

def FlashClock.counterAfter (f : FlashClock) (n : Nat) : Nat :=
  (f.displayFlashCounter.toNat + (n + 2 - f.delay) / 3) % 65536

theorem FlashClock.counterAfter_clock (f : FlashClock) (n : Nat) :
    f.clock.counterAfter n = f.counterAfter (n + 1) := by
  have hone : (1 : UInt16).toNat = 1 := rfl
  unfold FlashClock.counterAfter
  rcases f.clock_cases with ⟨hcounter, hdelay, hdelay'⟩ | ⟨hcounter, hdelay⟩
  · rw [hcounter, hdelay, hdelay', UInt16.toNat_add, hone]
    omega
  · rw [hcounter, hdelay]
    omega

/-- Every third clock packet advances the counter, whatever comes between. -/
theorem flashCounter_run : ∀ {evs : List ClockedEvent} {s : ClockedLink},
    s.engine.device.midiClockEnabled = true →
    (∀ rx, .packet rx ∈ evs → ¬rx.packet.IsClockStop) →
    (Machine.final clockedStep s evs).engine.device.display.displayFlashCounter.toNat =
      s.engine.device.flashClock.counterAfter (Machine.outputs clockedStep s evs).length
  | [], s, _, _ => by
      have hlt := s.engine.device.display.displayFlashCounter.toNat_lt
      simp only [Machine.final_nil, Machine.outputs_nil, List.length_nil,
        FlashClock.counterAfter, Device.flashClock]
      omega
  | ev :: evs, s, henabled, hstop => by
      have hstop' : ∀ rx, .packet rx ∈ evs → ¬rx.packet.IsClockStop := fun rx hrx =>
        hstop rx (List.mem_cons_of_mem _ hrx)
      have hev : ∀ rx, ev = .packet rx → ¬rx.packet.IsClockStop := fun rx hrx =>
        hstop rx (hrx ▸ List.mem_cons_self ..)
      rw [Machine.final_cons, Machine.outputs_cons, List.length_append]
      rcases clockedStep_cases henabled hev with ⟨hout, hclock⟩ | ⟨hout, hclock⟩
      · have henabled' := (congrArg FlashClock.midiClockEnabled hclock).trans henabled
        rw [flashCounter_run henabled' hstop', hout, hclock, List.length_nil, Nat.zero_add]
      · have henabled' := congrArg FlashClock.midiClockEnabled hclock
        rw [FlashClock.clock_enabled] at henabled'
        rw [flashCounter_run henabled' hstop', hout, hclock, FlashClock.counterAfter_clock,
          Nat.add_comm 1]

/-- From the first clock packet on, the counter is as small as a restarted
one exactly if what it held before allows it. -/
theorem flashCounter_le_iff {s : ClockedLink} {first : Received} {evs : List ClockedEvent}
    (hboot : s.engine.device.inBootloader = false) (hfirst : first.packet.IsClock)
    (hstop : ∀ rx, .packet rx ∈ evs → ¬rx.packet.IsClockStop) :
    let d := s.engine.device
    let n := (Machine.outputs clockedStep s (.packet first :: evs)).length
    (Machine.final clockedStep s
        (.packet first :: evs)).engine.device.display.displayFlashCounter.toNat ≤ (n + 2) / 3 ↔
      (d.display.displayFlashCounter.toNat + (n + 2 - (3 - d.ticks).toNat) / 3) % 65536 ≤
        (n + 2) / 3 := by
  intro d n
  have hclock : (clockedStep s (.packet first)).1.engine.device.flashClock = d.flashClock.clock :=
    receivePacket_clock hfirst hboot
  have henabled := congrArg FlashClock.midiClockEnabled hclock
  rw [FlashClock.clock_enabled] at henabled
  have hn : n = (Machine.outputs clockedStep (clockedStep s (.packet first)).1 evs).length + 1 := by
    have hout : (clockedStep s (.packet first)).2 = [first] := if_pos ⟨hboot, hfirst⟩
    rw [show n = _ from congrArg List.length (Machine.outputs_cons ..), hout]
    rfl
  have hcounter : (Machine.final clockedStep s
      (.packet first :: evs)).engine.device.display.displayFlashCounter.toNat =
        d.flashClock.counterAfter n := by
    rw [Machine.final_cons, flashCounter_run henabled hstop, hclock,
      FlashClock.counterAfter_clock, ← hn]
  rw [hcounter]
  rfl

/-- After the boot the counter is 0, and so it stays below the bound. -/
theorem flashCounter_le_iff_boot :
    let s : ClockedLink := ⟨⟨Device.start darkStore, 0, 0, 0⟩, .boot⟩
    let clock : Received := ⟨0, ⟨0xF, 0xF8, 0, 0⟩⟩
    let n := (Machine.outputs clockedStep s [.packet clock, .timer, .packet clock]).length
    (Machine.final clockedStep s
      [.packet clock, .timer, .packet clock]).engine.device.display.displayFlashCounter.toNat
        ≤ (n + 2) / 3 := by
  intro s clock n
  have hstop : ∀ rx, .packet rx ∈ [ClockedEvent.timer, .packet clock] →
      ¬rx.packet.IsClockStop := by
    intro rx hrx
    obtain rfl : rx = clock := by simpa using hrx
    exact fun h => absurd h.2 (by decide)
  exact (flashCounter_le_iff rfl (by decide) hstop).mpr (by decide +kernel)

/-- With the timer's count at 100 when the clock takes over, the first clock
packet leaves it there. -/
theorem flashCounter_not_restarted :
    let d := Device.start darkStore
    let s : ClockedLink :=
      ⟨⟨{ d with display := { d.display with displayFlashCounter := 100 } }, 0, 0, 0⟩, .boot⟩
    let clock : Received := ⟨0, ⟨0xF, 0xF8, 0, 0⟩⟩
    let s' := Machine.final clockedStep s [.packet clock]
    s.engine.device.midiClockEnabled = false ∧
      (Machine.outputs clockedStep s [.packet clock]).length = 1 ∧
      s'.engine.device.midiClockEnabled = true ∧
      ¬s'.engine.device.display.displayFlashCounter.toNat ≤ (1 + 2) / 3 := by
  decide +kernel

end MidiFighter
