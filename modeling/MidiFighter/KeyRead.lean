import MidiFighter.Firmware

/-!
# Reading the keys under interrupts

`key_read` ands the ten slots of the debounce buffer together, byte by byte,
and the key timer may write a slot in between. What it finds is then a mix
of two states of the buffer. The interrupt writes one slot, and the bits of
a key are all in the same byte of their slots, so for one key the mix is
none: it was read before the slot was written, and the read is one of the
old buffer, or after, and it is one of the new (`keyRead_linearizable`).
This takes an interrupt that comes once during a read at most.
-/

namespace MidiFighter

namespace Firmware

/-! ## One byte -/

theorem getLsbD_byteMask {b k : Nat} (hb : b < 8) (hk : k < 64) :
    (0xFF#64 <<< (8 * b)).getLsbD k = decide (k / 8 = b) := by
  have hmask : ∀ b : Fin 8, ∀ k : Fin 64,
      (0xFF#64 <<< (8 * (b : Nat))).getLsbD k = decide ((k : Nat) / 8 = b) := by decide +kernel
  exact hmask ⟨b, hb⟩ ⟨k, hk⟩

theorem getLsbD_readByte (f : Firmware) (n : Nat) {k : Nat} (hk : k < 64) :
    (f.readByte n).keys.gKeyState.getLsbD k = true ↔ f.keys.gKeyState.getLsbD k = true ∧
      (k / 8 = n % 8 → (f.scanner.gKeyDebounceBuffer (n / 8)).getLsbD k = true) := by
  have hmask := getLsbD_byteMask (Nat.mod_lt n (by decide)) hk
  have hstate : (f.readByte n).keys.gKeyState = f.keys.gKeyState &&&
      (f.scanner.gKeyDebounceBuffer (n / 8) ||| ~~~(0xFF#64 <<< (8 * (n % 8)))) := rfl
  rw [hstate, BitVec.getLsbD_and, BitVec.getLsbD_or, BitVec.getLsbD_not, hmask]
  by_cases hbyte : k / 8 = n % 8 <;> simp [hbyte, hk]

def PressedIn (buffer : Nat → BitVec 64) (n k : Nat) : Prop :=
  ∀ j < debounceBufferSize, 8 * j + k / 8 < n → (buffer j).getLsbD k = true

theorem pressedIn_zero (buffer : Nat → BitVec 64) (k : Nat) : PressedIn buffer 0 k :=
  fun _ _ h => absurd h (Nat.not_lt_zero _)

theorem pressedIn_succ {buffer : Nat → BitVec 64} {n k : Nat} (hn : n < 8 * debounceBufferSize)
    (hk : k < 64) :
    PressedIn buffer (n + 1) k ↔ PressedIn buffer n k ∧
      (k / 8 = n % 8 → (buffer (n / 8)).getLsbD k = true) := by
  constructor
  · intro h
    refine ⟨fun j hj hlt => h j hj (by omega), fun hbyte => h (n / 8) ?_ ?_⟩
    · exact Nat.div_lt_of_lt_mul hn
    · omega
  · rintro ⟨hbefore, hlast⟩ j hj hlt
    by_cases heq : 8 * j + k / 8 = n
    · have hslot : n / 8 = j := by omega
      have hbyte := hlast (by omega)
      rwa [hslot] at hbyte
    · exact hbefore j hj (by omega)

theorem pressedIn_all (keys : Keys) (buffer : Nat → BitVec 64) {k : Nat} (hk : k < 64) :
    PressedIn buffer (8 * debounceBufferSize) k ↔
      (keyRead keys (Cells.slice buffer 0 debounceBufferSize)).gKeyState.getLsbD k = true := by
  rw [keyRead_getLsbD keys _ hk]
  have hcells : (∀ v ∈ Cells.slice buffer 0 debounceBufferSize, v.getLsbD k = true) ↔
      ∀ j < debounceBufferSize, (buffer j).getLsbD k = true := by
    simp [Cells.slice]
  rw [hcells]
  exact ⟨fun h j hj => h j hj (by omega), fun h j hj _ => h j hj⟩

/-! ## One interrupt -/

/-- A write to a slot whose byte of key `k` is still to be read does not
change what has been read so far. -/
theorem pressedIn_update {buffer buffer' : Nat → BitVec 64} {pos n k : Nat}
    (hsame : ∀ j, j ≠ pos → buffer' j = buffer j) (hpos : n ≤ 8 * pos + k / 8) :
    PressedIn buffer' n k ↔ PressedIn buffer n k := by
  have hslot : ∀ j, 8 * j + k / 8 < n → buffer' j = buffer j := fun j hlt => hsame j (by omega)
  constructor
  · intro h j hj hlt
    rw [← hslot j hlt]
    exact h j hj hlt
  · intro h j hj hlt
    rw [hslot j hlt]
    exact h j hj hlt

def isMain : FirmwareEvent → Bool
  | .main .. => true
  | .timer0 _ | .timer1 => false

def isTimer0 : FirmwareEvent → Bool
  | .timer0 _ => true
  | .timer1 | .main .. => false

def readPc (n : Nat) : Pc := if n < 8 * debounceBufferSize then .read n else .calculate

section

variable (pulseLevel : UInt8 → UInt8) (nullColor : Rgb)

/-- A read of `n` bytes for key `k`, begun with `buffer`. After the interrupt
the read belongs to the old buffer if it has passed the written slot, and to
the new one if not. -/
structure Reading (buffer : Nat → BitVec 64) (k n interrupts : Nat) (f : Firmware) : Prop where
  running : f.device.inBootloader = false
  pc : f.pc = readPc n
  bit : interrupts = 0 ∧ f.scanner.gKeyDebounceBuffer = buffer ∧
      (f.keys.gKeyState.getLsbD k = true ↔ PressedIn buffer n k) ∨
    interrupts = 1 ∧ ∃ pos, (∀ j, j ≠ pos → f.scanner.gKeyDebounceBuffer j = buffer j) ∧
      (8 * pos + k / 8 < n ∧ (f.keys.gKeyState.getLsbD k = true ↔ PressedIn buffer n k) ∨
        (f.keys.gKeyState.getLsbD k = true ↔ PressedIn f.scanner.gKeyDebounceBuffer n k))

variable {buffer : Nat → BitVec 64} {k n : Nat} {f : Firmware}

theorem Reading.readByte {interrupts : Nat} (h : Reading buffer k n interrupts f)
    (hn : n < 8 * debounceBufferSize) (hk : k < 64) :
    Reading buffer k (n + 1) interrupts (f.readByte n) := by
  refine ⟨h.running, rfl, ?_⟩
  rcases h.bit with ⟨hnone, hbuffer, hbit⟩ | ⟨hone, pos, hsame, ⟨hpast, hbit⟩ | hbit⟩
  · refine Or.inl ⟨hnone, hbuffer, ?_⟩
    rw [getLsbD_readByte f n hk, pressedIn_succ hn hk, hbit, hbuffer]
  · refine Or.inr ⟨hone, pos, hsame, Or.inl ⟨by omega, ?_⟩⟩
    -- the written slot is behind, so this byte is the old one
    have hslot : k / 8 = n % 8 → f.scanner.gKeyDebounceBuffer (n / 8) = buffer (n / 8) :=
      fun hbyte => hsame _ (by omega)
    rw [getLsbD_readByte f n hk, pressedIn_succ hn hk, hbit]
    exact and_congr_right fun _ => forall_congr' fun hbyte => by rw [hslot hbyte]
  · refine Or.inr ⟨hone, pos, hsame, Or.inr ?_⟩
    rw [getLsbD_readByte f n hk, hbit]
    exact (pressedIn_succ hn hk).symm

theorem Reading.timer0 (h : Reading buffer k n 0 f) (pins : BitVec 64) :
    Reading buffer k n 1 { f with scanner := timer0Ovf f.scanner pins } := by
  refine ⟨h.running, h.pc, Or.inr ⟨rfl, f.scanner.bufferPos.toNat, ?_⟩⟩
  obtain ⟨-, hbuffer, hbit⟩ | ⟨hone, -⟩ := h.bit
  · have hsame : ∀ j, j ≠ f.scanner.bufferPos.toNat →
        (timer0Ovf f.scanner pins).gKeyDebounceBuffer j = buffer j := by
      intro j hj
      rw [timer0Ovf, ← hbuffer]
      exact Function.update_of_ne hj _ _
    refine ⟨hsame, ?_⟩
    by_cases hpast : 8 * f.scanner.bufferPos.toNat + k / 8 < n
    · exact Or.inl ⟨hpast, hbit⟩
    · refine Or.inr (hbit.trans ?_)
      exact (pressedIn_update hsame (by omega)).symm
  · exact absurd hone (by decide)

theorem Reading.step {interrupts : Nat} (h : Reading buffer k n interrupts f) (hk : k < 64)
    (ev : FirmwareEvent) (hn : n + (if isMain ev then 1 else 0) ≤ 8 * debounceBufferSize)
    (hone : interrupts + (if isTimer0 ev then 1 else 0) ≤ 1) :
    Reading buffer k (n + (if isMain ev then 1 else 0))
      (interrupts + (if isTimer0 ev then 1 else 0)) (f.step pulseLevel nullColor ev).1 := by
  cases ev with
  | timer0 pins =>
      obtain rfl : interrupts = 0 := by simpa [isTimer0] using hone
      exact h.timer0 pins
  | timer1 => exact ⟨h.running, h.pc, h.bit⟩
  | main configured packet =>
      have hlt : n < 8 * debounceBufferSize := hn
      have hpc : f.pc = .read n := by rw [h.pc, readPc, if_pos hlt]
      have hstep : (f.step pulseLevel nullColor (.main configured packet)).1 = f.readByte n := by
        simp only [Firmware.step, mainStep, h.running, hpc]
        rfl
      rw [hstep]
      exact h.readByte hlt hk

theorem Reading.run (hstart : Reading buffer k 0 0 f) (hk : k < 64) (evs : List FirmwareEvent)
    (hbytes : evs.countP isMain ≤ 8 * debounceBufferSize) (hone : evs.countP isTimer0 ≤ 1) :
    Reading buffer k (evs.countP isMain) (evs.countP isTimer0)
      (Machine.final (Firmware.step pulseLevel nullColor) f evs) := by
  have halong : Machine.Along (Firmware.step pulseLevel nullColor) (fun _ _ => True) f evs :=
    Machine.along_true
  have hrun := Machine.final_history
    (fun evs f => evs.countP isMain ≤ 8 * debounceBufferSize → evs.countP isTimer0 ≤ 1 →
      Reading buffer k (evs.countP isMain) (evs.countP isTimer0) f)
    (fun before f ev hf _ hbytes hone => by
      rw [List.countP_append, List.countP_singleton] at hbytes hone ⊢
      rw [List.countP_append, List.countP_singleton]
      exact (hf (by omega) (by omega)).step pulseLevel nullColor hk ev hbytes hone)
    (h := []) (fun _ _ => hstart) halong
  exact hrun hbytes hone

theorem startRead_reading (hrunning : f.device.inBootloader = false) (hk : k < 64) :
    Reading f.scanner.gKeyDebounceBuffer k 0 0 f.startRead := by
  have hones : f.startRead.keys.gKeyState.getLsbD k = true := by
    rw [show f.startRead.keys.gKeyState = BitVec.allOnes 64 from rfl, BitVec.getLsbD_allOnes]
    exact decide_eq_true hk
  exact ⟨hrunning, rfl, Or.inl ⟨rfl, rfl, iff_of_true hones (pressedIn_zero _ k)⟩⟩

/-- **`key_read` is atomic for every key.** With one interrupt of the key
timer during the read at most, wherever it comes, what is read of a key is
what a read without interrupts finds before it or after it. -/
theorem keyRead_linearizable (f : Firmware) (hrunning : f.device.inBootloader = false)
    (evs : List FirmwareEvent) (hbytes : evs.countP isMain = 8 * debounceBufferSize)
    (hone : evs.countP isTimer0 ≤ 1) {k : Nat} (hk : k < 64) :
    let f' := Machine.final (step pulseLevel nullColor) f.startRead evs
    let read := fun f : Firmware =>
      (keyRead f.keys (Cells.slice f.scanner.gKeyDebounceBuffer 0 debounceBufferSize)).gKeyState
    f'.pc = .calculate ∧ (f'.keys.gKeyState.getLsbD k = (read f).getLsbD k ∨
      f'.keys.gKeyState.getLsbD k = (read f').getLsbD k) := by
  intro f' read
  have hrun : Reading f.scanner.gKeyDebounceBuffer k _ _ f' :=
    (startRead_reading hrunning hk).run pulseLevel nullColor hk evs hbytes.le hone
  have hall : ∀ g : Firmware, PressedIn g.scanner.gKeyDebounceBuffer (8 * debounceBufferSize) k ↔
      (read g).getLsbD k = true := fun g => pressedIn_all g.keys _ hk
  rw [hbytes] at hrun
  refine ⟨hrun.pc, ?_⟩
  rcases hrun.bit with ⟨-, -, hbit⟩ | ⟨-, _, -, ⟨-, hbit⟩ | hbit⟩
  · exact Or.inl (Bool.eq_iff_iff.mpr (hbit.trans (hall f)))
  · exact Or.inl (Bool.eq_iff_iff.mpr (hbit.trans (hall f)))
  · exact Or.inr (Bool.eq_iff_iff.mpr (hbit.trans (hall f')))

end

/-- Key 5 is held, and its tenth sample comes in the middle of the read. -/
theorem keyRead_linearizable_tenth :
    let store : Store := ⟨fun _ => 1, 0, fun _ => 0, ⟨fun _ => 0, fun _ => 0⟩⟩
    let f := boot store (List.replicate 9 0x20) fun _ => 0
    let half := List.replicate 40 (FirmwareEvent.main true none)
    let f' := Machine.final (step id ⟨0, 0, 0⟩) f.startRead (half ++ .timer0 0x20 :: half)
    f'.keys.gKeyState.getLsbD 5 = true ∧ f'.pc = .calculate ∧
      (f'.keys.gKeyState.getLsbD 5 = (keyRead f.keys
          (Cells.slice f.scanner.gKeyDebounceBuffer 0 debounceBufferSize)).gKeyState.getLsbD 5 ∨
        f'.keys.gKeyState.getLsbD 5 = (keyRead f'.keys
          (Cells.slice f'.scanner.gKeyDebounceBuffer 0 debounceBufferSize)).gKeyState.getLsbD 5) :=
  ⟨by decide +kernel, keyRead_linearizable id ⟨0, 0, 0⟩ _ (by decide +kernel) _ (by decide +kernel)
    (by decide +kernel) (by decide)⟩

end Firmware

end MidiFighter
