import MidiFighter.Cells
import MidiFighter.Keys
import MidiFighter.Pairing
import MidiFighter.Ring

/-!
# Debouncing

The timer interrupt of `key.c` reads the 64 keys once a millisecond and
writes the sample to a ring of ten; `key_read` and `key_calc` look at the
ring at any time in between. The interrupt runs to its end before a poll
and not inside it.

`key_read` ignores the write position, so what it sees is the last ten
samples, the zeros of power-on included (`Sampled`). The edges `key_calc`
finds are those of the debounced state (`keyCalc_tracks`).
-/

namespace MidiFighter

open Pairing

/-! ## The timer interrupt -/

def debounceBufferSize : Nat := 10

/-- The loop of the interrupt: `value` and `bit` after the readings of the
key pin so far. Reading `i` is bit `i` of `pins`. -/
def shiftKey (pins : BitVec 64) (s : BitVec 64 × BitVec 64) (i : Nat) : BitVec 64 × BitVec 64 :=
  (s.1 ||| (if pins.getLsbD i then 0 else s.2), s.2 <<< 1)

def shiftKeys (pins : BitVec 64) : BitVec 64 :=
  ((List.range 64).foldl (shiftKey pins) (0, 1)).1

/-- The key globals with the statics of the interrupt. -/
structure Scanner where
  gKeyDebounceBuffer : Nat → BitVec 64
  bufferPos : UInt8
  systemTimeMs : UInt16
  keys : Keys

def Scanner.boot : Scanner := ⟨fun _ => 0, 0, 0, .boot⟩

def timer0Ovf (s : Scanner) (pins : BitVec 64) : Scanner :=
  { s with
    gKeyDebounceBuffer :=
      Function.update s.gKeyDebounceBuffer s.bufferPos.toNat (~~~shiftKeys pins)
    bufferPos := UInt8.ofNat ((s.bufferPos.toNat + 1) % debounceBufferSize)
    systemTimeMs := s.systemTimeMs + 1 }

def pollKeys (s : Scanner) : Scanner :=
  { s with
    keys := keyCalc (keyRead s.keys (Cells.slice s.gKeyDebounceBuffer 0 debounceBufferSize)) }

inductive ScanEvent where
  | timer (pins : BitVec 64)
  | poll
deriving Repr, DecidableEq

/-- The output of a poll is what it leaves in the key globals. -/
def scanStep (s : Scanner) : ScanEvent → Scanner × List Keys
  | .timer pins => (timer0Ovf s pins, [])
  | .poll => (pollKeys s, [(pollKeys s).keys])

/-! ## Samples -/

theorem shiftKeys_loop (pins : BitVec 64) : ∀ n ≤ 64,
    ((List.range n).foldl (shiftKey pins) (0, 1)).2 = (1 : BitVec 64) <<< n
      ∧ ∀ k, ((List.range n).foldl (shiftKey pins) (0, 1)).1.getLsbD k
        = (decide (k < n) && !pins.getLsbD k)
  | 0, _ => ⟨rfl, fun k => by simp⟩
  | n + 1, hn => by
      obtain ⟨hbit, hvalue⟩ := shiftKeys_loop pins n (by omega)
      rw [List.range_succ, List.foldl_append, List.foldl_cons, List.foldl_nil]
      generalize (List.range n).foldl (shiftKey pins) (0, 1) = s at hbit hvalue ⊢
      refine ⟨?_, fun k => ?_⟩
      · rw [shiftKey, hbit, BitVec.shiftLeft_add]
      · have hset := getLsbD_keyBit (i := n) (by omega) k
        rw [keyBit, ← hbit] at hset
        rw [shiftKey, BitVec.getLsbD_or, hvalue]
        by_cases hk : k = n
        · subst hk
          cases pins.getLsbD k <;> simp [hset]
        · have hlt : k < n + 1 ↔ k < n := by omega
          split <;> simp [hset, hk, hlt]

/-- The buttons are inverted: what is stored has a bit set where the pin was
high. -/
theorem shiftKeys_not (pins : BitVec 64) : ~~~shiftKeys pins = pins := by
  refine BitVec.eq_of_getLsbD_eq fun k hk => ?_
  rw [BitVec.getLsbD_not, shiftKeys, (shiftKeys_loop pins 64 le_rfl).2]
  simp [hk]

def samples (events : List ScanEvent) : List (BitVec 64) :=
  events.filterMap fun
    | .timer pins => some pins
    | .poll => none

/-- The buffer holds the last samples, and `key_calc` has caught up with
`key_read`. -/
structure Sampled (events : List ScanEvent) (s : Scanner) : Prop where
  pos : s.bufferPos.toNat = (samples events).length % debounceBufferSize
  ring : Ring.Holds debounceBufferSize
    (List.replicate debounceBufferSize 0 ++ samples events) s.gKeyDebounceBuffer
  prev : s.keys.gKeyPrevState = s.keys.gKeyState

theorem scanStep_sampled {events : List ScanEvent} {s : Scanner} (h : Sampled events s)
    (e : ScanEvent) : Sampled (events ++ [e]) (scanStep s e).1 := by
  cases e with
  | timer pins =>
      have hsamples : samples (events ++ [.timer pins]) = samples events ++ [pins] := by
        simp [samples]
      have hpos : (List.replicate debounceBufferSize (0 : BitVec 64) ++ samples events).length
          % debounceBufferSize = s.bufferPos.toNat := by
        rw [List.length_append, List.length_replicate, Nat.add_mod_left, h.pos]
      refine ⟨?_, ?_, h.prev⟩
      · rw [hsamples, List.length_append, List.length_singleton, ← Nat.mod_add_mod, ← h.pos]
        refine UInt8.toNat_ofNat_of_lt' ?_
        exact lt_trans (Nat.mod_lt _ (by decide)) (by decide : debounceBufferSize < 256)
      · have hring := h.ring.write pins
        rw [hpos, List.append_assoc] at hring
        rw [hsamples, scanStep, timer0Ovf, shiftKeys_not]
        exact hring
  | poll =>
      have hsamples : samples (events ++ [.poll]) = samples events := by simp [samples]
      refine ⟨?_, ?_, rfl⟩
      · rw [hsamples]
        exact h.pos
      · rw [hsamples]
        exact h.ring

theorem scanRun_sampled (events : List ScanEvent) :
    Sampled events (Machine.final scanStep .boot events) := by
  have hboot : Sampled [] Scanner.boot := ⟨rfl, Ring.Holds.replicate debounceBufferSize 0, rfl⟩
  exact Machine.final_history Sampled (fun _ _ e hs _ => scanStep_sampled hs e) hboot
    Machine.along_true

/-- A poll finds the keys that are pressed in each of the last ten samples. -/
theorem pollKeys_state {events : List ScanEvent} {s : Scanner} (h : Sampled events s) {k : Nat}
    (hk : k < 64) :
    (pollKeys s).keys.gKeyState.getLsbD k = true
      ↔ debounceBufferSize ≤ (samples events).length
        ∧ ∀ v ∈ (samples events).drop ((samples events).length - debounceBufferSize),
          v.getLsbD k = true := by
  have hcells : (∀ v ∈ Cells.slice s.gKeyDebounceBuffer 0 debounceBufferSize,
        v.getLsbD k = true)
      ↔ ∀ i < debounceBufferSize, (s.gKeyDebounceBuffer i).getLsbD k = true := by
    simp [Cells.slice]
  have hread := keyRead_getLsbD s.keys (Cells.slice s.gKeyDebounceBuffer 0 debounceBufferSize) hk
  rw [hcells, h.ring.forall_iff fun v => v.getLsbD k = true,
    Ring.forall_padded_iff (P := fun v : BitVec 64 => v.getLsbD k = true) _ (by simp)] at hread
  exact hread

/-! ## Edges -/

def keyEdge? (k : Nat) (keys : Keys) : Option (Edge Unit) :=
  if keys.gKeyDown.getLsbD k then some (.rise ())
  else if keys.gKeyUp.getLsbD k then some (.fall ())
  else none

/-- A pressed key, as a rise that is still to fall. -/
def pressed (keyState : BitVec 64) (k : Nat) : Option Unit :=
  if keyState.getLsbD k then some () else none

theorem keyCalc_tracks (keys : Keys) (k : Nat) :
    Tracks (pressed keys.gKeyPrevState k) ([keyCalc keys].filterMap (keyEdge? k))
      (pressed (keyCalc keys).gKeyPrevState k) := by
  have hprev : (keyCalc keys).gKeyPrevState = keys.gKeyState := rfl
  rw [List.filterMap_cons, List.filterMap_nil, keyEdge?, keyCalc_down, keyCalc_up, hprev]
  unfold pressed
  cases keys.gKeyPrevState.getLsbD k with
  | false =>
      cases keys.gKeyState.getLsbD k with
      | false => exact .nil _
      | true => exact .rise_one ()
  | true =>
      cases keys.gKeyState.getLsbD k with
      | false => exact .fall_one ()
      | true => exact .nil _

theorem scanStep_tracks (s : Scanner) (e : ScanEvent) (k : Nat) :
    Tracks (pressed s.keys.gKeyPrevState k) ((scanStep s e).2.filterMap (keyEdge? k))
      (pressed (scanStep s e).1.keys.gKeyPrevState k) := by
  cases e with
  | timer pins => exact .nil _
  | poll =>
      exact keyCalc_tracks
        (keyRead s.keys (Cells.slice s.gKeyDebounceBuffer 0 debounceBufferSize)) k

theorem scanRun_tracks (events : List ScanEvent) (k : Nat) :
    Tracks none ((Machine.outputs scanStep .boot events).filterMap (keyEdge? k))
      (pressed (Machine.final scanStep .boot events).keys.gKeyState k) := by
  have halong : Machine.Along scanStep (fun _ _ => True) .boot events := Machine.along_true
  have hrun := outputs_tracks (fun _ => True) (fun s : Scanner => pressed s.keys.gKeyPrevState k)
    (keyEdge? k) (fun _ _ _ _ => trivial) (fun s e _ _ => scanStep_tracks s e k) trivial halong
  have hboot : pressed Scanner.boot.keys.gKeyPrevState k = none := by
    simp [pressed, Scanner.boot, Keys.boot]
  rw [hboot, (scanRun_sampled events).prev] at hrun
  exact hrun

/-- **Debouncing.** In every run of timer interrupts and polls from boot: a
poll finds a key pressed iff there are ten samples and the key is pressed
in each of the last ten; no key goes down and up in one poll; and the
events of a key alternate, starting with a down, with one more down than
ups exactly while the key is pressed. -/
theorem debounce_edges (events : List ScanEvent) :
    (∀ k < 64, (Machine.final scanStep .boot (events ++ [.poll])).keys.gKeyState.getLsbD k = true
        ↔ debounceBufferSize ≤ (samples events).length
          ∧ ∀ v ∈ (samples events).drop ((samples events).length - debounceBufferSize),
            v.getLsbD k = true)
      ∧ (Machine.final scanStep .boot (events ++ [.poll])).keys.gKeyDown
          &&& (Machine.final scanStep .boot (events ++ [.poll])).keys.gKeyUp = 0
      ∧ ∀ k < 64,
        let edges := (Machine.outputs scanStep .boot events).filterMap (keyEdge? k)
        Paired edges
          ∧ edges.countP Edge.isRise = edges.countP Edge.isFall
            + if (Machine.final scanStep .boot events).keys.gKeyState.getLsbD k then 1 else 0 := by
  have hpoll : Machine.final scanStep .boot (events ++ [.poll])
      = pollKeys (Machine.final scanStep .boot events) := by
    rw [Machine.final_append]
    rfl
  rw [hpoll]
  refine ⟨fun k hk => pollKeys_state (scanRun_sampled events) hk, keyCalc_disjoint _,
    fun k _ => ?_⟩
  have htracks := scanRun_tracks events k
  refine ⟨htracks.paired, ?_⟩
  have hcount := htracks.count
  rw [pressed] at hcount
  split
  · rename_i hpressed
    rw [if_pos hpressed] at hcount
    exact hcount
  · rename_i hpressed
    rw [if_neg hpressed] at hcount
    exact hcount

end MidiFighter
