import Mathlib.Data.List.Basic

/-!
# Bits of a word, most significant first

A word goes out on a serial line by a mask that starts at some bit and
moves right (`walkMask`). `walkMask_twoPow` says that this sends the low
bits of the word, most significant first (`lowBits`), and `lowBits_append`
splits them along a concatenation of words. `take_drop_flatMap_range` reads
one block back from a stream of blocks of equal length.
-/

namespace Bits

variable {v w : Nat}

/-- The low `n` bits of a word, bit `n - 1` first. -/
def lowBits (x : BitVec w) : Nat → List Bool
  | 0 => []
  | n + 1 => x.getLsbD n :: lowBits x n

@[simp] theorem length_lowBits (x : BitVec w) : ∀ n, (lowBits x n).length = n
  | 0 => rfl
  | n + 1 => by rw [lowBits, List.length_cons, length_lowBits]

theorem lowBits_congr {x : BitVec v} {y : BitVec w} : ∀ {n : Nat},
    (∀ i < n, x.getLsbD i = y.getLsbD i) → lowBits x n = lowBits y n
  | 0, _ => rfl
  | n + 1, h => by
      rw [lowBits, lowBits, h n (Nat.lt_succ_self n),
        lowBits_congr fun i hi => h i (Nat.lt_succ_of_lt hi)]

theorem lowBits_append (x : BitVec v) (y : BitVec w) : ∀ n : Nat,
    lowBits (x ++ y) (n + w) = lowBits x n ++ lowBits y w
  | 0 => by
      rw [Nat.zero_add]
      refine lowBits_congr fun i hi => ?_
      rw [BitVec.getLsbD_append, if_pos hi]
  | n + 1 => by
      rw [Nat.add_right_comm, lowBits, lowBits, lowBits_append x y n, BitVec.getLsbD_append,
        if_neg (by omega), Nat.add_sub_cancel, List.cons_append]

/-! ## Walking a mask -/

/-- Test `x` against a mask that moves one bit to the right each time. -/
def walkMask (x : BitVec w) : BitVec w → Nat → List Bool
  | _, 0 => []
  | mask, n + 1 => (x &&& mask != 0#w) :: walkMask x (mask >>> 1) n

theorem and_twoPow_bne (x : BitVec w) (n : Nat) :
    (x &&& BitVec.twoPow w n != 0#w) = x.getLsbD n := by
  rw [BitVec.and_twoPow]
  cases hbit : x.getLsbD n with
  | false => simp
  | true =>
      have hn : n < w := BitVec.lt_of_getLsbD hbit
      rw [if_pos rfl, bne_iff_ne]
      intro hzero
      have hself : (BitVec.twoPow w n).getLsbD n = true := by simp [hn]
      rw [hzero, BitVec.getLsbD_zero] at hself
      exact Bool.noConfusion hself

theorem twoPow_succ_ushiftRight (n : Nat) (h : n + 1 < w) :
    BitVec.twoPow w (n + 1) >>> 1 = BitVec.twoPow w n := by
  refine BitVec.eq_of_getLsbD_eq fun i hi => ?_
  rw [BitVec.getLsbD_ushiftRight, BitVec.getLsbD_twoPow, BitVec.getLsbD_twoPow]
  simp only [h, Nat.lt_of_succ_lt h, decide_true, Bool.true_and, Nat.add_comm 1 i,
    Nat.add_right_cancel_iff]

theorem walkMask_twoPow (x : BitVec w) : ∀ n < w,
    walkMask x (BitVec.twoPow w n) (n + 1) = lowBits x (n + 1)
  | 0, _ => by rw [walkMask, and_twoPow_bne, walkMask, lowBits, lowBits]
  | n + 1, h => by
      rw [walkMask, and_twoPow_bne, twoPow_succ_ushiftRight n h,
        walkMask_twoPow x n (Nat.lt_of_succ_lt h), ← lowBits]

/-! ## Blocks of a stream -/

theorem length_flatMap_range {α : Type*} {f : Nat → List α} {size : Nat}
    (hf : ∀ i, (f i).length = size) (n : Nat) : ((List.range n).flatMap f).length = size * n := by
  induction n with
  | zero => rfl
  | succ n ih =>
      rw [List.range_succ, List.flatMap_append, List.length_append, ih, List.flatMap_singleton, hf,
        Nat.mul_succ]

theorem take_drop_flatMap_range {α : Type*} {f : Nat → List α} {size n j : Nat}
    (hf : ∀ i, (f i).length = size) (hj : j < n) :
    (((List.range n).flatMap f).drop (size * j)).take size = f j := by
  obtain ⟨k, rfl⟩ := Nat.exists_eq_add_of_lt hj
  rw [Nat.add_assoc, List.range_add, List.flatMap_append, ← length_flatMap_range hf j,
    List.drop_left, List.range_succ_eq_map, List.map_cons, List.flatMap_cons, Nat.add_zero,
    ← hf j, List.take_left]

end Bits
