import Mathlib.Data.List.Basic

/-!
# Key sampling

`key.c`: `key_read` debounces the 64 keys by ANDing the sample buffer, and
`key_calc` compares the result with the previous poll. A poll is the pair
of both; the timer interrupt that fills the buffer is seen here only through
the samples it leaves there.
-/

namespace MidiFighter

/-- The key globals; key `k` is bit `k`. -/
structure Keys where
  gKeyState : BitVec 64
  gKeyPrevState : BitVec 64
  gKeyUp : BitVec 64
  gKeyDown : BitVec 64
  gKeyBankLastUp : BitVec 64
deriving Repr, DecidableEq

/-- The static initialisers, which `key_setup` repeats. -/
def Keys.boot : Keys := ⟨0, 0, 0, 0, 0⟩

def keyBit (i : Nat) : BitVec 64 := (1 : BitVec 64) <<< i

theorem getLsbD_keyBit {i : Nat} (hi : i < 64) (j : Nat) :
    (keyBit i).getLsbD j = decide (j = i) := by
  rw [keyBit, BitVec.getLsbD_shiftLeft]
  by_cases h : j = i
  · subst h
    simp [hi]
  · by_cases hlt : j < i
    · simp [hlt, h]
    · simp [h, BitVec.getLsbD_one]
      omega

def keyRead (keys : Keys) (gKeyDebounceBuffer : List (BitVec 64)) : Keys :=
  { keys with gKeyState := gKeyDebounceBuffer.foldl (· &&& ·) (BitVec.allOnes 64) }

def keyCalc (keys : Keys) : Keys :=
  { keys with
    gKeyDown := (keys.gKeyPrevState ^^^ keys.gKeyState) &&& keys.gKeyState
    gKeyUp := (keys.gKeyPrevState ^^^ keys.gKeyState) &&& keys.gKeyPrevState
    gKeyPrevState := keys.gKeyState }

theorem keyRead_getLsbD (keys : Keys) (gKeyDebounceBuffer : List (BitVec 64)) {k : Nat}
    (hk : k < 64) :
    (keyRead keys gKeyDebounceBuffer).gKeyState.getLsbD k = true
      ↔ ∀ v ∈ gKeyDebounceBuffer, v.getLsbD k = true := by
  have hfold : ∀ (vs : List (BitVec 64)) (acc : BitVec 64),
      (vs.foldl (· &&& ·) acc).getLsbD k = true
        ↔ acc.getLsbD k = true ∧ ∀ v ∈ vs, v.getLsbD k = true := by
    intro vs
    induction vs with
    | nil => simp
    | cons v vs ih =>
        intro acc
        rw [List.foldl_cons, ih, BitVec.getLsbD_and, Bool.and_eq_true, List.forall_mem_cons,
          and_assoc]
  rw [keyRead, hfold, BitVec.getLsbD_allOnes, decide_eq_true hk, eq_self, true_and]

theorem keyCalc_down (keys : Keys) (k : Nat) :
    (keyCalc keys).gKeyDown.getLsbD k
      = (keys.gKeyState.getLsbD k && !keys.gKeyPrevState.getLsbD k) := by
  simp only [keyCalc, BitVec.getLsbD_and, BitVec.getLsbD_xor]
  cases keys.gKeyState.getLsbD k <;> cases keys.gKeyPrevState.getLsbD k <;> rfl

theorem keyCalc_up (keys : Keys) (k : Nat) :
    (keyCalc keys).gKeyUp.getLsbD k
      = (keys.gKeyPrevState.getLsbD k && !keys.gKeyState.getLsbD k) := by
  simp only [keyCalc, BitVec.getLsbD_and, BitVec.getLsbD_xor]
  cases keys.gKeyState.getLsbD k <;> cases keys.gKeyPrevState.getLsbD k <;> rfl

theorem keyCalc_disjoint (keys : Keys) :
    (keyCalc keys).gKeyDown &&& (keyCalc keys).gKeyUp = 0 := by
  refine BitVec.eq_of_getLsbD_eq fun k _ => ?_
  rw [BitVec.getLsbD_and, keyCalc_down, keyCalc_up]
  cases keys.gKeyState.getLsbD k <;> simp

end MidiFighter
