import Mathlib.Data.List.Basic
import Mathlib.Data.Nat.ModEq
import Mathlib.Logic.Function.Basic

/-!
# Ring buffers

A ring of `n` cells that is written round and round, value number `i` to
cell `i % n`. A reader that looks at all cells and ignores the write
position sees the last `n` values, in some order.

`Holds n history m` says that the cells of `m` are those last values. A
write keeps it (`Holds.write`), and what all cells satisfy is what the last
`n` values satisfy (`Holds.forall_iff`). A ring that starts out filled with
one value counts those as values written before the first
(`forall_padded_iff`).
-/

namespace Ring

variable {β : Type*} {n : Nat} {history : List β} {m : Nat → β}

/-- The `n` cells hold the last `n` values of the history, each in the cell of
its position modulo `n`. -/
structure Holds (n : Nat) (history : List β) (m : Nat → β) : Prop where
  full : n ≤ history.length
  cell : ∀ i v, history.length ≤ i + n → history[i]? = some v → m (i % n) = v

theorem Holds.replicate (n : Nat) (b : β) : Holds n (List.replicate n b) fun _ => b where
  full := by simp
  cell := fun i v _ hv => (List.eq_of_mem_replicate (List.mem_of_getElem? hv)).symm

theorem mod_ne_mod {i j : Nat} (hij : i < j) (hturn : j < i + n) : i % n ≠ j % n := by
  intro h
  have hdvd : n ∣ j - i := (Nat.modEq_iff_dvd' hij.le).mp h
  have hle := Nat.le_of_dvd (by omega) hdvd
  omega

theorem Holds.write (h : Holds n history m) (v : β) :
    Holds n (history ++ [v]) (Function.update m (history.length % n) v) where
  full := by
    rw [List.length_append]
    exact Nat.le_add_right_of_le h.full
  cell := by
    intro i w hi hw
    rw [List.length_append, List.length_singleton] at hi
    by_cases hlast : i = history.length
    · rw [hlast, List.getElem?_concat_length] at hw
      rw [hlast, Function.update_self]
      exact Option.some.inj hw
    · have hlt : i < history.length := by
        have hlt' := (List.getElem?_eq_some_iff.mp hw).1
        rw [List.length_append, List.length_singleton] at hlt'
        omega
      rw [List.getElem?_append_left hlt] at hw
      rw [Function.update_of_ne (mod_ne_mod hlt (by omega))]
      exact h.cell i w (by omega) hw

/-- Among `n` positions in a row each cell occurs. -/
theorem exists_position {i : Nat} (hi : i < n) (a : Nat) :
    ∃ k < n, (a + k) % n = i := by
  have hn : 0 < n := Nat.zero_lt_of_lt hi
  have hr : a % n < n := Nat.mod_lt a hn
  refine ⟨(i + n - a % n) % n, Nat.mod_lt _ hn, ?_⟩
  calc (a + (i + n - a % n) % n) % n = (a + (i + n - a % n)) % n := Nat.add_mod_mod ..
    _ = (a % n + (i + n - a % n)) % n := (Nat.mod_add_mod ..).symm
    _ = (i + n) % n := by rw [Nat.add_sub_cancel' (by omega)]
    _ = i := by rw [Nat.add_mod_right, Nat.mod_eq_of_lt hi]

theorem Holds.forall_iff (h : Holds n history m) (P : β → Prop) :
    (∀ i < n, P (m i)) ↔ ∀ v ∈ history.drop (history.length - n), P v := by
  constructor
  · intro hall v hv
    obtain ⟨k, hk⟩ := List.mem_iff_getElem?.mp hv
    rw [List.getElem?_drop] at hk
    have hlt := (List.getElem?_eq_some_iff.mp hk).1
    have hfull := h.full
    rw [← h.cell _ v (by omega) hk]
    exact hall _ (Nat.mod_lt _ (by omega))
  · intro hall i hi
    obtain ⟨k, hk, hcell⟩ := exists_position hi (history.length - n)
    have hlt : history.length - n + k < history.length := by
      have hfull := h.full
      omega
    have hget := List.getElem?_eq_getElem hlt
    have hmem : history[history.length - n + k] ∈ history.drop (history.length - n) :=
      List.mem_iff_getElem?.mpr ⟨k, by rw [List.getElem?_drop]; exact hget⟩
    rw [← hcell, h.cell _ _ (by omega) hget]
    exact hall _ hmem

/-- Where the initial filling fails the test, all `n` cells pass it iff `n`
values were written and the last `n` pass it. -/
theorem forall_padded_iff (history : List β) {b : β} {P : β → Prop} (hb : ¬P b) :
    (∀ v ∈ (List.replicate n b ++ history).drop
        ((List.replicate n b ++ history).length - n), P v)
      ↔ n ≤ history.length ∧ ∀ v ∈ history.drop (history.length - n), P v := by
  have hlength : (List.replicate n b ++ history).length - n = history.length := by
    rw [List.length_append, List.length_replicate, Nat.add_sub_cancel_left]
  have hpad : (∀ v ∈ List.replicate (n - history.length) b, P v) ↔ n ≤ history.length := by
    rw [← Nat.sub_eq_zero_iff_le]
    constructor
    · intro hall
      by_contra hne
      exact hb (hall b (List.mem_replicate.mpr ⟨hne, rfl⟩))
    · intro hzero v hv
      exact absurd hzero (List.mem_replicate.mp hv).1
  rw [hlength, List.drop_append, List.drop_replicate, List.length_replicate,
    List.forall_mem_append, hpad]

end Ring
