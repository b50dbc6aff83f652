import Mathlib.Logic.Function.Basic
import Mathlib.Data.List.Nodup

/-!
# Cell memories

A memory is a total function from addresses to cells. A C array is such a
memory read at the addresses below its size; an index past the end is an
ordinary address of the memory, so an out-of-bounds store is visible as a
changed cell outside the array instead of being clipped.

`applyWrites` runs a list of stores in order: cells outside the list are
framed (`applyWrites_of_notMem`), and when no address is stored twice
every store survives (`applyWrites_of_mem`), also when the list is cut off
(`applyWrites_take_iff`). `foldl_local` is the matching rule for loops that
read before they write, one disjoint footprint per iteration. `fill` stores
a list at consecutive addresses and `slice` reads a run of cells back as a
list.
-/

namespace Cells

variable {α β : Type*}

/-! ## Loops with disjoint footprints -/

/-- Cells outside every visited footprint are framed. -/
theorem foldl_frame {ι : Type*} {f : (α → β) → ι → α → β} (foot : ι → α → Prop)
    (hframe : ∀ m i a, ¬foot i a → f m i a = m a) {a : α} :
    ∀ {is : List ι} {m : α → β}, (∀ i ∈ is, ¬foot i a) → is.foldl f m a = m a
  | [], _, _ => rfl
  | j :: js, m, h => by
      rw [List.foldl_cons, foldl_frame foot hframe fun i hi => h i (List.mem_cons_of_mem _ hi),
        hframe m j a (h j (List.mem_cons_self ..))]

/-- A loop whose iteration `i` only writes cells `foot i` and only reads
those: where the footprints of the visited iterations are disjoint, the
final cells of a visited footprint are those of running that iteration
alone on the initial memory. -/
theorem foldl_local {ι : Type*} {f : (α → β) → ι → α → β} (foot : ι → α → Prop)
    (hframe : ∀ m i a, ¬foot i a → f m i a = m a)
    (hlocal : ∀ m m' i, (∀ a, foot i a → m a = m' a) → ∀ a, foot i a → f m i a = f m' i a) :
    ∀ {is : List ι} {m : α → β}, is.Pairwise (fun i j => ∀ a, foot i a → ¬foot j a) →
      ∀ i ∈ is, ∀ a, foot i a → is.foldl f m a = f m i a
  | j :: js, m, hpair, i, hi, a, ha => by
      rw [List.pairwise_cons] at hpair
      rw [List.foldl_cons]
      rcases List.mem_cons.mp hi with rfl | hjs
      · exact foldl_frame foot hframe fun k hk => hpair.1 k hk a ha
      · rw [foldl_local foot hframe hlocal hpair.2 i hjs a ha]
        refine hlocal _ _ i (fun b hb => hframe m j b fun hj => ?_) a ha
        exact hpair.1 i hjs b hj hb

/-! ## Stores in order -/

variable [DecidableEq α]

/-- Run a list of stores `(address, value)` from left to right. -/
def applyWrites (m : α → β) (ws : List (α × β)) : α → β :=
  ws.foldl (fun m w => Function.update m w.1 w.2) m

@[simp] theorem applyWrites_nil (m : α → β) : applyWrites m [] = m := rfl

@[simp] theorem applyWrites_cons (m : α → β) (w : α × β) (ws : List (α × β)) :
    applyWrites m (w :: ws) = applyWrites (Function.update m w.1 w.2) ws := rfl

theorem applyWrites_append (m : α → β) (ws ws' : List (α × β)) :
    applyWrites m (ws ++ ws') = applyWrites (applyWrites m ws) ws' :=
  List.foldl_append

theorem applyWrites_of_notMem {a : α} : ∀ {ws : List (α × β)} {m : α → β},
    a ∉ ws.map Prod.fst → applyWrites m ws a = m a
  | [], _, _ => rfl
  | w :: ws, m, h => by
      rw [List.map_cons, List.mem_cons, not_or] at h
      rw [applyWrites_cons, applyWrites_of_notMem h.2, Function.update_of_ne h.1]

theorem applyWrites_of_mem {a : α} {v : β} : ∀ {ws : List (α × β)} {m : α → β},
    (ws.map Prod.fst).Nodup → (a, v) ∈ ws → applyWrites m ws a = v
  | w :: ws, m, hnd, hmem => by
      rw [List.map_cons, List.nodup_cons] at hnd
      rw [applyWrites_cons]
      rcases List.mem_cons.mp hmem with rfl | htail
      · rw [applyWrites_of_notMem hnd.1, Function.update_self]
      · exact applyWrites_of_mem hnd.2 htail

/-- A cut-off list of stores to distinct addresses has done everything iff
the memory already held what the missing stores would have written. -/
theorem applyWrites_take_iff {ws : List (α × β)} {m : α → β} (n : Nat)
    (hnd : (ws.map Prod.fst).Nodup) :
    (∀ w ∈ ws, applyWrites m (ws.take n) w.1 = w.2) ↔ ∀ w ∈ ws.drop n, m w.1 = w.2 := by
  have hsplit : (ws.take n).map Prod.fst ++ (ws.drop n).map Prod.fst = ws.map Prod.fst := by
    rw [← List.map_append, List.take_append_drop]
  rw [← hsplit, List.nodup_append'] at hnd
  obtain ⟨htake, -, hdisj⟩ := hnd
  have hmissing : ∀ w ∈ ws.drop n, applyWrites m (ws.take n) w.1 = m w.1 := fun w hw =>
    applyWrites_of_notMem fun hmem => hdisj hmem (List.mem_map_of_mem hw)
  constructor
  · intro h w hw
    rw [← hmissing w hw]
    exact h w (List.mem_of_mem_drop hw)
  · intro h w hw
    rw [← List.take_append_drop n ws, List.mem_append] at hw
    rcases hw with hw | hw
    · exact applyWrites_of_mem htake hw
    · rw [hmissing w hw, h w hw]

/-! ## Consecutive cells -/

def fill (m : Nat → β) : Nat → List β → Nat → β
  | _, [] => m
  | p, b :: bs => fill (Function.update m p b) (p + 1) bs

def slice (m : Nat → β) (p n : Nat) : List β :=
  (List.range n).map fun i => m (p + i)

@[simp] theorem length_slice (m : Nat → β) (p n : Nat) : (slice m p n).length = n := by
  simp [slice]

theorem fill_of_lt : ∀ {bs : List β} {m : Nat → β} {p a : Nat},
    a < p → fill m p bs a = m a
  | [], _, _, _, _ => rfl
  | b :: bs, m, p, a, h => by
      rw [fill, fill_of_lt (Nat.lt_succ_of_lt h), Function.update_of_ne (Nat.ne_of_lt h)]

theorem fill_add : ∀ {bs : List β} {m : Nat → β} {p i : Nat} (h : i < bs.length),
    fill m p bs (p + i) = bs.get ⟨i, h⟩
  | b :: bs, m, p, 0, _ => by
      rw [Nat.add_zero, fill, fill_of_lt (Nat.lt_succ_self p), Function.update_self]
      rfl
  | b :: bs, m, p, i + 1, h => by
      have hi : i < bs.length := Nat.lt_of_succ_lt_succ h
      rw [fill, show p + (i + 1) = p + 1 + i by omega, fill_add hi]
      rfl

theorem slice_congr {m m' : Nat → β} {p n : Nat}
    (h : ∀ i < n, m (p + i) = m' (p + i)) : slice m p n = slice m' p n :=
  List.map_congr_left fun i hi => h i (List.mem_range.mp hi)

theorem slice_add (m : Nat → β) (p n k : Nat) :
    slice m p (n + k) = slice m p n ++ slice m (p + n) k := by
  simp only [slice, List.range_add, List.map_append, List.map_map]
  refine congrArg _ (List.map_congr_left fun i _ => ?_)
  simp [Nat.add_assoc]

theorem slice_succ (m : Nat → β) (p n : Nat) :
    slice m p (n + 1) = m p :: slice m (p + 1) n := by
  rw [Nat.add_comm, slice_add]
  rfl

theorem slice_fill (m : Nat → β) (p : Nat) (bs : List β) :
    slice (fill m p bs) p bs.length = bs := by
  refine List.ext_get (length_slice ..) fun i _ hi => ?_
  simp only [slice, List.get_eq_getElem, List.getElem_map, List.getElem_range]
  exact fill_add hi

theorem slice_fill_append (m : Nat → β) (p : Nat) (bs : List β) :
    slice (fill m p bs) 0 (p + bs.length) = slice m 0 p ++ bs := by
  rw [slice_add, Nat.zero_add, slice_fill]
  exact congrArg (· ++ bs) (slice_congr fun i hi => fill_of_lt (by omega))

end Cells
