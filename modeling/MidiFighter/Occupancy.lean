import Mathlib.Data.Finset.Card
import Mathlib.Logic.Function.Basic

/-!
# Pieces on a board

A board maps cells to contents, some of which are pieces. `AtMostOnce` says
that no piece stands on two cells of the board; removing a piece, placing a
new one and moving one to a free cell keep it.

A scan that visits the cells in some order while pieces are moved may meet a
piece again, but it misses none: `Counted` relates the visits so far to the
pieces that the rest of the scan will not meet.
-/

namespace Occupancy

variable {κ β : Type*} {D : κ → Prop} {piece : β → Prop} {board : κ → β}

/-- The content stands on some cell of the board. -/
def On (D : κ → Prop) (board : κ → β) (b : β) : Prop := ∃ c, D c ∧ board c = b

/-- No piece stands on two cells. -/
def AtMostOnce (D : κ → Prop) (piece : β → Prop) (board : κ → β) : Prop :=
  ∀ c c', D c → D c' → piece (board c) → board c = board c' → c = c'

/-! ## Changing a cell -/

section

variable [DecidableEq κ]

theorem on_update_self {c : κ} (hc : D c) (b : β) : On D (Function.update board c b) b :=
  ⟨c, hc, Function.update_self ..⟩

theorem On.update {b : β} (h : On D board b) {c : κ} (hne : board c ≠ b) (b' : β) :
    On D (Function.update board c b') b := by
  obtain ⟨c', hc', rfl⟩ := h
  have hcc : c' ≠ c := fun heq => hne (congrArg board heq.symm)
  exact ⟨c', hc', Function.update_of_ne hcc ..⟩

theorem On.of_update {b b' : β} {c : κ} (h : On D (Function.update board c b') b) :
    b = b' ∨ On D board b := by
  obtain ⟨c', hc', rfl⟩ := h
  by_cases hcc : c' = c
  · exact .inl (by rw [hcc, Function.update_self])
  · exact .inr ⟨c', hc', (Function.update_of_ne hcc ..).symm⟩

namespace AtMostOnce

theorem remove (h : AtMostOnce D piece board) (c : κ) {empty : β} (hempty : ¬piece empty) :
    AtMostOnce D piece (Function.update board c empty) := by
  intro c₁ c₂ h₁ h₂ hpiece heq
  by_cases hc₁ : c₁ = c
  · rw [hc₁, Function.update_self] at hpiece
    exact absurd hpiece hempty
  · by_cases hc₂ : c₂ = c
    · rw [heq, hc₂, Function.update_self] at hpiece
      exact absurd hpiece hempty
    · rw [Function.update_of_ne hc₁] at hpiece heq
      rw [Function.update_of_ne hc₂] at heq
      exact h c₁ c₂ h₁ h₂ hpiece heq

theorem not_on_remove (h : AtMostOnce D piece board) {c : κ} (hc : D c) (hpiece : piece (board c))
    {empty : β} (hempty : ¬piece empty) : ¬On D (Function.update board c empty) (board c) := by
  rintro ⟨c', hc', heq⟩
  by_cases hcc : c' = c
  · rw [hcc, Function.update_self] at heq
    exact hempty (heq ▸ hpiece)
  · rw [Function.update_of_ne hcc] at heq
    exact hcc (h c c' hc hc' hpiece heq.symm).symm

theorem place (h : AtMostOnce D piece board) (c : κ) {b : β} (hfresh : ¬On D board b) :
    AtMostOnce D piece (Function.update board c b) := by
  intro c₁ c₂ h₁ h₂ hpiece heq
  by_cases hc₁ : c₁ = c
  · by_cases hc₂ : c₂ = c
    · rw [hc₁, hc₂]
    · rw [hc₁, Function.update_self, Function.update_of_ne hc₂] at heq
      exact absurd ⟨c₂, h₂, heq.symm⟩ hfresh
  · by_cases hc₂ : c₂ = c
    · rw [hc₂, Function.update_self, Function.update_of_ne hc₁] at heq
      exact absurd ⟨c₁, h₁, heq⟩ hfresh
    · rw [Function.update_of_ne hc₁] at hpiece heq
      rw [Function.update_of_ne hc₂] at heq
      exact h c₁ c₂ h₁ h₂ hpiece heq

theorem move (h : AtMostOnce D piece board) {c : κ} (hc : D c) (hpiece : piece (board c)) (c' : κ)
    {empty : β} (hempty : ¬piece empty) :
    AtMostOnce D piece (Function.update (Function.update board c empty) c' (board c)) :=
  (h.remove c hempty).place c' (h.not_on_remove hc hpiece hempty)

end AtMostOnce

theorem On.move {b : β} (h : On D board b) {c c' : κ} (hc' : D c') (hfree : board c' ≠ b)
    {empty : β} (hempty : empty ≠ b) :
    On D (Function.update (Function.update board c empty) c' (board c)) b := by
  by_cases hb : board c = b
  · rw [hb]
    exact on_update_self hc' b
  · refine (h.update hb empty).update (fun heq => ?_) (board c)
    by_cases hcc : c' = c
    · rw [hcc, Function.update_self] at heq
      exact hempty heq
    · rw [Function.update_of_ne hcc] at heq
      exact hfree heq

theorem On.of_move {b empty : β} {c c' : κ} (hc : D c) (hne : b ≠ empty)
    (h : On D (Function.update (Function.update board c empty) c' (board c)) b) :
    On D board b := by
  rcases h.of_update with rfl | h
  · exact ⟨c, hc, rfl⟩
  · rcases h.of_update with heq | h
    · exact absurd heq hne
    · exact h

theorem move_apply {c c' x : κ} {empty : β}
    (h : Function.update (Function.update board c empty) c' (board c) x ≠ empty) :
    Function.update (Function.update board c empty) c' (board c) x = board c ∨
      x ≠ c ∧ Function.update (Function.update board c empty) c' (board c) x = board x := by
  by_cases hx' : x = c'
  · exact .inl (by rw [hx', Function.update_self])
  · rw [Function.update_of_ne hx'] at h ⊢
    by_cases hx : x = c
    · rw [hx, Function.update_self] at h
      exact absurd rfl h
    · exact .inr ⟨hx, Function.update_of_ne hx ..⟩

end

/-! ## Scans -/

/-- `n` visits cover the pieces that are not on the cells still to come. A
piece may be visited more than once, so this is no equation. -/
def Counted (D : κ → Prop) (piece : β → Prop) (board : κ → β) (rest : List κ) (n : Nat) : Prop :=
  ∃ S : Finset β, S.card ≤ n ∧ ∀ c, D c → piece (board c) → c ∈ rest ∨ board c ∈ S

theorem counted_start {rest : List κ} (h : ∀ c, D c → c ∈ rest) : Counted D piece board rest 0 :=
  ⟨∅, Nat.le_refl _, fun c hc _ => .inl (h c hc)⟩

namespace Counted

variable {rest : List κ} {n : Nat} {c : κ}

theorem skip (h : Counted D piece board (c :: rest) n) (hfree : ¬piece (board c)) :
    Counted D piece board rest n := by
  obtain ⟨S, hcard, hS⟩ := h
  refine ⟨S, hcard, fun c' hc' hpiece => ?_⟩
  rcases hS c' hc' hpiece with hmem | hmem
  · rcases List.mem_cons.mp hmem with rfl | hmem
    · exact absurd hpiece hfree
    · exact .inl hmem
  · exact .inr hmem

/-- A visit counts the piece it meets; the piece may go anywhere. -/
theorem visit [DecidableEq β] (h : Counted D piece board (c :: rest) n) {board' : κ → β}
    (hboard : ∀ c', D c' → piece (board' c') →
      board' c' = board c ∨ c' ≠ c ∧ board' c' = board c') :
    Counted D piece board' rest (n + 1) := by
  obtain ⟨S, hcard, hS⟩ := h
  refine ⟨insert (board c) S, (Finset.card_insert_le ..).trans (Nat.succ_le_succ hcard),
    fun c' hc' hpiece => ?_⟩
  rcases hboard c' hc' hpiece with heq | ⟨hne, heq⟩
  · exact .inr (heq ▸ Finset.mem_insert_self ..)
  · rw [heq] at hpiece ⊢
    rcases hS c' hc' hpiece with hmem | hmem
    · rcases List.mem_cons.mp hmem with hcc | hmem
      · exact absurd hcc hne
      · exact .inl hmem
    · exact .inr (Finset.mem_insert_of_mem hmem)

theorem card_le (h : Counted D piece board [] n) {T : Finset β}
    (hT : ∀ b ∈ T, piece b ∧ On D board b) : T.card ≤ n := by
  obtain ⟨S, hcard, hS⟩ := h
  refine (Finset.card_le_card fun b hb => ?_).trans hcard
  obtain ⟨hpiece, c, hc, rfl⟩ := hT b hb
  exact (hS c hc hpiece).resolve_left List.not_mem_nil

end Counted

end Occupancy
