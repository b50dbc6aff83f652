import MidiFighter.Machine

/-!
# Noninterference

A view forgets a part of the state. A step is blind when what it does to the
view, and what it puts out, depends on the view alone. An input is hidden
when it changes nothing in the view and puts nothing out.

`run_filter` is the unwinding theorem for a machine whose inputs are hidden
or blind: leaving out the hidden inputs of a run changes neither its outputs
nor the view of its last state.
-/

namespace Machine

variable {σ τ ι ο : Type*}

/-- The effect on the view and the outputs depend on the view alone: two
states that look the same still look the same afterwards. -/
def Blind (view : σ → τ) (f : σ → σ × List ο) : Prop :=
  ∀ s s', view s = view s' → view (f s).1 = view (f s').1 ∧ (f s).2 = (f s').2

/-- Nothing is seen of the input. -/
def Hidden (view : σ → τ) (f : σ → σ × List ο) : Prop := ∀ s, view (f s).1 = view s ∧ (f s).2 = []

variable {view : σ → τ} {step : σ → ι → σ × List ο}

theorem Blind.run (is : List ι) (h : ∀ i ∈ is, Blind view fun s => step s i) :
    Blind view fun s => (final step s is, outputs step s is) := by
  induction is with
  | nil => exact fun s s' hview => ⟨hview, rfl⟩
  | cons i is ih =>
      obtain ⟨hi, his⟩ := List.forall_mem_cons.mp h
      intro s s' hview
      obtain ⟨hnext, hout⟩ := hi s s' hview
      obtain ⟨hfinal, houts⟩ := ih his _ _ hnext
      dsimp only at hnext hout hfinal houts ⊢
      rw [final_cons, final_cons, outputs_cons, outputs_cons, hfinal, hout, houts]
      exact ⟨rfl, rfl⟩

/-- One machine, two runs that see the same: the one without the hidden
inputs follows the other. -/
theorem run_filter {hidden : ι → Bool} (hhidden : ∀ i, hidden i = true → Hidden view (step · i))
    (hblind : ∀ i, hidden i = false → Blind view (step · i)) :
    ∀ (is : List ι) {s s' : σ}, view s = view s' →
      view (final step s is) = view (final step s' (is.filter fun i => !hidden i)) ∧
        outputs step s is = outputs step s' (is.filter fun i => !hidden i)
  | [], _, _, hview => ⟨hview, rfl⟩
  | i :: is, s, s', hview => by
      cases hi : hidden i with
      | true =>
          obtain ⟨hnext, hout⟩ := hhidden i hi s
          dsimp only at hnext hout
          rw [List.filter_cons_of_neg (by simp [hi]), final_cons, outputs_cons, hout]
          exact run_filter hhidden hblind is (hnext.trans hview)
      | false =>
          obtain ⟨hnext, hout⟩ := hblind i hi s s' hview
          dsimp only at hnext hout
          obtain ⟨hfinal, houts⟩ := run_filter hhidden hblind is hnext
          rw [List.filter_cons_of_pos (by simp [hi]), final_cons, final_cons, outputs_cons,
            outputs_cons, hout, houts]
          exact ⟨hfinal, rfl⟩

end Machine
