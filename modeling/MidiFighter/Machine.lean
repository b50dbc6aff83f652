import Mathlib.Data.List.Basic
import Mathlib.Data.List.Infix
import Mathlib.Data.List.Nodup
import Mathlib.Logic.Function.Basic

/-!
# Machines, runs and guarded runs

The generic run layer: a machine is a step function from a state and an
input to the next state and a list of outputs, and a run folds it over a
list of inputs. These things are proved once here and then instantiated:

- `along_iff_forall`: a guard that holds at every step of a run
  (`Along`) is the same as a guard that holds at every split of the
  input list;
- `final_history`: an invariant of the inputs read so far and the
  current state survives a guarded run as soon as one step keeps it;
- `mem_outputs`: an output of a run is an output of one of its steps.

`outputs_seen` compares a machine with one that follows it step by step.

A `sweep` is a loop that visits the components of a state one by one and
reads no other; each visited component then ends as if it were alone.
-/

namespace Machine

variable {σ ι ο : Type*}

def final (step : σ → ι → σ × List ο) : σ → List ι → σ
  | s, [] => s
  | s, i :: is => final step (step s i).1 is

def outputs (step : σ → ι → σ × List ο) : σ → List ι → List ο
  | _, [] => []
  | s, i :: is => (step s i).2 ++ outputs step (step s i).1 is

/-- The guard `ok` holds at every step of the run, read at the state the
step starts from. -/
def Along (step : σ → ι → σ × List ο) (ok : σ → ι → Prop) : σ → List ι → Prop
  | _, [] => True
  | s, i :: is => ok s i ∧ Along step ok (step s i).1 is

variable {step : σ → ι → σ × List ο} {ok : σ → ι → Prop}

@[simp] theorem final_nil (s : σ) : final step s [] = s := rfl

@[simp] theorem final_cons (s : σ) (i : ι) (is : List ι) :
    final step s (i :: is) = final step (step s i).1 is := rfl

@[simp] theorem outputs_nil (s : σ) : outputs step s [] = [] := rfl

@[simp] theorem outputs_cons (s : σ) (i : ι) (is : List ι) :
    outputs step s (i :: is) = (step s i).2 ++ outputs step (step s i).1 is := rfl

theorem final_eq_foldl : ∀ (s : σ) (is : List ι),
    final step s is = is.foldl (fun s i => (step s i).1) s
  | _, [] => rfl
  | s, i :: is => final_eq_foldl (step s i).1 is

theorem final_append : ∀ (s : σ) (is js : List ι),
    final step s (is ++ js) = final step (final step s is) js
  | _, [], _ => rfl
  | s, i :: is, js => by
      rw [List.cons_append, final_cons, final_append, final_cons]

theorem outputs_append : ∀ (s : σ) (is js : List ι),
    outputs step s (is ++ js) = outputs step s is ++ outputs step (final step s is) js
  | _, [], _ => rfl
  | s, i :: is, js => by
      rw [List.cons_append, outputs_cons, outputs_append, outputs_cons, final_cons,
        List.append_assoc]

instance decidableAlong [∀ s i, Decidable (ok s i)] :
    ∀ (s : σ) (is : List ι), Decidable (Along step ok s is)
  | _, [] => inferInstanceAs (Decidable True)
  | s, i :: is =>
      have := decidableAlong (step s i).1 is
      inferInstanceAs (Decidable (_ ∧ _))

theorem along_append : ∀ {s : σ} {is js : List ι},
    Along step ok s (is ++ js) ↔ Along step ok s is ∧ Along step ok (final step s is) js
  | _, [], _ => by simp [Along]
  | s, i :: is, js => by
      simp only [List.cons_append, Along, final_cons, along_append, and_assoc]

theorem along_iff_forall {s : σ} {is : List ι} :
    Along step ok s is ↔
      ∀ pre i post, is = pre ++ i :: post → ok (final step s pre) i := by
  induction is generalizing s with
  | nil => simp [Along]
  | cons j js ih =>
      constructor
      · rintro ⟨hj, hjs⟩ pre i post heq
        cases pre with
        | nil =>
            obtain ⟨rfl, -⟩ := List.cons.inj heq
            exact hj
        | cons k pre =>
            obtain ⟨rfl, htail⟩ := List.cons.inj heq
            exact ih.mp hjs pre i post htail
      · intro h
        exact ⟨h [] j js rfl,
          ih.mpr fun pre i post heq => h (j :: pre) i post (by rw [heq]; rfl)⟩

/-! ## Invariants along a run -/

/-- An invariant of the history and the state survives a guarded run: the
induction is on the remaining inputs, with the history growing at its end. -/
theorem final_history (Inv : List ι → σ → Prop)
    (hstep : ∀ h s i, Inv h s → ok s i → Inv (h ++ [i]) (step s i).1) :
    ∀ {is h : List ι} {s : σ}, Inv h s → Along step ok s is →
      Inv (h ++ is) (final step s is)
  | [], h, _, hinv, _ => by rw [List.append_nil]; exact hinv
  | i :: is, h, s, hinv, ⟨hok, halong⟩ => by
      have hnext := final_history Inv hstep (hstep h s i hinv hok) halong
      rwa [List.append_assoc] at hnext

theorem final_invariant (Inv : σ → Prop)
    (hstep : ∀ s i, Inv s → ok s i → Inv (step s i).1) :
    ∀ {is : List ι} {s : σ}, Inv s → Along step ok s is → Inv (final step s is)
  | [], _, hs, _ => hs
  | i :: _, s, hs, ⟨hok, halong⟩ => by
      rw [final_cons]
      exact final_invariant Inv hstep (hstep s i hs hok) halong

/-- A guard reads the states, so the outputs may be exchanged. -/
theorem Along.congr_state {ο' : Type*} {step' : σ → ι → σ × List ο'}
    (hstate : ∀ s i, (step' s i).1 = (step s i).1) :
    ∀ {is : List ι} {s : σ}, Along step ok s is → Along step' ok s is
  | [], _, _ => trivial
  | i :: _, s, ⟨hok, h⟩ => ⟨hok, (hstate s i).symm ▸ h.congr_state hstate⟩

/-- Where an invariant turns one guard into another, so does a run. -/
theorem Along.imp_of_invariant {ok' : σ → ι → Prop} (Inv : σ → Prop)
    (hstep : ∀ s i, Inv s → ok s i → Inv (step s i).1)
    (himp : ∀ s i, Inv s → ok s i → ok' s i) {s : σ} {is : List ι} (hs : Inv s)
    (h : Along step ok s is) : Along step ok' s is := by
  rw [along_iff_forall]
  rintro pre i post rfl
  obtain ⟨hpre, hok, -⟩ := along_append.mp h
  exact himp _ i (final_invariant Inv hstep hs hpre) hok

theorem along_of_forall_mem {q : ι → Prop} {s : σ} {is : List ι} (h : ∀ i ∈ is, q i) :
    Along step (fun _ i => q i) s is := by
  rw [along_iff_forall]
  rintro pre i post rfl
  exact h i (by simp)

theorem along_true {s : σ} {is : List ι} : Along step (fun _ _ => True) s is :=
  along_of_forall_mem fun _ _ => trivial

/-- An invariant of the outputs so far and the state survives a guarded
run. -/
theorem outputs_history (Inv : List ο → σ → Prop)
    (hstep : ∀ os s i, Inv os s → ok s i → Inv (os ++ (step s i).2) (step s i).1) :
    ∀ {is : List ι} {os : List ο} {s : σ}, Inv os s → Along step ok s is →
      Inv (os ++ outputs step s is) (final step s is)
  | [], os, _, hinv, _ => by rw [outputs_nil, List.append_nil]; exact hinv
  | i :: is, os, s, hinv, ⟨hok, halong⟩ => by
      have hnext := outputs_history Inv hstep (hstep os s i hinv hok) halong
      rwa [List.append_assoc] at hnext

/-- A property of output lists that concatenation keeps holds for the outputs
of a guarded run when it holds for those of each step. -/
theorem outputs_closed (Inv : σ → Prop) (Q : List ο → Prop) (hnil : Q [])
    (happend : ∀ {os os'}, Q os → Q os' → Q (os ++ os'))
    (hstep : ∀ s i, Inv s → ok s i → Q (step s i).2 ∧ Inv (step s i).1) {is : List ι} {s : σ}
    (hs : Inv s) (h : Along step ok s is) :
    Q (outputs step s is) ∧ Inv (final step s is) := by
  have hinit : Q [] ∧ Inv s := ⟨hnil, hs⟩
  refine outputs_history (fun os s => Q os ∧ Inv s) ?_ hinit h
  rintro os s i ⟨hos, hinv⟩ hok
  obtain ⟨hout, hnext⟩ := hstep s i hinv hok
  exact ⟨happend hos hout, hnext⟩

theorem mem_outputs {s : σ} {is : List ι} {o : ο} :
    o ∈ outputs step s is ↔
      ∃ pre i post, is = pre ++ i :: post ∧ o ∈ (step (final step s pre) i).2 := by
  induction is generalizing s with
  | nil => simp
  | cons j js ih =>
      rw [outputs_cons, List.mem_append, ih]
      constructor
      · rintro (hj | ⟨pre, i, post, rfl, ho⟩)
        · exact ⟨[], j, js, rfl, hj⟩
        · exact ⟨j :: pre, i, post, rfl, ho⟩
      · rintro ⟨pre, i, post, heq, ho⟩
        cases pre with
        | nil =>
            obtain ⟨rfl, -⟩ := List.cons.inj heq
            exact Or.inl ho
        | cons k pre =>
            obtain ⟨rfl, htail⟩ := List.cons.inj heq
            exact Or.inr ⟨pre, i, post, htail, ho⟩

/-- A step that keeps an invariant and only emits safe outputs makes every
output of a guarded run safe. -/
theorem outputs_safe (Inv : σ → Prop) (Safe : ο → Prop)
    (hstep : ∀ s i, Inv s → ok s i → Inv (step s i).1)
    (hsafe : ∀ s i, Inv s → ok s i → ∀ o ∈ (step s i).2, Safe o)
    {is : List ι} {s : σ} (hs : Inv s) (h : Along step ok s is) :
    ∀ o ∈ outputs step s is, Safe o := by
  intro o ho
  obtain ⟨pre, i, post, rfl, hi⟩ := mem_outputs.mp ho
  obtain ⟨hpre, hok, -⟩ := along_append.mp h
  exact hsafe _ i (final_invariant Inv hstep hs hpre) hok o hi

/-! ## Simulation -/

section

variable {τ κ : Type*} {step' : τ → κ → τ × List ο}

/-- The inputs of a run as another machine sees them. -/
def seen (step : σ → ι → σ × List ο) (see : σ → ι → κ) : σ → List ι → List κ
  | _, [] => []
  | s, i :: is => see s i :: seen step see (step s i).1 is

theorem seen_eq_map {see : σ → ι → κ} {f : ι → κ} : ∀ {is : List ι} {s : σ},
    (∀ i ∈ is, ∀ s, see s i = f i) → seen step see s is = is.map f
  | [], _, _ => rfl
  | i :: is, s, hsee => by
      obtain ⟨hi, his⟩ := List.forall_mem_cons.mp hsee
      rw [seen, hi, seen_eq_map his, List.map_cons]

variable (abs : σ → τ) (see : σ → ι → κ)
  (h : ∀ s i, step' (abs s) (see s i) = (abs (step s i).1, (step s i).2))

include h

/-- A machine that follows another one step by step puts out the same. -/
theorem outputs_seen : ∀ (s : σ) (is : List ι),
    outputs step' (abs s) (seen step see s is) = outputs step s is
  | _, [] => rfl
  | s, i :: is => by rw [seen, outputs_cons, h, outputs_seen, outputs_cons]

theorem along_seen {ok' : τ → κ → Prop} : ∀ {s : σ} {is : List ι},
    Along step (fun s i => ok' (abs s) (see s i)) s is ↔
      Along step' ok' (abs s) (seen step see s is)
  | _, [] => Iff.rfl
  | s, i :: is => by
      refine and_congr_right fun _ => ?_
      rw [h]
      exact along_seen

end

/-! ## Sweeps -/

section

variable {κ β : Type*} [DecidableEq κ] (f : β → β × List ο)

/-- The turn of a loop that works on component `i` of an array, and on nothing
else. -/
def sweep (m : κ → β) (i : κ) : (κ → β) × List ο :=
  (Function.update m i (f (m i)).1, (f (m i)).2)

theorem final_sweep : ∀ {is : List κ} {m : κ → β}, is.Nodup → ∀ j,
    final (sweep f) m is j = if j ∈ is then (f (m j)).1 else m j
  | [], _, _, _ => rfl
  | i :: is, m, hnodup, j => by
      obtain ⟨hi, hnodup⟩ := List.nodup_cons.mp hnodup
      rw [final_cons, final_sweep hnodup]
      by_cases hj : j = i
      · simp [hj, hi, sweep]
      · simp [hj, sweep]

theorem outputs_sweep : ∀ {is : List κ} {m : κ → β}, is.Nodup →
    outputs (sweep f) m is = is.flatMap fun i => (f (m i)).2
  | [], _, _ => rfl
  | i :: is, m, hnodup => by
      obtain ⟨hi, hnodup⟩ := List.nodup_cons.mp hnodup
      rw [outputs_cons, outputs_sweep hnodup, List.flatMap_cons]
      refine congrArg _ (List.flatMap_congr fun j hj => ?_)
      have hne : j ≠ i := fun h => hi (h ▸ hj)
      simp [sweep, hne]

end

end Machine
