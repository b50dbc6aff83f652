import MidiFighter.Machine

/-!
# Paired edges

A signal that is raised and lowered, each time for some value `b`: a note
on a channel, a recognised chord, a held key. `Paired` is the temporal
property one wants of such an edge stream: it strictly alternates, it
starts with a rise, and every fall lowers what the rise before it raised.
`Matched` is the part of it that stays meaningful when rises get lost.

`Paired` reads the stream from the front and is awkward to extend at the
end. `Tracks p es q` is the same property with the pending rise made
explicit (`p` before, `q` after), so that it composes
(`Tracks.append`); `Tracks.paired` forgets the pending value again,
`Tracks.count` counts the edges, and `outputs_tracks` lifts a per-step
`Tracks` to a run of a machine whose state determines the pending value.
-/

namespace Pairing

variable {β : Type*}

inductive Edge (β : Type*) where
  | rise (b : β)
  | fall (b : β)
deriving Repr, DecidableEq

def Edge.isRise : Edge β → Bool
  | .rise _ => true
  | .fall _ => false

def Edge.isFall (e : Edge β) : Bool := !e.isRise

/-- The edges strictly alternate, starting with a rise, and every fall
carries the value of the rise before it. -/
def Paired : List (Edge β) → Prop
  | [] => True
  | [.rise _] => True
  | .rise b :: .fall c :: es => b = c ∧ Paired es
  | _ => False

instance decidablePaired [DecidableEq β] : ∀ es : List (Edge β), Decidable (Paired es)
  | [] => inferInstanceAs (Decidable True)
  | [.rise _] => inferInstanceAs (Decidable True)
  | .rise b :: .fall c :: es =>
      have := decidablePaired es
      inferInstanceAs (Decidable (b = c ∧ Paired es))
  | .fall _ :: _ => inferInstanceAs (Decidable False)
  | .rise _ :: .rise _ :: _ => inferInstanceAs (Decidable False)

def Edge.map {γ : Type*} (f : β → γ) : Edge β → Edge γ
  | .rise b => .rise (f b)
  | .fall b => .fall (f b)

/-- Every fall that directly follows a rise carries its value. Rises may be
lost. -/
def Matched : List (Edge β) → Prop
  | .rise b :: .fall c :: es => b = c ∧ Matched es
  | _ :: es => Matched es
  | [] => True

instance decidableMatched [DecidableEq β] : ∀ es : List (Edge β), Decidable (Matched es)
  | .rise b :: .fall c :: es =>
      have := decidableMatched es
      inferInstanceAs (Decidable (b = c ∧ Matched es))
  | [.rise _] => inferInstanceAs (Decidable True)
  | .rise _ :: .rise c :: es => decidableMatched (.rise c :: es)
  | .fall _ :: es => decidableMatched es
  | [] => inferInstanceAs (Decidable True)

theorem matched_map {γ : Type*} (f : β → γ) :
    ∀ es : List (Edge β), Matched es → Matched (es.map (Edge.map f))
  | .rise _ :: .fall _ :: es, h => ⟨congrArg f h.1, matched_map f es h.2⟩
  | [.rise _], _ => trivial
  | .rise _ :: .rise c :: es, h => matched_map f (.rise c :: es) h
  | .fall _ :: es, h => matched_map f es h
  | [], _ => trivial

theorem matched_concat_rise (b : β) :
    ∀ es : List (Edge β), Matched es → Matched (es ++ [.rise b])
  | .rise _ :: .fall _ :: es, h => ⟨h.1, matched_concat_rise b es h.2⟩
  | [.rise _], _ => trivial
  | .rise _ :: .rise c :: es, h => matched_concat_rise b (.rise c :: es) h
  | .fall _ :: es, h => matched_concat_rise b es h
  | [], _ => trivial

/-- A fall at the end is compared with the last edge before it. -/
theorem matched_concat_fall {b : β} : ∀ es : List (Edge β), Matched es →
    (∀ b', es.getLast? = some (.rise b') → b' = b) → Matched (es ++ [.fall b])
  | [.rise _, .fall _], h, _ => ⟨h.1, trivial⟩
  | .rise _ :: .fall _ :: e :: es, h, hlast => ⟨h.1, matched_concat_fall (e :: es) h.2 hlast⟩
  | [.rise c], _, hlast => ⟨hlast c rfl, trivial⟩
  | .rise _ :: .rise c :: es, h, hlast => matched_concat_fall (.rise c :: es) h hlast
  | [.fall _], _, _ => trivial
  | .fall _ :: e :: es, h, hlast => matched_concat_fall (e :: es) h hlast
  | [], _, _ => trivial

theorem isRise_map {γ : Type*} (f : β → γ) (es : List (Edge β)) :
    (es.map (Edge.map f)).map Edge.isRise = es.map Edge.isRise := by
  rw [List.map_map]
  exact List.map_congr_left fun e _ => by cases e <;> rfl

/-- `es` is a legal continuation when `p` is the pending rise, and leaves
`q` pending. -/
inductive Tracks : Option β → List (Edge β) → Option β → Prop where
  | nil (p : Option β) : Tracks p [] p
  | rise {b : β} {es : List (Edge β)} {q : Option β} :
      Tracks (some b) es q → Tracks none (.rise b :: es) q
  | fall {b : β} {es : List (Edge β)} {q : Option β} :
      Tracks none es q → Tracks (some b) (.fall b :: es) q

theorem Tracks.append {p q r : Option β} {es fs : List (Edge β)}
    (h : Tracks p es q) (h' : Tracks q fs r) : Tracks p (es ++ fs) r := by
  induction h with
  | nil p => exact h'
  | rise _ ih => exact .rise (ih h')
  | fall _ ih => exact .fall (ih h')

theorem Tracks.rise_one (b : β) : Tracks none [.rise b] (some b) :=
  .rise (.nil _)

theorem Tracks.fall_one (b : β) : Tracks (some b) [.fall b] none :=
  .fall (.nil _)

theorem Tracks.paired : ∀ {es : List (Edge β)} {q : Option β},
    Tracks none es q → Paired es
  | [], _, _ => trivial
  | [.rise _], _, _ => trivial
  | .rise b :: .fall c :: es, q, .rise h => by
      cases h with
      | fall h => exact ⟨rfl, h.paired⟩

/-- What is pending is what was raised and not lowered. -/
theorem Tracks.count {p q : Option β} {es : List (Edge β)} (h : Tracks p es q) :
    es.countP Edge.isRise + p.toList.length = es.countP Edge.isFall + q.toList.length := by
  induction h with
  | nil p => rfl
  | rise _ ih =>
      rw [List.countP_cons_of_pos rfl, List.countP_cons_of_neg (by simp [Edge.isFall, Edge.isRise])]
      exact ih
  | fall _ ih =>
      rw [List.countP_cons_of_neg (by simp [Edge.isRise]), List.countP_cons_of_pos rfl,
        Nat.add_right_comm, ← ih]
      rfl

/-- A machine whose state determines the pending rise, and whose every
guarded step emits a legal continuation, emits a legal stream. -/
theorem outputs_tracks {σ ι ο : Type*} {step : σ → ι → σ × List ο}
    {ok : σ → ι → Prop} (Inv : σ → Prop) (pending : σ → Option β)
    (edge? : ο → Option (Edge β))
    (hinv : ∀ s i, Inv s → ok s i → Inv (step s i).1)
    (htrack : ∀ s i, Inv s → ok s i →
      Tracks (pending s) ((step s i).2.filterMap edge?) (pending (step s i).1)) :
    ∀ {is : List ι} {s : σ}, Inv s → Machine.Along step ok s is →
      Tracks (pending s) ((Machine.outputs step s is).filterMap edge?)
        (pending (Machine.final step s is))
  | [], _, _, _ => .nil _
  | i :: is, s, hs, ⟨hok, halong⟩ => by
      rw [Machine.outputs_cons, List.filterMap_append, Machine.final_cons]
      exact (htrack s i hs hok).append
        (outputs_tracks Inv pending edge? hinv htrack (hinv s i hs hok) halong)

end Pairing
