import Mathlib.Data.List.Forall2
import MidiFighter.Combo

/-!
# The combo grammar

A table-driven combo should be recognised only after its documented key
events, one per poll (`comboPattern`). The automaton encodes how far a
pattern has been followed in its state number: `matched` reads the number
back as the events it stands for, and a rule is sound when the events of
its target state are the last ones of its source state followed by its own
key event (`stateTable_matched`).

Three rows are not sound. They jump from a prefix of combo E into combo C
or D although the last events are not a prefix of those (`MisplacedRule`),
so that other key sequences complete a combo
(`comboDown_not_grammatical`). A fourth way to lose track is the branch
"this should never happen" of the chord test: it consumes a poll without
moving `combo_state` (`ChordLost`). Apart from these, every DOWN follows
its pattern (`comboDown_grammatical`).
-/

namespace MidiFighter

/-! ## Patterns -/

/-- The documented key events of a combo; combo B has no order. -/
def comboPattern : Combo → List KeyEvent
  | .a => [⟨0, .down⟩, ⟨1, .down⟩, ⟨2, .down⟩, ⟨3, .down⟩]
  | .b => []
  | .c => [⟨5, .down⟩, ⟨6, .down⟩, ⟨9, .down⟩, ⟨10, .down⟩]
  | .d => [⟨4, .down⟩, ⟨4, .up⟩, ⟨5, .down⟩, ⟨5, .up⟩, ⟨6, .down⟩, ⟨6, .up⟩, ⟨6, .down⟩,
      ⟨6, .up⟩, ⟨7, .down⟩]
  | .e => [⟨8, .down⟩, ⟨8, .up⟩, ⟨8, .down⟩, ⟨8, .up⟩, ⟨0, .down⟩, ⟨0, .up⟩, ⟨0, .down⟩,
      ⟨0, .up⟩, ⟨4, .down⟩, ⟨4, .up⟩, ⟨5, .down⟩, ⟨5, .up⟩, ⟨4, .down⟩, ⟨4, .up⟩, ⟨5, .down⟩,
      ⟨5, .up⟩, ⟨7, .down⟩, ⟨7, .up⟩, ⟨6, .down⟩]

/-- The last polls contain the events of `pattern`, one per poll. -/
def EndsWith (pattern : List KeyEvent) (polls : List KeyPoll) : Prop :=
  ∃ last, last <:+ polls ∧ List.Forall₂ (fun ev p => p.has ev = true) pattern last

def eventPolls (os : List (KeyPoll × ComboAction)) : List KeyPoll :=
  (os.map Prod.fst).filter KeyPoll.isEvent

/-- Wherever a run returns a DOWN, its event polls up to there end with the
pattern of the combo. -/
def Grammatical (os : List (KeyPoll × ComboAction)) : Prop :=
  ∀ pre p combo post, os = pre ++ (p, .down combo) :: post →
    EndsWith (comboPattern combo) (eventPolls (pre ++ [(p, .down combo)]))

theorem endsWith_iff {pattern : List KeyEvent} {polls : List KeyPoll} :
    EndsWith pattern polls ↔ List.Forall₂ (fun ev p => p.has ev = true) pattern
      (polls.drop (polls.length - pattern.length)) := by
  constructor
  · rintro ⟨last, hsuf, hall⟩
    rw [hall.length_eq, ← List.suffix_iff_eq_drop.mp hsuf]
    exact hall
  · exact fun hall => ⟨_, List.drop_suffix _ _, hall⟩

instance (pattern : List KeyEvent) (polls : List KeyPoll) : Decidable (EndsWith pattern polls) :=
  decidable_of_iff _ endsWith_iff.symm

theorem EndsWith.nil (polls : List KeyPoll) : EndsWith [] polls :=
  ⟨[], List.nil_suffix, .nil⟩

theorem EndsWith.snoc {pattern : List KeyEvent} {polls : List KeyPoll} {ev : KeyEvent}
    {p : KeyPoll} (h : EndsWith pattern polls) (hp : p.has ev = true) :
    EndsWith (pattern ++ [ev]) (polls ++ [p]) := by
  obtain ⟨last, ⟨front, rfl⟩, hall⟩ := h
  exact ⟨last ++ [p], ⟨front, by rw [List.append_assoc]⟩,
    List.rel_append hall (.cons hp .nil)⟩

theorem EndsWith.of_suffix {pattern pattern' : List KeyEvent} {polls : List KeyPoll}
    (h : EndsWith pattern polls) (hsuf : pattern' <:+ pattern) : EndsWith pattern' polls := by
  obtain ⟨last, hlast, hall⟩ := h
  obtain ⟨front, rfl⟩ := hsuf
  have hdrop := List.forall₂_drop front.length hall
  rw [List.drop_left] at hdrop
  exact ⟨last.drop front.length, (List.drop_suffix _ _).trans hlast, hdrop⟩

theorem eventPolls_snoc {os : List (KeyPoll × ComboAction)} {p : KeyPoll} {action : ComboAction}
    (hev : p.isEvent = true) : eventPolls (os ++ [(p, action)]) = eventPolls os ++ [p] := by
  simp [eventPolls, hev]

theorem eventPolls_idle {os : List (KeyPoll × ComboAction)} {p : KeyPoll} {action : ComboAction}
    (hev : p.isEvent = false) : eventPolls (os ++ [(p, action)]) = eventPolls os := by
  simp [eventPolls, hev]

theorem Grammatical.snoc {os : List (KeyPoll × ComboAction)} {p : KeyPoll} {action : ComboAction}
    (h : Grammatical os)
    (hlast : ∀ combo, action = .down combo →
      EndsWith (comboPattern combo) (eventPolls (os ++ [(p, action)]))) :
    Grammatical (os ++ [(p, action)]) := by
  intro pre q combo post heq
  rcases List.eq_nil_or_concat post with rfl | ⟨post, o, rfl⟩
  · obtain ⟨rfl, hpair⟩ := List.append_inj' heq rfl
    obtain ⟨rfl, rfl⟩ := Prod.mk.inj (List.singleton_inj.mp hpair)
    exact hlast combo rfl
  · rw [List.concat_eq_append, ← List.cons_append, ← List.append_assoc] at heq
    exact h pre q combo post (List.append_inj' heq rfl).1

/-! ## The automaton as a prefix matcher -/

def matched (st : Nat) : List KeyEvent :=
  if st ≤ 3 then (comboPattern .a).take st
  else if 5 ≤ st ∧ st ≤ 7 then (comboPattern .c).take (st - 4)
  else if 9 ≤ st ∧ st ≤ 16 then (comboPattern .d).take (st - 8)
  else if 18 ≤ st ∧ st ≤ 35 then (comboPattern .e).take (st - 17)
  else []

/-- The rows `{26, 6v, 6}`, `{31, 6v, 13}` and `{33, 5v, 11}`. -/
def misplacedRules : List ComboRule :=
  [⟨26, ⟨6, .down⟩, 6, .none⟩, ⟨31, ⟨6, .down⟩, 13, .none⟩, ⟨33, ⟨5, .down⟩, 11, .none⟩]

def ComboAction.pattern : ComboAction → List KeyEvent
  | .down combo => comboPattern combo
  | _ => []

theorem stateTable_matched : ∀ rule ∈ stateTable, rule.stateNum ∉ finalStates →
    rule ∉ misplacedRules →
      matched rule.nextState <:+ matched rule.stateNum ++ [rule.event]
        ∧ rule.action.pattern <:+ matched rule.stateNum ++ [rule.event] := by
  decide

/-! ## Conditions on a poll -/

/-- One of the misplaced rows fires: in state 26 key 6 goes down and key 4
does not go up, in state 31 key 6 goes down and key 5 does not, in state 33
key 5 goes down and key 7 does not. -/
def MisplacedRule (r : ComboRecognizer) (p : KeyPoll) : Prop :=
  r.comboAction.isDown = false ∧ p.keystate ≠ 0x00F0
    ∧ ((r.comboState = 26 ∧ p.has ⟨6, .down⟩ = true ∧ p.has ⟨4, .up⟩ = false)
      ∨ (r.comboState = 31 ∧ p.has ⟨6, .down⟩ = true ∧ p.has ⟨5, .down⟩ = false)
      ∨ (r.comboState = 33 ∧ p.has ⟨5, .down⟩ = true ∧ p.has ⟨7, .down⟩ = false))

/-- The chord `0x00F0` is left when other keys are released, in the middle
of another combo. -/
def ChordLost (r : ComboRecognizer) (p : KeyPoll) : Prop :=
  p.isEvent = true ∧ p.keystate = 0x00F0 ∧ p.keydown = 0 ∧ r.comboAction ≠ .down .b
    ∧ r.comboState ≠ 0

instance (r : ComboRecognizer) (p : KeyPoll) : Decidable (MisplacedRule r p) :=
  inferInstanceAs (Decidable (_ ∧ _))

instance (r : ComboRecognizer) (p : KeyPoll) : Decidable (ChordLost r p) :=
  inferInstanceAs (Decidable (_ ∧ _))

theorem find?_pair {rule rule' : ComboRule} {q : ComboRule → Bool} (hne : rule ≠ rule')
    (h : [rule, rule'].find? q = some rule') : q rule = false := by
  by_contra hq
  rw [List.find?_cons_of_pos (by simpa using hq)] at h
  exact hne (Option.some.inj h)

theorem misplacedRule_of_find {r : ComboRecognizer} {p : KeyPoll} {rule : ComboRule}
    (hact : r.comboAction.isDown = false) (hstate : p.keystate ≠ 0x00F0)
    (hfind : (rulesOf r.comboState).find? (fun rule => p.has rule.event) = some rule)
    (hmis : rule ∈ misplacedRules) : MisplacedRule r p := by
  have hnum := (mem_rulesOf (List.mem_of_find?_eq_some hfind)).2
  have hhas : p.has rule.event = true := by simpa using List.find?_some hfind
  rw [← hnum] at hfind
  refine ⟨hact, hstate, ?_⟩
  simp only [misplacedRules, List.mem_cons, List.not_mem_nil, or_false] at hmis
  rcases hmis with rfl | rfl | rfl
  · have hrules : rulesOf 26 = [⟨26, ⟨4, .up⟩, 27, .none⟩, ⟨26, ⟨6, .down⟩, 6, .none⟩] := by decide
    exact Or.inl ⟨hnum.symm, hhas, find?_pair (by decide) (hrules ▸ hfind)⟩
  · have hrules : rulesOf 31 = [⟨31, ⟨5, .down⟩, 32, .none⟩, ⟨31, ⟨6, .down⟩, 13, .none⟩] := by
      decide
    exact Or.inr (Or.inl ⟨hnum.symm, hhas, find?_pair (by decide) (hrules ▸ hfind)⟩)
  · have hrules : rulesOf 33 = [⟨33, ⟨7, .down⟩, 34, .none⟩, ⟨33, ⟨5, .down⟩, 11, .none⟩] := by
      decide
    exact Or.inr (Or.inr ⟨hnum.symm, hhas, find?_pair (by decide) (hrules ▸ hfind)⟩)

/-! ## Soundness -/

/-- The results so far are grammatical, and while no combo is held the last
event polls contain what the state stands for. -/
structure Follows (os : List (KeyPoll × ComboAction)) (r : ComboRecognizer) : Prop where
  grammatical : Grammatical os
  valid : r.Valid
  matched : r.comboAction.isDown = false → EndsWith (matched r.comboState) (eventPolls os)

theorem comboRecognize_follows {os : List (KeyPoll × ComboAction)} {r : ComboRecognizer}
    {p : KeyPoll} (h : Follows os r) (hmis : ¬MisplacedRule r p) (hlost : ¬ChordLost r p) :
    Follows (os ++ [(p, (comboRecognize r p).2)]) (comboRecognize r p).1 := by
  obtain ⟨hgram, hvalid, hmatched⟩ := h
  have hzero : p.isEvent = true → p.keystate = 0x00F0 → p.keydown = 0 →
      r.comboAction ≠ .down .b → r.comboState = 0 := by
    intro hev hstate hdown hact
    by_contra hne
    exact hlost ⟨hev, hstate, hdown, hact, hne⟩
  have hquiet : ∀ {action : ComboAction}, action.isDown = false →
      Grammatical (os ++ [(p, action)]) := by
    intro action hact
    refine hgram.snoc fun combo hdown => ?_
    rw [hdown] at hact
    cases hact
  have hmove := comboRecognize_cases r p hvalid.1
  have hvalid' := hmove.valid hvalid fun hev hstate hdown hact => by
    rw [hzero hev hstate hdown hact]
    decide
  generalize comboRecognize r p = res at hmove hvalid'
  cases hmove with
  | idle hev =>
      refine ⟨hquiet rfl, hvalid', fun hact => ?_⟩
      rw [eventPolls_idle hev]
      exact hmatched hact
  | chord =>
      refine ⟨hgram.snoc fun combo hdown => ?_, hvalid', nofun⟩
      obtain rfl := ComboAction.down.inj hdown
      exact .nil _
  | chordLost hev hstate hact hdown =>
      refine ⟨hquiet rfl, hvalid', fun _ => ?_⟩
      rw [hzero hev hstate hdown hact]
      exact .nil _
  | release => exact ⟨hquiet rfl, hvalid', fun _ => .nil _⟩
  | hold _ hact =>
      refine ⟨hquiet rfl, hvalid', fun hdown => ?_⟩
      rw [hact] at hdown
      cases hdown
  | reset => exact ⟨hquiet rfl, hvalid', fun _ => .nil _⟩
  | @advance hev hstate hact rule hfind =>
      obtain ⟨hmem, hnum⟩ := mem_rulesOf (List.mem_of_find?_eq_some hfind)
      have hhas : p.has rule.event = true := by simpa using List.find?_some hfind
      have hstart : rule.stateNum ∉ finalStates := hnum ▸ hvalid.notMem_finalStates hact
      have hsound := stateTable_matched rule hmem hstart fun hbad =>
        hmis (misplacedRule_of_find hact hstate hfind hbad)
      have hpolls : EndsWith (MidiFighter.matched rule.stateNum ++ [rule.event])
          (eventPolls (os ++ [(p, rule.action)])) := by
        rw [eventPolls_snoc hev, hnum]
        exact (hmatched hact).snoc hhas
      refine ⟨hgram.snoc fun combo hdown => ?_, hvalid', fun _ => hpolls.of_suffix hsound.1⟩
      have hpattern : rule.action.pattern = comboPattern combo :=
        congrArg ComboAction.pattern hdown
      rw [← hpattern]
      exact hpolls.of_suffix hsound.2

/-- **Grammar.** In a run from boot in which no misplaced row fires and the
chord is not lost in the middle of another combo, every DOWN is returned
at the end of its documented key events. -/
theorem comboDown_grammatical (states : List (BitVec 64))
    (hok : Machine.Along comboStep
      (fun s gKeyState => ¬MisplacedRule s.2 (s.1.next gKeyState).poll
        ∧ ¬ChordLost s.2 (s.1.next gKeyState).poll)
      (Keys.boot, ComboRecognizer.boot) states) :
    Grammatical (Machine.outputs comboStep (Keys.boot, ComboRecognizer.boot) states) := by
  have hboot : Follows [] ComboRecognizer.boot := by
    refine ⟨fun pre p combo post heq => ?_, .of_zero rfl, fun _ => .nil _⟩
    exact absurd heq (by simp)
  have hrun := Machine.outputs_history (fun os s => Follows os s.2)
    (fun _ _ _ hinv hi => comboRecognize_follows hinv hi.1 hi.2) hboot hok
  exact hrun.grammatical

/-- Combo C, key by key. -/
theorem comboDown_grammatical_c :
    Grammatical (Machine.outputs comboStep (Keys.boot, ComboRecognizer.boot)
      [0x20, 0x60, 0x260, 0x660]) :=
  comboDown_grammatical [0x20, 0x60, 0x260, 0x660] (by decide)

/-- The first nine events of combo E and then keys 6, 9 and 10: C_DOWN is
returned, but key 5 was never pressed. -/
theorem comboDown_not_grammatical :
    ¬Grammatical (Machine.outputs comboStep (Keys.boot, ComboRecognizer.boot)
      [0x100, 0x0, 0x100, 0x0, 0x1, 0x0, 0x1, 0x0, 0x10, 0x50, 0x250, 0x650]) := by
  intro h
  have hlast := h
    (Machine.outputs comboStep (Keys.boot, ComboRecognizer.boot)
      [0x100, 0x0, 0x100, 0x0, 0x1, 0x0, 0x1, 0x0, 0x10, 0x50, 0x250])
    ⟨0x400, 0x0, 0x650⟩ .c [] (by decide)
  exact absurd hlast (by decide)

end MidiFighter
