import MidiFighter.Bits
import MidiFighter.Combo

/-!
# The release of a combo

A combo should be held as long as the key that completed it
(`FollowsFinalKey`). The recogniser does not take that key from the rule
that fired: it takes the lowest of the keys that went down in the same poll
(`rightmost_bit_16`), so a key with a smaller number that goes down together
with the final key takes its place (`LowerKeyDown`, a condition on
`combo_state` before the poll and on the keys). The second way to lose
the final key is the chord `0x00F0`, which replaces a combo that is held
(`ChordOverCombo`).

`HoldsFinalKey` is the invariant: after a DOWN, as long as its final key has
been pressed in every poll, the recogniser holds the combo with that key.
-/

namespace MidiFighter

/-- The key of the rule that completes a combo; combo B has none. -/
def finalKey : Combo → Nat
  | .a => 3
  | .b => 0
  | .c => 10
  | .d => 7
  | .e => 6

def tableCombos : List Combo := [.a, .c, .d, .e]

/-- The state whose only row completes a combo of the table. -/
def completingState : Combo → Nat
  | .a => 3
  | .b => 0
  | .c => 7
  | .d => 16
  | .e => 35

theorem stateTable_completing : ∀ rule ∈ stateTable, ∀ combo ∈ tableCombos,
    rule.action = .down combo →
      rule.stateNum = completingState combo ∧ rule.event = ⟨finalKey combo, .down⟩ := by
  decide

/-- Wherever a run returns the DOWN of a table-driven combo, the RELEASE is
returned at the first later poll without the final key, and at no poll before
it. -/
def FollowsFinalKey (os : List (KeyPoll × ComboAction)) : Prop :=
  ∀ pre p combo mid q action post,
    os = pre ++ (p, .down combo) :: mid ++ (q, action) :: post → combo ∈ tableCombos →
    (∀ o ∈ mid, o.1.keystate.getLsbD (finalKey combo) = true) →
      (action = .release combo ↔ q.keystate.getLsbD (finalKey combo) = false)

/-- No combo is held, the keys are not the chord, the final key of the combo
whose completing state has been reached goes down, and a key below it goes
down, too. -/
def LowerKeyDown (r : ComboRecognizer) (p : KeyPoll) : Prop :=
  r.comboAction.isDown = false ∧ p.keystate ≠ 0x00F0
    ∧ ∃ combo ∈ tableCombos, r.comboState = completingState combo
      ∧ p.keydown.getLsbD (finalKey combo) = true
      ∧ ∃ i < finalKey combo, p.keydown.getLsbD i = true

instance (r : ComboRecognizer) (p : KeyPoll) : Decidable (LowerKeyDown r p) :=
  inferInstanceAs (Decidable (_ ∧ _ ∧ _))

/-! ## The release key -/

theorem and_shiftLeft_eq_zero (value : BitVec 16) (k : Nat) :
    value &&& (1 : BitVec 16) <<< k = 0 ↔ value.getLsbD k = false := by
  have hbit : (value &&& (1 : BitVec 16) <<< k != 0) = value.getLsbD k :=
    Bits.and_twoPow_bne value k
  rw [← hbit, bne_eq_false_iff_eq]

theorem rightmostBit16_eq {value : BitVec 16} {k : Nat} (hk : k < 16)
    (hbit : value.getLsbD k = true) (hlow : ∀ i < k, value.getLsbD i = false) :
    rightmostBit16 value = (1 : BitVec 16) <<< k := by
  have hfind : (List.range 16).find?
      ((fun bit => decide (value &&& bit ≠ 0)) ∘ fun i => (1 : BitVec 16) <<< i) = some k := by
    rw [List.find?_range_eq_some]
    simp only [Function.comp_apply, ne_eq, and_shiftLeft_eq_zero, hbit, List.mem_range, hk]
    simpa using hlow
  rw [rightmostBit16, List.find?_map, hfind]
  rfl

theorem finalKey_lt (combo : Combo) : finalKey combo < 16 := by
  cases combo <;> decide

section

variable {r : ComboRecognizer} {p : KeyPoll} {combo : Combo}

/-- A DOWN is latched together with the lowest key that went down in the poll.
The rule that fired may have asked for another one. -/
theorem comboRecognize_latch (h : (comboRecognize r p).2 = .down combo) :
    (comboRecognize r p).1.comboAction = .down combo
      ∧ (comboRecognize r p).1.comboReleaseKey = rightmostBit16 p.keydown := by
  revert h
  unfold comboRecognize
  split
  · intro h
    cases h
  · split
    · dsimp only
      split
      · intro h
        cases h
      · exact fun h => ⟨h, rfl⟩
    · split
      · split <;> intro h <;> cases h
      · dsimp only
        intro h
        rw [h, if_neg ComboAction.noConfusion]
        exact ⟨rfl, rfl⟩

theorem comboRecognize_down (hr : r.comboState ≤ 36) (hcombo : combo ∈ tableCombos)
    (h : (comboRecognize r p).2 = .down combo) :
    r.comboAction.isDown = false ∧ p.keystate ≠ 0x00F0 ∧ r.comboState = completingState combo
      ∧ p.keydown.getLsbD (finalKey combo) = true := by
  have hmove := comboRecognize_cases r p hr
  generalize comboRecognize r p = res at hmove h
  cases hmove with
  | idle | chordLost | release | hold | reset => cases h
  | chord =>
      obtain rfl := ComboAction.down.inj h
      exact absurd hcombo (by decide)
  | @advance _ hstate hact rule hfind =>
      obtain ⟨hrule, hnum⟩ := mem_rulesOf (List.mem_of_find?_eq_some hfind)
      obtain ⟨hcompleting, hevent⟩ := stateTable_completing rule hrule combo hcombo h
      have hhas : p.has rule.event = true := by simpa using List.find?_some hfind
      rw [hevent] at hhas
      exact ⟨hact, hstate, hnum.symm.trans hcompleting, hhas⟩

/-- A table-driven combo that is held, with no chord in the way, is released
when its release key is up. -/
theorem comboRecognize_held (hact : r.comboAction = .down combo) (hcombo : combo ∈ tableCombos)
    (hok : ¬ChordOverCombo r p) :
    comboRecognize r p =
      if p.isEvent = true ∧ p.keystate &&& r.comboReleaseKey = 0 then
        ({ r with comboState := 0, comboAction := .release combo }, .release combo)
      else (r, .none) := by
  have hdown : r.comboAction.isDown = true := by rw [hact]; rfl
  have hb : r.comboAction ≠ .down .b := by
    rintro hb
    obtain rfl := ComboAction.down.inj (hact.symm.trans hb)
    exact absurd hcombo (by decide)
  have hchord : ¬(p.keystate = 0x00F0 ∧ r.comboAction ≠ .down .b) := fun h =>
    hok ⟨h.1, hdown, hb⟩
  unfold comboRecognize
  by_cases hidle : p.keydown = 0 ∧ p.keyup = 0
  · rw [if_pos hidle, if_neg fun h => KeyPoll.isEvent_eq_true.mp h.1 hidle]
  · have hev : p.isEvent = true := KeyPoll.isEvent_eq_true.mpr hidle
    rw [if_neg hidle, if_neg hchord, hact]
    simp only [hev, true_and]

end

/-! ## Polls of a run -/

theorem getLsbD_truncate (x : BitVec 64) {k : Nat} (hk : k < 16) :
    (x.truncate 16).getLsbD k = x.getLsbD k := by
  simp [hk]

section

variable {keys : Keys} {gKeyState : BitVec 64} {k : Nat} (hk : k < 16)

include hk

theorem poll_keystate :
    (keys.next gKeyState).poll.keystate.getLsbD k = gKeyState.getLsbD k :=
  getLsbD_truncate _ hk

theorem poll_keystate_of_keydown (h : (keys.next gKeyState).poll.keydown.getLsbD k = true) :
    gKeyState.getLsbD k = true := by
  have hdown : (keys.next gKeyState).poll.keydown.getLsbD k
      = (gKeyState.getLsbD k && !keys.gKeyPrevState.getLsbD k) :=
    (getLsbD_truncate _ hk).trans (keyCalc_down _ k)
  rw [hdown, Bool.and_eq_true] at h
  exact h.1

theorem poll_keystate_of_idle (hidle : (keys.next gKeyState).poll.isEvent = false)
    (hprev : keys.gKeyPrevState.getLsbD k = true) : gKeyState.getLsbD k = true := by
  have hup : (keys.next gKeyState).poll.keyup.getLsbD k
      = (keys.gKeyPrevState.getLsbD k && !gKeyState.getLsbD k) :=
    (getLsbD_truncate _ hk).trans (keyCalc_up _ k)
  rw [(KeyPoll.isEvent_eq_false.mp hidle).2, hprev] at hup
  simpa using hup.symm

end

/-! ## Runs -/

/-- After a DOWN the recogniser holds the combo, with its final key, as long as
that key has been pressed in every poll since. -/
structure HoldsFinalKey (os : List (KeyPoll × ComboAction)) (s : Keys × ComboRecognizer) :
    Prop where
  state : s.2.comboState ≤ 36
  follows : FollowsFinalKey os
  held : ∀ pre p combo post, os = pre ++ (p, .down combo) :: post → combo ∈ tableCombos →
    (∀ o ∈ post, o.1.keystate.getLsbD (finalKey combo) = true) →
      s.2.comboAction = .down combo
        ∧ s.2.comboReleaseKey = (1 : BitVec 16) <<< finalKey combo
        ∧ s.1.gKeyPrevState.getLsbD (finalKey combo) = true

theorem comboStep_held {s : Keys × ComboRecognizer} {gKeyState : BitVec 64} {combo : Combo}
    (hcombo : combo ∈ tableCombos) (hact : s.2.comboAction = .down combo)
    (hkey : s.2.comboReleaseKey = (1 : BitVec 16) <<< finalKey combo)
    (hprev : s.1.gKeyPrevState.getLsbD (finalKey combo) = true)
    (hok : ¬ChordOverCombo s.2 (s.1.next gKeyState).poll) :
    comboRecognize s.2 (s.1.next gKeyState).poll =
      if gKeyState.getLsbD (finalKey combo) = true then (s.2, .none)
      else ({ s.2 with comboState := 0, comboAction := .release combo }, .release combo) := by
  have hlt := finalKey_lt combo
  have hup : (s.1.next gKeyState).poll.keystate &&& s.2.comboReleaseKey = 0 ↔
      ¬gKeyState.getLsbD (finalKey combo) = true := by
    rw [hkey, and_shiftLeft_eq_zero, poll_keystate hlt, Bool.not_eq_true]
  rw [comboRecognize_held hact hcombo hok]
  by_cases hpressed : gKeyState.getLsbD (finalKey combo) = true
  · rw [if_pos hpressed, if_neg fun h => hup.mp h.2 hpressed]
  · have hev : (s.1.next gKeyState).poll.isEvent = true := by
      by_contra hidle
      exact hpressed (poll_keystate_of_idle hlt (by simpa using hidle) hprev)
    rw [if_neg hpressed, if_pos ⟨hev, hup.mpr hpressed⟩]

theorem comboStep_holdsFinalKey {os : List (KeyPoll × ComboAction)} {s : Keys × ComboRecognizer}
    {gKeyState : BitVec 64} (h : HoldsFinalKey os s)
    (hchord : ¬ChordOverCombo s.2 (s.1.next gKeyState).poll)
    (hlower : ¬LowerKeyDown s.2 (s.1.next gKeyState).poll) :
    HoldsFinalKey (os ++ (comboStep s gKeyState).2) (comboStep s gKeyState).1 := by
  rw [comboStep]
  dsimp only
  refine ⟨(comboRecognize_cases _ _ h.state).state_le h.state, ?_, ?_⟩
  · intro pre p combo mid q action post heq hcombo hmid
    rcases List.eq_nil_or_concat' post with rfl | ⟨post, o, rfl⟩
    · -- the poll in question is this one
      obtain ⟨rfl, hpair⟩ := List.append_inj' heq rfl
      obtain ⟨rfl, rfl⟩ := Prod.mk.inj (List.singleton_inj.mp hpair)
      obtain ⟨hact, hkey, hprev⟩ := h.held pre p combo mid rfl hcombo hmid
      rw [comboStep_held hcombo hact hkey hprev hchord, poll_keystate (finalKey_lt combo)]
      split
      · rename_i hpressed
        rw [hpressed]
        exact iff_of_false ComboAction.noConfusion Bool.noConfusion
      · rename_i hpressed
        exact iff_of_true rfl (by simpa using hpressed)
    · rw [← List.cons_append, ← List.append_assoc] at heq
      exact h.follows pre p combo mid q action post (List.append_inj' heq rfl).1 hcombo hmid
  · intro pre p combo post heq hcombo hpost
    rcases List.eq_nil_or_concat' post with rfl | ⟨post, o, rfl⟩
    · -- this poll completes the combo
      obtain ⟨rfl, hpair⟩ := List.append_inj' heq rfl
      obtain ⟨rfl, hdown⟩ := Prod.mk.inj (List.singleton_inj.mp hpair)
      obtain ⟨hidle, hkeys, hcompleting, hfinal⟩ := comboRecognize_down h.state hcombo hdown
      obtain ⟨hact, hkey⟩ := comboRecognize_latch hdown
      have hlow : ∀ i < finalKey combo, (s.1.next gKeyState).poll.keydown.getLsbD i = false := by
        intro i hi
        by_contra hbit
        exact hlower ⟨hidle, hkeys, combo, hcombo, hcompleting, hfinal, i, hi, by simpa using hbit⟩
      rw [rightmostBit16_eq (finalKey_lt combo) hfinal hlow] at hkey
      exact ⟨hact, hkey, poll_keystate_of_keydown (finalKey_lt combo) hfinal⟩
    · -- the final key has been held through this poll
      rw [← List.cons_append, ← List.append_assoc] at heq
      obtain ⟨rfl, hpair⟩ := List.append_inj' heq rfl
      obtain rfl := List.singleton_inj.mp hpair
      rw [List.forall_mem_append] at hpost
      obtain ⟨hact, hkey, hprev⟩ := h.held pre p combo post rfl hcombo hpost.1
      have hpressed := hpost.2 _ (List.mem_singleton_self _)
      dsimp only at hpressed
      rw [poll_keystate (finalKey_lt combo)] at hpressed
      rw [comboStep_held hcombo hact hkey hprev hchord, if_pos hpressed]
      exact ⟨hact, hkey, hpressed⟩

/-- **A combo follows its final key.** In a run from boot in which no other key
below the final key goes down with it and the chord `0x00F0` is never completed
over a held combo, a table-driven combo is released at the first poll without
its final key and not before. -/
theorem combo_follows_finalKey (states : List (BitVec 64))
    (hok : Machine.Along comboStep
      (fun s gKeyState => ¬ChordOverCombo s.2 (s.1.next gKeyState).poll
        ∧ ¬LowerKeyDown s.2 (s.1.next gKeyState).poll)
      (Keys.boot, ComboRecognizer.boot) states) :
    FollowsFinalKey (Machine.outputs comboStep (Keys.boot, ComboRecognizer.boot) states) := by
  have hboot : HoldsFinalKey [] (Keys.boot, ComboRecognizer.boot) := by
    refine ⟨Nat.zero_le _, ?_, ?_⟩
    · intro pre p combo mid q action post heq
      exact absurd heq (by simp)
    · intro pre p combo post heq
      exact absurd heq (by simp)
  have hrun := Machine.outputs_history HoldsFinalKey
    (fun _ _ _ hinv hi => comboStep_holdsFinalKey hinv hi.1 hi.2) hboot hok
  exact hrun.follows

/-- Combo C, held while key 9 is released, then let go. -/
theorem combo_follows_finalKey_c :
    FollowsFinalKey (Machine.outputs comboStep (Keys.boot, ComboRecognizer.boot)
      [0x20, 0x60, 0x260, 0x660, 0x460, 0x60]) :=
  combo_follows_finalKey [0x20, 0x60, 0x260, 0x660, 0x460, 0x60] (by decide)

/-- Key 8 goes down together with key 10, the final key of combo C. Its release
returns C_RELEASE while key 10 is still pressed. -/
theorem combo_not_follows_finalKey :
    ¬FollowsFinalKey (Machine.outputs comboStep (Keys.boot, ComboRecognizer.boot)
      [0x20, 0x60, 0x260, 0x760, 0x660]) := by
  intro h
  have hlast := h
    (Machine.outputs comboStep (Keys.boot, ComboRecognizer.boot) [0x20, 0x60, 0x260])
    ⟨0x500, 0x0, 0x760⟩ .c [] ⟨0x0, 0x100, 0x660⟩ (.release .c) [] (by decide) (by decide)
    (List.forall_mem_nil _)
  exact absurd (hlast.mp rfl) (by decide)

end MidiFighter
