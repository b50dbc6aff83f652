import Mathlib.Data.List.TakeWhile
import MidiFighter.Keys
import MidiFighter.Pairing

/-!
# The combo recogniser

`combo.c`: a hand-built automaton over the lower 16 keys. Combos A, C, D
and E are paths through `state_table`; combo B is the chord `0x00F0`,
tested before anything else because its keys can go down in any order. The
recogniser keeps three statics: `combo_state`, the last `combo_action` and
the key whose release ends a combo.

`comboRecognize_cases` says once what a poll can do (`ComboMove`). What
follows here is the pairing of the results (`comboActions_paired`): a DOWN
is answered by the RELEASE of the same combo before anything else happens.
It needs one condition on the run. The chord test comes before the release
test, so a chord `0x00F0` that is completed while another combo is held
replaces it, and the RELEASE of that combo is never returned
(`comboActions_not_paired`).
-/

namespace MidiFighter

/-! ## Types and tables -/

inductive Combo where
  | a
  | b
  | c
  | d
  | e
deriving Repr, DecidableEq

/-- `combo_action_t`; the RELEASE of a combo is its DOWN plus 5. -/
inductive ComboAction where
  | none
  | down (combo : Combo)
  | release (combo : Combo)
deriving Repr, DecidableEq

/-- The keystate a rule tests: `KEYDOWN` or `KEYUP`. -/
inductive KeyEdge where
  | down
  | up
deriving Repr, DecidableEq

structure KeyEvent where
  key : Nat
  edge : KeyEdge
deriving Repr, DecidableEq

/-- `combo_state_t`. -/
structure ComboRule where
  stateNum : Nat
  event : KeyEvent
  nextState : Nat
  action : ComboAction
deriving Repr, DecidableEq

def stateOffset : List Nat :=
  [0,
    4, 5, 6, 7,
    8, 9, 10, 11,
    12, 13, 14,
    16, 17, 18, 19, 20, 21,
    22, 23, 24, 25, 26, 27, 28, 29, 30,
    32, 33, 34, 35, 36,
    38, 39,
    41, 42, 43]

def stateTable : List ComboRule :=
  [⟨0, ⟨0, .down⟩, 1, .none⟩,
    ⟨0, ⟨5, .down⟩, 5, .none⟩,
    ⟨0, ⟨4, .down⟩, 9, .none⟩,
    ⟨0, ⟨8, .down⟩, 18, .none⟩,
    -- combo A
    ⟨1, ⟨1, .down⟩, 2, .none⟩,
    ⟨2, ⟨2, .down⟩, 3, .none⟩,
    ⟨3, ⟨3, .down⟩, 4, .down .a⟩,
    ⟨4, ⟨3, .up⟩, 0, .release .a⟩,
    -- combo C
    ⟨5, ⟨6, .down⟩, 6, .none⟩,
    ⟨6, ⟨9, .down⟩, 7, .none⟩,
    ⟨7, ⟨10, .down⟩, 8, .down .c⟩,
    ⟨8, ⟨10, .up⟩, 0, .release .c⟩,
    -- combo D
    ⟨9, ⟨4, .up⟩, 10, .none⟩,
    ⟨10, ⟨5, .down⟩, 11, .none⟩,
    ⟨11, ⟨5, .up⟩, 12, .none⟩,
    ⟨11, ⟨6, .down⟩, 6, .none⟩,
    ⟨12, ⟨6, .down⟩, 13, .none⟩,
    ⟨13, ⟨6, .up⟩, 14, .none⟩,
    ⟨14, ⟨6, .down⟩, 15, .none⟩,
    ⟨15, ⟨6, .up⟩, 16, .none⟩,
    ⟨16, ⟨7, .down⟩, 17, .down .d⟩,
    ⟨17, ⟨7, .up⟩, 0, .release .d⟩,
    -- combo E
    ⟨18, ⟨8, .up⟩, 19, .none⟩,
    ⟨19, ⟨8, .down⟩, 20, .none⟩,
    ⟨20, ⟨8, .up⟩, 21, .none⟩,
    ⟨21, ⟨0, .down⟩, 22, .none⟩,
    ⟨22, ⟨0, .up⟩, 23, .none⟩,
    ⟨23, ⟨0, .down⟩, 24, .none⟩,
    ⟨24, ⟨0, .up⟩, 25, .none⟩,
    ⟨25, ⟨4, .down⟩, 26, .none⟩,
    ⟨26, ⟨4, .up⟩, 27, .none⟩,
    ⟨26, ⟨6, .down⟩, 6, .none⟩,
    ⟨27, ⟨5, .down⟩, 28, .none⟩,
    ⟨28, ⟨5, .up⟩, 29, .none⟩,
    ⟨29, ⟨4, .down⟩, 30, .none⟩,
    ⟨30, ⟨4, .up⟩, 31, .none⟩,
    ⟨31, ⟨5, .down⟩, 32, .none⟩,
    ⟨31, ⟨6, .down⟩, 13, .none⟩,
    ⟨32, ⟨5, .up⟩, 33, .none⟩,
    ⟨33, ⟨7, .down⟩, 34, .none⟩,
    ⟨33, ⟨5, .down⟩, 11, .none⟩,
    ⟨34, ⟨7, .up⟩, 35, .none⟩,
    ⟨35, ⟨6, .down⟩, 36, .down .e⟩,
    ⟨36, ⟨6, .up⟩, 0, .release .e⟩]

/-! ## Recogniser -/

/-- The statics of `combo.c`. -/
structure ComboRecognizer where
  comboState : Nat
  comboAction : ComboAction
  comboReleaseKey : BitVec 16
deriving Repr, DecidableEq

/-- The static initialisers and `combo_setup`. -/
def ComboRecognizer.boot : ComboRecognizer := ⟨0, .none, 0⟩

/-- The lower 16 bits of the key globals of one poll. -/
structure KeyPoll where
  keydown : BitVec 16
  keyup : BitVec 16
  keystate : BitVec 16
deriving Repr, DecidableEq

def Keys.poll (keys : Keys) : KeyPoll :=
  ⟨keys.gKeyDown.truncate 16, keys.gKeyUp.truncate 16, keys.gKeyState.truncate 16⟩

def KeyPoll.isEvent (p : KeyPoll) : Bool := p.keydown ≠ 0 || p.keyup ≠ 0

theorem KeyPoll.isEvent_eq_false {p : KeyPoll} :
    p.isEvent = false ↔ p.keydown = 0 ∧ p.keyup = 0 := by
  simp [KeyPoll.isEvent]

theorem KeyPoll.isEvent_eq_true {p : KeyPoll} :
    p.isEvent = true ↔ ¬(p.keydown = 0 ∧ p.keyup = 0) := by
  rw [← KeyPoll.isEvent_eq_false, Bool.not_eq_false]

/-- `(1 << keybit) & keymask` for the keymask the event names. -/
def KeyPoll.has (p : KeyPoll) (ev : KeyEvent) : Bool :=
  match ev.edge with
  | .down => p.keydown.getLsbD ev.key
  | .up => p.keyup.getLsbD ev.key

/-- `rightmost_bit_16`: the first of the bits 1, 2, 4, ... that `value` has,
0 when the loop shifts past all 16. -/
def rightmostBit16 (value : BitVec 16) : BitVec 16 :=
  (((List.range 16).map fun i => (1 : BitVec 16) <<< i).find? fun bit => value &&& bit ≠ 0).getD 0

/-- The loop over the rules of `combo_state`. The accumulator is
`(combo_next_state, combo_action)`; a failed rule resets both. -/
def scanRules (p : KeyPoll) (comboState : Nat) :
    List ComboRule → Nat × ComboAction → Nat × ComboAction
  | [], acc => acc
  | rule :: rules, acc =>
      if rule.stateNum = comboState then
        if p.has rule.event then (rule.nextState, rule.action)
        else scanRules p comboState rules (0, .none)
      else acc

def comboRecognize (r : ComboRecognizer) (p : KeyPoll) : ComboRecognizer × ComboAction :=
  if p.keydown = 0 ∧ p.keyup = 0 then (r, .none)
  else if p.keystate = 0x00F0 ∧ r.comboAction ≠ .down .b then
    let keydownBit := rightmostBit16 p.keydown
    -- "this should never happen" in the source: the chord is left over from released keys
    if keydownBit = 0 then ({ r with comboAction := .none }, .none)
    else ({ r with comboReleaseKey := keydownBit, comboAction := .down .b }, .down .b)
  else
    match r.comboAction with
    | .down combo =>
        if p.keystate &&& r.comboReleaseKey = 0 then
          ({ r with comboState := 0, comboAction := .release combo }, .release combo)
        else (r, .none)
    | _ =>
        let offset := stateOffset.getD r.comboState 0
        let (next, action) :=
          scanRules p r.comboState (stateTable.drop offset) (0, r.comboAction)
        ({ comboState := next
           comboAction := action
           comboReleaseKey :=
             if action = .none then r.comboReleaseKey else rightmostBit16 p.keydown },
          action)

def Keys.next (keys : Keys) (gKeyState : BitVec 64) : Keys :=
  keyCalc { keys with gKeyState := gKeyState }

def comboStep (s : Keys × ComboRecognizer) (gKeyState : BitVec 64) :
    (Keys × ComboRecognizer) × List (KeyPoll × ComboAction) :=
  let keys := s.1.next gKeyState
  let res := comboRecognize s.2 keys.poll
  ((keys, res.1), [(keys.poll, res.2)])

/-! ## What a poll can do -/

def ComboAction.isDown : ComboAction → Bool
  | .down _ => true
  | _ => false

def rulesOf (st : Nat) : List ComboRule :=
  (stateTable.drop (stateOffset.getD st 0)).takeWhile fun rule => rule.stateNum = st

inductive ComboMove (r : ComboRecognizer) (p : KeyPoll) :
    ComboRecognizer × ComboAction → Prop where
  | idle (hev : p.isEvent = false) : ComboMove r p (r, .none)
  | chord (hev : p.isEvent = true) (hstate : p.keystate = 0x00F0)
      (hact : r.comboAction ≠ .down .b) (hdown : p.keydown ≠ 0) {key : BitVec 16} :
      ComboMove r p ({ r with comboReleaseKey := key, comboAction := .down .b }, .down .b)
  | chordLost (hev : p.isEvent = true) (hstate : p.keystate = 0x00F0)
      (hact : r.comboAction ≠ .down .b) (hdown : p.keydown = 0) :
      ComboMove r p ({ r with comboAction := .none }, .none)
  | release (hev : p.isEvent = true) {combo : Combo} (hact : r.comboAction = .down combo) :
      ComboMove r p ({ r with comboState := 0, comboAction := .release combo }, .release combo)
  | hold (hev : p.isEvent = true) {combo : Combo} (hact : r.comboAction = .down combo) :
      ComboMove r p (r, .none)
  | reset (hev : p.isEvent = true) (hact : r.comboAction.isDown = false) {key : BitVec 16} :
      ComboMove r p (⟨0, .none, key⟩, .none)
  | advance (hev : p.isEvent = true) (hstate : p.keystate ≠ 0x00F0)
      (hact : r.comboAction.isDown = false) {rule : ComboRule}
      (hfind : (rulesOf r.comboState).find? (fun rule => p.has rule.event) = some rule)
      {key : BitVec 16} :
      ComboMove r p (⟨rule.nextState, rule.action, key⟩, rule.action)

theorem rightmostBit16_eq_zero {value : BitVec 16} (h : rightmostBit16 value = 0) :
    value = 0 := by
  have hbit : ∀ i < 16, ((1 : BitVec 16) <<< i).getLsbD i = true := by
    intro i hi
    simp [hi]
  unfold rightmostBit16 at h
  cases hfind : ((List.range 16).map fun i => (1 : BitVec 16) <<< i).find?
      fun bit => value &&& bit ≠ 0 with
  | some bit =>
      rw [hfind, Option.getD_some] at h
      obtain ⟨i, hi, rfl⟩ := List.mem_map.mp (List.mem_of_find?_eq_some hfind)
      have hi' := hbit i (List.mem_range.mp hi)
      rw [h] at hi'
      simp at hi'
  | none =>
      rw [List.find?_eq_none] at hfind
      refine BitVec.eq_of_getLsbD_eq fun i hi => ?_
      have hand : value &&& (1 : BitVec 16) <<< i = 0 := by
        have htest := hfind _ (List.mem_map.mpr ⟨i, List.mem_range.mpr hi, rfl⟩)
        simpa only [decide_eq_true_eq, ne_eq, not_not] using htest
      have hget := congrArg (BitVec.getLsbD · i) hand
      simp only [BitVec.getLsbD_and, hbit i hi, Bool.and_true] at hget
      exact hget

theorem stateOffset_valid : ∀ st ≤ 36, ((stateTable.drop (stateOffset.getD st 0)).head?.map
    ComboRule.stateNum) = some st := by
  decide

theorem scanRules_eq (p : KeyPoll) (st : Nat) : ∀ rules : List ComboRule,
    scanRules p st rules (0, .none)
      = match (rules.takeWhile fun rule => rule.stateNum = st).find? fun rule =>
          p.has rule.event with
        | some rule => (rule.nextState, rule.action)
        | none => (0, .none)
  | [] => rfl
  | rule :: rules => by
      rw [scanRules]
      by_cases hnum : rule.stateNum = st
      · rw [if_pos hnum, List.takeWhile_cons_of_pos (by simpa using hnum)]
        by_cases hhas : p.has rule.event = true
        · rw [if_pos hhas,
            List.find?_cons_of_pos (p := fun rule : ComboRule => p.has rule.event) hhas]
        · rw [if_neg hhas,
            List.find?_cons_of_neg (p := fun rule : ComboRule => p.has rule.event) hhas]
          exact scanRules_eq p st rules
      · rw [if_neg hnum, List.takeWhile_cons_of_neg (by simpa using hnum)]
        rfl

theorem mem_rulesOf {st : Nat} {rule : ComboRule} (h : rule ∈ rulesOf st) :
    rule ∈ stateTable ∧ rule.stateNum = st :=
  ⟨List.mem_of_mem_drop ((List.takeWhile_prefix _).subset h),
    by simpa using List.mem_takeWhile_imp h⟩

/-- The scan from a valid state forgets the previous action: its first rule
already resets it. -/
theorem scanRules_start {p : KeyPoll} {st : Nat} (hst : st ≤ 36) (acc : Nat × ComboAction) :
    scanRules p st (stateTable.drop (stateOffset.getD st 0)) acc
      = scanRules p st (stateTable.drop (stateOffset.getD st 0)) (0, .none) := by
  have hvalid := stateOffset_valid st hst
  cases hrules : stateTable.drop (stateOffset.getD st 0) with
  | nil =>
      rw [hrules] at hvalid
      cases hvalid
  | cons rule rules =>
      rw [hrules] at hvalid
      have hnum : rule.stateNum = st := Option.some.inj hvalid
      simp only [scanRules, hnum, if_true]

/-- **Everything a poll can do to the recogniser.** The chord is tested first
and a held combo second. Only without either are the rows of the state looked
at. -/
theorem comboRecognize_cases (r : ComboRecognizer) (p : KeyPoll) (hst : r.comboState ≤ 36) :
    ComboMove r p (comboRecognize r p) := by
  unfold comboRecognize
  by_cases hidle : p.keydown = 0 ∧ p.keyup = 0
  · rw [if_pos hidle]
    exact .idle (KeyPoll.isEvent_eq_false.mpr hidle)
  · rw [if_neg hidle]
    have hev : p.isEvent = true := KeyPoll.isEvent_eq_true.mpr hidle
    by_cases hchord : p.keystate = 0x00F0 ∧ r.comboAction ≠ .down .b
    · rw [if_pos hchord]
      dsimp only
      split
      · rename_i hbit
        exact .chordLost hev hchord.1 hchord.2 (rightmostBit16_eq_zero hbit)
      · rename_i hbit
        refine .chord hev hchord.1 hchord.2 fun hdown => hbit ?_
        rw [hdown]
        decide
    · rw [if_neg hchord]
      split
      · rename_i combo hact
        split
        · exact .release hev hact
        · exact .hold hev hact
      · rename_i hact
        have hdown : r.comboAction.isDown = false := by
          cases h : r.comboAction with
          | down combo => exact absurd h (hact combo)
          | none => rfl
          | release combo => rfl
        dsimp only
        rw [scanRules_start hst, scanRules_eq]
        cases hfind : (rulesOf r.comboState).find? fun rule => p.has rule.event with
        | none =>
            rw [rulesOf] at hfind
            rw [hfind]
            exact .reset hev hdown
        | some rule =>
            have hfind' := hfind
            rw [rulesOf] at hfind'
            rw [hfind']
            have hstate : p.keystate ≠ 0x00F0 := fun hstate =>
              hchord ⟨hstate, fun hb => hact .b hb⟩
            exact .advance hev hstate hdown hfind

/-! ## Pairing -/

/-- The states a DOWN leads to. The row of such a state returns the RELEASE,
but while the DOWN is latched the scan does not get to it. -/
def finalStates : List Nat := [4, 8, 17, 36]

/-- `combo_state` indexes the offset table, and it is a final state only
while a combo is held. -/
def ComboRecognizer.Valid (r : ComboRecognizer) : Prop :=
  r.comboState ≤ 36 ∧ (r.comboState ∈ finalStates → r.comboAction.isDown = true)

theorem stateTable_valid : ∀ rule ∈ stateTable, rule.nextState ≤ 36
    ∧ (rule.nextState ∈ finalStates → rule.action.isDown = true)
    ∧ (rule.stateNum ∉ finalStates → rule.action = .none ∨ rule.action.isDown = true) := by
  decide

def ComboAction.edge? : ComboAction → Option (Pairing.Edge Combo)
  | .none => Option.none
  | .down combo => some (.rise combo)
  | .release combo => some (.fall combo)

def ComboRecognizer.held (r : ComboRecognizer) : Option Combo :=
  match r.comboAction with
  | .down combo => some combo
  | _ => none

/-- The chord `0x00F0` is down while another combo is held. The chord is
tested first and replaces the held combo, which then gets no RELEASE. -/
def ChordOverCombo (r : ComboRecognizer) (p : KeyPoll) : Prop :=
  p.keystate = 0x00F0 ∧ r.comboAction.isDown = true ∧ r.comboAction ≠ .down .b

instance (r : ComboRecognizer) (p : KeyPoll) : Decidable (ChordOverCombo r p) :=
  inferInstanceAs (Decidable (_ ∧ _ ∧ _))

theorem ComboRecognizer.Valid.of_zero {r : ComboRecognizer} (h : r.comboState = 0) :
    r.Valid := by
  have hzero : 0 ∉ finalStates := by decide
  refine ⟨by omega, fun hmem => ?_⟩
  rw [h] at hmem
  exact absurd hmem hzero

theorem ComboRecognizer.held_eq_none {r : ComboRecognizer} (h : r.comboAction.isDown = false) :
    r.held = none := by
  unfold ComboRecognizer.held
  cases hact : r.comboAction with
  | down combo =>
      rw [hact] at h
      cases h
  | none => rfl
  | release combo => rfl

theorem ComboRecognizer.Valid.notMem_finalStates {r : ComboRecognizer} (hr : r.Valid)
    (hact : r.comboAction.isDown = false) : r.comboState ∉ finalStates := by
  intro hmem
  rw [hr.2 hmem] at hact
  cases hact

theorem ComboMove.state_le {r : ComboRecognizer} {p : KeyPoll}
    {res : ComboRecognizer × ComboAction} (hmove : ComboMove r p res) (hr : r.comboState ≤ 36) :
    res.1.comboState ≤ 36 := by
  cases hmove with
  | idle | chord | chordLost | hold => exact hr
  | release | reset => exact Nat.zero_le _
  | advance _ _ _ hfind =>
      exact (stateTable_valid _ (mem_rulesOf (List.mem_of_find?_eq_some hfind)).1).1

/-- A move keeps the recogniser valid, unless a lost chord drops a combo that
is held. -/
theorem ComboMove.valid {r : ComboRecognizer} {p : KeyPoll} {res : ComboRecognizer × ComboAction}
    (hmove : ComboMove r p res) (hr : r.Valid)
    (hlost : p.isEvent = true → p.keystate = 0x00F0 → p.keydown = 0 →
      r.comboAction ≠ .down .b → r.comboState ∉ finalStates) : res.1.Valid := by
  cases hmove with
  | idle => exact hr
  | chord => exact ⟨hr.1, fun _ => rfl⟩
  | chordLost hev hstate hact hdown =>
      exact ⟨hr.1, fun hmem => absurd hmem (hlost hev hstate hdown hact)⟩
  | release => exact .of_zero rfl
  | hold => exact hr
  | reset => exact .of_zero rfl
  | advance _ _ _ hfind =>
      obtain ⟨hnext, hfinal, -⟩ :=
        stateTable_valid _ (mem_rulesOf (List.mem_of_find?_eq_some hfind)).1
      exact ⟨hnext, hfinal⟩

/-- A poll keeps the recogniser valid, and its result continues the stream
of DOWNs and RELEASEs. -/
theorem comboRecognize_tracks {r : ComboRecognizer} {p : KeyPoll} (hr : r.Valid)
    (hok : ¬ChordOverCombo r p) :
    (comboRecognize r p).1.Valid
      ∧ Pairing.Tracks r.held ([(comboRecognize r p).2].filterMap ComboAction.edge?)
        (comboRecognize r p).1.held := by
  have hnotDown : p.keystate = 0x00F0 → r.comboAction ≠ .down .b →
      r.comboAction.isDown = false := by
    intro hstate hact
    by_contra hdown
    exact hok ⟨hstate, by simpa using hdown, hact⟩
  have hmove := comboRecognize_cases r p hr.1
  refine ⟨hmove.valid hr fun _ hstate _ hact => hr.notMem_finalStates (hnotDown hstate hact), ?_⟩
  generalize comboRecognize r p = res at hmove
  cases hmove with
  | idle => exact .nil _
  | chord _ hstate hact =>
      rw [ComboRecognizer.held_eq_none (hnotDown hstate hact)]
      exact .rise_one Combo.b
  | chordLost _ hstate hact =>
      rw [ComboRecognizer.held_eq_none (hnotDown hstate hact)]
      exact .nil _
  | @release _ combo hact =>
      have hsome : r.held = some combo := by simp [ComboRecognizer.held, hact]
      rw [hsome]
      exact .fall_one combo
  | hold => exact .nil _
  | reset _ hact =>
      rw [ComboRecognizer.held_eq_none hact]
      exact .nil _
  | @advance _ _ hact rule hfind =>
      obtain ⟨hmem, hnum⟩ := mem_rulesOf (List.mem_of_find?_eq_some hfind)
      have hstart : rule.stateNum ∉ finalStates := hnum ▸ hr.notMem_finalStates hact
      rw [ComboRecognizer.held_eq_none hact]
      rcases (stateTable_valid rule hmem).2.2 hstart with hnone | hdown
      · simp only [ComboRecognizer.held, hnone]
        exact .nil _
      · cases hact' : rule.action with
        | down combo =>
            simp only [ComboRecognizer.held]
            exact .rise_one combo
        | none =>
            rw [hact'] at hdown
            cases hdown
        | release combo =>
            rw [hact'] at hdown
            cases hdown

/-- **Pairing.** In a run from boot in which the chord `0x00F0` is never
completed over another held combo, the results other than `COMBO_NONE`
alternate between a DOWN and the RELEASE of the same combo. -/
theorem comboActions_paired (states : List (BitVec 64))
    (hok : Machine.Along comboStep
      (fun s gKeyState => ¬ChordOverCombo s.2 (s.1.next gKeyState).poll)
      (Keys.boot, ComboRecognizer.boot) states) :
    Pairing.Paired ((Machine.outputs comboStep (Keys.boot, ComboRecognizer.boot) states).filterMap
      fun o => o.2.edge?) := by
  have hboot : ComboRecognizer.boot.Valid := .of_zero rfl
  have htracks := Pairing.outputs_tracks (fun s : Keys × ComboRecognizer => s.2.Valid)
    (fun s => s.2.held) (fun o => o.2.edge?)
    (fun s i hs hi => (comboRecognize_tracks hs hi).1)
    (fun s i hs hi => (comboRecognize_tracks hs hi).2) hboot hok
  exact htracks.paired

/-- Combo A pressed and released. -/
theorem comboActions_paired_a :
    Pairing.Paired ((Machine.outputs comboStep (Keys.boot, ComboRecognizer.boot)
      [0x1, 0x3, 0x7, 0xF, 0x0]).filterMap fun o => o.2.edge?) :=
  comboActions_paired [0x1, 0x3, 0x7, 0xF, 0x0] (by decide)

/-- Combo D, then keys 4, 5 and 6 while its last key 7 is still held: D_DOWN
is followed by B_DOWN. -/
theorem comboActions_not_paired :
    ¬Pairing.Paired ((Machine.outputs comboStep (Keys.boot, ComboRecognizer.boot)
      [0x10, 0x0, 0x20, 0x0, 0x40, 0x0, 0x40, 0x0, 0x80, 0x90, 0xB0, 0xF0]).filterMap
        fun o => o.2.edge?) := by
  decide

end MidiFighter
