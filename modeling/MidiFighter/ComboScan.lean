import MidiFighter.Combo

/-!
# The rows a combo scan reads

The rule loop of `combo_recognize` has no end mark: it reads rows from the
offset of `combo_state` on until one fires or has another state number.
State 36, the last one, has no row behind its own, so the loop must not run
there and fail.

It does not as long as a combo is held in state 36 (`ScanReady`), because
then the release test comes first. The chord test can undo this: when the
keys that are left form the chord `0x00F0` and none went down, it drops
combo E without moving `combo_state` (`DropsComboE`), and the next event
that is not the release of key 6 reads the row behind the table
(`scan_not_inTable`).
-/

namespace MidiFighter

/-! ## Rows -/

/-- The indices of the rows the loop reads from row `i` on, the one whose
`state_num` ends it included. What lies behind the table is not modelled;
the loop is cut off after reading it. -/
def scannedRows (p : KeyPoll) (comboState : Nat) : List ComboRule → Nat → List Nat
  | [], i => [i]
  | rule :: rules, i =>
      if rule.stateNum = comboState then
        if p.has rule.event then [i] else i :: scannedRows p comboState rules (i + 1)
      else [i]

/-- The indices of the rows a call reads: only the polls that pass the three
tests before the loop read any. -/
def rowsRead (r : ComboRecognizer) (p : KeyPoll) : List Nat :=
  if p.keydown = 0 ∧ p.keyup = 0 then []
  else if p.keystate = 0x00F0 ∧ r.comboAction ≠ .down .b then []
  else if r.comboAction.isDown then []
  else
    let offset := stateOffset.getD r.comboState 0
    scannedRows p r.comboState (stateTable.drop offset) offset

/-- `combo_state` indexes `state_offset` before and after the call, the first
row examined belongs to the state, and all rows are rows of the table. -/
def ScanInTable (r : ComboRecognizer) (p : KeyPoll) : Prop :=
  r.comboState < stateOffset.length
    ∧ (comboRecognize r p).1.comboState < stateOffset.length
    ∧ (∀ i ∈ (rowsRead r p).head?, (stateTable[i]?).map ComboRule.stateNum = some r.comboState)
    ∧ ∀ i ∈ rowsRead r p, i < stateTable.length

/-- The scan stops at the row behind those of the state at the latest. -/
theorem scannedRows_le {p : KeyPoll} {st : Nat} : ∀ {rules : List ComboRule} {n i : Nat},
    i ∈ scannedRows p st rules n →
      i ≤ n + (rules.takeWhile fun rule => rule.stateNum = st).length
  | [], n, i, h => (List.mem_singleton.mp h).le
  | rule :: rules, n, i, h => by
      rw [scannedRows] at h
      split_ifs at h with hnum hhas
      · rw [List.mem_singleton.mp h]
        exact Nat.le_add_right ..
      · rw [List.takeWhile_cons_of_pos (by simpa using hnum), List.length_cons]
        rcases List.mem_cons.mp h with rfl | hrest
        · exact Nat.le_add_right ..
        · have hle := scannedRows_le hrest
          omega
      · rw [List.mem_singleton.mp h]
        exact Nat.le_add_right ..

theorem head?_scannedRows (p : KeyPoll) (st n : Nat) (rules : List ComboRule) :
    (scannedRows p st rules n).head? = some n := by
  cases rules with
  | nil => rfl
  | cons rule rules =>
      rw [scannedRows]
      split_ifs <;> rfl

/-- Every state but the last has a row of another state behind its own. -/
theorem rulesOf_inTable : ∀ st < 36,
    stateOffset.getD st 0 + (rulesOf st).length < stateTable.length := by
  decide

/-! ## Runs -/

/-- The recogniser is in state 36 only while E, or the chord pressed over it,
is held. -/
structure ScanReady (r : ComboRecognizer) : Prop where
  state : r.comboState ≤ 36
  last : r.comboState = 36 → r.comboAction = .down .e ∨ r.comboAction = .down .b

theorem ScanReady.of_zero {r : ComboRecognizer} (h : r.comboState = 0) : ScanReady r := by
  refine ⟨by omega, fun hlast => ?_⟩
  omega

/-- Keys are released while combo E is held, and the chord `0x00F0` is left.
The chord test clears the latch and `combo_state` stays 36. -/
def DropsComboE (r : ComboRecognizer) (p : KeyPoll) : Prop :=
  p.isEvent = true ∧ p.keystate = 0x00F0 ∧ p.keydown = 0 ∧ r.comboAction = .down .e

instance (r : ComboRecognizer) (p : KeyPoll) : Decidable (DropsComboE r p) :=
  inferInstanceAs (Decidable (_ ∧ _))

theorem stateTable_last : ∀ rule ∈ stateTable, rule.nextState ≤ 36
    ∧ (rule.nextState = 36 → rule.action = .down .e) := by
  decide

theorem comboRecognize_scanReady {r : ComboRecognizer} {p : KeyPoll} (hr : ScanReady r)
    (hdrop : ¬DropsComboE r p) : ScanReady (comboRecognize r p).1 := by
  have hmove := comboRecognize_cases r p hr.state
  generalize comboRecognize r p = res at hmove
  cases hmove with
  | idle => exact hr
  | chord => exact ⟨hr.state, fun _ => Or.inr rfl⟩
  | chordLost hev hstate hact hdown =>
      refine ⟨hr.state, fun hlast => ?_⟩
      rcases hr.last hlast with he | hb
      · exact absurd ⟨hev, hstate, hdown, he⟩ hdrop
      · exact absurd hb hact
  | release => exact .of_zero rfl
  | hold => exact hr
  | reset => exact .of_zero rfl
  | advance _ _ _ hfind =>
      obtain ⟨hnext, hlast⟩ :=
        stateTable_last _ (mem_rulesOf (List.mem_of_find?_eq_some hfind)).1
      exact ⟨hnext, fun h => Or.inl (hlast h)⟩

theorem ScanReady.rowsRead_lt {r : ComboRecognizer} (hr : ScanReady r) {p : KeyPoll} {i : Nat}
    (hi : i ∈ rowsRead r p) : i < stateTable.length := by
  unfold rowsRead at hi
  split_ifs at hi with hidle hchord hdown
  · cases hi
  · cases hi
  · cases hi
  · -- no combo is held, so this is not the last state
    have hne : r.comboState ≠ 36 := by
      intro hlast
      rcases hr.last hlast with h | h
      all_goals
        rw [h] at hdown
        exact hdown rfl
    have hstate := hr.state
    exact (scannedRows_le hi).trans_lt (rulesOf_inTable r.comboState (by omega))

theorem ScanReady.scanInTable {r : ComboRecognizer} (hr : ScanReady r) {p : KeyPoll}
    (hdrop : ¬DropsComboE r p) : ScanInTable r p := by
  refine ⟨Nat.lt_succ_of_le hr.state,
    Nat.lt_succ_of_le (comboRecognize_scanReady hr hdrop).state, fun i hi => ?_,
    fun i hi => hr.rowsRead_lt hi⟩
  unfold rowsRead at hi
  split_ifs at hi
  · cases hi
  · cases hi
  · cases hi
  · rw [head?_scannedRows] at hi
    obtain rfl := Option.some.inj hi
    rw [← List.head?_drop]
    exact stateOffset_valid r.comboState hr.state

/-- **The scan stays in the table.** In a run from boot in which combo E is
never dropped for a chord that nobody pressed, `combo_state` always indexes
`state_offset`, the first row examined belongs to the state, and every row
read is a row of `state_table`. -/
theorem scan_inTable (states : List (BitVec 64))
    (hok : Machine.Along comboStep
      (fun s gKeyState => ¬DropsComboE s.2 (s.1.next gKeyState).poll)
      (Keys.boot, ComboRecognizer.boot) states) :
    Machine.Along comboStep (fun s gKeyState => ScanInTable s.2 (s.1.next gKeyState).poll)
      (Keys.boot, ComboRecognizer.boot) states := by
  have hboot : ScanReady ComboRecognizer.boot := .of_zero rfl
  exact hok.imp_of_invariant (fun s : Keys × ComboRecognizer => ScanReady s.2)
    (fun _ _ hs hi => comboRecognize_scanReady hs hi) (fun _ _ hs hi => hs.scanInTable hi) hboot

/-- Combo A, pressed and released. -/
theorem scan_inTable_a :
    Machine.Along comboStep (fun s gKeyState => ScanInTable s.2 (s.1.next gKeyState).poll)
      (Keys.boot, ComboRecognizer.boot) [0x1, 0x3, 0x7, 0xF, 0x0] :=
  scan_inTable [0x1, 0x3, 0x7, 0xF, 0x0] (by decide)

def comboEStates : List (BitVec 64) :=
  [0x100, 0x0, 0x100, 0x0, 0x1, 0x0, 0x1, 0x0, 0x10, 0x0, 0x20, 0x0, 0x10, 0x0, 0x20, 0x0, 0x80,
    0x0, 0x40]

/-- With key 6 of combo E still held, keys 0, 4, 5 and 7 are pressed; the
release of key 0 leaves the chord, and its next press reads row 44. -/
theorem scan_not_inTable :
    let s := Machine.final comboStep (Keys.boot, ComboRecognizer.boot)
      (comboEStates ++ [0x41, 0x51, 0x71, 0xF1, 0xF0])
    s.2.comboState = 36 ∧ rowsRead s.2 (s.1.next 0xF1).poll = [43, 44]
      ∧ stateTable.length = 44 := by
  decide +kernel

end MidiFighter
