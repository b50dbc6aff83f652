import MidiFighter.BankButtons
import MidiFighter.BankHold

/-!
# Combo notes

A combo is reported with a note on when it is completed and with a note off
when its last key is released, both on the channel of the bank that is
selected at the time of the message. Unlike the key loop, the combo stage
remembers nothing about the note on. So the note off misses its note on when
the device moves between bank 0 and the other bank while a combo is held
(`comboNotes_not_matched`).

Three things move the bank: a control change from the host, a config push
that turns the bank keys off, and a bank key that is held long enough. The
first two act before the combo stage of a poll and the third after it, which
is why the third also matters in the poll that completes a combo.
`KeepsComboBank` excludes all three, by the state before the poll and what
the poll finds, and `comboNotes_matched` says that nothing else is needed.

What the combo stage finds is kept beside the run as a list of reports: the
result of the recogniser and the bank. The note messages of a combo are its
reports with each bank replaced by its channel (`comboEdges_eq`). The
invariant (`ComboInv`) reads only the last report: while the recogniser can
still return the RELEASE of a combo (`ComboRecognizer.Holds`), the bank is
the one of the DOWN.
-/

namespace MidiFighter

open Pairing

/-! ## Holding a combo -/

/-- The recogniser can still return the RELEASE of `combo`: it is latched, or
a row of the current state returns it. -/
def ComboRecognizer.Holds (r : ComboRecognizer) (combo : Combo) : Prop :=
  r.comboAction = .down combo
    ∨ ∃ rule ∈ stateTable, rule.stateNum = r.comboState ∧ rule.action = .release combo

/-- A combo is held. A chord that is lost clears the latch and leaves
`combo_state` behind, so the latch alone does not tell. -/
def ComboRecognizer.HoldsSome (r : ComboRecognizer) : Prop :=
  r.comboAction.isDown = true ∨ r.comboState ∈ finalStates

instance (r : ComboRecognizer) : Decidable r.HoldsSome :=
  inferInstanceAs (Decidable (_ ∨ _))

theorem stateTable_release : ∀ combo ∈ [Combo.a, .b, .c, .d, .e], ∀ rule ∈ stateTable,
    rule.action = .release combo → rule.stateNum ∈ finalStates
      ∧ ∀ rule' ∈ stateTable, rule'.nextState = rule.stateNum → rule'.action = .down combo := by
  decide

theorem stateTable_down : ∀ rule ∈ stateTable, rule.action.isDown = true →
    rule.event.edge = .down := by
  decide

theorem mem_combos (combo : Combo) : combo ∈ [Combo.a, .b, .c, .d, .e] := by
  cases combo <;> decide

section

variable {r : ComboRecognizer} {p : KeyPoll} {combo : Combo}
  {res : ComboRecognizer × ComboAction}

theorem ComboRecognizer.Holds.some (h : r.Holds combo) : r.HoldsSome := by
  rcases h with hact | ⟨rule, hrule, hnum, hact⟩
  · exact Or.inl (by rw [hact]; rfl)
  · exact Or.inr (hnum ▸ (stateTable_release combo (mem_combos combo) rule hrule hact).1)

theorem ComboMove.holds_of_release (hmove : ComboMove r p res) (h : res.2 = .release combo) :
    r.Holds combo := by
  cases hmove with
  | idle | chord | chordLost | hold | reset => cases h
  | release _ hact =>
      obtain rfl := ComboAction.release.inj h
      exact Or.inl hact
  | advance _ _ _ hfind =>
      obtain ⟨hrule, hnum⟩ := mem_rulesOf (List.mem_of_find?_eq_some hfind)
      exact Or.inr ⟨_, hrule, hnum, h⟩

theorem ComboMove.keydown_of_down (hmove : ComboMove r p res) (h : res.2 = .down combo) :
    p.keydown ≠ 0 := by
  cases hmove with
  | idle | chordLost | release | hold | reset => cases h
  | chord _ _ _ hdown => exact hdown
  | @advance _ _ _ rule hfind =>
      obtain ⟨hrule, -⟩ := mem_rulesOf (List.mem_of_find?_eq_some hfind)
      have hedge := stateTable_down rule hrule (by rw [show rule.action = _ from h]; rfl)
      have hhas : p.has rule.event = true := by simpa using List.find?_some hfind
      rw [KeyPoll.has, hedge] at hhas
      intro hzero
      rw [hzero] at hhas
      simp at hhas

/-- Only the DOWN of a combo makes it held. -/
theorem ComboMove.holds (hmove : ComboMove r p res) (h : res.1.Holds combo)
    (hne : res.2 ≠ .down combo) : r.Holds combo := by
  have hzero : (0 : Nat) ∉ finalStates := by decide
  cases hmove with
  | idle | hold => exact h
  | chord =>
      rcases h with hact | hstate
      · exact absurd hact hne
      · exact Or.inr hstate
  | chordLost =>
      rcases h with hact | hstate
      · cases hact
      · exact Or.inr hstate
  | release | reset =>
      rcases h with hact | ⟨rule, hrule, hnum, hact⟩
      · cases hact
      · have hfinal := (stateTable_release combo (mem_combos combo) rule hrule hact).1
        rw [hnum] at hfinal
        exact absurd hfinal hzero
  | advance _ _ _ hfind =>
      obtain ⟨hrule, -⟩ := mem_rulesOf (List.mem_of_find?_eq_some hfind)
      rcases h with hact | ⟨rule', hrule', hnum, hact⟩
      · exact absurd hact hne
      · have hbefore := (stateTable_release combo (mem_combos combo) rule' hrule' hact).2
        exact absurd (hbefore _ hrule hnum.symm) hne

end

/-! ## Moving the bank -/

/-- Whether a bank other than 0 is selected, which is what the channel of a
combo message depends on. -/
def Device.upperBank (d : Device) : Bool := decide (¬d.gBankSelected ≤ 0)

theorem Device.upperBank_congr {d d' : Device} (h : d'.gBankSelected = d.gBankSelected) :
    d'.upperBank = d.upperBank := by
  rw [Device.upperBank, Device.upperBank, h]

def turnsBankKeysOff : SysexEffect SysExFn → Bool
  | .command .sysExCmdPushConfig _ _ buffer =>
      (tvTableDecode (fun _ => 0) buffer).sideBank = 0
  | _ => false

/-- The packet moves the device between bank 0 and the other bank: a control
change, or a push that turns the bank keys off. -/
def MovesBank (l : Link) (p : EventPacket) : Prop :=
  SelectsBank l.device p ∧ decide (p.data3 > 0) ≠ l.device.upperBank
    ∨ l.device.upperBank = true ∧ l.device.setting .sideBank ≠ 0
      ∧ ∃ e ∈ (sysexStep configSetup l.receiver p).2, turnsBankKeysOff e = true

instance (l : Link) (p : EventPacket) : Decidable (MovesBank l p) :=
  inferInstanceAs (Decidable (_ ∨ _))

theorem receivePacket_upperBank {l : Link} {rx : Received} (h : ¬MovesBank l rx.packet) :
    (receivePacket l rx).1.device.upperBank = l.device.upperBank := by
  refine receivePacket_device (P := fun d => d.upperBank = l.device.upperBank) rfl ?_ ?_ ?_ ?_ ?_
  · intro _
    obtain ⟨_, _, _, hclock⟩ := handleRealTime_cases l.device rx.packet
    rw [hclock]
    rfl
  · intro _
    obtain ⟨_, _, hon⟩ := handleNoteOn_cases l.device rx.packet
    rw [hon]
    rfl
  · intro _
    obtain ⟨_, _, hoff⟩ := handleNoteOff_cases l.device rx.packet rx.now
    rw [hoff]
    rfl
  · intro h11
    by_cases hselects : SelectsBank l.device rx.packet
    · have hside : decide (rx.packet.data3 > 0) = l.device.upperBank := by
        by_contra hne
        exact h (Or.inl ⟨hselects, hne⟩)
      rw [← hside, handleControlChange, if_pos hselects.2.1, if_pos hselects.2.2, changeBank_eq,
        Device.upperBank]
      by_cases hvalue : rx.packet.data3 > 0 <;> simp [hvalue]
    · rcases handleControlChange_cases l.device rx.packet with hcc | ⟨hcc, -⟩
      · rw [hcc]
      · exact absurd ⟨h11, hcc⟩ hselects
  · intro fn command length buffer hmem
    by_cases hfn : fn = .sysExCmdPushConfig
    · subst hfn
      have hbank := pushConfig_bank l.device buffer
      split_ifs at hbank with hoff
      · cases hupper : l.device.upperBank with
        | false =>
            rw [Device.upperBank, SysExFn.call, hbank]
            rfl
        | true =>
            refine absurd (Or.inr ⟨hupper, hoff.2, _, hmem, ?_⟩) h
            exact decide_eq_true hoff.1
      · exact Device.upperBank_congr hbank
    · exact Device.upperBank_congr (call_bank_of_ne hfn l.device buffer)

/-- The hold that `counter` notes is long enough for the setting of the bank
keys. -/
def HoldOver (d : Device) (counter now : UInt16) : Prop :=
  counter > 0 ∧ now - counter ≥ if d.setting .sideBank > 1 then 1 else gBankSelectCounterLimit

instance (d : Device) (counter now : UInt16) : Decidable (HoldOver d counter now) :=
  inferInstanceAs (Decidable (_ ∧ _))

/-- The refresh of the poll finds a bank key held long enough that leads
between bank 0 and the other bank. The key is down since before the poll, or
it goes down in it. -/
def HoldMovesBank (s : System) (poll : Poll) : Prop :=
  poll.refreshTime - s.lastLedRefreshTimeMs ≥ ledRefreshLimit ∧ s.device.setting .sideBank ≠ 0
    ∧ ∃ b ∈ List.finRange 2, decide (0 < b.val) ≠ s.device.upperBank
      ∧ (HoldOver s.device (s.device.gBankSelectCounter b) poll.bankTime
        ∨ (keyCalc (keyRead s.keys poll.gKeyDebounceBuffer)).gKeyDown.getLsbD
            (bankSelectKeyIds b).toNat = true
          ∧ HoldOver s.device (holdStamp (poll.keyTime (bankSelectKeyIds b).toNat).toNat)
            poll.bankTime)

instance (s : System) (poll : Poll) : Decidable (HoldMovesBank s poll) :=
  inferInstanceAs (Decidable (_ ∧ _))

theorem serveKeyDown_counter (now : UInt16) (s : Device × Keys) (i : Nat) (b : Fin 2) :
    let counter := (serveKeyDown now s i).1.1.gBankSelectCounter b
    counter = s.1.gBankSelectCounter b ∨ counter = 0
      ∨ s.2.gKeyDown.getLsbD i = true ∧ UInt8.ofNat i = bankSelectKeyIds b
        ∧ counter = holdStamp now.toNat := by
  obtain ⟨d, keys⟩ := s
  intro counter
  by_cases hdown : keys.gKeyDown.getLsbD i = true
  · -- the animation that the key starts leaves the counters alone
    obtain ⟨d', hsame, hcounter⟩ : ∃ d' : Device, d'.gBankSelectCounter = d.gBankSelectCounter
        ∧ counter = (keyPressed d' (UInt8.ofNat i) now).gBankSelectCounter b := by
      refine ⟨if d.setting .animations < geometricAnimationTypes then
        startGeometricAnimation d (UInt8.ofNat i) (d.setting .animations) else d, ?_, ?_⟩
      · split_ifs
        · rw [startGeometricAnimation_eq]
        · rfl
      · simp only [counter, serveKeyDown, hdown, if_true]
    have hpressed := keyPressed_counter d' (UInt8.ofNat i) now.toNat b
    rw [UInt16.ofNat_toNat] at hpressed
    rw [hcounter, hpressed]
    split_ifs with hself hother
    · exact Or.inr (Or.inr ⟨hdown, hself, rfl⟩)
    · exact Or.inr (Or.inl rfl)
    · exact Or.inl (by rw [hsame])
  · exact Or.inl (by simp only [counter, serveKeyDown, hdown, if_false, Bool.false_eq_true])

theorem serveKeyUp_counter (s : Device × Keys) (i : Nat) (b : Fin 2) :
    let counter := (serveKeyUp s i).1.1.gBankSelectCounter b
    counter = s.1.gBankSelectCounter b ∨ counter = 0 := by
  unfold serveKeyUp
  dsimp only
  split
  · rw [keyReleased_counter]
    split_ifs
    · exact Or.inr rfl
    · exact Or.inl rfl
  · exact Or.inl rfl

/-- The key loop can start the counter of a bank key that goes down, and stop
any. -/
theorem keyLoop_counter (keyTime : Nat → UInt16) (s : Device × Keys) (b : Fin 2) :
    let counter := (Machine.final (serveKey keyTime) s (List.range 64)).1.gBankSelectCounter b
    counter = s.1.gBankSelectCounter b ∨ counter = 0
      ∨ s.2.gKeyDown.getLsbD (bankSelectKeyIds b).toNat = true
        ∧ counter = holdStamp (keyTime (bankSelectKeyIds b).toNat).toNat := by
  have halong : Machine.Along (serveKey keyTime) (fun _ i => i < 64) s (List.range 64) :=
    Machine.along_of_forall_mem mem_keyIndices
  refine (Machine.final_invariant (fun s' : Device × Keys => s'.2.gKeyDown = s.2.gKeyDown
      ∧ (s'.1.gBankSelectCounter b = s.1.gBankSelectCounter b ∨ s'.1.gBankSelectCounter b = 0
        ∨ s.2.gKeyDown.getLsbD (bankSelectKeyIds b).toNat = true
          ∧ s'.1.gBankSelectCounter b = holdStamp (keyTime (bankSelectKeyIds b).toNat).toNat))
    ?_ ⟨rfl, Or.inl rfl⟩ halong).2
  rintro s' i ⟨hdown, hcounter⟩ hi
  refine ⟨(serveKey_served keyTime s' hi).down.trans hdown, ?_⟩
  rw [serveKey]
  dsimp only
  rcases serveKeyUp_counter (serveKeyDown (keyTime i) s' i).1 i b with hup | hup
  · rw [hup]
    rcases serveKeyDown_counter (keyTime i) s' i b with hsame | hzero | ⟨hpress, hkey, hstamp⟩
    · rw [hsame]
      exact hcounter
    · exact Or.inr (Or.inl hzero)
    · have hindex : (bankSelectKeyIds b).toNat = i := by
        rw [← hkey, UInt8.toNat_ofNat']
        omega
      rw [hindex, ← hdown]
      exact Or.inr (Or.inr ⟨hpress, hstamp⟩)
  · exact Or.inr (Or.inl hup)

theorem serviceBankSelectButtons_bank (d : Device) (now : UInt16) :
    (serviceBankSelectButtons d now).1.gBankSelected = d.gBankSelected
      ∨ d.setting .sideBank ≠ 0 ∧ ∃ b : Fin 2, HoldOver d (d.gBankSelectCounter b) now
        ∧ (serviceBankSelectButtons d now).1.gBankSelected = UInt8.ofNat b := by
  unfold serviceBankSelectButtons
  split
  · exact Or.inl rfl
  · rename_i hside
    dsimp only
    split
    · rename_i b hfind
      have hover := List.find?_some hfind
      refine Or.inr ⟨hside, b, of_decide_eq_true hover, ?_⟩
      rw [changeBank_eq]
    · exact Or.inl rfl

theorem refreshDisplay_bank (poll : Poll) (d : Device) (last : UInt16) :
    (refreshDisplay poll d last).1.1.gBankSelected =
      if poll.refreshTime - last ≥ ledRefreshLimit then
        (serviceBankSelectButtons d poll.bankTime).1.gBankSelected
      else d.gBankSelected := by
  unfold refreshDisplay
  split
  · obtain ⟨_, _, hdelay⟩ := updateNoteOffFeedbackDelay_cases
      (serviceBankSelectButtons d poll.bankTime).1 poll.delayTime
    dsimp only
    rw [hdelay]
  · rfl

theorem serveKeys_upperBank {s : System} {poll : Poll} (h : ¬HoldMovesBank s poll) :
    (serveKeys s poll).1.device.upperBank = s.device.upperBank := by
  obtain ⟨display, hscan⟩ := scanKeys_cases s poll
  have hserved := keyLoop_served poll.keyTime (scanKeys s poll) mem_keyIndices
  have hcounter := keyLoop_counter poll.keyTime (scanKeys s poll)
  have hrefresh := refreshDisplay_bank poll
    (Machine.final (serveKey poll.keyTime) (scanKeys s poll) (List.range 64)).1
    s.lastLedRefreshTimeMs
  have hshown : (serveKeys s poll).1.device.gBankSelected = (refreshDisplay poll
      (Machine.final (serveKey poll.keyTime) (scanKeys s poll) (List.range 64)).1
      s.lastLedRefreshTimeMs).1.1.gBankSelected := rfl
  generalize Machine.final (serveKey poll.keyTime) (scanKeys s poll) (List.range 64) = served
    at hserved hcounter hrefresh hshown
  have hbank : served.1.gBankSelected = s.device.gBankSelected := by
    rw [hserved.bank, hscan]
  have hside : served.1.setting .sideBank = s.device.setting .sideBank := by
    rw [hserved.setting, hscan]
    rfl
  rw [hrefresh] at hshown
  split_ifs at hshown with hdue
  · rcases serviceBankSelectButtons_bank served.1 poll.bankTime with hsame | ⟨hkeys, b, hover, hb⟩
    · exact Device.upperBank_congr (by rw [hshown, hsame, hbank])
    · rw [hb] at hshown
      have hupper : (serveKeys s poll).1.device.upperBank = decide (0 < b.val) := by
        have hbits : ∀ b : Fin 2, decide (¬UInt8.ofNat b ≤ 0) = decide (0 < b.val) := by decide
        rw [Device.upperBank, hshown, hbits]
      rw [hupper]
      by_contra hne
      refine h ⟨hdue, hside ▸ hkeys, b, List.mem_finRange b, hne, ?_⟩
      rw [HoldOver, hside] at hover
      rcases hcounter b with hsame | hzero | ⟨hpress, hstamp⟩
      · rw [hsame, hscan] at hover
        exact Or.inl hover
      · exact absurd hover.1 (by rw [hzero]; decide)
      · rw [hstamp] at hover
        rw [hscan] at hpress
        exact Or.inr ⟨hpress, hover⟩
  · exact Device.upperBank_congr (by rw [hshown, hbank])

/-! ## Reports -/

/-- What the combo stage finds: the result of the recogniser, and whether a
bank other than 0 is selected. -/
def comboReport (d : Device) (keys : Keys) (r : ComboRecognizer) : List (ComboAction × Bool) :=
  if d.setting .combosEnable ≠ 0 then
    [((comboRecognize r keys.poll).2, d.upperBank)]
  else []

/-- The report of a poll, if it gets as far as the combo stage. -/
def taskReport (s : System) (poll : Poll) : List (ComboAction × Bool) :=
  if poll.configured = false ∨ s.device.inBootloader = true then []
  else
    let s := (getIncomingUsbMidiMessages s poll).1
    if s.device.inBootloader = true then []
    else
      let served := Machine.final (serveKey poll.keyTime) (scanKeys s poll) (List.range 64)
      comboReport served.1 served.2 s.combo

def reportStep (s : System) (poll : Poll) : System × List (ComboAction × Bool) :=
  ((midifighterTask s poll).1, taskReport s poll)

def reportEdge? (combo : Combo) (report : ComboAction × Bool) : Option (Edge Bool) :=
  match report.1 with
  | .down reported => if reported = combo then some (.rise report.2) else none
  | .release reported => if reported = combo then some (.fall report.2) else none
  | .none => none

/-! ## Messages -/

/-- The channel of a combo message: as for the note off of a key, but from
the bank that is selected now. -/
def comboChannel (gEeMidiChannel : UInt8) (bank : Bool) : UInt8 :=
  noteOffChannel gEeMidiChannel bank &&& 0x0F

theorem comboNote_iff (reported combo : Combo) :
    comboNote reported &&& 0x7F = comboNote combo ↔ reported = combo := by
  cases reported <;> cases combo <;> decide

theorem midiStreamNoteCh_comboEdges (d : Device) (bank : Bool) (reported combo : Combo)
    (onoff : Bool) :
    (midiStreamNoteCh d (noteOffChannel (d.setting .midiChannel) bank) (comboNote reported)
        onoff).filterMap (pitchEdge? (comboNote combo)) =
      if reported = combo then
        [if onoff then .rise (comboChannel (d.setting .midiChannel) bank)
          else .fall (comboChannel (d.setting .midiChannel) bank)]
      else [] := by
  have hedge := pitchEdge?_notePacket (comboNote combo)
    (noteOffChannel (d.setting .midiChannel) bank) (comboNote reported) onoff
    (d.setting .midiVelocity)
  by_cases hc : reported = combo
  · rw [if_pos ((comboNote_iff reported combo).mpr hc)] at hedge
    rw [if_pos hc, midiStreamNoteCh, List.filterMap_cons_some hedge, List.filterMap_nil]
    rfl
  · rw [if_neg fun h => hc ((comboNote_iff reported combo).mp h)] at hedge
    rw [if_neg hc, midiStreamNoteCh, List.filterMap_cons_none hedge, List.filterMap_nil]

theorem serveCombos_comboEdges (combo : Combo) (d : Device) (keys : Keys) (r : ComboRecognizer) :
    (serveCombos d keys r).2.filterMap (pitchEdge? (comboNote combo)) =
      ((comboReport d keys r).filterMap (reportEdge? combo)).map
        (Edge.map (comboChannel (d.setting .midiChannel))) := by
  unfold serveCombos comboReport
  by_cases henable : d.setting .combosEnable ≠ 0
  · rw [if_pos henable, if_pos henable]
    have hchannel : (if d.gBankSelected ≤ 0 then d.setting .midiChannel
        else (d.setting .midiChannel - 1) &&& 0x0F)
          = noteOffChannel (d.setting .midiChannel) d.upperBank := by
      by_cases hbank : d.gBankSelected ≤ 0 <;> simp [noteOffChannel, Device.upperBank, hbank]
    generalize comboRecognize r keys.poll = res
    obtain ⟨r', action⟩ := res
    dsimp only
    rw [hchannel, List.filterMap_cons, List.filterMap_nil]
    cases action with
    | none => rfl
    | down reported =>
        dsimp only [reportEdge?]
        rw [midiStreamNoteCh_comboEdges]
        split <;> rfl
    | release reported =>
        dsimp only [reportEdge?]
        rw [midiStreamNoteCh_comboEdges]
        split <;> rfl
  · rw [if_neg henable, if_neg henable]
    rfl

theorem keyLoop_comboEdges (combo : Combo) (keyTime : Nat → UInt16) (s : Device × Keys) :
    (Machine.outputs (serveKey keyTime) s (List.range 64)).filterMap
      (pitchEdge? (comboNote combo)) = [] := by
  refine keyLoop_edges_of_ne keyTime mem_keyIndices (fun i hi heq => ?_) s
  refine comboNote_ne (mem_keyIndices i hi) combo ?_
  rw [← heq, keyNote_mask (mem_keyIndices i hi)]

theorem serveKeys_comboEdges (combo : Combo) (s : System) (poll : Poll) :
    (serveKeys s poll).2.filterMap (pitchEdge? (comboNote combo)) =
      ((comboReport
          (Machine.final (serveKey poll.keyTime) (scanKeys s poll) (List.range 64)).1
          (Machine.final (serveKey poll.keyTime) (scanKeys s poll) (List.range 64)).2
          s.combo).filterMap (reportEdge? combo)).map
        (Edge.map (comboChannel (s.device.setting .midiChannel))) := by
  obtain ⟨display, hscan⟩ := scanKeys_cases s poll
  have hserved := keyLoop_served poll.keyTime (scanKeys s poll) mem_keyIndices
  have hchannel : (Machine.final (serveKey poll.keyTime) (scanKeys s poll)
      (List.range 64)).1.setting .midiChannel = s.device.setting .midiChannel := by
    rw [hserved.setting, hscan]
    rfl
  unfold serveKeys
  dsimp only
  rw [List.filterMap_append, List.filterMap_append, keyLoop_comboEdges, refreshDisplay_edges,
    serveCombos_comboEdges, hchannel, List.nil_append, List.append_nil]

theorem midifighterTask_comboEdges (combo : Combo) (s : System) (poll : Poll) :
    (midifighterTask s poll).2.filterMap (pitchEdge? (comboNote combo)) =
      ((taskReport s poll).filterMap (reportEdge? combo)).map
        (Edge.map (comboChannel ((midifighterTask s poll).1.device.setting .midiChannel))) := by
  have hquiet := getIncomingUsbMidiMessages_edges s poll (comboNote combo)
  unfold midifighterTask taskReport
  generalize getIncomingUsbMidiMessages s poll = received at hquiet ⊢
  obtain ⟨s', replies⟩ := received
  dsimp only at hquiet ⊢
  split_ifs with hskip hboot
  · rfl
  · rw [hquiet]
    rfl
  · have hchannel : (serveKeys s' poll).1.device.setting .midiChannel
        = s'.device.setting .midiChannel :=
      congrArg (fun store => store.settings .midiChannel) (serveKeys_store s' poll)
    rw [List.filterMap_append, hquiet, List.nil_append, serveKeys_comboEdges, hchannel]

/-! ## Runs -/

def KeepsChannel (s : System) (poll : Poll) : Prop :=
  (midifighterTask s poll).1.device.setting .midiChannel = s.device.setting .midiChannel

instance (s : System) (poll : Poll) : Decidable (KeepsChannel s poll) :=
  inferInstanceAs (Decidable (_ = _))

/-- The note messages of a combo are its reports, with the channels of the
banks. -/
theorem comboEdges_eq (combo : Combo) : ∀ {polls : List Poll} {s : System},
    Machine.Along midifighterTask KeepsChannel s polls →
      (Machine.outputs midifighterTask s polls).filterMap (pitchEdge? (comboNote combo)) =
        ((Machine.outputs reportStep s polls).filterMap (reportEdge? combo)).map
          (Edge.map (comboChannel (s.device.setting .midiChannel)))
  | [], _, _ => rfl
  | poll :: polls, s, ⟨hkeep, hrest⟩ => by
      have hchannel : (midifighterTask s poll).1.device.setting .midiChannel
          = s.device.setting .midiChannel := hkeep
      rw [Machine.outputs_cons, Machine.outputs_cons, List.filterMap_append,
        List.filterMap_append, List.map_append, midifighterTask_comboEdges,
        comboEdges_eq combo hrest, hchannel]
      rfl

/-- While a combo is held, no packet of the poll moves the bank. While one is
held or a combo key goes down, neither does a bank key, with the packets of
the poll in. -/
def KeepsComboBank (s : System) (poll : Poll) : Prop :=
  (s.combo.HoldsSome → Machine.Along receivePacket (fun l rx => ¬MovesBank l rx.packet) s.toLink
      (poll.received.take usbRxPacketLimit))
    ∧ (s.combo.HoldsSome ∨ (keyCalc (keyRead s.keys poll.gKeyDebounceBuffer)).poll.keydown ≠ 0 →
      ¬HoldMovesBank (getIncomingUsbMidiMessages s poll).1 poll)

instance (s : System) (poll : Poll) : Decidable (KeepsComboBank s poll) :=
  inferInstanceAs (Decidable (_ ∧ _))

theorem getIncomingUsbMidiMessages_upperBank {s : System} {poll : Poll}
    (h : Machine.Along receivePacket (fun l rx => ¬MovesBank l rx.packet) s.toLink
      (poll.received.take usbRxPacketLimit)) :
    (getIncomingUsbMidiMessages s poll).1.device.upperBank = s.device.upperBank :=
  Machine.final_invariant (fun l : Link => l.device.upperBank = s.device.upperBank)
    (fun _ _ hl hrx => (receivePacket_upperBank hrx).trans hl) rfl h

/-- A poll as the recogniser and the bank see it: it stops before the combo
stage, or has combos disabled, or calls the recogniser. -/
theorem midifighterTask_combo {s : System} {poll : Poll} (hok : KeepsComboBank s poll) :
    let s' := (midifighterTask s poll).1
    (taskReport s poll = [] ∧ s'.combo = s.combo
        ∧ (s.combo.HoldsSome → s'.device.upperBank = s.device.upperBank))
      ∨ ∃ p bank, taskReport s poll = [((comboRecognize s.combo p).2, bank)]
        ∧ s'.combo = (comboRecognize s.combo p).1
        ∧ (s.combo.HoldsSome → bank = s.device.upperBank)
        ∧ (s.combo.HoldsSome ∨ p.keydown ≠ 0 → s'.device.upperBank = bank) := by
  have hreceive := fun hholds => getIncomingUsbMidiMessages_upperBank (hok.1 hholds)
  have hhold := hok.2
  have hrest : (getIncomingUsbMidiMessages s poll).1.combo = s.combo
      ∧ (getIncomingUsbMidiMessages s poll).1.keys = s.keys := ⟨rfl, rfl⟩
  unfold midifighterTask taskReport
  generalize getIncomingUsbMidiMessages s poll = received at hreceive hhold hrest ⊢
  obtain ⟨s₁, replies⟩ := received
  obtain ⟨hcombo, hkeys⟩ := hrest
  dsimp only at hreceive hhold hcombo hkeys ⊢
  split_ifs with hskip hboot
  · exact Or.inl ⟨rfl, rfl, fun _ => rfl⟩
  · exact Or.inl ⟨rfl, hcombo, hreceive⟩
  · obtain ⟨display, hscan⟩ := scanKeys_cases s₁ poll
    have hserved := keyLoop_served poll.keyTime (scanKeys s₁ poll) mem_keyIndices
    have hafter : (serveKeys s₁ poll).1.combo = (serveCombos
        (Machine.final (serveKey poll.keyTime) (scanKeys s₁ poll) (List.range 64)).1
        (Machine.final (serveKey poll.keyTime) (scanKeys s₁ poll) (List.range 64)).2
        s₁.combo).1 := by rw [serveKeys]
    generalize Machine.final (serveKey poll.keyTime) (scanKeys s₁ poll) (List.range 64) = served
      at hserved hafter ⊢
    have hbank : served.1.upperBank = s₁.device.upperBank :=
      Device.upperBank_congr (by rw [hserved.bank, hscan])
    have hdown : served.2.poll.keydown
        = (keyCalc (keyRead s.keys poll.gKeyDebounceBuffer)).poll.keydown := by
      rw [Keys.poll, hserved.down, hscan, hkeys]
      rfl
    rw [hafter, hcombo, comboReport, serveCombos]
    by_cases henable : served.1.setting .combosEnable ≠ 0
    · rw [if_pos henable, if_pos henable]
      refine Or.inr ⟨served.2.poll, served.1.upperBank, rfl, ?_, ?_, ?_⟩
      · dsimp only
        split <;> rfl
      · intro hholds
        rw [hbank, hreceive hholds]
      · intro hany
        rw [hdown] at hany
        rw [serveKeys_upperBank (hhold hany), hbank]
    · rw [if_neg henable, if_neg henable]
      refine Or.inl ⟨rfl, rfl, fun hholds => ?_⟩
      rw [serveKeys_upperBank (hhold (Or.inl hholds)), hreceive hholds]

/-- The reports of a combo so far are matched, and while it is held the bank
is the one of its DOWN. -/
structure ComboInv (combo : Combo) (reports : List (ComboAction × Bool)) (s : System) : Prop where
  state : s.combo.comboState ≤ 36
  matched : Matched (reports.filterMap (reportEdge? combo))
  bank : ∀ bank, (reports.filterMap (reportEdge? combo)).getLast? = some (.rise bank) →
    s.combo.Holds combo → bank = s.device.upperBank

theorem reportEdges_concat (combo : Combo) (reports : List (ComboAction × Bool))
    (action : ComboAction) (bank : Bool) :
    (reports ++ [(action, bank)]).filterMap (reportEdge? combo) =
      reports.filterMap (reportEdge? combo) ++
        if action = .down combo then [.rise bank]
        else if action = .release combo then [.fall bank] else [] := by
  rw [List.filterMap_append, List.filterMap_cons, List.filterMap_nil, reportEdge?]
  cases action with
  | none => rfl
  | down reported => by_cases hc : reported = combo <;> simp [hc]
  | release reported => by_cases hc : reported = combo <;> simp [hc]

theorem reportStep_inv {combo : Combo} {reports : List (ComboAction × Bool)} {s : System}
    {poll : Poll} (h : ComboInv combo reports s) (hok : KeepsComboBank s poll) :
    ComboInv combo (reports ++ (reportStep s poll).2) (reportStep s poll).1 := by
  rw [reportStep]
  dsimp only
  rcases midifighterTask_combo hok with
    ⟨hreport, hcombo, hkept⟩ | ⟨p, bank, hreport, hcombo, hbefore, hafter⟩
  · rw [hreport, List.append_nil]
    refine ⟨hcombo ▸ h.state, h.matched, fun bank hlast hholds => ?_⟩
    rw [hcombo] at hholds
    rw [hkept hholds.some]
    exact h.bank bank hlast hholds
  · have hmove := comboRecognize_cases s.combo p h.state
    have hedges := reportEdges_concat combo reports (comboRecognize s.combo p).2 bank
    rw [hreport]
    generalize comboRecognize s.combo p = res at hmove hcombo hedges
    have hstate : (midifighterTask s poll).1.combo.comboState ≤ 36 :=
      hcombo ▸ hmove.state_le h.state
    split_ifs at hedges with hdown hrelease
    · refine ⟨hstate, hedges ▸ matched_concat_rise bank _ h.matched, fun bank' hlast _ => ?_⟩
      rw [hedges, List.getLast?_concat] at hlast
      rw [hafter (Or.inr (hmove.keydown_of_down hdown))]
      exact (Edge.rise.inj (Option.some.inj hlast)).symm
    · have hholds := hmove.holds_of_release hrelease
      refine ⟨hstate, ?_, fun bank' hlast _ => ?_⟩
      · rw [hedges]
        refine matched_concat_fall _ h.matched fun bank' hlast => ?_
        rw [h.bank bank' hlast hholds, hbefore hholds.some]
      · rw [hedges, List.getLast?_concat] at hlast
        cases hlast
    · rw [List.append_nil] at hedges
      refine ⟨hstate, hedges ▸ h.matched, fun bank' hlast hholds' => ?_⟩
      rw [hcombo] at hholds'
      have hholds := hmove.holds hholds' hdown
      rw [hedges] at hlast
      rw [hafter (Or.inl hholds.some), hbefore hholds.some]
      exact h.bank bank' hlast hholds

/-- **Combo notes and bank changes.** Each DOWN of a combo is sent as a note
on and each RELEASE as a note off with the pitch of the combo, and nothing
else is sent with that pitch. In every run during which the channel is kept
and the device does not move between bank 0 and the other bank while a combo
is held, every note off is on the channel of the note on before it. -/
theorem comboNotes_matched (s : System) (polls : List Poll) (hs : s.combo.comboState ≤ 36)
    (hkeep : Machine.Along midifighterTask KeepsChannel s polls)
    (hbank : Machine.Along midifighterTask KeepsComboBank s polls) (combo : Combo) :
    let notes := (Machine.outputs midifighterTask s polls).filterMap
      (pitchEdge? (comboNote combo))
    let reports := (Machine.outputs reportStep s polls).filterMap (reportEdge? combo)
    notes.map Edge.isRise = reports.map Edge.isRise ∧ Matched notes := by
  intro notes reports
  have heq : notes = reports.map (Edge.map (comboChannel (s.device.setting .midiChannel))) :=
    comboEdges_eq combo hkeep
  have hstate : ∀ s poll, (reportStep s poll).1 = (midifighterTask s poll).1 := fun _ _ => rfl
  have hstart : ComboInv combo [] s :=
    ⟨hs, trivial, fun _ hlast _ => absurd hlast (Option.some_ne_none _).symm⟩
  have hrun := Machine.outputs_history (ComboInv combo) (fun _ _ _ h hok => reportStep_inv h hok)
    hstart (hbank.congr_state hstate)
  rw [heq]
  exact ⟨isRise_map _ _, matched_map _ _ hrun.matched⟩

/-- A device whose EEPROM is all ones, after boot: channel 1, combos
enabled. -/
def comboDemo : System :=
  boot ⟨fun _ => 1, 0, fun _ => 0, ⟨fun _ => 0, fun _ => 0⟩⟩ [0]

/-- The host selects bank 1 as combo A is begun, and once more while it is
held. A refresh in between finds no bank key held. -/
theorem comboNotes_matched_a :
    let select : Received := ⟨0, ⟨0xB, 0xB1, 3, 127⟩⟩
    let polls := [Poll.still [select] 0x1, Poll.still [] 0x3, Poll.still [] 0x7,
      { Poll.still [] 0xF with refreshTime := 30, storeTime := 30, bankTime := 30 },
      Poll.still [select] 0xF, Poll.still [] 0x7]
    let notes := (Machine.outputs midifighterTask comboDemo polls).filterMap
      (pitchEdge? (comboNote .a))
    notes = [.rise 0, .fall 0] ∧ Matched notes := by
  intro select polls notes
  refine ⟨by decide +kernel, ?_⟩
  exact (comboNotes_matched comboDemo polls (by decide +kernel) (by decide +kernel)
    (by decide +kernel) .a).2

/-- The host selects bank 1 while combo A is held: the note off goes out on
channel 0. -/
theorem comboNotes_not_matched :
    let polls := [Poll.still [] 0x1, Poll.still [] 0x3, Poll.still [] 0x7, Poll.still [] 0xF,
      Poll.still [⟨0, ⟨0xB, 0xB1, 3, 127⟩⟩] 0xF, Poll.still [] 0x7]
    let notes := (Machine.outputs midifighterTask comboDemo polls).filterMap
      (pitchEdge? (comboNote .a))
    Machine.Along midifighterTask KeepsChannel comboDemo polls
      ∧ notes = [.rise 1, .fall 0] ∧ ¬Matched notes := by
  decide +kernel

end MidiFighter
