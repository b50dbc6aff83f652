import MidiFighter.Device
import MidiFighter.Machine

/-!
# Holding a bank key

With `G_EE_SIDE_BANK = 1` a bank is selected by holding its key for a
second. `key_pressed` notes the time in `g_bank_select_counter`, and
`service_bank_select_buttons` compares it with the clock. The clock has 16
bits and 0 means that no key is held, so a press at time 0 is noted as
0xFFFF.

The machine here has the true time beside the device and reports what
happened, bank changes by the service routine included. From the reports
alone follows since when a key is held (`heldSince`); `HoldInv` says that
the counters agree with it, however presses, releases, bank changes and
service calls interleave.
-/

namespace MidiFighter

/-! ## The machine -/

structure BankHold where
  device : Device
  /-- The true time in milliseconds, of which `system_time_ms` has 16 bits. -/
  time : Nat

def BankHold.systemTimeMs (s : BankHold) : UInt16 := UInt16.ofNat s.time

inductive HoldEvent where
  | keyPressed (thisKey : UInt8)
  | keyReleased (thisKey : UInt8)
  /-- A bank change from elsewhere. -/
  | changeBank (thisBank : UInt8)
  | serviceBankSelectButtons
  | wait (ms : Nat)
deriving Repr, DecidableEq

inductive HoldReport where
  | pressed (thisKey : UInt8) (time : Nat)
  | released (thisKey : UInt8)
  | bankChanged
  /-- The service routine changed the bank. -/
  | switched (thisBank : UInt8)
deriving Repr, DecidableEq

/-- The service routine sends a notification when it changes the bank and
nothing otherwise, so the report can be read off its packets. -/
def serviceReport (res : Device × List EventPacket) : List HoldReport :=
  if res.2 = [] then [] else [.switched res.1.gBankSelected]

def holdStep (s : BankHold) : HoldEvent → BankHold × List HoldReport
  | .keyPressed thisKey =>
      ({ s with device := keyPressed s.device thisKey s.systemTimeMs }, [.pressed thisKey s.time])
  | .keyReleased thisKey =>
      ({ s with device := keyReleased s.device thisKey }, [.released thisKey])
  | .changeBank thisBank => ({ s with device := changeBank s.device thisBank }, [.bankChanged])
  | .serviceBankSelectButtons =>
      let res := serviceBankSelectButtons s.device s.systemTimeMs
      ({ s with device := res.1 }, serviceReport res)
  | .wait ms => ({ s with time := s.time + ms }, [])

/-! ## Since when a key is held -/

/-- A press of the key of bank `b` starts a hold; its release, a press of the
other bank key and any bank change end it. -/
def heldStep (b : Fin 2) (since : Option Nat) : HoldReport → Option Nat
  | .pressed thisKey time =>
      if thisKey = bankSelectKeyIds b then some time
      else if thisKey = bankSelectKeyIds b.rev then none
      else since
  | .released thisKey => if thisKey = bankSelectKeyIds b then none else since
  | .bankChanged => none
  | .switched _ => none

/-- The time of the most recent press of the key of bank `b`, unless something
has ended that hold. -/
def heldSince (b : Fin 2) (reports : List HoldReport) : Option Nat :=
  reports.foldl (heldStep b) none

theorem heldSince_concat (b : Fin 2) (reports : List HoldReport) (r : HoldReport) :
    heldSince b (reports ++ [r]) = heldStep b (heldSince b reports) r := by
  rw [heldSince, List.foldl_append]
  rfl

/-- A press ends the hold of the other key, so at most one key is held. -/
theorem heldStep_one (b : Fin 2) {since since' : Option Nat} (h : since = none ∨ since' = none)
    (r : HoldReport) : heldStep b since r = none ∨ heldStep b.rev since' r = none := by
  have hother : b.rev.rev = b := Fin.rev_rev b
  cases r with
  | pressed thisKey time =>
      rw [heldStep, heldStep, hother]
      split_ifs with hself hboth
      · have hkeys : ∀ b : Fin 2, bankSelectKeyIds b ≠ bankSelectKeyIds b.rev := by decide
        exact absurd (hself.symm.trans hboth) (hkeys b)
      · exact Or.inr rfl
      · exact Or.inl rfl
      · exact h
  | released thisKey =>
      rw [heldStep, heldStep]
      split_ifs
      · exact Or.inl rfl
      · exact Or.inl rfl
      · exact Or.inr rfl
      · exact h
  | bankChanged => exact Or.inl rfl
  | switched thisBank => exact Or.inl rfl

theorem heldSince_one (b : Fin 2) (reports : List HoldReport) :
    heldSince b reports = none ∨ heldSince b.rev reports = none := by
  induction reports using List.reverseRecOn with
  | nil => exact Or.inl rfl
  | append_singleton reports r ih =>
      rw [heldSince_concat, heldSince_concat]
      exact heldStep_one b ih r

/-! ## Counters -/

def holdStamp (time : Nat) : UInt16 :=
  if UInt16.ofNat time > 0 then UInt16.ofNat time else 0xFFFF

theorem keyPressed_counter (d : Device) (thisKey : UInt8) (time : Nat) (b : Fin 2) :
    (keyPressed d thisKey (UInt16.ofNat time)).gBankSelectCounter b =
      if thisKey = bankSelectKeyIds b then holdStamp time
      else if thisKey = bankSelectKeyIds b.rev then 0
      else d.gBankSelectCounter b := by
  have hbanks : List.finRange 2 = [0, 1] := rfl
  have hkeys : bankSelectKeyIds 0 ≠ bankSelectKeyIds 1 := by decide
  rw [keyPressed, hbanks, List.foldl_cons, List.foldl_cons, List.foldl_nil]
  obtain rfl | rfl : b = 0 ∨ b = 1 := by omega
  · by_cases h0 : thisKey = bankSelectKeyIds 0
    · simp [h0, hkeys, holdStamp]
    · by_cases h1 : thisKey = bankSelectKeyIds 1 <;> simp [h0, h1, hkeys.symm]
  · by_cases h1 : thisKey = bankSelectKeyIds 1
    · simp [h1, holdStamp]
    · by_cases h0 : thisKey = bankSelectKeyIds 0 <;> simp [h0, h1, hkeys]

theorem keyReleased_counter (d : Device) (thisKey : UInt8) (b : Fin 2) :
    (keyReleased d thisKey).gBankSelectCounter b =
      if thisKey = bankSelectKeyIds b then 0 else d.gBankSelectCounter b := by
  have hbanks : List.finRange 2 = [0, 1] := rfl
  have hkeys : bankSelectKeyIds 0 ≠ bankSelectKeyIds 1 := by decide
  rw [keyReleased, hbanks, List.foldl_cons, List.foldl_cons, List.foldl_nil]
  obtain rfl | rfl : b = 0 ∨ b = 1 := by omega
  · by_cases h0 : thisKey = bankSelectKeyIds 0
    · simp [h0, hkeys]
    · by_cases h1 : thisKey = bankSelectKeyIds 1 <;> simp [h0, h1, hkeys.symm]
  · by_cases h1 : thisKey = bankSelectKeyIds 1
    · simp [h1, hkeys.symm]
    · by_cases h0 : thisKey = bankSelectKeyIds 0 <;> simp [h0, h1, hkeys]

theorem changeBank_counter (d : Device) (thisBank : UInt8) :
    (changeBank d thisBank).gBankSelectCounter = fun _ => 0 := by
  rw [changeBank_eq]

/-- The service routine selects `thisBank` and tells the host: after the call
it is the bank selected, and the packet sent is control change 3 with the
number of the bank, on the channel of the device. -/
def SwitchesTo (d : Device) (now : UInt16) (thisBank : UInt8) : Prop :=
  let res := serviceBankSelectButtons d now
  res.1.gBankSelected = thisBank
    ∧ res.2 = [⟨0x0B, 0xB0 ||| (d.setting .midiChannel &&& 0x0F), 3, thisBank⟩]

def HoldDue (counter now : UInt16) : Prop :=
  counter > 0 ∧ now - counter ≥ gBankSelectCounterLimit

instance (counter now : UInt16) : Decidable (HoldDue counter now) :=
  inferInstanceAs (Decidable (_ ∧ _))

theorem serviceBankSelectButtons_hold {d : Device} (hside : d.setting .sideBank = 1)
    (now : UInt16) :
    (∃ b : Fin 2, HoldDue (d.gBankSelectCounter b) now
      ∧ serviceBankSelectButtons d now = (changeBank d (UInt8.ofNat b),
        sendChangeBankNotification (changeBank d (UInt8.ofNat b)) (UInt8.ofNat b)))
      ∨ (∀ b, ¬HoldDue (d.gBankSelectCounter b) now)
        ∧ serviceBankSelectButtons d now = (d, []) := by
  unfold serviceBankSelectButtons
  rw [hside, if_neg (by decide), if_neg (by decide)]
  dsimp only
  split
  · rename_i b hfind
    have hdue := List.find?_some hfind
    exact Or.inl ⟨b, of_decide_eq_true hdue, rfl⟩
  · rename_i hnone
    refine Or.inr ⟨fun b hdue => ?_, rfl⟩
    exact List.find?_eq_none.mp hnone b (List.mem_finRange b) (decide_eq_true hdue)

theorem switchesTo_of_served {d : Device} {now : UInt16} {b : Fin 2}
    (h : serviceBankSelectButtons d now = (changeBank d (UInt8.ofNat b),
      sendChangeBankNotification (changeBank d (UInt8.ofNat b)) (UInt8.ofNat b))) :
    SwitchesTo d now (UInt8.ofNat b) := by
  have hvalue : ∀ b : Fin 2, UInt8.ofNat b &&& 0x7F = UInt8.ofNat b := by decide
  have hcommand : (0xB0 : UInt8) >>> 4 = 0x0B := by decide
  have hcc : mf64BankCc &&& 0x7F = 3 := by decide
  rw [SwitchesTo, h]
  refine ⟨by rw [changeBank_eq], ?_⟩
  rw [sendChangeBankNotification, ccPacket, changeBank_eq]
  dsimp only
  rw [hvalue, hcommand, hcc]
  rfl

/-- Where at most one counter runs, the service routine switches to the bank
of the one that is due. -/
theorem switchesTo_iff {d : Device} (hside : d.setting .sideBank = 1) {b : Fin 2}
    (hone : d.gBankSelectCounter b = 0 ∨ d.gBankSelectCounter b.rev = 0) (now : UInt16) :
    SwitchesTo d now (UInt8.ofNat b) ↔ HoldDue (d.gBankSelectCounter b) now := by
  rcases serviceBankSelectButtons_hold hside now with ⟨b', hdue, hserved⟩ | ⟨hnone, hsame⟩
  · have hswitch := switchesTo_of_served hserved
    by_cases hb : b' = b
    · subst hb
      exact iff_of_true hswitch hdue
    · have hrev : ∀ i j : Fin 2, j ≠ i → j = i.rev := by decide
      obtain rfl := hrev b b' hb
      have hoff : d.gBankSelectCounter b = 0 :=
        hone.resolve_right fun hzero => absurd hdue.1 (by rw [hzero]; decide)
      refine iff_of_false (fun hself => hb ?_) fun hself => absurd hself.1 (by rw [hoff]; decide)
      have hinj : ∀ i j : Fin 2, UInt8.ofNat i = UInt8.ofNat j → i = j := by decide
      exact hinj _ _ (hswitch.1.symm.trans hself.1)
  · refine iff_of_false (fun hswitch => ?_) (hnone b)
    rw [SwitchesTo, hsame] at hswitch
    exact absurd hswitch.2.symm (List.cons_ne_nil _ _)

/-! ## Wrapping time -/

theorem holdStamp_pos (time : Nat) : holdStamp time > 0 := by
  unfold holdStamp
  split
  · assumption
  · decide

theorem ofNat_pos_iff (time : Nat) : UInt16.ofNat time > 0 ↔ ¬65536 ∣ time := by
  have hzero : (0 : UInt16).toNat = 0 := rfl
  rw [gt_iff_lt, UInt16.lt_iff_toNat_lt, hzero, UInt16.toNat_ofNat']
  omega

/-- The service routine finds a hold of less than 65535 milliseconds due after
1000 of them, one earlier if the press was noted one tick early. -/
theorem holdDue_holdStamp {time time' : Nat} (hle : time ≤ time') (hlt : time' - time < 65535) :
    HoldDue (holdStamp time) (UInt16.ofNat time') ↔
      time' - time ≥ if 65536 ∣ time then 999 else 1000 := by
  have hlimit : gBankSelectCounterLimit.toNat = 1000 := rfl
  rw [HoldDue, and_iff_right (holdStamp_pos time), ge_iff_le, UInt16.le_iff_toNat_le, hlimit,
    UInt16.toNat_sub, UInt16.toNat_ofNat', holdStamp]
  by_cases hzero : 65536 ∣ time
  · have hffff : (0xFFFF : UInt16).toNat = 65535 := rfl
    rw [if_neg fun hpos => (ofNat_pos_iff time).mp hpos hzero, if_pos hzero, hffff]
    omega
  · rw [if_pos ((ofNat_pos_iff time).mpr hzero), if_neg hzero, UInt16.toNat_ofNat']
    omega

/-! ## Runs -/

/-- The counters say what the reports say: 0 where no key is held, and the
stamp of the press where one is. That the press lies in the past is needed for
the time differences. -/
structure HoldInv (reports : List HoldReport) (s : BankHold) : Prop where
  side : s.device.setting .sideBank = 1
  counter : ∀ b, s.device.gBankSelectCounter b = (heldSince b reports).elim 0 holdStamp
  past : ∀ b time, heldSince b reports = some time → time ≤ s.time

theorem holdInv_start {s : BankHold} (hside : s.device.setting .sideBank = 1)
    (hcounter : ∀ b, s.device.gBankSelectCounter b = 0) : HoldInv [] s :=
  ⟨hside, hcounter, fun _ _ h => absurd h (Option.some_ne_none _).symm⟩

theorem HoldInv.changeBank {reports : List HoldReport} {s : BankHold} (h : HoldInv reports s)
    (thisBank : UInt8) {r : HoldReport} (hr : ∀ b since, heldStep b since r = none) :
    HoldInv (reports ++ [r]) { s with device := MidiFighter.changeBank s.device thisBank } := by
  have hnone : ∀ b, heldSince b (reports ++ [r]) = none := fun b => by
    rw [heldSince_concat, hr]
  refine ⟨?_, fun b => ?_, fun b time hsome => ?_⟩
  · rw [changeBank_eq]
    exact h.side
  · rw [hnone, changeBank_counter]
    rfl
  · rw [hnone] at hsome
    cases hsome

theorem serviceReport_switch {d : Device} {now : UInt16} {thisBank : UInt8}
    (h : serviceBankSelectButtons d now =
      (changeBank d thisBank, sendChangeBankNotification (changeBank d thisBank) thisBank)) :
    serviceReport (serviceBankSelectButtons d now) = [.switched thisBank] := by
  have hsent : sendChangeBankNotification (changeBank d thisBank) thisBank ≠ [] :=
    List.cons_ne_nil _ _
  rw [h, serviceReport, if_neg hsent, changeBank_eq]

theorem holdStep_inv {reports : List HoldReport} {s : BankHold} (h : HoldInv reports s)
    (e : HoldEvent) : HoldInv (reports ++ (holdStep s e).2) (holdStep s e).1 := by
  cases e with
  | keyPressed thisKey =>
      obtain ⟨counters, hpress⟩ := keyPressed_cases s.device thisKey s.systemTimeMs
      refine ⟨?_, fun b => ?_, fun b time hsome => ?_⟩
      · rw [holdStep, hpress]
        exact h.side
      · rw [holdStep, heldSince_concat, heldStep]
        refine (keyPressed_counter s.device thisKey s.time b).trans ?_
        split_ifs
        · rfl
        · rfl
        · exact h.counter b
      · rw [holdStep, heldSince_concat, heldStep] at hsome
        split_ifs at hsome
        · exact (Option.some.inj hsome).ge
        · exact h.past b time hsome
  | keyReleased thisKey =>
      obtain ⟨counters, hrelease⟩ := keyReleased_cases s.device thisKey
      refine ⟨?_, fun b => ?_, fun b time hsome => ?_⟩
      · rw [holdStep, hrelease]
        exact h.side
      · rw [holdStep, heldSince_concat, heldStep]
        refine (keyReleased_counter s.device thisKey b).trans ?_
        split_ifs
        · rfl
        · exact h.counter b
      · rw [holdStep, heldSince_concat, heldStep] at hsome
        split_ifs at hsome
        exact h.past b time hsome
  | changeBank thisBank => exact h.changeBank thisBank fun _ _ => rfl
  | serviceBankSelectButtons =>
      rcases serviceBankSelectButtons_hold h.side s.systemTimeMs with
        ⟨b, -, hswitch⟩ | ⟨-, hsame⟩
      · rw [holdStep, serviceReport_switch hswitch, hswitch]
        exact h.changeBank (UInt8.ofNat b) fun _ _ => rfl
      · rw [holdStep, hsame]
        simpa [serviceReport] using h
  | wait ms =>
      rw [holdStep, List.append_nil]
      exact ⟨h.side, h.counter, fun b time hsome =>
        (h.past b time hsome).trans (Nat.le_add_right ..)⟩

theorem holdRun_inv {s : BankHold} (hside : s.device.setting .sideBank = 1)
    (hcounter : ∀ b, s.device.gBankSelectCounter b = 0) (events : List HoldEvent) :
    HoldInv (Machine.outputs holdStep s events) (Machine.final holdStep s events) := by
  have halong : Machine.Along holdStep (fun _ _ => True) s events := Machine.along_true
  have hrun := Machine.outputs_history HoldInv (fun _ _ e h _ => holdStep_inv h e)
    (holdInv_start hside hcounter) halong
  exact hrun

/-! ## One press, one bank change -/

def HoldReport.isSwitched : HoldReport → Bool
  | .switched _ => true
  | _ => false

def PressesBankKey (e : HoldEvent) : Prop := ∃ b, e = .keyPressed (bankSelectKeyIds b)

def holdsRunning (s : BankHold) : Nat :=
  if ∀ b, s.device.gBankSelectCounter b = 0 then 0 else 1

theorem holdsRunning_le {s s' : BankHold}
    (h : ∀ b, s.device.gBankSelectCounter b = 0 → s'.device.gBankSelectCounter b = 0) :
    holdsRunning s' ≤ holdsRunning s := by
  unfold holdsRunning
  split_ifs with hs' hs hs
  · exact Nat.le_refl 0
  · exact Nat.zero_le 1
  · exact absurd (fun b => h b (hs b)) hs'
  · exact Nat.le_refl 1

theorem holdsRunning_eq_zero {s : BankHold} (h : ∀ b, s.device.gBankSelectCounter b = 0) :
    holdsRunning s = 0 := if_pos h

/-- A bank change by the service routine uses up a running counter, and only
a press of a bank key starts one. -/
theorem holdStep_running {s : BankHold} {e : HoldEvent} (he : ¬PressesBankKey e)
    (hside : s.device.setting .sideBank = 1) :
    (holdStep s e).1.device.setting .sideBank = 1
      ∧ (holdStep s e).2.countP HoldReport.isSwitched + holdsRunning (holdStep s e).1
        ≤ holdsRunning s := by
  have hchange : ∀ thisBank, (changeBank s.device thisBank).setting .sideBank = 1 :=
    fun thisBank => by rw [changeBank_eq]; exact hside
  have hzero : ∀ thisBank, holdsRunning { s with device := changeBank s.device thisBank } = 0 :=
    fun thisBank => holdsRunning_eq_zero fun b => by rw [changeBank_counter]
  cases e with
  | keyPressed thisKey =>
      obtain ⟨counters, hpress⟩ := keyPressed_cases s.device thisKey s.systemTimeMs
      refine ⟨by rw [holdStep, hpress]; exact hside, ?_⟩
      refine (Nat.zero_add _).le.trans (holdsRunning_le fun b hb => ?_)
      have hother : ∀ b, thisKey ≠ bankSelectKeyIds b := fun b heq => he ⟨b, by rw [heq]⟩
      refine (keyPressed_counter s.device thisKey s.time b).trans ?_
      rw [if_neg (hother b), if_neg (hother _), hb]
  | keyReleased thisKey =>
      obtain ⟨counters, hrelease⟩ := keyReleased_cases s.device thisKey
      refine ⟨by rw [holdStep, hrelease]; exact hside, ?_⟩
      refine (Nat.zero_add _).le.trans (holdsRunning_le fun b hb => ?_)
      refine (keyReleased_counter s.device thisKey b).trans ?_
      rw [hb, ite_self]
  | changeBank thisBank =>
      refine ⟨hchange thisBank, ?_⟩
      rw [holdStep, hzero]
      exact Nat.zero_le _
  | serviceBankSelectButtons =>
      rcases serviceBankSelectButtons_hold hside s.systemTimeMs with
        ⟨b, hdue, hswitch⟩ | ⟨-, hsame⟩
      · rw [holdStep, serviceReport_switch hswitch, hswitch, hzero]
        refine ⟨hchange _, ?_⟩
        have hrunning : holdsRunning s = 1 :=
          if_neg fun hall => absurd hdue.1 (by rw [hall b]; decide)
        rw [hrunning]
        exact Nat.le_refl 1
      · rw [holdStep, hsame]
        refine ⟨hside, ?_⟩
        simp [serviceReport]
  | wait ms => exact ⟨hside, (Nat.zero_add _).le⟩

theorem holdRun_switches : ∀ {events : List HoldEvent} {s : BankHold},
    (∀ e ∈ events, ¬PressesBankKey e) → s.device.setting .sideBank = 1 →
      (Machine.outputs holdStep s events).countP HoldReport.isSwitched ≤ holdsRunning s
  | [], _, _, _ => Nat.zero_le _
  | e :: events, s, hpress, hside => by
      rw [List.forall_mem_cons] at hpress
      obtain ⟨hside', hstep⟩ := holdStep_running hpress.1 hside
      have hrest := holdRun_switches hpress.2 hside'
      rw [Machine.outputs_cons, List.countP_append]
      omega

/-- **Hold to change the bank.** With the bank keys set to hold, over every run
of key presses and releases, bank changes and service calls: a service call
switches to bank `b` iff the key of `b` has been held for 1000 milliseconds,
999 if it was pressed at a multiple of 65536, as long as no key is held for
65535 milliseconds or more; and until the next press of a bank key at most one
service call switches. -/
theorem bank_hold (s : BankHold) (hside : s.device.setting .sideBank = 1)
    (hcounter : ∀ b, s.device.gBankSelectCounter b = 0) (events : List HoldEvent) :
    let s' := Machine.final holdStep s events
    let reports := Machine.outputs holdStep s events
    (∀ b : Fin 2, (∀ time, heldSince b reports = some time → s'.time - time < 65535) →
      (SwitchesTo s'.device s'.systemTimeMs (UInt8.ofNat b) ↔
        ∃ time, heldSince b reports = some time
          ∧ s'.time - time ≥ if 65536 ∣ time then 999 else 1000))
    ∧ ∀ later, (∀ e ∈ later, ¬PressesBankKey e) →
      (Machine.outputs holdStep s' later).countP HoldReport.isSwitched ≤ 1 := by
  intro s' reports
  have hinv : HoldInv reports s' := holdRun_inv hside hcounter events
  refine ⟨fun b hlimit => ?_, fun later hlater => ?_⟩
  · have hone : s'.device.gBankSelectCounter b = 0 ∨ s'.device.gBankSelectCounter b.rev = 0 := by
      rw [hinv.counter, hinv.counter]
      refine (heldSince_one b reports).imp ?_ ?_ <;> exact fun hnone => by rw [hnone]; rfl
    rw [switchesTo_iff hinv.side hone, hinv.counter b]
    cases hheld : heldSince b reports with
    | none =>
        refine iff_of_false (fun hdue => absurd hdue.1 (by decide)) ?_
        rintro ⟨time, hsome, -⟩
        cases hsome
    | some time =>
        have hdue := holdDue_holdStamp (hinv.past b time hheld) (hlimit time hheld)
        refine hdue.trans ⟨fun h => ⟨time, rfl, h⟩, ?_⟩
        rintro ⟨time', hsome, h⟩
        obtain rfl := Option.some.inj hsome
        exact h
  · refine (holdRun_switches hlater hinv.side).trans ?_
    unfold holdsRunning
    split_ifs <;> decide

/-- Key 63 is pressed at true time 65536, when the clock reads 0, and serviced
999 milliseconds later: bank 1 is selected, and the host gets `0B B1 03 01`. -/
theorem bank_hold_wrapped :
    let store : Store := ⟨fun _ => 0, 0, fun _ => 1, ⟨fun _ => 0, fun _ => 0⟩⟩
    let s : BankHold := ⟨Device.start store, 65536⟩
    let events := [HoldEvent.keyPressed 63, HoldEvent.wait 999]
    let s' := Machine.final holdStep s events
    let res := serviceBankSelectButtons s'.device s'.systemTimeMs
    s.device.setting .sideBank = 1 ∧ (∀ b, s.device.gBankSelectCounter b = 0)
      ∧ res.1.gBankSelected = 1 ∧ res.2 = [⟨0x0B, 0xB1, 3, 1⟩] := by
  intro store s events s' res
  have hheld : ∀ time, heldSince 1 (Machine.outputs holdStep s events) = some time →
      time = 65536 := fun time hsome => (Option.some.inj hsome).symm
  have hswitch : SwitchesTo s'.device s'.systemTimeMs 1 := by
    refine ((bank_hold s rfl (fun _ => rfl) events).1 1 ?_).mpr ?_
    · intro time hsome
      rw [hheld time hsome]
      decide
    · exact ⟨65536, rfl, by decide⟩
  have hchannel : s'.device.setting .midiChannel = 1 := rfl
  rw [SwitchesTo, hchannel] at hswitch
  exact ⟨rfl, fun _ => rfl, hswitch.1, hswitch.2.trans (by decide)⟩

end MidiFighter
