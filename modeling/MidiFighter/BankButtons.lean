import MidiFighter.Task

/-!
# Bank buttons

Where the bank keys are enabled (`G_EE_SIDE_BANK`), the user changes the
bank by holding them. With the keys disabled the device should be in bank
0, or the user cannot leave the bank they are in (`BankReachable`).

The setting is persistent and the bank is not, so everything that can clear
the setting has to go back to bank 0. A config push does
(`pushConfig_bank`). A factory reset by command does not: it clears the
setting and leaves the bank (`bank_not_reachable`). The reset at power-on is
harmless, as bank 0 is selected then. `bank_reachable` says that this
command is the only way to get stuck.
-/

namespace MidiFighter

/-- The bank keys are enabled or not needed. A push reads its settings back
from the EEPROM, which is why the layout belongs to the invariant. -/
structure BankReachable (d : Device) : Prop where
  version : d.store.eeprom eeEepromVersion = eepromLayout
  bank : d.setting .sideBank = 0 → d.gBankSelected = 0

theorem BankReachable.of_eq {d d' : Device} (h : BankReachable d) (hstore : d'.store = d.store)
    (hbank : d'.gBankSelected = d.gBankSelected) : BankReachable d' := by
  refine ⟨by rw [hstore]; exact h.version, fun hside => ?_⟩
  rw [hbank]
  refine h.bank ?_
  rw [← hside, Device.setting, Device.setting, hstore]

/-! ## Handlers -/

theorem pushConfig_bankReachable {d : Device} (h : BankReachable d) (buffer : List UInt8) :
    BankReachable (sysExCmdPushConfig d buffer).1 := by
  refine ⟨by rw [pushConfig_store]; exact eepromSetup_version _, fun hside => ?_⟩
  rw [Device.setting, pushConfig_settings h.version] at hside
  rw [pushConfig_bank]
  by_cases hold : d.setting .sideBank = 0
  · rw [if_neg fun hoff => hoff.2 hold]
    exact h.bank hold
  · rw [if_pos ⟨hside, hold⟩]

def isFactoryReset : SysexEffect SysExFn → Bool
  | .command .sysExCmdSystem _ _ (2 :: _) => true
  | _ => false

/-- Every other handler call keeps the invariant, and a factory reset does
in bank 0. -/
theorem call_bankReachable (fn : SysExFn) (command length : UInt8) (buffer : List UInt8)
    {d : Device} (h : BankReachable d)
    (hreset : isFactoryReset (.command fn command length buffer) = true → d.gBankSelected = 0) :
    BankReachable (fn.call d buffer).1 := by
  cases fn with
  | sysExCmdPushConfig => exact pushConfig_bankReachable h buffer
  | sysExCmdPullConfig =>
      rw [SysExFn.call]
      rcases pullConfig_cases d buffer with hpull | hpull
      all_goals
        rw [hpull]
        exact h
  | sysExCmdSystem =>
      rw [SysExFn.call]
      rcases system_cases d buffer with hsystem | hsystem | ⟨⟨rest, rfl⟩, hsystem⟩
      · rw [hsystem]
        exact h
      · rw [hsystem]
        exact h.of_eq rfl rfl
      · rw [hsystem]
        exact ⟨eepromFactoryReset_version d.store, fun _ => hreset rfl⟩
  | sysExCmdBulkXfer => exact ⟨h.version, h.bank⟩

/-! ## Packets -/

/-- A control change by which the host selects a bank. -/
def SelectsBank (d : Device) (p : EventPacket) : Prop :=
  p.cin = 0xB ∧ p.data1 &&& 0x0F = d.setting .midiChannel ∧ p.data2 = mf64BankCc

instance (d : Device) (p : EventPacket) : Decidable (SelectsBank d p) :=
  inferInstanceAs (Decidable (_ ∧ _ ∧ _))

def CommandsReset (r : Receiver) (p : EventPacket) : Prop :=
  ∃ e ∈ (sysexStep configSetup r p).2, isFactoryReset e = true

instance (r : Receiver) (p : EventPacket) : Decidable (CommandsReset r p) :=
  inferInstanceAs (Decidable (∃ e ∈ _, _))

/-- The host does not select a bank, and resets only in bank 0. A control
change is excluded whatever bank it selects: it is obeyed with the bank keys
off as well. -/
def KeepsBankKeys (l : Link) (rx : Received) : Prop :=
  ¬SelectsBank l.device rx.packet
    ∧ (CommandsReset l.receiver rx.packet → l.device.gBankSelected = 0)

instance (l : Link) (rx : Received) : Decidable (KeepsBankKeys l rx) :=
  inferInstanceAs (Decidable (_ ∧ _))

theorem receivePacket_bankReachable {l : Link} {rx : Received} (h : BankReachable l.device)
    (hok : KeepsBankKeys l rx) : BankReachable (receivePacket l rx).1.device := by
  refine receivePacket_device h ?_ ?_ ?_ ?_ ?_
  · intro _
    obtain ⟨_, _, _, hclock⟩ := handleRealTime_cases l.device rx.packet
    rw [hclock]
    exact h.of_eq rfl rfl
  · intro _
    obtain ⟨_, _, hon⟩ := handleNoteOn_cases l.device rx.packet
    rw [hon]
    exact h.of_eq rfl rfl
  · intro _
    obtain ⟨_, _, hoff⟩ := handleNoteOff_cases l.device rx.packet rx.now
    rw [hoff]
    exact h.of_eq rfl rfl
  · intro h11
    rcases handleControlChange_cases l.device rx.packet with hcc | ⟨hselects, -⟩
    · rw [hcc]
      exact h
    · exact absurd ⟨h11, hselects⟩ hok.1
  · intro fn command length buffer hmem
    exact call_bankReachable fn command length buffer h fun hreset => hok.2 ⟨_, hmem, hreset⟩

/-! ## Runs -/

/-- The keys and the display: the bank keys act only where they are
enabled. -/
theorem serveKeys_bankReachable {s : System} (h : BankReachable s.device) (poll : Poll) :
    BankReachable (serveKeys s poll).1.device := by
  have hstore := serveKeys_store s poll
  refine ⟨by rw [hstore]; exact h.version, fun hside => ?_⟩
  rw [Device.setting, hstore] at hside
  rcases serveKeys_bank s poll with hbank | ⟨henabled, -⟩
  · rw [hbank]
    exact h.bank hside
  · exact absurd hside henabled

def PollKeepsBankKeys (s : System) (poll : Poll) : Prop :=
  Machine.Along receivePacket KeepsBankKeys s.toLink (poll.received.take usbRxPacketLimit)

instance (s : System) (poll : Poll) : Decidable (PollKeepsBankKeys s poll) :=
  inferInstanceAs (Decidable (Machine.Along ..))

theorem midifighterTask_bankReachable {s : System} {poll : Poll} (h : BankReachable s.device)
    (hok : PollKeepsBankKeys s poll) : BankReachable (midifighterTask s poll).1.device := by
  have hreceived : BankReachable (getIncomingUsbMidiMessages s poll).1.device :=
    Machine.final_invariant (fun l : Link => BankReachable l.device)
      (fun _ _ hl hrx => receivePacket_bankReachable hl hrx) h hok
  unfold midifighterTask
  dsimp only
  split_ifs
  · exact h
  · exact hreceived
  · exact serveKeys_bankReachable hreceived poll

/-- **The user can reach bank 0.** In every run from boot in which the host
selects no bank and commands no factory reset while bank 1 is selected, the
bank keys are enabled after every poll, or bank 0 is selected. -/
theorem bank_reachable (store : Store) (samples : List (BitVec 64)) (polls : List Poll)
    (hok : Machine.Along midifighterTask PollKeepsBankKeys (boot store samples) polls) :
    let d := (Machine.final midifighterTask (boot store samples) polls).device
    d.setting .sideBank = 0 → d.gBankSelected = 0 := by
  have hboot : BankReachable (boot store samples).device :=
    ⟨eepromSetup_version store, fun _ => rfl⟩
  have hrun := Machine.final_invariant (fun s : System => BankReachable s.device)
    (fun _ _ hs hpoll => midifighterTask_bankReachable hs hpoll) hboot hok
  exact hrun.bank

/-- The second bank key is pressed, and held until a refresh 1000
milliseconds later selects bank 1. The EEPROM is all ones, so the bank keys
are enabled. -/
def holdBankKey : List Poll :=
  [{ Poll.still [] 0x8000000000000000 with keyTime := fun _ => 1 },
    { Poll.still [] 0x8000000000000000 with refreshTime := 1001, bankTime := 1001 }]

/-- Then a config push turns the bank keys off. -/
theorem bank_reachable_push :
    let store : Store := ⟨fun _ => 1, 0, fun _ => 0, ⟨fun _ => 0, fun _ => 0⟩⟩
    let push := Poll.still [⟨0, ⟨0x4, 0xF0, 0x00, 0x01⟩⟩, ⟨0, ⟨0x4, 0x79, 0x01, 23⟩⟩,
      ⟨0, ⟨0x6, 0x00, 0xF7, 0⟩⟩] 0
    let d := (Machine.final midifighterTask (boot store [0]) (holdBankKey ++ [push])).device
    (Machine.final midifighterTask (boot store [0]) holdBankKey).device.gBankSelected = 1
      ∧ d.setting .sideBank = 0 ∧ d.gBankSelected = 0 := by
  intro store push d
  have hside : d.setting .sideBank = 0 := by decide +kernel
  exact ⟨by decide +kernel, hside,
    bank_reachable store [0] (holdBankKey ++ [push]) (by decide +kernel) hside⟩

/-- A factory reset by command turns the bank keys off and leaves the device
in bank 1. -/
theorem bank_not_reachable :
    let store : Store := ⟨fun _ => 1, 0, fun _ => 0, ⟨fun _ => 0, fun _ => 0⟩⟩
    let reset := Poll.still [⟨0, ⟨0x4, 0xF0, 0x00, 0x01⟩⟩, ⟨0, ⟨0x4, 0x79, 0x03, 0x02⟩⟩,
      ⟨0, ⟨0x5, 0xF7, 0, 0⟩⟩] 0
    let d := (Machine.final midifighterTask (boot store [0]) (holdBankKey ++ [reset])).device
    (∀ poll ∈ holdBankKey ++ [reset], ∀ rx ∈ poll.received, rx.packet.cin ≠ 0xB)
      ∧ d.setting .sideBank = 0 ∧ d.gBankSelected = 1 := by
  decide +kernel

end MidiFighter
