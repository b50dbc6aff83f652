import MidiFighter.Firmware
import MidiFighter.Noninterference

/-!
# The LED timer and the MIDI side

`TIMER1_OVF_vect` works on counters of the LED engine, which the main loop
reads and sets too: `default_display_run` draws by them, and a key press ends
the sleep animation. `ledTimer_hidden` says that no MIDI message depends on
them: leaving out the interrupts of the LED timer changes no packet, wherever
they come.

The device without its display is a view, and every function of the main
loop is blind for the rest: what it does to the view, and what it sends, is
the same whatever the display holds. There is one lemma for each function,
and `Machine.run_filter` puts them together.
-/

namespace MidiFighter

/-! ## The device without its display -/

/-- What the MIDI side works on: the display is as at power-on. -/
def Device.withoutDisplay (d : Device) : Device :=
  { d with display := (Device.start d.store).display }

section

variable (d : Device)

@[simp] theorem withoutDisplay_store : d.withoutDisplay.store = d.store := rfl
@[simp] theorem withoutDisplay_setting (f : Setting) :
    d.withoutDisplay.setting f = d.setting f := rfl
@[simp] theorem withoutDisplay_bank : d.withoutDisplay.gBankSelected = d.gBankSelected := rfl
@[simp] theorem withoutDisplay_noteOffCounter :
    d.withoutDisplay.gMidiNoteOffCounter = d.gMidiNoteOffCounter := rfl
@[simp] theorem withoutDisplay_bankSelectCounter :
    d.withoutDisplay.gBankSelectCounter = d.gBankSelectCounter := rfl
@[simp] theorem withoutDisplay_clock :
    d.withoutDisplay.midiClockEnabled = d.midiClockEnabled := rfl
@[simp] theorem withoutDisplay_ticks : d.withoutDisplay.ticks = d.ticks := rfl
@[simp] theorem withoutDisplay_inBootloader :
    d.withoutDisplay.inBootloader = d.inBootloader := rfl

end

theorem withoutDisplay_inj {d d' : Device} (h : d.withoutDisplay = d'.withoutDisplay) :
    d' = { d with display := d'.display } := by
  cases d
  cases d'
  simp only [Device.withoutDisplay, Device.mk.injEq] at h ⊢
  tauto

/-- A function of the device that is blind for the display. -/
def DisplayBlind (f : Device → Device × List EventPacket) : Prop :=
  Machine.Blind Device.withoutDisplay f

theorem setting_of_view {d d' : Device} (h : d.withoutDisplay = d'.withoutDisplay) :
    d.setting = d'.setting := by
  rw [withoutDisplay_inj h]
  rfl

@[simp] theorem withoutDisplay_startGeometricAnimation (d : Device) (buttonId animationId : UInt8) :
    (startGeometricAnimation d buttonId animationId).withoutDisplay = d.withoutDisplay := by
  rw [startGeometricAnimation_eq]
  rfl

theorem withoutDisplay_changeBank (d : Device) (thisBank : UInt8) :
    (changeBank d thisBank).withoutDisplay =
      { d.withoutDisplay with gBankSelected := thisBank, gBankSelectCounter := fun _ => 0 } := by
  rw [changeBank_eq]
  rfl

theorem changeBank_setting (d : Device) (thisBank : UInt8) :
    (changeBank d thisBank).setting = d.setting := by
  rw [changeBank_eq]
  rfl

theorem handleRealTime_blind (p : EventPacket) :
    DisplayBlind fun d => (handleRealTime d p, []) := by
  intro d d' h
  refine ⟨?_, rfl⟩
  rw [withoutDisplay_inj h]
  simp only [handleRealTime, midiClock, midiClockEnable]
  split_ifs <;> rfl

theorem handleNoteOn_blind (p : EventPacket) : DisplayBlind fun d => (handleNoteOn d p, []) := by
  intro d d' h
  refine ⟨?_, rfl⟩
  simp only [handleNoteOn, setting_of_view h]
  rw [withoutDisplay_inj h]
  split <;> rfl

theorem handleNoteOff_blind (p : EventPacket) (now : UInt16) :
    DisplayBlind fun d => (handleNoteOff d p now, []) := by
  intro d d' h
  refine ⟨?_, rfl⟩
  simp only [handleNoteOff, setting_of_view h]
  rw [withoutDisplay_inj h]
  split <;> rfl

theorem handleControlChange_blind (p : EventPacket) :
    DisplayBlind fun d => (handleControlChange d p, []) := by
  intro d d' h
  refine ⟨?_, rfl⟩
  simp only [handleControlChange, setting_of_view h]
  split_ifs
  · rw [withoutDisplay_changeBank, withoutDisplay_changeBank, h]
  · rw [withoutDisplay_changeBank, withoutDisplay_changeBank, h]
  · exact h
  · exact h

theorem pushConfig_bankSelectCounter (d : Device) (buffer : List UInt8) :
    (sysExCmdPushConfig d buffer).1.gBankSelectCounter =
      if (pushedStore d.store buffer).settings .sideBank = 0 ∧ d.setting .sideBank ≠ 0 then
        fun _ => 0
      else d.gBankSelectCounter := by
  have hside : ({ d with
      store := { d.store with
        settings := (tvTableDecode (fun _ => 0) buffer).settings d.store.settings } } :
        Device).setting .sideBank = (pushedStore d.store buffer).settings .sideBank := rfl
  unfold sysExCmdPushConfig
  dsimp only
  rw [startGeometricAnimation_eq, hside]
  generalize (pushedStore d.store buffer).settings .sideBank = new
  dsimp only
  split_ifs with hchanged hzero hoff hoff hoff
  · rw [changeBank_eq]
  · exact absurd ⟨hzero, fun h => hchanged (hzero.trans h.symm)⟩ hoff
  · exact absurd hoff.1 hzero
  · rfl
  · exact absurd (not_not.mp hchanged ▸ hoff.1) hoff.2
  · rfl

theorem withoutDisplay_pushConfig (d : Device) (buffer : List UInt8) :
    (sysExCmdPushConfig d buffer).1.withoutDisplay =
      { d.withoutDisplay with
        store := (sysExCmdPushConfig d buffer).1.store
        gBankSelected := (sysExCmdPushConfig d buffer).1.gBankSelected
        gBankSelectCounter := (sysExCmdPushConfig d buffer).1.gBankSelectCounter } := by
  obtain ⟨_, _, _, hpush, -⟩ := pushConfig_cases d buffer
  rw [hpush]
  rfl

theorem pushConfig_blind (buffer : List UInt8) :
    DisplayBlind fun d => sysExCmdPushConfig d buffer := by
  intro d d' h
  have hstore : d.store = d'.store := by rw [withoutDisplay_inj h]
  have hbank : d.gBankSelected = d'.gBankSelected := by rw [withoutDisplay_inj h]
  have hcounter : d.gBankSelectCounter = d'.gBankSelectCounter := by rw [withoutDisplay_inj h]
  constructor
  · simp only [withoutDisplay_pushConfig, pushConfig_store, pushConfig_bank,
      pushConfig_bankSelectCounter, h, hstore, setting_of_view h, hbank, hcounter]
  · simp only [pushConfig_packets, sendConfigData, hstore]

theorem call_blind (fn : SysExFn) (buffer : List UInt8) :
    DisplayBlind fun d => fn.call d buffer := by
  cases fn with
  | sysExCmdPushConfig => exact pushConfig_blind buffer
  | sysExCmdPullConfig =>
      intro d d' h
      rw [withoutDisplay_inj h]
      simp only [SysExFn.call, MidiFighter.sysExCmdPullConfig]
      split <;> exact ⟨rfl, rfl⟩
  | sysExCmdSystem =>
      intro d d' h
      rw [withoutDisplay_inj h]
      simp only [SysExFn.call, MidiFighter.sysExCmdSystem]
      split <;> exact ⟨rfl, rfl⟩
  | sysExCmdBulkXfer =>
      intro d d' h
      rw [withoutDisplay_inj h]
      exact ⟨rfl, rfl⟩

theorem runEffect_blind (e : SysexEffect SysExFn) : DisplayBlind fun d => runEffect d e := by
  cases e with
  | store => exact fun d d' h => ⟨h, rfl⟩
  | handle => exact fun d d' h => ⟨h, rfl⟩
  | command fn _ _ buffer => exact call_blind fn buffer
  | send packets => exact fun d d' h => ⟨h, rfl⟩

theorem receivePacket_blind (rx : Received) {l l' : Link} (hreceiver : l.receiver = l'.receiver)
    (h : l.device.withoutDisplay = l'.device.withoutDisplay) :
    (receivePacket l rx).1.device.withoutDisplay = (receivePacket l' rx).1.device.withoutDisplay ∧
      (receivePacket l rx).1.receiver = (receivePacket l' rx).1.receiver ∧
      (receivePacket l rx).2 = (receivePacket l' rx).2 := by
  obtain ⟨d, r⟩ := l
  obtain ⟨d', r'⟩ := l'
  obtain rfl : r = r' := hreceiver
  have hview : d.withoutDisplay = d'.withoutDisplay := h
  have hboot : d.inBootloader = d'.inBootloader := by rw [withoutDisplay_inj hview]
  simp only [receivePacket, packetSwitch, hboot]
  split_ifs
  · exact ⟨h, rfl, rfl⟩
  · exact ⟨(handleRealTime_blind rx.packet d d' h).1, rfl, rfl⟩
  · exact ⟨(handleNoteOn_blind rx.packet d d' h).1, rfl, rfl⟩
  · exact ⟨(handleNoteOff_blind rx.packet rx.now d d' h).1, rfl, rfl⟩
  · exact ⟨(handleControlChange_blind rx.packet d d' h).1, rfl, rfl⟩
  · obtain ⟨hdevice, hout⟩ := Machine.Blind.run (sysexStep configSetup r rx.packet).2
      (fun e _ => runEffect_blind e) d d' h
    exact ⟨hdevice, rfl, hout⟩
  · exact ⟨h, rfl, rfl⟩

theorem serviceBankSelectButtons_blind (now : UInt16) :
    DisplayBlind fun d => serviceBankSelectButtons d now := by
  intro d d' h
  have hcounter : d.gBankSelectCounter = d'.gBankSelectCounter := by rw [withoutDisplay_inj h]
  simp only [serviceBankSelectButtons, setting_of_view h, hcounter]
  split_ifs
  · exact ⟨h, rfl⟩
  all_goals
    split
    · refine ⟨?_, ?_⟩
      · rw [withoutDisplay_changeBank, withoutDisplay_changeBank, h]
      · rw [sendChangeBankNotification, sendChangeBankNotification, changeBank_setting,
          changeBank_setting, setting_of_view h]
    · exact ⟨h, rfl⟩

theorem withoutDisplay_keyPressed (d : Device) (thisKey : UInt8) (now : UInt16) :
    (keyPressed d thisKey now).withoutDisplay = keyPressed d.withoutDisplay thisKey now := by
  rw [keyPressed, keyPressed]
  exact (List.foldl_hom Device.withoutDisplay fun d thisBank => by split_ifs <;> rfl).symm

theorem withoutDisplay_keyReleased (d : Device) (thisKey : UInt8) :
    (keyReleased d thisKey).withoutDisplay = keyReleased d.withoutDisplay thisKey := by
  rw [keyReleased, keyReleased]
  exact (List.foldl_hom Device.withoutDisplay fun d thisBank => by split_ifs <;> rfl).symm

theorem withoutDisplay_updateNoteOffFeedbackDelay (d : Device) (now : UInt16) :
    (updateNoteOffFeedbackDelay d now).withoutDisplay =
      updateNoteOffFeedbackDelay d.withoutDisplay now := by
  rw [updateNoteOffFeedbackDelay, updateNoteOffFeedbackDelay]
  refine (List.foldl_hom Device.withoutDisplay fun d thisKey => ?_).symm
  dsimp only
  rw [withoutDisplay_noteOffCounter]
  split_ifs <;> rfl

def keyView (s : Device × Keys) : Device × Keys := (s.1.withoutDisplay, s.2)

theorem serveKeyDown_blind (now : UInt16) (i : Nat) :
    Machine.Blind keyView fun s => serveKeyDown now s i := by
  rintro ⟨d, keys⟩ ⟨d', keys'⟩ hview
  obtain ⟨h, rfl⟩ : d.withoutDisplay = d'.withoutDisplay ∧ keys = keys' := Prod.ext_iff.mp hview
  have hbank : d.gBankSelected = d'.gBankSelected := by rw [withoutDisplay_inj h]
  simp only [serveKeyDown, midiStreamNote, setting_of_view h, hbank, keyView]
  split_ifs <;>
    simp only [withoutDisplay_keyPressed, withoutDisplay_startGeometricAnimation, h, and_self]

theorem serveKeyUp_blind (i : Nat) : Machine.Blind keyView fun s => serveKeyUp s i := by
  rintro ⟨d, keys⟩ ⟨d', keys'⟩ hview
  obtain ⟨h, rfl⟩ : d.withoutDisplay = d'.withoutDisplay ∧ keys = keys' := Prod.ext_iff.mp hview
  simp only [serveKeyUp, midiStreamNoteCh, setting_of_view h, keyView]
  split_ifs <;> simp only [withoutDisplay_keyReleased, h, and_self]

theorem serveKey_blind (keyTime : Nat → UInt16) (i : Nat) :
    Machine.Blind keyView fun s => serveKey keyTime s i := by
  intro s s' hview
  obtain ⟨hdown, hnotes⟩ := serveKeyDown_blind (keyTime i) i s s' hview
  obtain ⟨hup, hoffs⟩ := serveKeyUp_blind i _ _ hdown
  dsimp only at hnotes hup hoffs
  exact ⟨hup, congrArg₂ (· ++ ·) hnotes hoffs⟩

theorem serveCombos_view {d d' : Device} (h : d.withoutDisplay = d'.withoutDisplay) (keys : Keys)
    (r : ComboRecognizer) : serveCombos d keys r = serveCombos d' keys r := by
  have hbank : d.gBankSelected = d'.gBankSelected := by rw [withoutDisplay_inj h]
  simp only [serveCombos, midiStreamNoteCh, setting_of_view h, hbank]

/-! ## The display run -/

theorem withoutDisplay_startTrigger (d : Device) (i : Nat) :
    (startTrigger d i).withoutDisplay =
      { d.withoutDisplay with
        gMidiNoteState :=
          if IsTrigger (d.gMidiNoteState (noteCell 1 i)) then
            Function.update d.gMidiNoteState (noteCell 1 i) 0
          else d.gMidiNoteState } := by
  unfold startTrigger
  dsimp only
  split_ifs
  · rw [startGeometricAnimation_eq]
    rfl
  · rfl

theorem startTriggers_view {d d' : Device} (h : d.withoutDisplay = d'.withoutDisplay) :
    (startTriggers d).withoutDisplay = (startTriggers d').withoutDisplay := by
  have hbank : d.gBankSelected = d'.gBankSelected := by rw [withoutDisplay_inj h]
  have hnotes : bankNotes d = bankNotes d' := by rw [bankNotes, bankNotes, hbank]
  rw [startTriggers, startTriggers, hnotes]
  generalize bankNotes d' = is
  induction is generalizing d d' with
  | nil => exact h
  | cons i is ih =>
      have hstate : d.gMidiNoteState = d'.gMidiNoteState := by rw [withoutDisplay_inj h]
      have hnext : (startTrigger d i).withoutDisplay = (startTrigger d' i).withoutDisplay := by
        rw [withoutDisplay_startTrigger, withoutDisplay_startTrigger, h, hstate]
      have hbank' : (startTrigger d i).gBankSelected = (startTrigger d' i).gBankSelected := by
        rw [withoutDisplay_inj hnext]
      rw [List.foldl_cons, List.foldl_cons]
      exact ih hnext hbank' (by rw [bankNotes, bankNotes, hbank'])

theorem OnlyMinutes.withoutDisplay {d d' : Device} (h : OnlyMinutes d d') :
    d'.withoutDisplay = d.withoutDisplay := by
  obtain ⟨_, rfl⟩ := h
  rfl

theorem withoutDisplay_runBalls (d : Device) (s : BallDemo) :
    (runBalls d s).1.1.withoutDisplay = d.withoutDisplay := by
  have hscan : ∀ d : Device, (scanGrid d s).1.device.withoutDisplay = d.withoutDisplay := by
    intro d
    refine Machine.final_invariant (fun s : Scan => s.device.withoutDisplay = d.withoutDisplay)
      (fun s cell hs _ => ?_) rfl Machine.along_true
    rcases scanCell_device s cell with hsame | ⟨id, -, hstart⟩
    · rw [hsame]
      exact hs
    · rw [hstart, withoutDisplay_startGeometricAnimation]
      exact hs
  have hupdate : (updateBalls (restartBallCounter d) s).1.1.withoutDisplay = d.withoutDisplay := by
    have hrestart := hscan (restartBallCounter d)
    unfold updateBalls
    generalize scanGrid (restartBallCounter d) s = scan at hrestart
    dsimp only
    split_ifs
    · exact hrestart
    · exact hrestart
  unfold runBalls
  generalize updateBalls (restartBallCounter d) s = updated at hupdate
  dsimp only
  split_ifs
  · exact hupdate
  · rfl

theorem withoutDisplay_sleepAnimation (gKeyDown : BitVec 64) (s : Screen BallDemo) :
    (sleepAnimation ballDemoSetup ballDemoRun gKeyDown s).engine.device.withoutDisplay =
      s.engine.device.withoutDisplay := by
  by_cases hdemo : s.engine.ShowsBallDemo
  · rw [sleepAnimation_of_shown hdemo, (wakeUp_onlyMinutes gKeyDown _).withoutDisplay,
      ballDemoRun_device, withoutDisplay_runBalls, (startSleep_onlyMinutes s).withoutDisplay]
  · exact (sleepAnimation_of_hidden hdemo gKeyDown).1.withoutDisplay

/-- A display run does nothing but draw, and forget the notes whose animation
it has started. -/
theorem withoutDisplay_defaultDisplayRun (pulseLevel : UInt8 → UInt8) (nullColor : Rgb)
    (gKeyState gKeyDown : BitVec 64) (s : Screen BallDemo) :
    (defaultDisplayRun ballDemoSetup ballDemoRun pulseLevel nullColor gKeyState gKeyDown
        s).engine.device.withoutDisplay =
      (startTriggers s.engine.device).withoutDisplay := by
  have hgeometric : ∀ d : Device,
      (geometricAnimationState nullColor d).1.withoutDisplay = d.withoutDisplay := fun _ => rfl
  rw [defaultDisplayRun]
  dsimp only
  rw [hgeometric, withoutDisplay_sleepAnimation, (countSleepTime_onlyMinutes _).withoutDisplay,
    midiAnimationState_eq]

/-! ## The LED timer -/

namespace Firmware

def midiView (f : Firmware) : Device × Receiver × Scanner × ComboRecognizer × UInt16 × Pc :=
  (f.device.withoutDisplay, f.receiver, f.scanner, f.combo, f.lastLedRefreshTimeMs, f.pc)

theorem midiView_iff {f f' : Firmware} : f.midiView = f'.midiView ↔
    f.device.withoutDisplay = f'.device.withoutDisplay ∧ f.receiver = f'.receiver ∧
      f.scanner = f'.scanner ∧ f.combo = f'.combo ∧
      f.lastLedRefreshTimeMs = f'.lastLedRefreshTimeMs ∧ f.pc = f'.pc := by
  simp only [midiView, Prod.mk.injEq]

theorem midiView_goto_setDevice (f : Firmware) (d : Device) (pc : Pc) :
    ((f.setDevice d).goto pc).midiView =
      (d.withoutDisplay, f.receiver, f.scanner, f.combo, f.lastLedRefreshTimeMs, pc) := rfl

theorem midiView_goto_screen (f : Firmware) (screen : Screen BallDemo) (pc : Pc) :
    ({ f with screen := screen }.goto pc).midiView =
      (screen.engine.device.withoutDisplay, f.receiver, f.scanner, f.combo,
        f.lastLedRefreshTimeMs, pc) := rfl

section

variable (pulseLevel : UInt8 → UInt8) (nullColor : Rgb)

def midiStep (f : Firmware) (ev : FirmwareEvent) : Firmware × List EventPacket :=
  ((f.step pulseLevel nullColor ev).1, packetsOf (f.step pulseLevel nullColor ev).2)

theorem midiStep_run (f : Firmware) (evs : List FirmwareEvent) :
    Machine.final (midiStep pulseLevel nullColor) f evs =
        Machine.final (step pulseLevel nullColor) f evs ∧
      Machine.outputs (midiStep pulseLevel nullColor) f evs =
        packetsOf (Machine.outputs (step pulseLevel nullColor) f evs) := by
  induction evs generalizing f with
  | nil => exact ⟨rfl, rfl⟩
  | cons ev evs ih =>
      obtain ⟨hfinal, hout⟩ := ih (f.step pulseLevel nullColor ev).1
      refine ⟨hfinal, ?_⟩
      rw [Machine.outputs_cons, Machine.outputs_cons, packetsOf, List.filterMap_append]
      exact congrArg _ hout

theorem receiveTurn_blind (packet : Option EventPacket) (usbRxPackets usbRxFailCount : Nat)
    {f f' : Firmware} (h : f.midiView = f'.midiView) :
    (f.receiveTurn packet usbRxPackets usbRxFailCount).1.midiView =
        (f'.receiveTurn packet usbRxPackets usbRxFailCount).1.midiView ∧
      (f.receiveTurn packet usbRxPackets usbRxFailCount).2 =
        (f'.receiveTurn packet usbRxPackets usbRxFailCount).2 := by
  obtain ⟨hdevice, hreceiver, hscanner, hcombo, hlast, hpc⟩ := midiView_iff.mp h
  have hread : f.startRead.midiView = f'.startRead.midiView := by
    refine midiView_iff.mpr ⟨hdevice, hreceiver, ?_, hcombo, hlast, rfl⟩
    simp only [startRead, setKeys, goto, keys, hscanner]
  unfold receiveTurn
  split
  · exact ⟨hread, rfl⟩
  · cases packet with
    | none =>
        dsimp only
        split
        · exact ⟨hread, rfl⟩
        · exact ⟨midiView_iff.mpr ⟨hdevice, hreceiver, hscanner, hcombo, hlast, rfl⟩, rfl⟩
    | some p =>
        have hnow : f.now = f'.now := congrArg Scanner.systemTimeMs hscanner
        have hblind := receivePacket_blind ⟨f'.now, p⟩ (show f.link.receiver = f'.link.receiver
          from hreceiver) hdevice
        obtain ⟨hnext, hreceiver', hout⟩ := hblind
        dsimp only
        rw [hnow, hout]
        exact ⟨midiView_iff.mpr ⟨hnext, hreceiver', hscanner, hcombo, hlast, rfl⟩, rfl⟩

/-- No point of the main loop looks at the display for what it sends, or for
what it does to the rest of the state. -/
theorem mainStep_blind (configured : Bool) (packet : Option EventPacket) :
    Machine.Blind midiView fun f => midiStep pulseLevel nullColor f (.main configured packet) := by
  intro f f' h
  obtain ⟨hdevice, hreceiver, hscanner, hcombo, hlast, hpc⟩ := midiView_iff.mp h
  have hboot : f.device.inBootloader = f'.device.inBootloader := by
    rw [withoutDisplay_inj hdevice]
  have hnow : f.now = f'.now := congrArg Scanner.systemTimeMs hscanner
  have hkeys : f.keys = f'.keys := congrArg Scanner.keys hscanner
  simp only [midiStep, step, mainStep, hboot, hpc]
  split
  · exact ⟨h, rfl⟩
  cases hpc' : f'.pc with
  | start =>
      dsimp only
      split
      · exact ⟨midiView_iff.mpr ⟨hdevice, hreceiver, hscanner, hcombo, hlast, rfl⟩, rfl⟩
      · exact ⟨h, rfl⟩
  | receive usbRxPackets usbRxFailCount =>
      obtain ⟨hview, hout⟩ := receiveTurn_blind packet usbRxPackets usbRxFailCount h
      exact ⟨hview, congrArg packetsOf hout⟩
  | read n =>
      refine ⟨midiView_iff.mpr ⟨hdevice, hreceiver, ?_, hcombo, hlast, rfl⟩, rfl⟩
      simp only [readByte, setKeys, goto, hkeys, hscanner]
  | calculate =>
      refine ⟨midiView_iff.mpr ?_, rfl⟩
      simp only [calcKeys, hkeys]
      split_ifs <;>
        exact ⟨hdevice, hreceiver, congrArg (fun s => { s with keys := keyCalc f'.keys }) hscanner,
          hcombo, hlast, rfl⟩
  | serve i =>
      have hview : keyView (f.device, f.keys) = keyView (f'.device, f'.keys) :=
        Prod.ext hdevice hkeys
      obtain ⟨hserved, hout⟩ := serveKey_blind (fun _ => f'.now) i _ _ hview
      obtain ⟨hdevice', hkeys'⟩ := Prod.ext_iff.mp hserved
      simp only [serveTurn, hnow]
      refine ⟨midiView_iff.mpr ⟨hdevice', hreceiver, ?_, hcombo, hlast, rfl⟩, ?_⟩
      · exact congrArg₂ (fun s keys => { s with keys := keys }) hscanner hkeys'
      · exact congrArg (fun packets => packetsOf (packets.map .packet)) hout
  | combos =>
      simp only [combosTurn, serveCombos_view hdevice, hkeys, hcombo]
      exact ⟨midiView_iff.mpr ⟨hdevice, hreceiver, hscanner, rfl, hlast, rfl⟩, trivial⟩
  | check =>
      simp only [hnow, hlast]
      exact ⟨midiView_iff.mpr ⟨hdevice, hreceiver, hscanner, hcombo, hlast, rfl⟩, trivial⟩
  | store => exact ⟨midiView_iff.mpr ⟨hdevice, hreceiver, hscanner, hcombo, hnow, rfl⟩, rfl⟩
  | bank =>
      obtain ⟨hserved, hout⟩ := serviceBankSelectButtons_blind f'.now _ _ hdevice
      simp only [bankTurn, hnow]
      exact ⟨midiView_iff.mpr ⟨hserved, hreceiver, hscanner, hcombo, hlast, rfl⟩,
        congrArg (fun packets => packetsOf (packets.map .packet)) hout⟩
  | delay =>
      refine ⟨?_, rfl⟩
      have hdelay := congrArg (updateNoteOffFeedbackDelay · f'.now) hdevice
      rw [← withoutDisplay_updateNoteOffFeedbackDelay,
        ← withoutDisplay_updateNoteOffFeedbackDelay] at hdelay
      rw [midiView_goto_setDevice, midiView_goto_setDevice, hnow, hdelay, hreceiver, hscanner,
        hcombo, hlast]
  | display =>
      have htriggers : (startTriggers f.screen.engine.device).withoutDisplay =
          (startTriggers f'.screen.engine.device).withoutDisplay := startTriggers_view hdevice
      have hleds : ∀ pulses, packetsOf [.leds pulses] = [] := fun _ => rfl
      refine ⟨?_, (hleds _).trans (hleds _).symm⟩
      rw [displayTurn, displayTurn, midiView_goto_screen, midiView_goto_screen,
        withoutDisplay_defaultDisplayRun, withoutDisplay_defaultDisplayRun, htriggers, hreceiver,
        hscanner, hcombo, hlast]

theorem timer0_blind (pins : BitVec 64) :
    Machine.Blind midiView fun f => midiStep pulseLevel nullColor f (.timer0 pins) := by
  intro f f' h
  obtain ⟨hdevice, hreceiver, hscanner, hcombo, hlast, hpc⟩ := midiView_iff.mp h
  exact ⟨midiView_iff.mpr ⟨hdevice, hreceiver, congrArg (timer0Ovf · pins) hscanner, hcombo,
    hlast, hpc⟩, rfl⟩

/-- **The LED timer is no business of the MIDI side.** Wherever its
interrupts come, leaving them out changes no packet and nothing the packets
depend on. -/
theorem ledTimer_hidden (f : Firmware) (evs : List FirmwareEvent) :
    packetsOf (Machine.outputs (step pulseLevel nullColor) f evs) =
        packetsOf (Machine.outputs (step pulseLevel nullColor) f
          (evs.filter fun ev => !decide (ev = .timer1))) ∧
      (Machine.final (step pulseLevel nullColor) f evs).midiView =
        (Machine.final (step pulseLevel nullColor) f
          (evs.filter fun ev => !decide (ev = .timer1))).midiView := by
  have hhidden : ∀ ev : FirmwareEvent, decide (ev = .timer1) = true →
      Machine.Hidden midiView fun f => midiStep pulseLevel nullColor f ev := by
    intro ev hev f
    obtain rfl := of_decide_eq_true hev
    exact ⟨rfl, rfl⟩
  have hblind : ∀ ev : FirmwareEvent, decide (ev = .timer1) = false →
      Machine.Blind midiView fun f => midiStep pulseLevel nullColor f ev := by
    intro ev hev
    cases ev with
    | timer0 pins => exact timer0_blind pulseLevel nullColor pins
    | timer1 => exact absurd rfl (of_decide_eq_false hev)
    | main configured packet => exact mainStep_blind pulseLevel nullColor configured packet
  obtain ⟨hview, hout⟩ := Machine.run_filter hhidden hblind evs (rfl : f.midiView = f.midiView)
  simp only [(midiStep_run ..).1, (midiStep_run ..).2] at hview hout
  exact ⟨hout, hview⟩

end

end Firmware

end MidiFighter
