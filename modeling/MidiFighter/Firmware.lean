import MidiFighter.Debounce
import MidiFighter.Render
import MidiFighter.Task

/-!
# The firmware with its interrupts

The whole program as a machine: the main loop goes from one point of
`Midifighter_Task` to the next, and between any two points the key timer
(`TIMER0_OVF_vect`) and the LED timer (`TIMER1_OVF_vect`) may interrupt it.
A point is a packet of the receive loop, a byte of the debounce buffer, a
key, or one of the readings of `system_time_ms` of the display refresh. What
the machine puts out are the packets it hands to the endpoint, the flush of
the endpoint and the pulses on the LED strands.
-/

namespace MidiFighter

/-! ## State and events -/

inductive Pc where
  /-- Before `Midifighter_Task`. -/
  | start
  /-- In the receive loop, with its two counters. -/
  | receive (usbRxPackets usbRxFailCount : Nat)
  /-- In `key_read`, with `n` bytes of the debounce buffer read. -/
  | read (n : Nat)
  /-- Before `key_calc`. -/
  | calculate
  /-- In the loop over the keys, before key `i`. -/
  | serve (i : Nat)
  | combos
  /-- Before the test for a display refresh. -/
  | check
  | store
  | bank
  | delay
  | display
deriving Repr, DecidableEq

structure Firmware where
  screen : Screen BallDemo
  receiver : Receiver
  scanner : Scanner
  combo : ComboRecognizer
  lastLedRefreshTimeMs : UInt16
  pc : Pc

inductive FirmwareEvent where
  | timer0 (pins : BitVec 64)
  | timer1
  /-- The main loop goes on. It may look whether USB is configured and whether
  there is a packet. -/
  | main (configured : Bool) (packet : Option EventPacket)
deriving Repr, DecidableEq

inductive Emit where
  | packet (p : EventPacket)
  | flush
  | leds (pulses : List Pulse)
deriving DecidableEq

def Emit.packet? : Emit → Option EventPacket
  | .packet p => some p
  | .flush | .leds _ => none

def packetsOf (emits : List Emit) : List EventPacket := emits.filterMap Emit.packet?

def usbRxFailLimit : Nat := 120

namespace Firmware

def device (f : Firmware) : Device := f.screen.engine.device

def keys (f : Firmware) : Keys := f.scanner.keys

def now (f : Firmware) : UInt16 := f.scanner.systemTimeMs

def link (f : Firmware) : Link := ⟨f.device, f.receiver⟩

def setDevice (f : Firmware) (d : Device) : Firmware :=
  { f with screen := { f.screen with engine := { f.screen.engine with device := d } } }

def setKeys (f : Firmware) (keys : Keys) : Firmware :=
  { f with scanner := { f.scanner with keys := keys } }

def goto (f : Firmware) (pc : Pc) : Firmware := { f with pc := pc }

/-! ## The points of the main loop -/

def startRead (f : Firmware) : Firmware :=
  (f.setKeys { f.keys with gKeyState := BitVec.allOnes 64 }).goto (.read 0)

def receiveTurn (f : Firmware) (packet : Option EventPacket) (usbRxPackets usbRxFailCount : Nat) :
    Firmware × List Emit :=
  if usbRxPackets ≥ usbRxPacketLimit then (f.startRead, [])
  else
    match packet with
    | none =>
        if usbRxFailCount + 1 ≥ usbRxFailLimit then (f.startRead, [])
        else (f.goto (.receive usbRxPackets (usbRxFailCount + 1)), [])
    | some p =>
        let (link, replies) := receivePacket f.link ⟨f.now, p⟩
        (({ f with receiver := link.receiver }.setDevice link.device).goto
          (.receive (usbRxPackets + 1) 0), replies.map .packet)

/-- One byte of the debounce buffer: the processor ands a slot of 64 bits
byte by byte, and the interrupts are not masked. -/
def readByte (f : Firmware) (n : Nat) : Firmware :=
  let slot := f.scanner.gKeyDebounceBuffer (n / 8)
  let gKeyState := f.keys.gKeyState &&& (slot ||| ~~~(0xFF#64 <<< (8 * (n % 8))))
  (f.setKeys { f.keys with gKeyState := gKeyState }).goto
    (if n + 1 < 8 * debounceBufferSize then .read (n + 1) else .calculate)

/-- `key_calc`; a pressed key ends the sleep animation. -/
def calcKeys (f : Firmware) : Firmware :=
  let keys := keyCalc f.keys
  let f := (f.setKeys keys).goto (.serve 0)
  if keys.gKeyDown ≠ 0 then
    f.setDevice { f.device with display := { f.device.display with sleepMinuteCounter := 0 } }
  else f

def serveTurn (f : Firmware) (i : Nat) : Firmware × List Emit :=
  let served := serveKey (fun _ => f.now) (f.device, f.keys) i
  (((f.setDevice served.1.1).setKeys served.1.2).goto
    (if i + 1 < 64 then .serve (i + 1) else .combos), served.2.map .packet)

def combosTurn (f : Firmware) : Firmware × List Emit :=
  let combos := serveCombos f.device f.keys f.combo
  ({ f with combo := combos.1 }.goto .check, combos.2.map .packet ++ [.flush])

/-- `service_bank_select_buttons`, after the flush. -/
def bankTurn (f : Firmware) : Firmware × List Emit :=
  let served := serviceBankSelectButtons f.device f.now
  ((f.setDevice served.1).goto .delay, served.2.map .packet)

section

variable (pulseLevel : UInt8 → UInt8) (nullColor : Rgb)

def displayTurn (f : Firmware) : Firmware × List Emit :=
  let screen := defaultDisplayRun ballDemoSetup ballDemoRun pulseLevel nullColor f.keys.gKeyState
    f.keys.gKeyDown f.screen
  ({ f with screen := screen }.goto .start, [.leds (ledUpdatePixels screen.gDisplayBuffer)])

/-- The main loop goes to its next point. `Jump_To_Bootloader` does not
return. -/
def mainStep (f : Firmware) (configured : Bool) (packet : Option EventPacket) :
    Firmware × List Emit :=
  if f.device.inBootloader then (f, [])
  else
    match f.pc with
    | .start => (if configured then f.goto (.receive 0 0) else f, [])
    | .receive usbRxPackets usbRxFailCount => f.receiveTurn packet usbRxPackets usbRxFailCount
    | .read n => (f.readByte n, [])
    | .calculate => (f.calcKeys, [])
    | .serve i => f.serveTurn i
    | .combos => f.combosTurn
    | .check =>
        (f.goto (if f.now - f.lastLedRefreshTimeMs ≥ ledRefreshLimit then .store else .start), [])
    | .store => ({ f with lastLedRefreshTimeMs := f.now }.goto .bank, [])
    | .bank => f.bankTurn
    | .delay => ((f.setDevice (updateNoteOffFeedbackDelay f.device f.now)).goto .display, [])
    | .display => f.displayTurn pulseLevel nullColor

def step (f : Firmware) : FirmwareEvent → Firmware × List Emit
  | .timer0 pins => ({ f with scanner := timer0Ovf f.scanner pins }, [])
  | .timer1 => ({ f with screen := { f.screen with engine := timerOverflow f.screen.engine } }, [])
  | .main configured packet => f.mainStep pulseLevel nullColor configured packet

end

/-- `main` up to its loop. The keys are sampled while it waits. -/
def boot (store : Store) (pins : List (BitVec 64)) (random : Nat → UInt16) : Firmware :=
  let scanner := pollKeys (Machine.final scanStep .boot (pins.map .timer))
  let d := Device.start (eepromSetup store)
  { screen :=
      { engine :=
          { device :=
              { d with
                inBootloader := scanner.keys.gKeyState.getLsbD 0
                display := { d.display with sleepMinuteCounter := d.setting .sleepTime } }
            tick := 0
            halfMsCounter := 0
            oneSecondCounter := 0 }
        ballDemo := .boot random
        gDisplayBuffer := fun _ => 0 }
    receiver := .boot
    scanner := scanner
    combo := .boot
    lastLedRefreshTimeMs := 0
    pc := .start }

/-! ## What a step does to the device -/

def taken (f : Firmware) : FirmwareEvent → List EventPacket
  | .timer0 _ | .timer1 => []
  | .main _ packet =>
      match f.pc with
      | .receive usbRxPackets _ =>
          if f.device.inBootloader = true ∨ usbRxPackets ≥ usbRxPacketLimit then []
          else packet.toList
      | _ => []

section

variable (pulseLevel : UInt8 → UInt8) (nullColor : Rgb)

/-- The points that follow one another whatever the keys and the packets. -/
def Follows (pc pc' : Pc) : Prop :=
  (pc, pc') ∈ [(.combos, .check), (.check, .store), (.check, .start), (.store, .bank),
    (.bank, .delay), (.delay, .display), (.display, Pc.start)]

instance (pc pc' : Pc) : Decidable (Follows pc pc') := inferInstanceAs (Decidable (_ ∈ _))

inductive PcStep (f : Firmware) (configured : Bool) : Pc → Keys → Prop where
  | halt (hboot : f.device.inBootloader = true) : PcStep f configured f.pc f.keys
  | wait (hpc : f.pc = .start) (hnot : configured = false) : PcStep f configured .start f.keys
  | begin (hpc : f.pc = .start) : PcStep f configured (.receive 0 0) f.keys
  | fail {usbRxPackets usbRxFailCount : Nat} (hpc : f.pc = .receive usbRxPackets usbRxFailCount)
      (hpackets : usbRxPackets < usbRxPacketLimit) (hfails : usbRxFailCount + 1 < usbRxFailLimit) :
      PcStep f configured (.receive usbRxPackets (usbRxFailCount + 1)) f.keys
  | packet {usbRxPackets usbRxFailCount : Nat} (hpc : f.pc = .receive usbRxPackets usbRxFailCount)
      (hpackets : usbRxPackets < usbRxPacketLimit) :
      PcStep f configured (.receive (usbRxPackets + 1) 0) f.keys
  | startRead {usbRxPackets usbRxFailCount : Nat}
      (hpc : f.pc = .receive usbRxPackets usbRxFailCount) :
      PcStep f configured (.read 0) { f.keys with gKeyState := BitVec.allOnes 64 }
  | read {n : Nat} (hpc : f.pc = .read n) :
      PcStep f configured (if n + 1 < 8 * debounceBufferSize then .read (n + 1) else .calculate)
        (f.readByte n).keys
  | calculate (hpc : f.pc = .calculate) : PcStep f configured (.serve 0) (keyCalc f.keys)
  | serve {i : Nat} (hpc : f.pc = .serve i) :
      PcStep f configured (if i + 1 < 64 then .serve (i + 1) else .combos)
        (serveKey (fun _ => f.now) (f.device, f.keys) i).1.2
  | point {pc : Pc} (hpc : Follows f.pc pc) : PcStep f configured pc f.keys

theorem mainStep_pcStep (f : Firmware) (configured : Bool) (packet : Option EventPacket) :
    PcStep f configured (f.mainStep pulseLevel nullColor configured packet).1.pc
      (f.mainStep pulseLevel nullColor configured packet).1.keys := by
  unfold mainStep
  split
  · rename_i hboot
    exact .halt hboot
  cases hpc : f.pc with
  | start =>
      cases configured with
      | false =>
          dsimp only
          rw [if_neg Bool.false_ne_true, hpc]
          exact .wait hpc rfl
      | true => exact .begin hpc
  | receive usbRxPackets usbRxFailCount =>
      dsimp only
      unfold receiveTurn
      split
      · exact .startRead hpc
      · rename_i hlimit
        have hpackets : usbRxPackets < usbRxPacketLimit := Nat.not_le.mp hlimit
        cases packet with
        | none =>
            dsimp only
            split
            · exact .startRead hpc
            · rename_i hfails
              exact .fail hpc hpackets (Nat.not_le.mp hfails)
        | some p => exact .packet hpc hpackets
  | read n => exact .read hpc
  | calculate =>
      dsimp only
      unfold calcKeys
      dsimp only
      split
      · exact .calculate hpc
      · exact .calculate hpc
  | serve i => exact .serve hpc
  | combos => exact .point (show Follows f.pc .check by rw [hpc]; decide)
  | check =>
      dsimp only [goto]
      split
      · exact .point (show Follows f.pc .store by rw [hpc]; decide)
      · exact .point (show Follows f.pc .start by rw [hpc]; decide)
  | store => exact .point (show Follows f.pc .bank by rw [hpc]; decide)
  | bank => exact .point (show Follows f.pc .delay by rw [hpc]; decide)
  | delay => exact .point (show Follows f.pc .display by rw [hpc]; decide)
  | display =>
      dsimp only
      unfold displayTurn
      generalize defaultDisplayRun ballDemoSetup ballDemoRun pulseLevel nullColor _ _ _ = screen
      exact .point (show Follows f.pc .start by rw [hpc]; decide)

end

end Firmware

end MidiFighter
