import MidiFighter.Cells
import MidiFighter.Machine
import MidiFighter.Packets

/-!
# The sysex receiver

`sysex.c`: the four packet handlers that reassemble a system-exclusive
message in `sysex_buffer`, and `sysex_handle`, which acts on a complete
one. The receiver is modelled by its four static variables; what a packet
makes it do is returned as a list of `SysexEffect`s, so that the safety of
the stores and the identity of the dispatched commands are facts about
values.

- `sysex_ptr` is an optional offset into `sysex_buffer`; `none` is its
  boot value `NULL`. A store through `none` is undefined in C: it is
  recorded as such and changes no cell of the buffer. On the target `NULL`
  is address 0, below the buffer, so the room tests `sysex_ptr + k <
  buffer_end` pass there.
- The command handlers of `config.c` do not touch the receiver's
  variables, so a dispatch is an effect for the layer above to run. The
  table of installed handlers is a parameter.
-/

namespace MidiFighter

inductive SysexState where
  | begin
  | checkMID
  | invalid
  | nonRealtime
  | djtt
deriving Repr, DecidableEq

structure Receiver where
  sysexBuffer : Nat → UInt8
  sysexState : SysexState
  sysexIsReading : Bool
  sysexPtr : Option Nat

namespace Receiver

def boot : Receiver where
  sysexBuffer := fun _ => 0
  sysexState := .begin
  sysexIsReading := false
  sysexPtr := none

end Receiver

/-- What the receiver does besides changing its own variables. Stores to
`sysex_buffer` are listed as well, for their addresses. -/
inductive SysexEffect (Fn : Type) where
  /-- `*sysex_ptr++ = byte`, with the pointer it went through. -/
  | store (ptr : Option Nat) (byte : UInt8)
  /-- A call of `sysex_handle`. Its argument is the pointer difference
  `sysex_ptr - sysex_buffer` as a byte, which `NULL` does not have. -/
  | handle (length : Option UInt8)
  /-- A call `sysExCommandMap[command - 1](length, buffer)`. The handlers
  never read past `length`, so the pointer is given as those bytes. -/
  | command (fn : Fn) (command : UInt8) (length : UInt8) (buffer : List UInt8)
  /-- Packets handed to the endpoint. -/
  | send (packets : List EventPacket)
deriving Repr, DecidableEq

/-- `MIDI_MAX_SYSEX`, the size of `sysex_buffer`. -/
def midiMaxSysex : Nat := 64

/-- `g_midi_sysex_channel`, which nothing assigns. -/
def gMidiSysexChannel : UInt8 := 5

/-- `MAX_COMMAND`, the size of `sysExCommandMap`. -/
def maxCommand : UInt8 := 8

/-- The identity reply of `sysex_handle`. -/
def identifyPayload : List UInt8 :=
  [0xF0, 0x7E, 0x7F, 0x06, 0x02,
   0x00, (manufacturerId >>> 8).toUInt8, (manufacturerId &&& 0x7F).toUInt8,
   0x06, 0x00,
   0x01, 0x00,
   ((0x2017 : UInt16) >>> 8).toUInt8,
   ((0x2017 : UInt16) &&& 0x7F).toUInt8,
   0x07,
   0x24,
   0xF7]

section

variable {Fn : Type}

/-! ## Pointer operations -/

namespace Receiver

def hasRoom (r : Receiver) (k : Nat) : Bool :=
  match r.sysexPtr with
  | some p => p + k < midiMaxSysex
  | none => true

def push (r : Receiver) (bs : List UInt8) : Receiver :=
  match r.sysexPtr with
  | some p =>
      { r with
        sysexBuffer := Cells.fill r.sysexBuffer p bs
        sysexPtr := some (p + bs.length) }
  | none => r

def length (r : Receiver) : Option UInt8 := r.sysexPtr.map UInt8.ofNat

end Receiver

def storesAt (ptr : Option Nat) (bs : List UInt8) : List (SysexEffect Fn) :=
  match ptr with
  | some p => bs.mapIdx fun i b => .store (some (p + i)) b
  | none => bs.map (.store none)

/-! ## Acting on a complete message -/

variable (sysExCommandMap : Nat → Option Fn)

def sysexHandle (r : Receiver) (length : UInt8) : List (SysexEffect Fn) :=
  if r.sysexState = .djtt ∧ 0 < length then
    let command := r.sysexBuffer 0
    if 0 < command ∧ command ≤ maxCommand then
      match sysExCommandMap (command - 1).toNat with
      | some fn =>
          [.command fn command (length - 1) (Cells.slice r.sysexBuffer 1 (length - 1).toNat)]
      | none => []
    else []
  else if r.sysexState = .nonRealtime then
    if 2 ≤ length ∧ r.sysexBuffer 0 = 0x06 ∧ r.sysexBuffer 1 = 0x01 then
      [.send (midiStreamSysex (UInt8.ofNat identifyPayload.length) identifyPayload)]
    else []
  else []

/-- The tail every end packet shares: store its bytes, then
`sysex_handle((uint8_t)(sysex_ptr - sysex_buffer))`. Without a length there
is nothing to act on: `sysex_ptr` is `NULL` only in `State_Begin`, where
`sysex_handle` does nothing. -/
def Receiver.process (r : Receiver) (bs : List UInt8) :
    Receiver × List (SysexEffect Fn) :=
  let r' := r.push bs
  (r', storesAt r.sysexPtr bs ++
    match r'.length with
    | some n => .handle (some n) :: sysexHandle sysExCommandMap r' n
    | none => [.handle none])

/-! ## The packet handlers -/

/-- `sysex_handle_3sc`: a 3-byte start or continue packet. -/
def sysexHandle3sc (r : Receiver) (packet : EventPacket) :
    Receiver × List (SysexEffect Fn) :=
  if r.sysexIsReading = false then
    let r := { r with sysexIsReading := true, sysexPtr := some 0 }
    if packet.data1 = 0xF0 ∧ packet.data2 = 0x7E ∧
        (packet.data3 = gMidiSysexChannel ∨ packet.data3 = 0x7F) then
      ({ r with sysexState := .nonRealtime }, [])
    else if packet.data1 = 0xF0 ∧ packet.data2 = midiMfrId0 ∧ packet.data3 = midiMfrId1 then
      ({ r with sysexState := .checkMID }, [])
    else ({ r with sysexState := .invalid }, [])
  else if r.sysexState = .checkMID then
    if packet.data1 = midiMfrId2 ∧ r.hasRoom 2 then
      ({ r with sysexState := .djtt }.push [packet.data2, packet.data3],
        storesAt r.sysexPtr [packet.data2, packet.data3])
    else ({ r with sysexState := .invalid }, [])
  else if r.sysexState = .invalid then (r, [])
  else if r.hasRoom 3 then
    (r.push [packet.data1, packet.data2, packet.data3],
      storesAt r.sysexPtr [packet.data1, packet.data2, packet.data3])
  else ({ r with sysexState := .invalid }, [])

/-- The body of `sysex_handle_3e` before the final reset of `sysex_state`.
Unlike the other two end handlers it does not ask whether a message is
being read. -/
def sysexHandle3eBody (r : Receiver) (packet : EventPacket) :
    Receiver × List (SysexEffect Fn) :=
  if r.sysexState = .checkMID then
    if packet.data1 = midiMfrId2 ∧ r.hasRoom 2 then
      { r with sysexState := .djtt }.process sysExCommandMap [packet.data2, packet.data3]
    else (r, [])
  else if r.sysexState ≠ .invalid then
    if r.hasRoom 3 then
      r.process sysExCommandMap [packet.data1, packet.data2, packet.data3]
    else (r, [])
  else (r, [])

/-- `sysex_handle_3e`: a 3-byte end packet. -/
def sysexHandle3e (r : Receiver) (packet : EventPacket) :
    Receiver × List (SysexEffect Fn) :=
  let res := sysexHandle3eBody sysExCommandMap { r with sysexIsReading := false } packet
  ({ res.1 with sysexState := .begin }, res.2)

/-- The common shape of `sysex_handle_2e` and `sysex_handle_1e`: an end
packet carrying `bs`, ignored unless a message is being read. -/
def sysexHandleEnd (r : Receiver) (bs : List UInt8) :
    Receiver × List (SysexEffect Fn) :=
  if r.sysexIsReading then
    let r := { r with sysexIsReading := false }
    let res :=
      if r.sysexState ≠ .invalid then
        if r.hasRoom bs.length then r.process sysExCommandMap bs else (r, [])
      else (r, [])
    ({ res.1 with sysexState := .begin }, res.2)
  else (r, [])

/-- `sysex_handle_2e`: a 2-byte end packet. -/
def sysexHandle2e (r : Receiver) (packet : EventPacket) :
    Receiver × List (SysexEffect Fn) :=
  sysexHandleEnd sysExCommandMap r [packet.data1, packet.data2]

/-- `sysex_handle_1e`: a 1-byte end packet, or a system-common message. -/
def sysexHandle1e (r : Receiver) (packet : EventPacket) :
    Receiver × List (SysexEffect Fn) :=
  sysexHandleEnd sysExCommandMap r [packet.data1]

/-- The sysex arms of the packet switch; other packets leave the receiver
alone. -/
def sysexStep (r : Receiver) (packet : EventPacket) :
    Receiver × List (SysexEffect Fn) :=
  if packet.cin = 0x4 then sysexHandle3sc r packet
  else if packet.cin = 0x5 then sysexHandle1e sysExCommandMap r packet
  else if packet.cin = 0x6 then sysexHandle2e sysExCommandMap r packet
  else if packet.cin = 0x7 then sysexHandle3e sysExCommandMap r packet
  else (r, [])

end

/-! ## The installed handlers -/

def sysexInstall {Fn : Type} (sysExCommandMap : Nat → Option Fn) (cmd : UInt8) (fn : Fn) :
    Nat → Option Fn :=
  if 0 < cmd ∧ cmd ≤ maxCommand then
    Function.update sysExCommandMap (cmd - 1).toNat (some fn)
  else sysExCommandMap

inductive SysExFn where
  | sysExCmdPushConfig
  | sysExCmdPullConfig
  | sysExCmdSystem
  | sysExCmdBulkXfer
deriving Repr, DecidableEq

def sysexCommandPushConf : UInt8 := 0x1
def sysexCommandPullConf : UInt8 := 0x2
def sysexCommandSystem : UInt8 := 0x3
def sysexCommandBulkXfer : UInt8 := 0x4

/-- `sysExCommandMap` after `config_setup`. -/
def configSetup : Nat → Option SysExFn :=
  let map := sysexInstall (fun _ => none) sysexCommandPushConf .sysExCmdPushConfig
  let map := sysexInstall map sysexCommandPullConf .sysExCmdPullConfig
  let map := sysexInstall map sysexCommandSystem .sysExCmdSystem
  sysexInstall map sysexCommandBulkXfer .sysExCmdBulkXfer

end MidiFighter
