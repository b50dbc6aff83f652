import MidiFighter.Batch
import MidiFighter.Packets

/-!
# The bulk endpoints

The two MIDI endpoints below the packets: a bank of 64 bytes each, written
and read byte by byte by the LUFA stream functions, and given to the host or
back to the host as a whole.

For the device-to-host endpoint the driver is shown to be a link of batches
of sixteen packets (`Batch`): a packet is never split over two transactions,
although `Endpoint_Write_Stream_LE` is ready to do that. For the other
direction, a host that sends whole packets is read packet by packet; a
transaction without bytes is never cleared, and hides all that follow.
-/

namespace MidiFighter

def midiStreamEpsize : Nat := 64

/-- The bytes of `MIDI_EventPacket_t`, as they lie in memory. -/
def EventPacket.bytes (p : EventPacket) : List UInt8 := [p.event, p.data1, p.data2, p.data3]

def EventPacket.ofBytes (bytes : List UInt8) : EventPacket :=
  ⟨bytes.getD 0 0, bytes.getD 1 0, bytes.getD 2 0, bytes.getD 3 0⟩

/-! ## Device to host -/

/-- The IN endpoint and what the host has got from it. A cleared bank is the
host's to take; `waits` counts the waits for the host. -/
structure DataIn where
  bank : List UInt8
  cleared : Bool
  transactions : List (List UInt8)
  waits : Nat

namespace DataIn

def start : DataIn := ⟨[], false, [], 0⟩

def isINReady (e : DataIn) : Bool := !e.cleared

def isReadWriteAllowed (e : DataIn) : Bool :=
  !e.cleared && decide (e.bank.length < midiStreamEpsize)

def clearIN (e : DataIn) : DataIn := { e with cleared := true }

def write8 (e : DataIn) (b : UInt8) : DataIn := { e with bank := e.bank ++ [b] }

def inToken (e : DataIn) : DataIn :=
  if e.cleared then
    { e with bank := [], cleared := false, transactions := e.transactions ++ [e.bank] }
  else e

def configure (e : DataIn) : DataIn := { e with bank := [], cleared := false }

section

-- Whether the host comes in time, for each wait.
variable (takes : Nat → Bool)

/-- `Endpoint_WaitUntilReady`, and whether there was no error. Whether the
host takes the bank within the time limit is decided by `takes`, for each wait
anew. -/
def waitUntilReady (e : DataIn) : DataIn × Bool :=
  if e.isINReady then (e, true)
  else if takes e.waits then ({ e.inToken with waits := e.waits + 1 }, true)
  else ({ e with waits := e.waits + 1 }, false)

/-- The loop of `Endpoint_Write_Stream_LE`. -/
def writeBytes : DataIn → List UInt8 → DataIn × Bool
  | e, [] => (e, true)
  | e, b :: bytes =>
      if e.isReadWriteAllowed then writeBytes (e.write8 b) bytes
      else
        match e.clearIN.waitUntilReady takes with
        -- The host has taken the bank, so there is room for the byte.
        | (e, true) => writeBytes (e.write8 b) bytes
        | (e, false) => (e, false)

def writeStreamLE (e : DataIn) (bytes : List UInt8) : DataIn × Bool :=
  match e.waitUntilReady takes with
  | (e, true) => e.writeBytes takes bytes
  | (e, false) => (e, false)

def sendEventPacket (configured : Bool) (e : DataIn) (p : EventPacket) : DataIn :=
  if !configured then e
  else
    match e.writeStreamLE takes p.bytes with
    | (e, true) => if e.isReadWriteAllowed then e else e.clearIN
    | (e, false) => e

def flush (configured : Bool) (e : DataIn) : DataIn :=
  if !configured then e
  else if e.bank.isEmpty then e
  else (e.clearIN.waitUntilReady takes).1

end

/-! ### The endpoint as a link of batches -/

/-- Sixteen packets fill a bank. -/
def bankPackets : Nat := 16

/-- The endpoint holds the packets of the link, and every transaction is made
of whole packets. -/
structure Represents (e : DataIn) (b : Batch EventPacket) : Prop where
  bank : e.bank = b.filling.flatMap EventPacket.bytes
  cleared : e.cleared = b.closed
  received : e.transactions.flatten = b.received.flatMap EventPacket.bytes
  ok : b.Ok bankPackets
  whole : ∀ t ∈ e.transactions, ∃ packets : List EventPacket, packets ≠ [] ∧
    packets.length ≤ bankPackets ∧ t = packets.flatMap EventPacket.bytes

theorem length_flatMap_bytes (packets : List EventPacket) :
    (packets.flatMap EventPacket.bytes).length = 4 * packets.length := by
  induction packets with
  | nil => rfl
  | cons p packets ih =>
      rw [List.flatMap_cons, List.length_append, ih, List.length_cons,
        show p.bytes.length = 4 from rfl]
      omega

theorem start_represents : Represents .start .empty :=
  ⟨rfl, rfl, rfl, Batch.ok_reset (by decide) .empty, fun _ h => absurd h List.not_mem_nil⟩

variable {e : DataIn} {b : Batch EventPacket}

theorem Represents.length_bank (h : Represents e b) : e.bank.length = 4 * b.filling.length := by
  rw [h.bank, length_flatMap_bytes]

theorem Represents.isReadWriteAllowed (h : Represents e b) :
    e.isReadWriteAllowed = !b.closed := by
  unfold DataIn.isReadWriteAllowed
  rw [h.cleared]
  cases hclosed : b.closed with
  | true => rfl
  | false =>
      have hroom := h.ok.room hclosed
      have hlength := h.length_bank
      rw [Bool.not_false, Bool.true_and, decide_eq_true_eq, midiStreamEpsize]
      rw [bankPackets] at hroom
      omega

theorem Represents.inToken (h : Represents e b) : Represents e.inToken b.take := by
  have hok := h.ok.take (by decide)
  unfold DataIn.inToken
  unfold Batch.take at hok ⊢
  rw [h.cleared]
  split
  · rename_i hclosed
    rw [if_pos hclosed] at hok
    refine ⟨rfl, rfl, ?_, hok, ?_⟩
    · rw [List.flatten_append, h.received, h.bank, List.flatMap_append, List.flatten_singleton]
    · intro t ht
      rcases List.mem_append.mp ht with ht | ht
      · exact h.whole t ht
      · rw [List.mem_singleton.mp ht]
        exact ⟨b.filling, h.ok.closed hclosed, h.ok.length_le, h.bank⟩
  · exact h

theorem Represents.congr (h : Represents e b) (n : Nat) : Represents { e with waits := n } b :=
  ⟨h.bank, h.cleared, h.received, h.ok, h.whole⟩

theorem Represents.configure (h : Represents e b) : Represents e.configure b.reset :=
  ⟨rfl, rfl, h.received, Batch.ok_reset (by decide) b, h.whole⟩

variable (takes : Nat → Bool)

/-- The wait of the driver is the wait of the link, and it fails iff the bank
is still the host's. -/
theorem Represents.waitUntilReady (h : Represents e b) :
    Represents (e.waitUntilReady takes).1 (b.await (takes e.waits)) ∧
      (e.waitUntilReady takes).2 = !(b.await (takes e.waits)).closed := by
  have hready : e.isINReady = !b.closed := by rw [isINReady, h.cleared]
  unfold DataIn.waitUntilReady
  rw [hready]
  cases hclosed : b.closed with
  | false =>
      have hawait : b.await (takes e.waits) = b := by
        unfold Batch.await
        rw [Batch.take_of_open hclosed, ite_self]
      rw [hawait, hclosed]
      exact ⟨h, rfl⟩
  | true =>
      rw [Bool.not_true, if_neg Bool.false_ne_true]
      unfold Batch.await
      split
      · exact ⟨h.inToken.congr _, by rw [Batch.take_closed]; rfl⟩
      · exact ⟨h.congr _, by rw [hclosed]; rfl⟩

theorem writeBytes_of_room : ∀ {bytes : List UInt8} {e : DataIn}, e.cleared = false →
    e.bank.length + bytes.length ≤ midiStreamEpsize →
      e.writeBytes takes bytes = ({ e with bank := e.bank ++ bytes }, true)
  | [], e, _, _ => by rw [writeBytes, List.append_nil]
  | b :: bytes, e, hopen, hroom => by
      rw [List.length_cons] at hroom
      have hallowed : e.isReadWriteAllowed = true := by
        unfold DataIn.isReadWriteAllowed
        rw [hopen, Bool.not_false, Bool.true_and, decide_eq_true_eq]
        omega
      have hlength : (e.write8 b).bank.length = e.bank.length + 1 := by
        rw [write8, List.length_append, List.length_singleton]
      rw [writeBytes, if_pos hallowed,
        writeBytes_of_room (e := e.write8 b) hopen (by rw [hlength]; omega), write8]
      simp only [List.append_assoc, List.singleton_append]

theorem Represents.sendEventPacket (h : Represents e b) (p : EventPacket) :
    Represents (e.sendEventPacket takes true p) (b.send bankPackets (takes e.waits) p) := by
  obtain ⟨hwait, hok⟩ := h.waitUntilReady takes
  have hsend := h.ok.send (by decide) (takes e.waits) p
  unfold DataIn.sendEventPacket writeStreamLE
  unfold Batch.send at hsend ⊢
  generalize e.waitUntilReady takes = waited at hwait hok ⊢
  generalize b.await (takes e.waits) = b at hwait hok hsend ⊢
  obtain ⟨e, ok⟩ := waited
  dsimp only at hwait hok hsend ⊢
  rw [hok, Bool.not_true, if_neg Bool.false_ne_true]
  cases hclosed : b.closed with
  | true => exact hwait
  | false =>
      rw [hclosed, if_neg Bool.false_ne_true] at hsend
      have hlength := hwait.length_bank
      have hroom := hwait.ok.room hclosed
      rw [bankPackets] at hroom
      rw [Bool.not_false, if_neg Bool.false_ne_true]
      dsimp only
      rw [writeBytes_of_room takes (hwait.cleared.trans hclosed)
        (by rw [show p.bytes.length = 4 from rfl, midiStreamEpsize]; omega)]
      dsimp only
      have hbank : e.bank ++ p.bytes = (b.filling ++ [p]).flatMap EventPacket.bytes := by
        rw [hwait.bank, List.flatMap_append, List.flatMap_singleton]
      have hfull : decide ((e.bank ++ p.bytes).length < midiStreamEpsize) =
          !decide (bankPackets ≤ (b.filling ++ [p]).length) := by
        rw [hbank, length_flatMap_bytes, midiStreamEpsize, bankPackets, ← decide_not]
        exact decide_eq_decide.mpr (by omega)
      simp only [DataIn.isReadWriteAllowed, hwait.cleared.trans hclosed, hfull, Bool.not_false,
        Bool.true_and]
      cases hdone : decide (bankPackets ≤ (b.filling ++ [p]).length) with
      | true =>
          rw [hdone] at hsend
          rw [Bool.not_true, if_neg Bool.false_ne_true]
          exact ⟨hbank, rfl, hwait.received, hsend, hwait.whole⟩
      | false =>
          rw [hdone] at hsend
          rw [Bool.not_false, if_pos rfl]
          exact ⟨hbank, rfl, hwait.received, hsend, hwait.whole⟩

theorem Represents.flush (h : Represents e b) :
    Represents (e.flush takes true) (b.flush (takes e.waits)) := by
  have hempty : e.bank.isEmpty = b.filling.isEmpty := by
    rw [h.bank]
    cases b.filling with
    | nil => rfl
    | cons p packets => rfl
  unfold DataIn.flush Batch.flush
  rw [hempty, Bool.not_true, if_neg Bool.false_ne_true]
  split
  · exact h
  · rename_i hfilling
    have hclosed : Represents e.clearIN { b with closed := true } :=
      ⟨h.bank, rfl, h.received,
        ⟨fun _ hnil => hfilling (List.isEmpty_iff.mpr hnil), h.ok.length_le,
          fun hopen => absurd hopen.symm Bool.false_ne_true⟩, h.whole⟩
    exact (hclosed.waitUntilReady takes).1

end DataIn

/-! ## Host to device -/

/-- The OUT endpoint and the transactions the host has not sent yet. A bank
that is not `none` is the device's to read. `inputEvent` is the variable of
the receive loop a packet is read to. -/
structure DataOut where
  bank : Option (List UInt8)
  pending : List (List UInt8)
  inputEvent : EventPacket
  waits : Nat

namespace DataOut

def start (inputEvent : EventPacket) (pending : List (List UInt8)) : DataOut :=
  ⟨none, pending, inputEvent, 0⟩

def outToken (e : DataOut) : DataOut :=
  match e.bank, e.pending with
  | none, t :: pending => { e with bank := some t, pending := pending }
  | _, _ => e

def configure (e : DataOut) : DataOut := { e with bank := none }

section

-- Whether the host comes in time, for each wait.
variable (gives : Nat → Bool)

/-- The waits in `Endpoint_Read_Stream_LE` for a transaction with bytes in
it. One without is cleared at once. -/
def refill : List (List UInt8) → Nat → Option (List UInt8) × List (List UInt8) × Nat
  | [], waits => (none, [], waits + 1)
  | t :: pending, waits =>
      if gives waits then
        if t.isEmpty then refill pending (waits + 1) else (some t, pending, waits + 1)
      else (none, t :: pending, waits + 1)

/-- The loop of `Endpoint_Read_Stream_LE`: what has been read when `n` bytes
were asked for. It is less after an error. -/
def readBytes : Nat → DataOut → List UInt8 × DataOut
  | 0, e => ([], e)
  | n + 1, e =>
      match e.bank with
      | some (b :: bytes) =>
          let (read, e) := readBytes n { e with bank := some bytes }
          (b :: read, e)
      | _ =>
          match refill gives e.pending e.waits with
          | (some (b :: bytes), pending, waits) =>
              let (read, e) :=
                readBytes n { e with bank := some bytes, pending := pending, waits := waits }
              (b :: read, e)
          | (_, pending, waits) =>
              ([], { e with bank := none, pending := pending, waits := waits })

/-- `MIDI_Device_ReceiveEventPacket`. The error of the read is not looked at:
what was not read is left in the variable. -/
def receiveEventPacket (configured : Bool) (e : DataOut) : Option EventPacket × DataOut :=
  if !configured then (none, e)
  else
    match e.bank with
    | none | some [] => (none, e)
    | some (_ :: _) =>
        let (read, e) := e.readBytes gives 4
        let event := EventPacket.ofBytes (read ++ e.inputEvent.bytes.drop read.length)
        let e := { e with inputEvent := event }
        (some event, if e.bank = some [] then { e with bank := none } else e)

end

/-! ### The endpoint as an inbox -/

/-- The endpoint holds the packets of the inbox: every transaction is made of
whole packets. -/
structure Represents (e : DataOut) (i : Inbox EventPacket) : Prop where
  bank : e.bank = i.batch.map (List.flatMap EventPacket.bytes)
  pending : e.pending = i.pending.map (List.flatMap EventPacket.bytes)

variable {e : DataOut} {i : Inbox EventPacket}

theorem start_represents (inputEvent : EventPacket) (pending : List (List EventPacket)) :
    Represents (start inputEvent (pending.map (List.flatMap EventPacket.bytes))) ⟨none, pending⟩ :=
  ⟨rfl, rfl⟩

theorem Represents.outToken (h : Represents e i) : Represents e.outToken i.arrive := by
  obtain ⟨batch, pending⟩ := i
  unfold DataOut.outToken
  rw [h.bank, h.pending]
  cases batch with
  | some batch => exact h
  | none =>
      cases pending with
      | nil => exact h
      | cons t pending => exact ⟨rfl, rfl⟩

theorem Represents.configure (h : Represents e i) : Represents e.configure i.reset :=
  ⟨rfl, h.pending⟩

variable (gives : Nat → Bool)

theorem readBytes_append : ∀ (read : List UInt8) {e : DataOut} {bytes : List UInt8},
    e.bank = some (read ++ bytes) →
      e.readBytes gives read.length = (read, { e with bank := some bytes })
  | [], e, bytes, h => by
      rw [List.nil_append] at h
      rw [List.length_nil, readBytes, ← h]
  | b :: read, e, bytes, h => by
      rw [List.cons_append] at h
      rw [List.length_cons, readBytes, h]
      dsimp only
      rw [readBytes_append read (e := { e with bank := some (read ++ bytes) }) rfl]

theorem Represents.receiveEventPacket (h : Represents e i) :
    (e.receiveEventPacket gives true).1 = i.read.1 ∧
      Represents (e.receiveEventPacket gives true).2 i.read.2 := by
  obtain ⟨batch, pending⟩ := i
  unfold DataOut.receiveEventPacket
  rw [Bool.not_true, if_neg Bool.false_ne_true]
  cases batch with
  | none =>
      rw [h.bank]
      exact ⟨rfl, h⟩
  | some packets =>
      cases packets with
      | nil =>
          rw [h.bank]
          exact ⟨rfl, h⟩
      | cons p packets =>
          have hbank : e.bank = some (p.bytes ++ packets.flatMap EventPacket.bytes) := h.bank
          have hread := readBytes_append gives p.bytes hbank
          rw [show p.bytes.length = 4 from rfl] at hread
          rw [hread, hbank]
          cases packets with
          | nil => exact ⟨rfl, rfl, h.pending⟩
          | cons q packets => exact ⟨rfl, rfl, h.pending⟩

end DataOut

end MidiFighter
