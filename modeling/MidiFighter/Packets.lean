/-!
# USB-MIDI event packets

The wire format shared by both directions: the four-byte LUFA event packet
(`MIDI_EventPacket_t`) and the senders of `midi.c` that build packets. A
sender is a pure function to the packets it hands to
`MIDI_Device_SendEventPacket`; the device layer appends them to its
endpoint.

The low nibble of the event byte is the code index number (CIN): `0x4`
starts or continues a sysex message, `0x5`/`0x6`/`0x7` end one with one,
two or three bytes, `0x8`/`0x9` are note off/on, `0xB` is a control
change.
-/

namespace MidiFighter

/-- `MIDI_EventPacket_t`. -/
structure EventPacket where
  event : UInt8
  data1 : UInt8
  data2 : UInt8
  data3 : UInt8
deriving Repr, DecidableEq

/-- `input_event.Event & 0x0F`: the virtual cable nibble is ignored. -/
def EventPacket.cin (p : EventPacket) : UInt8 := p.event &&& 0x0F

/-! ## Constants -/

def midiMfrId0 : UInt8 := 0x00
def midiMfrId1 : UInt8 := 0x01
def midiMfrId2 : UInt8 := 0x79

def manufacturerId : UInt16 := 0x0179

/-- The header `0xf0, 0x00, MANUFACTURER_ID >> 8, MANUFACTURER_ID & 0x7f` of
every message the device sends. -/
def djttHeader : List UInt8 :=
  [0xF0, 0x00, (manufacturerId >>> 8).toUInt8, (manufacturerId &&& 0x7F).toUInt8]

def midiBasenote : UInt8 := 36

/-! ## Bytes -/

/-- A fact about all bytes is a fact about 256 numbers. -/
theorem forall_byte {p : UInt8 → Prop} (h : ∀ n : Fin 256, p (UInt8.ofNat n)) (b : UInt8) :
    p b := by
  have hb := h ⟨b.toNat, UInt8.toNat_lt b⟩
  rwa [UInt8.ofNat_toNat] at hb

theorem or_and_distrib (a b c : UInt8) : (a ||| b) &&& c = (a &&& c) ||| (b &&& c) := by
  apply UInt8.toBitVec_inj.mp
  refine BitVec.eq_of_getLsbD_eq fun i _ => ?_
  simp only [UInt8.toBitVec_and, UInt8.toBitVec_or, BitVec.getLsbD_and, BitVec.getLsbD_or,
    Bool.and_or_distrib_right]

theorem EventPacket.cin_mk {event : UInt8} (h : event < 0x10) (data1 data2 data3 : UInt8) :
    (⟨event, data1, data2, data3⟩ : EventPacket).cin = event := by
  have hmask : ∀ b : UInt8, b < 0x10 → b &&& 0x0F = b := forall_byte (by decide +kernel)
  exact hmask event h

/-! ## Channel messages -/

/-- The packet assembled by `midi_stream_note_ch` and `midi_stream_note`:
the status nibble is repeated in the event byte, and every field is
masked to its width. -/
def notePacket (channel pitch : UInt8) (onoff : Bool) (velocity : UInt8) : EventPacket :=
  let command : UInt8 := if onoff then 0x90 else 0x80
  { event := command >>> 4
    data1 := command ||| (channel &&& 0x0F)
    data2 := pitch &&& 0x7F
    data3 := velocity &&& 0x7F }

/-- The packet assembled by `midi_stream_raw_cc`. -/
def ccPacket (channel cc value : UInt8) : EventPacket :=
  let command : UInt8 := 0xB0
  { event := command >>> 4
    data1 := command ||| (channel &&& 0x0F)
    data2 := cc &&& 0x7F
    data3 := value &&& 0x7F }

theorem notePacket_cin (channel pitch : UInt8) (onoff : Bool) (velocity : UInt8) :
    (notePacket channel pitch onoff velocity).cin = if onoff then 0x9 else 0x8 := by
  cases onoff
  · exact (by decide : ((0x80 : UInt8) >>> 4) &&& 0x0F = 0x8)
  · exact (by decide : ((0x90 : UInt8) >>> 4) &&& 0x0F = 0x9)

theorem notePacket_channel (channel pitch : UInt8) (onoff : Bool) (velocity : UInt8) :
    (notePacket channel pitch onoff velocity).data1 &&& 0x0F = channel &&& 0x0F := by
  have h80 : (0x80 : UInt8) &&& 0x0F = 0 := by decide
  have h90 : (0x90 : UInt8) &&& 0x0F = 0 := by decide
  cases onoff <;>
    simp [notePacket, or_and_distrib, h80, h90, UInt8.and_assoc]

theorem ccPacket_cin (channel cc value : UInt8) : (ccPacket channel cc value).cin = 0xB :=
  (by decide : ((0xB0 : UInt8) >>> 4) &&& 0x0F = 0xB)

def midi64KeyToNote (keynum : UInt8) : UInt8 := midiBasenote + keynum

/-! ## Sysex messages -/

/-- The loop of `midi_stream_sysex` over the bytes still to send: full
packets while more than three are left, then one end packet. `first` is
still set at the end packet only for a message of at most three bytes. -/
def midiStreamSysexLoop : Bool → List UInt8 → List EventPacket
  | _, d1 :: d2 :: d3 :: d4 :: rest =>
      ⟨0x4, d1, d2, d3⟩ :: midiStreamSysexLoop false (d4 :: rest)
  | first, [d1, d2, d3] => [⟨if first then 0x3 else 0x7, d1, d2, d3⟩]
  | _, [d1, d2] => [⟨0x6, d1, d2, 0⟩]
  | _, [d1] => [⟨0x5, d1, 0, 0⟩]
  | _, [] => []

def midiStreamSysex (length : UInt8) (data : List UInt8) : List EventPacket :=
  midiStreamSysexLoop true (data.take length.toNat)

/-- A sysex message consists of system-exclusive or system-common packets,
never of a channel message. -/
theorem midiStreamSysexLoop_cin : ∀ {first : Bool} {data : List UInt8},
    ∀ p ∈ midiStreamSysexLoop first data, p.cin < 8
  | _, d1 :: d2 :: d3 :: d4 :: rest, p, hp => by
      rw [midiStreamSysexLoop, List.mem_cons] at hp
      rcases hp with rfl | hp
      · exact (by decide : (0x4 &&& 0x0F : UInt8) < 8)
      · exact midiStreamSysexLoop_cin p hp
  | first, [d1, d2, d3], p, hp => by
      obtain rfl := List.mem_singleton.mp hp
      cases first
      · exact (by decide : (0x7 &&& 0x0F : UInt8) < 8)
      · exact (by decide : (0x3 &&& 0x0F : UInt8) < 8)
  | _, [d1, d2], p, hp => by
      obtain rfl := List.mem_singleton.mp hp
      exact (by decide : (0x6 &&& 0x0F : UInt8) < 8)
  | _, [d1], p, hp => by
      obtain rfl := List.mem_singleton.mp hp
      exact (by decide : (0x5 &&& 0x0F : UInt8) < 8)

/-! ## Messages as they are read

The other end of `midi_stream_sysex`: whoever reads the packets collects
their bytes into messages. -/

def EventPacket.sysexBytes (p : EventPacket) : List UInt8 :=
  if p.cin = 0x4 ∨ p.cin = 0x7 then [p.data1, p.data2, p.data3]
  else if p.cin = 0x6 then [p.data1, p.data2]
  else if p.cin = 0x5 then [p.data1]
  else []

/-- The messages in the packets, where the bytes `message` have been read
already. A packet that ends a message starts the next one; packets of other
kinds carry no bytes of it. -/
def assemble : List UInt8 → List EventPacket → List (List UInt8)
  | message, [] => if message = [] then [] else [message]
  | message, p :: ps =>
      if p.cin = 0x5 ∨ p.cin = 0x6 ∨ p.cin = 0x7 then
        (message ++ p.sysexBytes) :: assemble [] ps
      else assemble (message ++ p.sysexBytes) ps

def sysexMessages : List EventPacket → List (List UInt8) := assemble []

/-- The packets of a message end it and nothing else; the induction follows
the packet loop. -/
theorem assemble_loop : ∀ {data : List UInt8} (message : List UInt8) (rest : List EventPacket),
    data ≠ [] → assemble message (midiStreamSysexLoop false data ++ rest)
      = (message ++ data) :: assemble [] rest
  | d1 :: d2 :: d3 :: d4 :: data, message, rest, _ => by
      have hcin : (⟨0x4, d1, d2, d3⟩ : EventPacket).cin = 0x4 :=
        EventPacket.cin_mk (by decide) d1 d2 d3
      rw [midiStreamSysexLoop, List.cons_append, assemble, hcin, if_neg (by decide),
        assemble_loop _ rest (List.cons_ne_nil d4 data)]
      simp [EventPacket.sysexBytes, hcin]
  | [d1, d2, d3], message, rest, _ => by
      have hcin : (⟨0x7, d1, d2, d3⟩ : EventPacket).cin = 0x7 :=
        EventPacket.cin_mk (by decide) d1 d2 d3
      simp [midiStreamSysexLoop, assemble, EventPacket.sysexBytes, hcin]
  | [d1, d2], message, rest, _ => by
      have hcin : (⟨0x6, d1, d2, 0⟩ : EventPacket).cin = 0x6 :=
        EventPacket.cin_mk (by decide) d1 d2 0
      simp [midiStreamSysexLoop, assemble, EventPacket.sysexBytes, hcin]
  | [d1], message, rest, _ => by
      have hcin : (⟨0x5, d1, 0, 0⟩ : EventPacket).cin = 0x5 :=
        EventPacket.cin_mk (by decide) d1 0 0
      simp [midiStreamSysexLoop, assemble, EventPacket.sysexBytes, hcin]
  | [], _, _, hne => absurd rfl hne

theorem midiStreamSysexLoop_first : ∀ {data : List UInt8}, 3 < data.length →
    midiStreamSysexLoop true data = midiStreamSysexLoop false data
  | _ :: _ :: _ :: _ :: _, _ => by rw [midiStreamSysexLoop, midiStreamSysexLoop]

/-- A message of four bytes or more is read as it was sent. -/
theorem sysexMessages_midiStreamSysex {m : List UInt8} (hshort : 3 < m.length)
    (hlong : m.length < 256) (rest : List EventPacket) :
    sysexMessages (midiStreamSysex (UInt8.ofNat m.length) m ++ rest) = m :: sysexMessages rest := by
  have hnat : (UInt8.ofNat m.length).toNat = m.length := UInt8.toNat_ofNat_of_lt' hlong
  have hne : m ≠ [] := by
    rintro rfl
    exact absurd hshort (by decide)
  rw [midiStreamSysex, hnat, List.take_length, midiStreamSysexLoop_first hshort, sysexMessages,
    assemble_loop [] rest hne]
  rfl

end MidiFighter
