import MidiFighter.Bits
import MidiFighter.Cells
import MidiFighter.Machine

/-!
# LED strands

`led_update_pixels` shifts the display buffer out to the LEDs, bit by bit:
a long pulse on a pin is a one and a short pulse a zero. The prototype has
one strand of 128 LEDs, the production unit four strands of 32, one pin
each; every button has two LEDs. A strand is fed by one loop that reads 32
bits at the running pointer, sends the low 24 of them and moves the
pointer by three bytes after every second LED.

`sendStrand_eq` gives what such a loop sends as blocks of 24 bits, one for
each LED (`ledBits`), whatever lies behind the buffer;
`ledSlice_ledUpdatePixels` reads the block of one LED back.
-/

namespace MidiFighter

/-- The port pins a strand can hang on: `LED_ASYNC_GROUP0` to
`LED_ASYNC_GROUP3` are these in order, and the `LED_ASYNC` of the single
strand is `pc6`, too. -/
inductive LedPin where
  | pb6
  | pc6
  | pb5
  | pb4
deriving Repr, DecidableEq

/-- One pulse on a pin; `high` if the four `nop`s make it a long one. -/
structure Pulse where
  pin : LedPin
  high : Bool
deriving Repr, DecidableEq

/-! ## The loops -/

/-- `*(uint32_t *)buffer` on the little-endian target: the byte at the
highest address is the most significant one. -/
def singleLedBuffer (buffer : Nat → UInt8) (p : Nat) : BitVec 32 :=
  (buffer (p + 3)).toBitVec ++ (buffer (p + 2)).toBitVec ++ (buffer (p + 1)).toBitVec ++
    (buffer p).toBitVec

def sendLed (pin : LedPin) (testBuffer : BitVec 32) : List Pulse :=
  (Bits.walkMask testBuffer 0x800000#32 24).map (Pulse.mk pin)

/-- One turn of the loop over `this_led`; the state is the pointer. -/
def ledStep (pin : LedPin) (buffer : Nat → UInt8) (p thisLed : Nat) : Nat × List Pulse :=
  (if thisLed &&& 0x01 ≠ 0 then p + 3 else p, sendLed pin (singleLedBuffer buffer p))

/-- The loop over `this_led` from the pointer `p` on, for `leds` LEDs. -/
def sendStrand (pin : LedPin) (leds : Nat) (buffer : Nat → UInt8) (p : Nat) : List Pulse :=
  Machine.outputs (ledStep pin buffer) p (List.range leds)

def ledUpdatePixelsSingleStrand (buffer : Nat → UInt8) : List Pulse :=
  sendStrand .pc6 128 buffer 0

def ledUpdatePixelGroup0 (buffer : Nat → UInt8) (p : Nat) : List Pulse :=
  sendStrand .pb6 32 buffer p

def ledUpdatePixelGroup1 (buffer : Nat → UInt8) (p : Nat) : List Pulse :=
  sendStrand .pc6 32 buffer p

def ledUpdatePixelGroup2 (buffer : Nat → UInt8) (p : Nat) : List Pulse :=
  sendStrand .pb5 32 buffer p

def ledUpdatePixelGroup3 (buffer : Nat → UInt8) (p : Nat) : List Pulse :=
  sendStrand .pb4 32 buffer p

def ledUpdatePixels (buffer : Nat → UInt8) : List Pulse :=
  ledUpdatePixelGroup0 buffer 0 ++ ledUpdatePixelGroup1 buffer 48 ++
    ledUpdatePixelGroup2 buffer 96 ++ ledUpdatePixelGroup3 buffer 144

/-! ## What a strand is sent -/

def ledBits (buffer : Nat → UInt8) (p : Nat) : List Bool :=
  Bits.lowBits (buffer (p + 2)).toBitVec 8 ++ Bits.lowBits (buffer (p + 1)).toBitVec 8 ++
    Bits.lowBits (buffer p).toBitVec 8

@[simp] theorem length_ledBits (buffer : Nat → UInt8) (p : Nat) :
    (ledBits buffer p).length = 24 := by
  simp [ledBits]

/-- The mask starts below the fourth byte, so that byte is never sent. -/
theorem sendLed_eq (pin : LedPin) (buffer : Nat → UInt8) (p : Nat) :
    sendLed pin (singleLedBuffer buffer p) = (ledBits buffer p).map (Pulse.mk pin) := by
  have hwalk := Bits.walkMask_twoPow (singleLedBuffer buffer p) 23 (by decide)
  have hmask : BitVec.twoPow 32 23 = 0x800000#32 := by decide
  rw [hmask] at hwalk
  rw [sendLed, hwalk, singleLedBuffer, Bits.lowBits_append _ _ 16, Bits.lowBits_append _ _ 8,
    Bits.lowBits_append _ _ 0]
  rfl

/-- Before LED `n` the pointer has moved past `n / 2` buttons, so both LEDs
of a button are sent its three bytes. -/
theorem sendStrand_loop (pin : LedPin) (buffer : Nat → UInt8) (p n : Nat) :
    Machine.final (ledStep pin buffer) p (List.range n) = p + 3 * (n / 2) ∧
      Machine.outputs (ledStep pin buffer) p (List.range n) =
        ((List.range n).flatMap fun led => ledBits buffer (p + 3 * (led / 2))).map
          (Pulse.mk pin) := by
  induction n with
  | zero => exact ⟨rfl, rfl⟩
  | succ n ih =>
      obtain ⟨hfinal, hout⟩ := ih
      rw [List.range_succ, Machine.final_append, Machine.outputs_append, hfinal, hout,
        List.flatMap_append, List.flatMap_singleton, List.map_append, ← sendLed_eq]
      refine ⟨?_, by simp [ledStep]⟩
      rw [Machine.final_cons, Machine.final_nil, ledStep, Nat.and_one_is_mod]
      split <;> omega

theorem sendStrand_eq (pin : LedPin) (n : Nat) (buffer : Nat → UInt8) (p : Nat) :
    sendStrand pin n buffer p =
      ((List.range n).flatMap fun led => ledBits buffer (p + 3 * (led / 2))).map
        (Pulse.mk pin) :=
  (sendStrand_loop pin buffer p n).2

theorem sendStrand_high (pin : LedPin) (n : Nat) (buffer : Nat → UInt8) (p : Nat) :
    (sendStrand pin n buffer p).map Pulse.high =
      (List.range n).flatMap fun led => ledBits buffer (p + 3 * (led / 2)) := by
  rw [sendStrand_eq, List.map_map]
  exact List.map_id' _

theorem ledBits_congr {buffer after : Nat → UInt8} {p : Nat}
    (h : ∀ i < 3, buffer (p + i) = after (p + i)) : ledBits buffer p = ledBits after p := by
  have h0 : buffer p = after p := h 0 (by decide)
  rw [ledBits, ledBits, h0, h 1 (by decide), h 2 (by decide)]

theorem sendStrand_congr (pin : LedPin) {n p : Nat} {buffer after : Nat → UInt8}
    (h : ∀ i < p + 3 * ((n + 1) / 2), buffer i = after i) :
    sendStrand pin n buffer p = sendStrand pin n after p := by
  rw [sendStrand_eq, sendStrand_eq]
  refine congrArg _ (List.flatMap_congr fun led hled => ledBits_congr fun i hi => h _ ?_)
  have hled := List.mem_range.mp hled
  omega

/-! ## The configurations agree -/

/-- A strand that goes on from LED `m`, at an even LED, is a second strand
at the button reached. -/
theorem flatMap_ledBits_add (buffer : Nat → UInt8) (p m n : Nat) :
    (List.range (2 * m + n)).flatMap (fun led => ledBits buffer (p + 3 * (led / 2))) =
      (List.range (2 * m)).flatMap (fun led => ledBits buffer (p + 3 * (led / 2))) ++
        (List.range n).flatMap fun led => ledBits buffer (p + 3 * m + 3 * (led / 2)) := by
  rw [List.range_add, List.flatMap_append, List.flatMap_map]
  refine congrArg _ (List.flatMap_congr fun led _ => congrArg _ ?_)
  omega

/-- The four groups, one after the other, send the bits of the single strand,
and neither configuration depends on what lies behind the 192 bytes. -/
theorem strand_configurations_agree (buffer after : Nat → UInt8)
    (hbuffer : ∀ i < 192, buffer i = after i) :
    (ledUpdatePixelGroup0 buffer 0).map Pulse.high ++
          (ledUpdatePixelGroup1 buffer 48).map Pulse.high ++
          (ledUpdatePixelGroup2 buffer 96).map Pulse.high ++
          (ledUpdatePixelGroup3 buffer 144).map Pulse.high =
        (ledUpdatePixelsSingleStrand buffer).map Pulse.high ∧
      ledUpdatePixels buffer = ledUpdatePixels after ∧
      ledUpdatePixelsSingleStrand buffer = ledUpdatePixelsSingleStrand after := by
  have hgroup : ∀ pin p, p + 48 ≤ 192 →
      sendStrand pin 32 buffer p = sendStrand pin 32 after p := fun pin p hp =>
    sendStrand_congr pin fun i hi => hbuffer i (by omega)
  refine ⟨?_, ?_, ?_⟩
  · simp only [ledUpdatePixelGroup0, ledUpdatePixelGroup1, ledUpdatePixelGroup2,
      ledUpdatePixelGroup3, ledUpdatePixelsSingleStrand, sendStrand_high]
    rw [flatMap_ledBits_add buffer 0 48 32, flatMap_ledBits_add buffer 0 32 32,
      flatMap_ledBits_add buffer 0 16 32]
  · simp only [ledUpdatePixels, ledUpdatePixelGroup0, ledUpdatePixelGroup1, ledUpdatePixelGroup2,
      ledUpdatePixelGroup3]
    rw [hgroup _ 0 (by decide), hgroup _ 48 (by decide), hgroup _ 96 (by decide),
      hgroup _ 144 (by decide)]
  · exact sendStrand_congr .pc6 fun i hi => hbuffer i (by omega)

/-- A buffer whose bytes all differ, followed by two different bytes. -/
theorem strand_configurations_agree_ramp :
    let ramp : Nat → UInt8 := UInt8.ofNat
    let after : Nat → UInt8 := Function.update ramp 192 255
    ((∀ i < 192, ramp i = after i) ∧ ramp 192 ≠ after 192) ∧
      (ledUpdatePixelGroup0 ramp 0).map Pulse.high ++
            (ledUpdatePixelGroup1 ramp 48).map Pulse.high ++
            (ledUpdatePixelGroup2 ramp 96).map Pulse.high ++
            (ledUpdatePixelGroup3 ramp 144).map Pulse.high =
          (ledUpdatePixelsSingleStrand ramp).map Pulse.high ∧
        ledUpdatePixels ramp = ledUpdatePixels after ∧
        ledUpdatePixelsSingleStrand ramp = ledUpdatePixelsSingleStrand after := by
  intro ramp after
  have hsame : ∀ i < 192, ramp i = after i := fun i hi =>
    (Function.update_of_ne (Nat.ne_of_lt hi) _ _).symm
  exact ⟨⟨hsame, by decide⟩, strand_configurations_agree ramp after hsame⟩

/-! ## One strand of the four -/

def sentOn (pin : LedPin) (pulses : List Pulse) : List Bool :=
  (pulses.filter fun pulse => pulse.pin = pin).map Pulse.high

theorem sentOn_append (pin : LedPin) (ps qs : List Pulse) :
    sentOn pin (ps ++ qs) = sentOn pin ps ++ sentOn pin qs := by
  rw [sentOn, List.filter_append, List.map_append, sentOn, sentOn]

theorem sentOn_map_mk (pin pin' : LedPin) (bits : List Bool) :
    sentOn pin (bits.map (Pulse.mk pin')) = if pin' = pin then bits else [] := by
  by_cases hpin : pin' = pin
  · simp [sentOn, hpin, List.filter_map, Function.comp_def]
  · simp [sentOn, hpin, List.filter_map, Function.comp_def]

def strandPin : Fin 4 → LedPin
  | 0 => .pb6
  | 1 => .pc6
  | 2 => .pb5
  | 3 => .pb4

theorem sentOn_ledUpdatePixels (g : Fin 4) (buffer : Nat → UInt8) :
    sentOn (strandPin g) (ledUpdatePixels buffer) =
      (List.range 32).flatMap fun led => ledBits buffer (48 * g.val + 3 * (led / 2)) := by
  simp only [ledUpdatePixels, ledUpdatePixelGroup0, ledUpdatePixelGroup1, ledUpdatePixelGroup2,
    ledUpdatePixelGroup3, sendStrand_eq, sentOn_append, sentOn_map_mk]
  match g with
  | ⟨0, _⟩ => simp [strandPin]
  | ⟨1, _⟩ => simp [strandPin]
  | ⟨2, _⟩ => simp [strandPin]
  | ⟨3, _⟩ => simp [strandPin]

def ledSlice (led : Nat) (bits : List Bool) : List Bool :=
  (bits.drop (24 * led)).take 24

/-- LED `led` of strand `g` is sent the bytes of button `16 * g + led / 2`. -/
theorem ledSlice_ledUpdatePixels (g : Fin 4) {led : Nat} (hled : led < 32)
    (buffer : Nat → UInt8) :
    ledSlice led (sentOn (strandPin g) (ledUpdatePixels buffer)) =
      ledBits buffer (48 * g.val + 3 * (led / 2)) := by
  rw [sentOn_ledUpdatePixels, ledSlice]
  exact Bits.take_drop_flatMap_range (fun _ => length_ledBits buffer _) hled

end MidiFighter
