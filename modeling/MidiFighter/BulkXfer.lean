import MidiFighter.Colours
import MidiFighter.Machine
import MidiFighter.Sysex

/-!
# Bulk colour transfer

`sysExCmdBulkXfer` of `config.c`: a PUSH copies part of a colour table
from a message and quantises it, a PULL sends a whole table in 16 such
messages. The handler is a machine over the two colour tables whose
outputs are the packets it sends.

`bulkPush_cases` is the inversion of the PUSH branch: nothing happens, or
one table gets `pushPart`, the copy loop followed by the quantiser. From
it follow

- the footprint of a PUSH (`push_confined_iff`). The handler compares SIZE
  with the data that arrived but not with the 24 bytes a part holds, so a
  PUSH stays in its slot exactly when SIZE is not larger than 24;
- the power invariant (`powerSafe_iff`). Starting from the factory tables,
  every button keeps a palette colour exactly as long as no pushed colour
  is misread as one that already is (`MisreadAsPalette`).
-/

namespace MidiFighter

/-! ## PUSH -/

def partBank (part : UInt8) : Nat := ((part - 1) >>> 3).toNat

def partOffset (part : UInt8) : Nat := (((part - 1) &&& 0x07) * 24).toNat

/-- The copy loop: `table[bank][offset + idx] = (*buffer++) * 2`. -/
def copyPayload (bank offset size : Nat) (payload : List UInt8) (m : Nat → UInt8) :
    Nat → UInt8 :=
  Cells.applyWrites m
    ((List.range size).map fun idx => (bankCell bank (offset + idx), payload.getD idx 0 * 2))

/-- The PUSH branch; `rest` is the message after the command byte. `length
> 5` says that there is at least one byte after SIZE. -/
def bulkPush (t : ColorTables) (rest : List UInt8) : ColorTables :=
  match rest with
  | tag :: part :: _total :: size :: payload =>
      if payload.length = 0 then t
      else if tag = 0x0 then t
      else if part = 0 then t
      else if size.toNat > payload.length then t
      else if part > 16 then t
      else
        let bank := partBank part
        let offset := partOffset part
        if tag = 1 then
          adjustInactiveBankLedsForPower bank offset size.toNat
            { t with
              defaultBankInactive :=
                copyPayload bank offset size.toNat payload t.defaultBankInactive }
        else if tag = 2 then
          adjustActiveBankLedsForPower bank offset size.toNat
            { t with
              defaultBankActive := copyPayload bank offset size.toNat payload t.defaultBankActive }
        else t
  | _ => t

/-! ## PULL -/

/-- `this_color * DISPLAY_SCALING_COLOR_OUT_MAX_VALUE /
DISPLAY_SCALING_COLOR_IN_MAX_VALUE`, computed in 16 bits and stored in a
byte. -/
def scaleOut (thisColor : UInt8) : UInt8 :=
  UInt8.ofNat (thisColor.toNat * displayScalingColorOutMaxValue.toNat
    / displayScalingColorInMaxValue.toNat)

/-- The 35-byte message template with `size` bytes of the table filled in. -/
def pullPayload (tag : UInt8) (part total size : Nat) (colors : List UInt8) : List UInt8 :=
  djttHeader ++
    [sysexCommandBulkXfer, 0x0, tag, UInt8.ofNat part, UInt8.ofNat total, UInt8.ofNat size] ++
    colors ++ List.replicate (25 - size) 0xF7

def bulkPullLoop (tag : UInt8) (source : Nat → UInt8) (total : Nat) :
    List Nat → Nat → Nat → List EventPacket
  | [], _, _ => []
  | part :: parts, bytesRemaining, index =>
      let size := if bytesRemaining > 24 then 24 else bytesRemaining
      let colors := (List.range size).map fun k => scaleOut (source (index + k))
      midiStreamSysex (UInt8.ofNat (11 + size)) (pullPayload tag part total size colors) ++
        bulkPullLoop tag source total parts (bytesRemaining - 24) (index + size)

def bulkPull (t : ColorTables) (tag : UInt8) : List EventPacket :=
  let bytesRemaining := numBanks * numButtons * 3
  let total := bytesRemaining / 24
  if tag = 1 then
    bulkPullLoop tag t.defaultBankInactive total (List.range' 1 total) bytesRemaining 0
  else if tag = 2 then
    bulkPullLoop tag t.defaultBankActive total (List.range' 1 total) bytesRemaining 0
  else []

/-- `sysExCmdBulkXfer (length, buffer)`, with `length = buffer.length`. -/
def sysExCmdBulkXfer (t : ColorTables) (buffer : List UInt8) :
    ColorTables × List EventPacket :=
  match buffer with
  | command :: tag :: rest =>
      if rest.length = 0 then (t, [])
      else if command = 0 then (bulkPush t (tag :: rest), [])
      else if command = 1 then (t, bulkPull t tag)
      else (t, [])
  | _ => (t, [])

/-! ## What a PUSH does -/

def Accepted (part size : UInt8) (payload : List UInt8) : Prop :=
  payload ≠ [] ∧ part ≠ 0 ∧ part ≤ 16 ∧ size.toNat ≤ payload.length

def pushPart (part size : UInt8) (payload : List UInt8) (m : Nat → UInt8) : Nat → UInt8 :=
  adjustBankLedsForPower (partBank part) (partOffset part) size.toNat
    (copyPayload (partBank part) (partOffset part) size.toNat payload m)

theorem pushFields_inj {tag tag' part part' total total' size size' : UInt8}
    {payload payload' : List UInt8}
    (h : tag :: part :: total :: size :: payload
      = tag' :: part' :: total' :: size' :: payload') :
    tag = tag' ∧ part = part' ∧ total = total' ∧ size = size' ∧ payload = payload' := by
  simpa using h

theorem bulkXfer_push (t : ColorTables) (rest : List UInt8) :
    (sysExCmdBulkXfer t (0 :: rest)).1 = bulkPush t rest := by
  rcases rest with _ | ⟨tag, _ | ⟨part, rest⟩⟩
  · rfl
  · rfl
  · simp [sysExCmdBulkXfer]

section

variable {part size : UInt8} {payload : List UInt8} (h : Accepted part size payload)
  (t : ColorTables) (total : UInt8)

include h

theorem bulkPush_inactive :
    bulkPush t (1 :: part :: total :: size :: payload)
      = { t with defaultBankInactive := pushPart part size payload t.defaultBankInactive } := by
  obtain ⟨hne, hpart, hmax, hsize⟩ := h
  simp only [bulkPush, List.length_eq_zero_iff, hne, hpart, if_false,
    Nat.not_lt.mpr hsize, UInt8.not_lt.mpr hmax]
  rfl

theorem bulkPush_active :
    bulkPush t (2 :: part :: total :: size :: payload)
      = { t with defaultBankActive := pushPart part size payload t.defaultBankActive } := by
  obtain ⟨hne, hpart, hmax, hsize⟩ := h
  simp only [bulkPush, List.length_eq_zero_iff, hne, hpart, if_false,
    Nat.not_lt.mpr hsize, UInt8.not_lt.mpr hmax]
  rfl

end

theorem bulkPush_cases (t : ColorTables) (rest : List UInt8) :
    bulkPush t rest = t
      ∨ ∃ tag part total size payload, rest = tag :: part :: total :: size :: payload
        ∧ Accepted part size payload ∧ (tag = 1 ∨ tag = 2) := by
  rcases rest with _ | ⟨tag, _ | ⟨part, _ | ⟨total, _ | ⟨size, payload⟩⟩⟩⟩
  · exact Or.inl rfl
  · exact Or.inl rfl
  · exact Or.inl rfl
  · exact Or.inl rfl
  · by_cases hacc : Accepted part size payload ∧ (tag = 1 ∨ tag = 2)
    · exact Or.inr ⟨tag, part, total, size, payload, rfl, hacc⟩
    · refine Or.inl ?_
      unfold bulkPush
      dsimp only
      split_ifs with hne htag hpart hsize hmax h1 h2
      iterate 5 rfl
      · exact absurd ⟨⟨fun h => hne (by rw [h]; rfl), hpart, UInt8.not_lt.mp hmax,
          Nat.not_lt.mp hsize⟩, Or.inl h1⟩ hacc
      · exact absurd ⟨⟨fun h => hne (by rw [h]; rfl), hpart, UInt8.not_lt.mp hmax,
          Nat.not_lt.mp hsize⟩, Or.inr h2⟩ hacc
      · rfl

/-! ## The slot of a part -/

theorem partOffset_le (part : UInt8) : partOffset part ≤ 168 := by
  have hmask : ((part - 1) &&& 0x07).toNat ≤ 7 := by
    rw [UInt8.toNat_and]
    exact Nat.and_le_right
  have h24 : (24 : UInt8).toNat = 24 := rfl
  rw [partOffset, UInt8.toNat_mul, h24]
  exact (Nat.mod_le _ _).trans (by omega)

theorem bankCell_part {part : UInt8} (h0 : part ≠ 0) (hmax : part ≤ 16) :
    bankCell (partBank part) (partOffset part) = 24 * (part.toNat - 1) := by
  have hall : ∀ n : Fin 16, bankCell (partBank (UInt8.ofNat (n + 1)))
      (partOffset (UInt8.ofNat (n + 1))) = 24 * n := by decide
  have h16 : part.toNat ≤ 16 := UInt8.le_iff_toNat_le.mp hmax
  have hpos : part.toNat ≠ 0 := fun h => h0 (UInt8.toNat_inj.mp h)
  have hn := hall ⟨part.toNat - 1, by omega⟩
  have hpart : UInt8.ofNat (part.toNat - 1 + 1) = part := by
    rw [Nat.sub_add_cancel (by omega), UInt8.ofNat_toNat]
  rw [hpart] at hn
  exact hn

theorem copyPayload_frame {bank offset size a : Nat} (payload : List UInt8) (m : Nat → UInt8)
    (h : a < bankCell bank offset ∨ bankCell bank offset + size ≤ a) :
    copyPayload bank offset size payload m a = m a := by
  refine Cells.applyWrites_of_notMem fun hmem => ?_
  rw [List.map_map, List.mem_map] at hmem
  obtain ⟨idx, hidx, rfl⟩ := hmem
  rw [List.mem_range] at hidx
  simp only [Function.comp_apply, bankCell] at h
  omega

theorem copyPayload_cell {bank offset size idx : Nat} (payload : List UInt8) (m : Nat → UInt8)
    (h : idx < size) :
    copyPayload bank offset size payload m (bankCell bank (offset + idx))
      = payload.getD idx 0 * 2 := by
  refine Cells.applyWrites_of_mem ?_ (List.mem_map.mpr ⟨idx, List.mem_range.mpr h, rfl⟩)
  rw [List.map_map]
  refine List.nodup_range.map fun i j hij => ?_
  simp only [Function.comp_apply, bankCell] at hij
  omega

/-- The colour at button `k` of a PUSH payload, as the copy loop stores it. -/
def pushedRgb (payload : List UInt8) (k : Nat) : Rgb :=
  ⟨payload.getD (3 * k) 0 * 2, payload.getD (3 * k + 1) 0 * 2, payload.getD (3 * k + 2) 0 * 2⟩

theorem pushPart_frame {part size : UInt8} {a : Nat} (payload : List UInt8) (m : Nat → UInt8)
    (h : a < bankCell (partBank part) (partOffset part)
      ∨ bankCell (partBank part) (partOffset part) + 3 * ((size.toNat + 2) / 3) ≤ a) :
    pushPart part size payload m a = m a := by
  rw [pushPart, adjustBankLedsForPower_frame _ h, copyPayload_frame payload m (by omega)]

theorem pushPart_read {part size : UInt8} {k : Nat} (payload : List UInt8) (m : Nat → UInt8)
    (hk : 3 * k + 2 < size.toNat) :
    readRgb (pushPart part size payload m) (bankCell (partBank part) (partOffset part) + 3 * k)
      = adjustedRgb (pushedRgb payload k) := by
  have hcell : ∀ idx, bankCell (partBank part) (partOffset part) + idx
      = bankCell (partBank part) (partOffset part + idx) := fun idx => by
    simp only [bankCell]
    omega
  rw [hcell, pushPart, adjustBankLedsForPower_read _ _ _ (by omega)]
  refine congrArg adjustedRgb ?_
  rw [readRgb, ← hcell, Nat.add_assoc, Nat.add_assoc, hcell, hcell, hcell,
    copyPayload_cell payload m (by omega), copyPayload_cell payload m (by omega),
    copyPayload_cell payload m (by omega)]
  rfl

/-! ## Footprint -/

/-- A PUSH to table `tag` whose PART and SIZE pass the documented checks,
with `i` in the 24 bytes of its part. -/
def InSlot (tag : UInt8) (rest : List UInt8) (i : Nat) : Prop :=
  ∃ part total size payload, rest = tag :: part :: total :: size :: payload
    ∧ part ≠ 0 ∧ part ≤ 16 ∧ size.toNat ≤ 24 ∧ size.toNat ≤ payload.length
    ∧ bankCell (partBank part) (partOffset part) ≤ i
    ∧ i < bankCell (partBank part) (partOffset part) + 24

/-- The indices both loops of a PUSH use stay below the 192 bytes of their
bank. -/
def IndicesInRow (rest : List UInt8) : Prop :=
  ∀ tag part total size payload, rest = tag :: part :: total :: size :: payload →
    Accepted part size payload → tag = 1 ∨ tag = 2 →
      (∀ idx < size.toNat, partOffset part + idx < 192)
        ∧ ∀ thisByte ∈ thisBytes (partOffset part) size.toNat, thisByte + 2 < 192

/-- PUSH message `rest` changes nothing but its slot in the table its TAG
names, and nothing at all if its TAG, PART or SIZE is not valid. -/
def PushConfined (rest : List UInt8) (t : ColorTables) : Prop :=
  (∀ i, (sysExCmdBulkXfer t (0 :: rest)).1.defaultBankInactive i ≠ t.defaultBankInactive i →
      InSlot 1 rest i)
    ∧ (∀ i, (sysExCmdBulkXfer t (0 :: rest)).1.defaultBankActive i ≠ t.defaultBankActive i →
      InSlot 2 rest i)
    ∧ IndicesInRow rest

/-- A SIZE above 24 that the rest of the message can supply. The handler
compares SIZE with the bytes that are left and not with the size of a part. -/
def Oversized (rest : List UInt8) : Prop :=
  ∃ tag part total size payload, rest = tag :: part :: total :: size :: payload
    ∧ (tag = 1 ∨ tag = 2) ∧ part ≠ 0 ∧ part ≤ 16
    ∧ 24 < size.toNat ∧ size.toNat ≤ payload.length

theorem pushPart_inSlot {tag part total size : UInt8} {payload : List UInt8} {m : Nat → UInt8}
    {i : Nat} (hacc : Accepted part size payload) (hsize : size.toNat ≤ 24)
    (hne : pushPart part size payload m i ≠ m i) :
    InSlot tag (tag :: part :: total :: size :: payload) i := by
  obtain ⟨-, hpart, hmax, hlen⟩ := hacc
  refine ⟨part, total, size, payload, rfl, hpart, hmax, hsize, hlen, ?_⟩
  by_contra hout
  refine hne (pushPart_frame payload m ?_)
  omega

theorem pushConfined_of_not_oversized {rest : List UInt8} (h : ¬Oversized rest)
    (t : ColorTables) : PushConfined rest t := by
  have hsmall : ∀ {tag part total size payload}, rest = tag :: part :: total :: size :: payload →
      Accepted part size payload → tag = 1 ∨ tag = 2 → size.toNat ≤ 24 := by
    intro tag part total size payload hrest hacc htag
    by_contra hbig
    exact h ⟨tag, part, total, size, payload, hrest, htag, hacc.2.1, hacc.2.2.1,
      Nat.not_le.mp hbig, hacc.2.2.2⟩
  have hrow : IndicesInRow rest := by
    intro tag part total size payload hrest hacc htag
    have hsize := hsmall hrest hacc htag
    have hoffset := partOffset_le part
    refine ⟨fun idx hidx => by omega, fun thisByte hthis => ?_⟩
    obtain ⟨k, hk, rfl⟩ := List.mem_map.mp hthis
    rw [List.mem_range] at hk
    omega
  unfold PushConfined
  rw [bulkXfer_push]
  rcases bulkPush_cases t rest with hsame | ⟨tag, part, total, size, payload, hrest, hacc, htag⟩
  · rw [hsame]
    exact ⟨fun i hne => absurd rfl hne, fun i hne => absurd rfl hne, hrow⟩
  · have hsize := hsmall hrest hacc htag
    refine ⟨fun i hne => ?_, fun i hne => ?_, hrow⟩
    · subst hrest
      rcases htag with rfl | rfl
      · rw [bulkPush_inactive hacc] at hne
        exact pushPart_inSlot hacc hsize hne
      · rw [bulkPush_active hacc] at hne
        exact absurd rfl hne
    · subst hrest
      rcases htag with rfl | rfl
      · rw [bulkPush_inactive hacc] at hne
        exact absurd rfl hne
      · rw [bulkPush_active hacc] at hne
        exact pushPart_inSlot hacc hsize hne

theorem adjustedRgb_red_ne_one {c : Rgb} {x : UInt8} (h : c.r = x * 2) :
    (adjustedRgb c).r ≠ 1 := by
  unfold adjustedRgb
  split
  · intro hone
    have hnat := congrArg UInt8.toNat (h.symm.trans hone)
    have h2 : (2 : UInt8).toNat = 2 := rfl
    have h1 : (1 : UInt8).toNat = 1 := rfl
    rw [UInt8.toNat_mul, h2, h1] at hnat
    omega
  · rename_i id _
    cases id <;> decide

/-- Every button a PUSH starts is changed in a table of ones: what it stores
is even or a palette colour. -/
theorem pushPart_changes {part size : UInt8} {k : Nat} (payload : List UInt8)
    (h : 3 * k < size.toNat) :
    pushPart part size payload (fun _ => 1)
      (bankCell (partBank part) (partOffset part) + 3 * k) ≠ 1 := by
  have hcell : bankCell (partBank part) (partOffset part) + 3 * k
      = bankCell (partBank part) (partOffset part + 3 * k) := by
    simp only [bankCell]
    omega
  have hread := adjustBankLedsForPower_read (partBank part) (partOffset part)
    (copyPayload (partBank part) (partOffset part) size.toNat payload fun _ => 1) h
  have hred : (readRgb (copyPayload (partBank part) (partOffset part) size.toNat payload
      fun _ => 1) (bankCell (partBank part) (partOffset part + 3 * k))).r
      = payload.getD (3 * k) 0 * 2 := copyPayload_cell payload _ h
  rw [hcell]
  intro hone
  exact adjustedRgb_red_ne_one hred ((congrArg Rgb.r hread).symm.trans hone)

/-- The 25th byte of an oversized PUSH lands behind its slot. -/
theorem pushPart_escapes {part size : UInt8} (payload : List UInt8) (h : 24 < size.toNat) :
    pushPart part size payload (fun _ => 1)
      (bankCell (partBank part) (partOffset part) + 24) ≠ 1 :=
  pushPart_changes (k := 8) payload h

theorem not_pushConfined_of_oversized {rest : List UInt8} (h : Oversized rest) :
    ¬PushConfined rest ⟨fun _ => 1, fun _ => 1⟩ := by
  obtain ⟨tag, part, total, size, payload, rfl, htag, hpart, hmax, hbig, hlen⟩ := h
  have hacc : Accepted part size payload := by
    refine ⟨fun hnil => ?_, hpart, hmax, hlen⟩
    rw [hnil, List.length_nil] at hlen
    omega
  rintro ⟨hinactive, hactive, -⟩
  rw [bulkXfer_push] at hinactive hactive
  have hout : ∀ {tag : UInt8}, ¬InSlot tag (tag :: part :: total :: size :: payload)
      (bankCell (partBank part) (partOffset part) + 24) := by
    rintro tag ⟨part', total', size', payload', heq, -, -, hsmall, -⟩
    obtain ⟨-, rfl, -, rfl, -⟩ := pushFields_inj heq
    omega
  rcases htag with rfl | rfl
  · rw [bulkPush_inactive hacc] at hinactive
    exact hout (hinactive _ (pushPart_escapes payload hbig))
  · rw [bulkPush_active hacc] at hactive
    exact hout (hactive _ (pushPart_escapes payload hbig))

/-- **Footprint of a PUSH.** Whatever the tables hold, a PUSH message writes
only the slot of its part, exactly when it does not announce more than 24
bytes. -/
theorem push_confined_iff (rest : List UInt8) :
    (∀ t, PushConfined rest t) ↔ ¬Oversized rest :=
  ⟨fun h hbig => not_pushConfined_of_oversized hbig (h _), pushConfined_of_not_oversized⟩

/-- Red pushed to the first button of the idle colours. -/
theorem push_confined_red :
    ¬Oversized [1, 1, 16, 3, 127, 0, 0, 0xF7]
      ∧ ∀ t, PushConfined [1, 1, 16, 3, 127, 0, 0, 0xF7] t := by
  have hsmall : ¬Oversized [1, 1, 16, 3, 127, 0, 0, 0xF7] := by
    rintro ⟨tag, part, total, size, payload, heq, -, -, -, hsize, -⟩
    simp only [List.cons.injEq] at heq
    obtain ⟨-, -, -, rfl, -⟩ := heq
    exact absurd hsize (by decide)
  exact ⟨hsmall, (push_confined_iff [1, 1, 16, 3, 127, 0, 0, 0xF7]).mpr hsmall⟩

/-- Part 16 with 27 bytes: the last three go past the end of the table. -/
theorem push_not_confined :
    ¬PushConfined ([1, 16, 16, 27] ++ List.replicate 27 0 ++ [0xF7]) ⟨fun _ => 1, fun _ => 1⟩ :=
  not_pushConfined_of_oversized
    ⟨1, 16, 16, 27, List.replicate 27 0 ++ [0xF7], rfl, Or.inl rfl, by decide, by decide,
      by decide, by decide⟩

/-! ## The power invariant -/

/-- Both tables hold palette colours only, hence no channel above 48. -/
def PowerSafe (t : ColorTables) : Prop :=
  InPalette t.defaultBankInactive ∧ InPalette t.defaultBankActive
    ∧ ∀ i < 384, t.defaultBankInactive i ≤ displayScalingColorInMaxValue
      ∧ t.defaultBankActive i ≤ displayScalingColorInMaxValue

theorem PowerSafe.of_inPalette {t : ColorTables} (hi : InPalette t.defaultBankInactive)
    (ha : InPalette t.defaultBankActive) : PowerSafe t :=
  ⟨hi, ha, fun _ h => ⟨hi.le_max h, ha.le_max h⟩⟩

/-- A PUSH of whole buttons to one of the two tables, as the editor sends
them. -/
def ButtonPush (body : List UInt8) : Prop :=
  ∃ tag part total size payload, body = 0 :: tag :: part :: total :: size :: payload
    ∧ (tag = 1 ∨ tag = 2) ∧ 1 ≤ part ∧ part ≤ 16 ∧ 3 ∣ size.toNat ∧ size.toNat ≤ 24
    ∧ ∀ b ∈ payload.take size.toNat, b < 128

def Misreads (body : List UInt8) : Prop :=
  ∃ tag part total size payload, body = 0 :: tag :: part :: total :: size :: payload
    ∧ size.toNat ≤ payload.length
    ∧ ∃ k, 3 * k + 2 < size.toNat ∧ MisreadAsPalette (pushedRgb payload k)

/-- The buttons of an accepted part become what the quantiser makes of
them, the others stay. -/
theorem pushPart_button {part size : UInt8} {payload : List UInt8}
    (hacc : Accepted part size payload) (h3 : 3 ∣ size.toNat) (m : Nat → UInt8) (k : Nat) :
    (∃ j, 3 * j + 2 < size.toNat ∧ k = 8 * (part.toNat - 1) + j
        ∧ readRgb (pushPart part size payload m) (3 * k) = adjustedRgb (pushedRgb payload j))
      ∨ readRgb (pushPart part size payload m) (3 * k) = readRgb m (3 * k) := by
  have hslot := bankCell_part hacc.2.1 hacc.2.2.1
  obtain ⟨n, hn⟩ := h3
  by_cases hk : 8 * (part.toNat - 1) ≤ k ∧ k < 8 * (part.toNat - 1) + n
  · refine Or.inl ⟨k - 8 * (part.toNat - 1), by omega, by omega, ?_⟩
    have hcell : 3 * k = bankCell (partBank part) (partOffset part)
        + 3 * (k - 8 * (part.toNat - 1)) := by omega
    rw [hcell]
    exact pushPart_read payload m (by omega)
  · refine Or.inr (readRgb_congr fun a ha => pushPart_frame payload m ?_)
    omega

theorem pushPart_inPalette {part size : UInt8} {payload : List UInt8} {m : Nat → UInt8}
    (hacc : Accepted part size payload) (h3 : 3 ∣ size.toNat)
    (hmis : ∀ k, 3 * k + 2 < size.toNat → ¬MisreadAsPalette (pushedRgb payload k))
    (hm : InPalette m) : InPalette (pushPart part size payload m) := by
  intro k hk
  rcases pushPart_button hacc h3 m k with ⟨j, hj, -, hread⟩ | hread
  · rw [hread, adjustedRgb_mem_palette]
    exact hmis j hj
  · rw [hread]
    exact hm k hk

theorem bulkXfer_powerSafe {t : ColorTables} {body : List UInt8} (ht : PowerSafe t)
    (hpush : ButtonPush body) (hmis : ¬Misreads body) :
    PowerSafe (sysExCmdBulkXfer t body).1 := by
  obtain ⟨tag, part, total, size, payload, rfl, htag, -, -, h3, -⟩ := hpush
  rw [bulkXfer_push]
  rcases bulkPush_cases t (tag :: part :: total :: size :: payload) with
    hsame | ⟨tag', part', total', size', payload', heq, hacc, -⟩
  · rw [hsame]
    exact ht
  · obtain ⟨rfl, rfl, rfl, rfl, rfl⟩ := pushFields_inj heq
    have hmis' : ∀ k, 3 * k + 2 < size.toNat → ¬MisreadAsPalette (pushedRgb payload k) :=
      fun k hk hbad => hmis ⟨tag, part, total, size, payload, rfl, hacc.2.2.2, k, hk, hbad⟩
    rcases htag with rfl | rfl
    · rw [bulkPush_inactive hacc]
      exact .of_inPalette (pushPart_inPalette hacc h3 hmis' ht.1) ht.2.1
    · rw [bulkPush_active hacc]
      exact .of_inPalette ht.1 (pushPart_inPalette hacc h3 hmis' ht.2.1)

theorem bulkXfer_not_powerSafe {t : ColorTables} {body : List UInt8} (hpush : ButtonPush body)
    (hmis : Misreads body) : ¬PowerSafe (sysExCmdBulkXfer t body).1 := by
  obtain ⟨tag, part, total, size, payload, rfl, htag, hpart, hmax, h3, h24, -⟩ := hpush
  obtain ⟨tag', part', total', size', payload', heq, hlen, k, hk, hbad⟩ := hmis
  obtain ⟨rfl, rfl, rfl, rfl, rfl⟩ := pushFields_inj (List.cons.inj heq).2
  have hpos : part ≠ 0 := fun h0 => absurd (h0 ▸ hpart) (by decide)
  have hacc : Accepted part size payload := by
    refine ⟨fun hnil => ?_, hpos, hmax, hlen⟩
    rw [hnil, List.length_nil] at hlen
    omega
  have hpal : ∀ m : Nat → UInt8, ¬InPalette (pushPart part size payload m) := by
    intro m hin
    have hslot := bankCell_part hpos hmax
    have h16 : part.toNat ≤ 16 := UInt8.le_iff_toNat_le.mp hmax
    have hread : readRgb (pushPart part size payload m)
        (bankCell (partBank part) (partOffset part) + 3 * k)
        = adjustedRgb (pushedRgb payload k) := pushPart_read payload m hk
    have hmem := hin (8 * (part.toNat - 1) + k) (by omega)
    have hcell : 3 * (8 * (part.toNat - 1) + k)
        = bankCell (partBank part) (partOffset part) + 3 * k := by omega
    rw [hcell, hread] at hmem
    exact (adjustedRgb_mem_palette _).mp hmem hbad
  rw [bulkXfer_push]
  rintro ⟨hinactive, hactive, -⟩
  rcases htag with rfl | rfl
  · rw [bulkPush_inactive hacc] at hinactive
    exact hpal _ hinactive
  · rw [bulkPush_active hacc] at hactive
    exact hpal _ hactive

theorem final_powerSafe {t : ColorTables} (ht : PowerSafe t) {bodies : List (List UInt8)}
    (h : ∀ body ∈ bodies, ButtonPush body ∧ ¬Misreads body) :
    PowerSafe (Machine.final sysExCmdBulkXfer t bodies) :=
  Machine.final_invariant PowerSafe (fun _ _ ht hok => bulkXfer_powerSafe ht hok.1 hok.2) ht
    (Machine.along_of_forall_mem h)

/-- **Power invariant.** From the factory tables on, after every message of
a sequence of PUSHes both tables hold palette colours only, exactly when
none of the messages misreads a button. -/
theorem powerSafe_iff (t : ColorTables) (bodies : List (List UInt8))
    (hpush : ∀ body ∈ bodies, ButtonPush body) :
    (∀ pre, pre <+: bodies →
        PowerSafe (Machine.final sysExCmdBulkXfer (loadDefaultColors t) pre)) ↔
      ∀ body ∈ bodies, ¬Misreads body := by
  constructor
  · intro hsafe body hbody hmis
    obtain ⟨pre, post, rfl⟩ := List.append_of_mem hbody
    have hafter := hsafe (pre ++ [body]) ⟨post, by simp⟩
    rw [Machine.final_append, Machine.final_cons] at hafter
    exact bulkXfer_not_powerSafe (hpush body hbody) hmis hafter
  · rintro hmis pre hpre
    have hfactory : PowerSafe (loadDefaultColors t) :=
      .of_inPalette (loadBanks_inPalette _ _ _) (loadBanks_inPalette _ _ _)
    refine final_powerSafe hfactory fun body hbody => ?_
    exact ⟨hpush body (hpre.subset hbody), hmis body (hpre.subset hbody)⟩

/-- Full red pushed to the first idle button. -/
theorem powerSafe_red :
    let red : List UInt8 := [0, 1, 1, 16, 3, 127, 0, 0, 0xF7]
    ButtonPush red ∧ ¬Misreads red ∧ PowerSafe (Machine.final sysExCmdBulkXfer
      (loadDefaultColors ⟨fun _ => 0, fun _ => 0⟩) [red]) := by
  intro red
  have hpush : ButtonPush red :=
    ⟨1, 1, 16, 3, [127, 0, 0, 0xF7], rfl, Or.inl rfl, by decide, by decide, by decide,
      by decide, by simp⟩
  have hread : ¬Misreads red := by
    rintro ⟨tag, part, total, size, payload, heq, -, k, hk, hmis⟩
    simp only [red, List.cons.injEq, true_and] at heq
    obtain ⟨-, -, -, rfl, rfl⟩ := heq
    have hthree : (3 : UInt8).toNat = 3 := rfl
    obtain rfl : k = 0 := by omega
    exact absurd hmis (by decide)
  refine ⟨hpush, hread, ?_⟩
  exact (powerSafe_iff _ [red] (by simpa using hpush)).mpr (by simpa using hread) [red]
    (List.prefix_refl _)

/-- A violet with red 18 is stored as `(36, 0, 254)`: its red channel is the
one of pink, so the quantiser leaves it, blue and all. -/
theorem not_powerSafe_violet :
    ButtonPush [0, 1, 1, 16, 3, 18, 0, 127, 0xF7]
      ∧ ¬PowerSafe (sysExCmdBulkXfer (loadDefaultColors ⟨fun _ => 0, fun _ => 0⟩)
        [0, 1, 1, 16, 3, 18, 0, 127, 0xF7]).1 := by
  have hpush : ButtonPush [0, 1, 1, 16, 3, 18, 0, 127, 0xF7] :=
    ⟨1, 1, 16, 3, [18, 0, 127, 0xF7], rfl, Or.inl rfl, by decide, by decide, by decide,
      by decide, by simp⟩
  refine ⟨hpush, bulkXfer_not_powerSafe hpush ?_⟩
  exact ⟨1, 1, 16, 3, [18, 0, 127, 0xF7], rfl, by decide, 0, by decide, by decide⟩

end MidiFighter
