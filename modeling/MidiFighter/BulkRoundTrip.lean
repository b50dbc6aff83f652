import MidiFighter.Receive

/-!
# Colour dump and restore

A PULL sends a colour table as 16 messages that are themselves PUSH
messages, so a dump can be sent back to restore it. This file closes that
loop: `sysExCmdBulkXfer` on one device, the packet encoder, the packet
switch and the sysex receiver of another device, and `sysExCmdBulkXfer`
there.

The colours survive for a reason outside the protocol: a PULL scales a
channel by 127/48 with truncation, a PUSH doubles it and quantises the
result, and on the 20 palette colours the quantiser undoes the loss
(`adjustedRgb_scaled`). Everything else is bookkeeping: the loop of the
PULL is a list of 16 bodies (`bulkPull_eq`), the receiver makes one call
for each (`calls_dump`), and the calls write the 16 slots of the table
one after the other (`pushParts_read`).
-/

namespace MidiFighter

/-! ## Messages of a dump -/

/-- The body of part `part`, with the 24 table bytes from `index` on. -/
def partBody (tag : UInt8) (source : Nat → UInt8) (part index : Nat) : List UInt8 :=
  [sysexCommandBulkXfer, 0x0, tag, UInt8.ofNat part, 16, 24] ++
    (List.range 24).map fun k => scaleOut (source (index + k))

def streamMessage (body : List UInt8) : List EventPacket :=
  midiStreamSysex (UInt8.ofNat (djttMessage body).length) (djttMessage body)

theorem length_partBody (tag : UInt8) (source : Nat → UInt8) (part index : Nat) :
    (partBody tag source part index).length = 30 := by
  simp [partBody]

theorem bulkPullLoop_eq (tag : UInt8) (source : Nat → UInt8) : ∀ (n part index : Nat),
    bulkPullLoop tag source 16 (List.range' part n) (24 * n) index =
      (List.range n).flatMap fun j =>
        streamMessage (partBody tag source (part + j) (index + 24 * j))
  | 0, _, _ => rfl
  | n + 1, part, index => by
      have hsize : (if 24 * (n + 1) > 24 then 24 else 24 * (n + 1)) = 24 := by
        split <;> omega
      have hrest : 24 * (n + 1) - 24 = 24 * n := by omega
      have hmsg : midiStreamSysex (UInt8.ofNat (11 + 24)) (pullPayload tag part 16 24
            ((List.range 24).map fun k => scaleOut (source (index + k))))
          = streamMessage (partBody tag source part index) := by
        have hpayload : pullPayload tag part 16 24
            ((List.range 24).map fun k => scaleOut (source (index + k)))
            = djttMessage (partBody tag source part index) := by
          simp [pullPayload, djttMessage, partBody]
        have hlen : (djttMessage (partBody tag source part index)).length = 11 + 24 := by
          simp [djttMessage, djttHeader, partBody]
        rw [streamMessage, hpayload, hlen]
      rw [List.range'_succ, bulkPullLoop, hsize, hrest, hmsg, bulkPullLoop_eq tag source n,
        List.range_succ_eq_map, List.flatMap_cons, List.flatMap_map]
      have hnext : ∀ j, partBody tag source (part + 1 + j) (index + 24 + 24 * j)
          = partBody tag source (part + j.succ) (index + 24 * j.succ) := by
        intro j
        rw [show part + 1 + j = part + j.succ by omega,
          show index + 24 + 24 * j = index + 24 * j.succ by omega]
      simp only [hnext]
      rfl

def dumpBodies (tag : UInt8) (source : Nat → UInt8) : List (List UInt8) :=
  (List.range 16).map fun j => partBody tag source (j + 1) (24 * j)

namespace ColorTables

variable (t : ColorTables) (tag : UInt8) (m : Nat → UInt8)

def selected : Nat → UInt8 := if tag = 1 then t.defaultBankInactive else t.defaultBankActive

def other : Nat → UInt8 := if tag = 1 then t.defaultBankActive else t.defaultBankInactive

def setSelected : ColorTables :=
  if tag = 1 then { t with defaultBankInactive := m } else { t with defaultBankActive := m }

@[simp] theorem selected_setSelected : (t.setSelected tag m).selected tag = m := by
  unfold selected setSelected
  split <;> rfl

@[simp] theorem other_setSelected : (t.setSelected tag m).other tag = t.other tag := by
  unfold other setSelected
  split <;> rfl

@[simp] theorem setSelected_setSelected (m' : Nat → UInt8) :
    (t.setSelected tag m).setSelected tag m' = t.setSelected tag m' := by
  unfold setSelected
  split <;> rfl

@[simp] theorem setSelected_selected : t.setSelected tag (t.selected tag) = t := by
  unfold setSelected selected
  split <;> rfl

end ColorTables

theorem bulkPull_eq (t : ColorTables) {tag : UInt8} (htag : tag = 1 ∨ tag = 2) :
    bulkPull t tag = (dumpBodies tag (t.selected tag)).flatMap streamMessage := by
  have hloop : ∀ source, bulkPullLoop tag source 16 (List.range' 1 16) (24 * 16) 0
      = (dumpBodies tag source).flatMap streamMessage := by
    intro source
    rw [bulkPullLoop_eq, dumpBodies, List.flatMap_map]
    simp only [Nat.zero_add, Nat.add_comm 1]
  rcases htag with rfl | rfl
  · exact hloop t.defaultBankInactive
  · exact hloop t.defaultBankActive

/-! ## Receiving a dump -/

theorem calls_messages (sysExCommandMap : Nat → Option SysExFn) :
    ∀ {bodies : List (List UInt8)} {r : Receiver}, r.sysexIsReading = false →
      (∀ body ∈ bodies, body ≠ [] ∧ body.length + 5 ≤ 255) →
        (Machine.outputs (sysexStep sysExCommandMap) r
            (bodies.flatMap streamMessage)).filterMap SysexEffect.call?
          = bodies.flatMap fun body => dispatched sysExCommandMap (body ++ [0xF7])
  | [], _, _, _ => rfl
  | body :: bodies, r, hread, h => by
      obtain ⟨⟨hne, hlen⟩, hrest⟩ := List.forall_mem_cons.mp h
      have hanswers : Answers sysExCommandMap r (streamMessage body)
          (dispatched sysExCommandMap (body ++ [0xF7])) :=
        answers_djttMessage sysExCommandMap hread hne hlen
      rw [List.flatMap_cons, List.flatMap_cons, Machine.outputs_append, List.filterMap_append,
        hanswers.calls_eq, calls_messages sysExCommandMap hanswers.closed hrest]

theorem dispatched_partBody (tag : UInt8) (source : Nat → UInt8) (part index : Nat) :
    dispatched configSetup (partBody tag source part index ++ [0xF7]) =
      [⟨.sysExCmdBulkXfer, sysexCommandBulkXfer, 30,
        (partBody tag source part index).tail ++ [0xF7]⟩] := by
  have hlen : ((partBody tag source part index).tail ++ [0xF7]).length = 30 := by
    simp [partBody]
  have hfits : 30 + 1 < midiMaxSysex ∧ 0 < sysexCommandBulkXfer
      ∧ sysexCommandBulkXfer ≤ maxCommand := by decide
  have hfn : configSetup (sysexCommandBulkXfer - 1).toNat = some .sysExCmdBulkXfer := by decide
  have hcons : partBody tag source part index ++ [0xF7]
      = sysexCommandBulkXfer :: ((partBody tag source part index).tail ++ [0xF7]) := rfl
  rw [hcons, dispatched, hlen, if_pos hfits, hfn]
  rfl

theorem calls_dump {r : Receiver} (hread : r.sysexIsReading = false) (tag : UInt8)
    (source : Nat → UInt8) :
    (Machine.outputs (sysexStep configSetup) r
        ((dumpBodies tag source).flatMap streamMessage)).filterMap SysexEffect.call?
      = (dumpBodies tag source).map fun body =>
        ⟨.sysExCmdBulkXfer, sysexCommandBulkXfer, 30, body.tail ++ [0xF7]⟩ := by
  rw [calls_messages configSetup hread]
  · rw [dumpBodies, List.flatMap_map, List.map_map, List.map_eq_flatMap]
    simp only [dispatched_partBody, Function.comp_apply]
  · intro body hbody
    obtain ⟨j, -, rfl⟩ := List.mem_map.mp hbody
    have hlen := length_partBody tag source (j + 1) (24 * j)
    refine ⟨fun hnil => ?_, by omega⟩
    rw [hnil] at hlen
    cases hlen

theorem runCalls_colors : ∀ {calls : List (CommandCall SysExFn)} {d : Device},
    (∀ call ∈ calls, call.fn = .sysExCmdBulkXfer) →
      (Machine.final runCall d calls).store.colors =
        Machine.final sysExCmdBulkXfer d.store.colors (calls.map CommandCall.buffer)
  | [], _, _ => rfl
  | ⟨fn, c, n, buffer⟩ :: calls, d, h => by
      obtain ⟨rfl, htail⟩ := List.forall_mem_cons.mp h
      rw [Machine.final_cons, runCalls_colors htail]
      rfl

/-! ## The restored table -/

/-- Doubling and quantising a palette colour that was scaled for sending
gives it back. -/
theorem adjustedRgb_scaled : ∀ c ∈ palette,
    adjustedRgb ⟨scaleOut c.r * 2, scaleOut c.g * 2, scaleOut c.b * 2⟩ = c := by
  decide

def dumpPayload (source : Nat → UInt8) (j : Nat) : List UInt8 :=
  ((List.range 24).map fun k => scaleOut (source (24 * j + k))) ++ [0xF7]

def pushParts (source m : Nat → UInt8) (n : Nat) : Nat → UInt8 :=
  (List.range n).foldl (fun m j => pushPart (UInt8.ofNat (j + 1)) 24 (dumpPayload source j) m) m

theorem pushParts_succ (source m : Nat → UInt8) (n : Nat) :
    pushParts source m (n + 1)
      = pushPart (UInt8.ofNat (n + 1)) 24 (dumpPayload source n) (pushParts source m n) := by
  rw [pushParts, List.range_succ, List.foldl_append, List.foldl_cons, List.foldl_nil, pushParts]

theorem toNat_part {j : Nat} (hj : j < 16) : (UInt8.ofNat (j + 1)).toNat = j + 1 :=
  UInt8.toNat_ofNat_of_lt' (Nat.lt_of_le_of_lt hj (by decide))

theorem accepted_dump (source : Nat → UInt8) {j : Nat} (hj : j < 16) :
    Accepted (UInt8.ofNat (j + 1)) 24 (dumpPayload source j) := by
  have hnat := toNat_part hj
  refine ⟨by simp [dumpPayload], fun h0 => ?_, ?_, by simp [dumpPayload]⟩
  · rw [h0] at hnat
    cases hnat
  · rw [UInt8.le_iff_toNat_le, hnat]
    exact hj

theorem pushedRgb_dump (source : Nat → UInt8) {j k : Nat} (hk : k < 8) :
    pushedRgb (dumpPayload source j) k =
      ⟨scaleOut (source (3 * (8 * j + k))) * 2, scaleOut (source (3 * (8 * j + k) + 1)) * 2,
        scaleOut (source (3 * (8 * j + k) + 2)) * 2⟩ := by
  have hget : ∀ i < 24, (dumpPayload source j).getD i 0 = scaleOut (source (24 * j + i)) := by
    intro i hi
    simp [dumpPayload, List.getD_eq_getElem?_getD, List.getElem?_append, hi]
  have hindex : 24 * j + 3 * k = 3 * (8 * j + k) := by omega
  rw [pushedRgb, hget _ (by omega), hget _ (by omega), hget _ (by omega), ← Nat.add_assoc,
    ← Nat.add_assoc, hindex]

/-- After `n` parts the first `8 * n` buttons are restored. The step splits
the buttons into those of earlier parts, which the next part frames, and
its own. -/
theorem pushParts_read {source : Nat → UInt8} (hsource : InPalette source) (m : Nat → UInt8) :
    ∀ {n : Nat}, n ≤ 16 → ∀ k < 8 * n,
      readRgb (pushParts source m n) (3 * k) = readRgb source (3 * k)
  | 0, _, k, hk => absurd hk (Nat.not_lt_zero k)
  | n + 1, hn, k, hk => by
      have hacc := accepted_dump source (Nat.lt_of_succ_le hn)
      have hslot := bankCell_part hacc.2.1 hacc.2.2.1
      have h24 : (24 : UInt8).toNat = 24 := rfl
      rw [toNat_part (Nat.lt_of_succ_le hn)] at hslot
      rw [pushParts_succ]
      by_cases hold : k < 8 * n
      · rw [← pushParts_read hsource m (Nat.le_of_succ_le hn) k hold]
        refine readRgb_congr fun a ha => pushPart_frame _ _ (Or.inl ?_)
        omega
      · have hcell : bankCell (partBank (UInt8.ofNat (n + 1)))
            (partOffset (UInt8.ofNat (n + 1))) + 3 * (k - 8 * n) = 3 * k := by omega
        have hbutton : 8 * n + (k - 8 * n) = k := by omega
        have hread : readRgb (pushPart (UInt8.ofNat (n + 1)) 24 (dumpPayload source n)
              (pushParts source m n)) (bankCell (partBank (UInt8.ofNat (n + 1)))
              (partOffset (UInt8.ofNat (n + 1))) + 3 * (k - 8 * n))
            = adjustedRgb (pushedRgb (dumpPayload source n) (k - 8 * n)) :=
          pushPart_read _ _ (by omega)
        rw [hcell, pushedRgb_dump source (by omega), hbutton] at hread
        rw [hread]
        exact adjustedRgb_scaled (readRgb source (3 * k)) (hsource k (by omega))

theorem tail_partBody (tag : UInt8) (source : Nat → UInt8) (j : Nat) :
    (partBody tag source (j + 1) (24 * j)).tail ++ [0xF7] =
      0 :: tag :: UInt8.ofNat (j + 1) :: 16 :: 24 :: dumpPayload source j := by
  simp [partBody, dumpPayload]

theorem bulkPush_selected {tag part size : UInt8} {payload : List UInt8}
    (hacc : Accepted part size payload) (htag : tag = 1 ∨ tag = 2) (t : ColorTables)
    (total : UInt8) :
    bulkPush t (tag :: part :: total :: size :: payload)
      = t.setSelected tag (pushPart part size payload (t.selected tag)) := by
  rcases htag with rfl | rfl
  · exact bulkPush_inactive hacc t total
  · exact bulkPush_active hacc t total

/-- The calls of a dump fill the selected table part by part. -/
theorem final_dump {tag : UInt8} (htag : tag = 1 ∨ tag = 2) (source : Nat → UInt8)
    (t : ColorTables) : ∀ {n : Nat}, n ≤ 16 →
      Machine.final sysExCmdBulkXfer t
          ((List.range n).map fun j => (partBody tag source (j + 1) (24 * j)).tail ++ [0xF7])
        = t.setSelected tag (pushParts source (t.selected tag) n)
  | 0, _ => by simp [pushParts]
  | n + 1, hn => by
      have hacc := accepted_dump source (Nat.lt_of_succ_le hn)
      rw [List.range_succ, List.map_append, Machine.final_append,
        final_dump htag source t (Nat.le_of_succ_le hn), List.map_singleton, Machine.final_cons,
        Machine.final_nil, tail_partBody, bulkXfer_push, bulkPush_selected hacc htag,
        ColorTables.selected_setSelected, ColorTables.setSelected_setSelected, pushParts_succ]

/-! ## Round trip -/

theorem midiStreamSysexLoop_isSysex : ∀ {data : List UInt8},
    ∀ p ∈ midiStreamSysexLoop false data, p.IsSysex
  | d1 :: d2 :: d3 :: d4 :: rest, p, hp => by
      rw [midiStreamSysexLoop, List.mem_cons] at hp
      rcases hp with rfl | hp
      · exact Or.inl (by decide : (0x4 &&& 0x0F : UInt8) = 0x4)
      · exact midiStreamSysexLoop_isSysex p hp
  | [d1, d2, d3], p, hp => by
      obtain rfl := List.mem_singleton.mp hp
      exact Or.inr (Or.inr (Or.inr (by decide : (0x7 &&& 0x0F : UInt8) = 0x7)))
  | [d1, d2], p, hp => by
      obtain rfl := List.mem_singleton.mp hp
      exact Or.inr (Or.inr (Or.inl (by decide : (0x6 &&& 0x0F : UInt8) = 0x6)))
  | [d1], p, hp => by
      obtain rfl := List.mem_singleton.mp hp
      exact Or.inr (Or.inl (by decide : (0x5 &&& 0x0F : UInt8) = 0x5))

theorem dump_isSysex (tag : UInt8) (source : Nat → UInt8) :
    ∀ p ∈ (dumpBodies tag source).flatMap streamMessage, p.IsSysex := by
  intro p hp
  obtain ⟨body, hbody, hp⟩ := List.mem_flatMap.mp hp
  obtain ⟨j, -, rfl⟩ := List.mem_map.mp hbody
  have hlen := length_partBody tag source (j + 1) (24 * j)
  rw [streamMessage, midiStreamSysex_djttMessage (by omega), List.mem_cons] at hp
  rcases hp with rfl | hp
  · exact Or.inl (by decide : (0x4 &&& 0x0F : UInt8) = 0x4)
  · exact midiStreamSysexLoop_isSysex p hp

/-- **Dump and restore.** A table of palette colours pulled from one device
and sent to another, whatever that one holds, arrives unchanged, and the
other table of the receiving device is left alone. -/
theorem bulk_roundTrip {tag : UInt8} (htag : tag = 1 ∨ tag = 2) (t : ColorTables)
    (hpalette : InPalette (t.selected tag)) (l : Link)
    (hboot : l.device.inBootloader = false) (hread : l.receiver.sysexIsReading = false)
    (rxs : List Received)
    (hrxs : rxs.map Received.packet = (sysExCmdBulkXfer t [1, tag, 0xF7]).2) :
    let colors := (Machine.final receivePacket l rxs).device.store.colors
    (∀ i < 384, colors.selected tag i = t.selected tag i)
      ∧ colors.other tag = l.device.store.colors.other tag := by
  intro colors
  have hpackets : rxs.map Received.packet
      = (dumpBodies tag (t.selected tag)).flatMap streamMessage := by
    rw [hrxs, ← bulkPull_eq t htag]
    rfl
  have hcalls := calls_dump hread tag (t.selected tag)
  rw [← hpackets] at hcalls
  have hfn : ∀ call ∈ (Machine.outputs (sysexStep configSetup) l.receiver
      (rxs.map Received.packet)).filterMap SysexEffect.call?, call.fn = .sysExCmdBulkXfer := by
    intro call hcall
    rw [hcalls] at hcall
    obtain ⟨body, -, rfl⟩ := List.mem_map.mp hcall
    rfl
  have hsysex : ∀ rx ∈ rxs, rx.packet.IsSysex := by
    intro rx hrx
    refine dump_isSysex tag (t.selected tag) _ ?_
    rw [← hpackets]
    exact List.mem_map_of_mem hrx
  have hcolors : colors = l.device.store.colors.setSelected tag
      (pushParts (t.selected tag) (l.device.store.colors.selected tag) 16) := by
    have hfinal := receivePackets_sysex hboot hsysex fun call hcall =>
      by rw [hfn call hcall]; decide
    have hbuffers := runCalls_colors (d := l.device) hfn
    rw [hcalls, dumpBodies, List.map_map, List.map_map] at hbuffers
    rw [← final_dump htag (t.selected tag) l.device.store.colors (Nat.le_refl 16)]
    simp only [colors, hfinal, hcalls, dumpBodies, List.map_map]
    exact hbuffers
  rw [hcolors, ColorTables.selected_setSelected, ColorTables.other_setSelected]
  refine ⟨fun i hi => ?_, rfl⟩
  have hread := pushParts_read hpalette (l.device.store.colors.selected tag) (Nat.le_refl 16)
    (i / 3) (by omega)
  obtain ⟨h0, h1, h2⟩ := Rgb.mk.inj hread
  obtain hi | hi | hi : i = 3 * (i / 3) ∨ i = 3 * (i / 3) + 1 ∨ i = 3 * (i / 3) + 2 := by omega
  · rw [hi]
    exact h0
  · rw [hi]
    exact h1
  · rw [hi]
    exact h2

/-- The factory colours of the pressed buttons, restored to a device that
holds zeros. -/
theorem bulk_roundTrip_factory :
    let t := loadDefaultColors ⟨fun _ => 0, fun _ => 0⟩
    let l : Link := ⟨Device.start ⟨fun _ => 0, 0, fun _ => 0, ⟨fun _ => 0, fun _ => 0⟩⟩, .boot⟩
    let rxs := (sysExCmdBulkXfer t [1, 2, 0xF7]).2.map (Received.mk 0)
    ∀ i < 384, (Machine.final receivePacket l rxs).device.store.colors.defaultBankActive i
      = t.defaultBankActive i :=
  (bulk_roundTrip (Or.inr rfl) (loadDefaultColors ⟨fun _ => 0, fun _ => 0⟩)
    (loadBanks_inPalette .blue .green _)
    ⟨Device.start ⟨fun _ => 0, 0, fun _ => 0, ⟨fun _ => 0, fun _ => 0⟩⟩, .boot⟩ rfl rfl
    ((sysExCmdBulkXfer (loadDefaultColors ⟨fun _ => 0, fun _ => 0⟩) [1, 2, 0xF7]).2.map
      (Received.mk 0))
    (by rw [List.map_map]; exact List.map_id _)).1

end MidiFighter
