import MidiFighter.Sysex

/-!
# What one packet can do to the receiver

`sysexStep_cases` says once everything a packet can make the receiver do:
ignore it, start a message, reject the rest of one, append bytes, or end
a message with or without acting on it. Each alternative carries the
guards under which it happens (`SysexMove`), and every invariant below is
a case analysis over it - no later proof looks inside the handlers again.

The first property of whole packet sequences that follows is memory safety
(`stores_inBounds_iff`). The room tests keep every store inside the buffer
once `sysex_ptr` points into it. It does so from the first start packet
on, and two of the three end handlers ignore packets outside a message;
`sysex_handle_3e` does not, so the stores are in bounds exactly when no
3-byte end packet comes before the first start packet.
-/

namespace MidiFighter

variable {Fn : Type} {sysExCommandMap : Nat → Option Fn}

/-! ## Moves -/

/-- A packet carrying `0xF0` as its first byte: the start of a message. -/
def EventPacket.isStart (p : EventPacket) : Bool :=
  p.cin = 0x4 ∧ p.data1 = 0xF0

/-- How a handler takes the bytes of a packet into the buffer: in
`State_CheckMID` the first byte must be the third manufacturer ID byte and
is not stored; in every other state but `State_Invalid` all are stored. -/
def Takes (st : SysexState) (bytes : List UInt8) (st' : SysexState) (bs : List UInt8) : Prop :=
  (st = .checkMID ∧ bytes = midiMfrId2 :: bs ∧ st' = .djtt)
    ∨ (st ≠ .invalid ∧ bs = bytes ∧ st' = st)

inductive SysexMove (sysExCommandMap : Nat → Option Fn) (r : Receiver) (p : EventPacket) :
    Receiver × List (SysexEffect Fn) → Prop where
  | idle (h4 : p.cin = 0x4 → r.sysexIsReading = true ∧ r.sysexState = .invalid)
      (h7 : p.cin ≠ 0x7) (hend : p.cin = 0x5 ∨ p.cin = 0x6 → r.sysexIsReading = false) :
      SysexMove sysExCommandMap r p (r, [])
  | start {st : SysexState} (hcin : p.cin = 0x4) (hread : r.sysexIsReading = false)
      (hst : st = .checkMID ∧ p.sysexBytes = [0xF0, midiMfrId0, midiMfrId1]
        ∨ st = .nonRealtime ∨ st = .invalid) :
      SysexMove sysExCommandMap r p
        ({ r with sysexIsReading := true, sysexPtr := some 0, sysexState := st }, [])
  | reject (hcin : p.cin = 0x4) (hread : r.sysexIsReading = true) :
      SysexMove sysExCommandMap r p ({ r with sysexState := .invalid }, [])
  | append {st : SysexState} {bs : List UInt8} (hcin : p.cin = 0x4)
      (hread : r.sysexIsReading = true) (hroom : r.hasRoom bs.length = true)
      (htakes : Takes r.sysexState p.sysexBytes st bs)
      (hmid : r.sysexState = .checkMID → st = .djtt) :
      SysexMove sysExCommandMap r p
        ({ r with sysexState := st }.push bs, storesAt r.sysexPtr bs)
  | discard (hread : p.cin ≠ 0x7 → r.sysexIsReading = true) (h4 : p.cin ≠ 0x4) :
      SysexMove sysExCommandMap r p
        ({ r with sysexIsReading := false, sysexState := .begin }, [])
  | finish {st : SysexState} {bs : List UInt8} (hread : p.cin ≠ 0x7 → r.sysexIsReading = true)
      (h4 : p.cin ≠ 0x4) (hroom : r.hasRoom bs.length = true)
      (htakes : Takes r.sysexState p.sysexBytes st bs) {r₀ : Receiver}
      (hr₀ : r₀ = { r with sysexIsReading := false, sysexState := st }) :
      SysexMove sysExCommandMap r p
        ({ (r₀.process sysExCommandMap bs).1 with sysexState := .begin },
          (r₀.process sysExCommandMap bs).2)

theorem sysexHandle3sc_cases {r : Receiver} {p : EventPacket} (hcin : p.cin = 0x4) :
    SysexMove sysExCommandMap r p (sysexHandle3sc r p) := by
  have hbytes : p.sysexBytes = [p.data1, p.data2, p.data3] := by
    simp [EventPacket.sysexBytes, hcin]
  unfold sysexHandle3sc
  by_cases hread : r.sysexIsReading = false
  · rw [if_pos hread]
    dsimp only
    split
    · exact .start hcin hread (Or.inr (Or.inl rfl))
    · split
      · rename_i hid
        obtain ⟨h1, h2, h3⟩ := hid
        exact .start hcin hread (Or.inl ⟨rfl, by rw [hbytes, h1, h2, h3]⟩)
      · exact .start hcin hread (Or.inr (Or.inr rfl))
  · rw [if_neg hread]
    have hread' : r.sysexIsReading = true := by simpa using hread
    by_cases hmid : r.sysexState = .checkMID
    · rw [if_pos hmid]
      split
      · rename_i hid
        exact .append hcin hread' hid.2
          (Or.inl ⟨hmid, by rw [hbytes, hid.1], rfl⟩) (fun _ => rfl)
      · exact .reject hcin hread'
    · rw [if_neg hmid]
      by_cases hinv : r.sysexState = .invalid
      · rw [if_pos hinv]
        exact .idle (fun _ => ⟨hread', hinv⟩) (by rw [hcin]; decide)
          (fun h => absurd (hcin ▸ h) (by decide))
      · rw [if_neg hinv]
        split
        · rename_i hroom
          exact .append hcin hread' hroom
            (Or.inr ⟨hinv, hbytes.symm, rfl⟩) (fun h => absurd h hmid)
        · exact .reject hcin hread'

theorem sysexHandle3e_cases {r : Receiver} {p : EventPacket} (hcin : p.cin = 0x7) :
    SysexMove sysExCommandMap r p (sysexHandle3e sysExCommandMap r p) := by
  have hbytes : p.sysexBytes = [p.data1, p.data2, p.data3] := by
    simp [EventPacket.sysexBytes, hcin]
  have h4 : p.cin ≠ 0x4 := by rw [hcin]; decide
  unfold sysexHandle3e sysexHandle3eBody
  by_cases hmid : r.sysexState = .checkMID
  · rw [if_pos hmid]
    split
    · rename_i hid
      exact .finish (fun h => absurd hcin h) h4 hid.2
        (Or.inl ⟨hmid, by rw [hbytes, hid.1], rfl⟩) rfl
    · exact .discard (fun h => absurd hcin h) h4
  · rw [if_neg hmid]
    by_cases hinv : r.sysexState = .invalid
    · rw [if_neg (not_not.mpr hinv)]
      exact .discard (fun h => absurd hcin h) h4
    · rw [if_pos hinv]
      split
      · rename_i hroom
        exact .finish (fun h => absurd hcin h) h4 hroom
          (Or.inr ⟨hinv, hbytes.symm, rfl⟩) rfl
      · exact .discard (fun h => absurd hcin h) h4

theorem sysexHandleEnd_cases {r : Receiver} {p : EventPacket}
    (hcin : p.cin = 0x5 ∨ p.cin = 0x6) :
    SysexMove sysExCommandMap r p (sysexHandleEnd sysExCommandMap r p.sysexBytes) := by
  have h4 : p.cin ≠ 0x4 := by rcases hcin with h | h <;> rw [h] <;> decide
  have h7 : p.cin ≠ 0x7 := by rcases hcin with h | h <;> rw [h] <;> decide
  unfold sysexHandleEnd
  by_cases hread : r.sysexIsReading = true
  · rw [if_pos hread]
    by_cases hinv : r.sysexState = .invalid
    · dsimp only
      rw [if_neg (not_not.mpr hinv)]
      exact .discard (fun _ => hread) h4
    · dsimp only
      rw [if_pos hinv]
      split
      · rename_i hroom
        exact .finish (fun _ => hread) h4 hroom (Or.inr ⟨hinv, rfl, rfl⟩) rfl
      · exact .discard (fun _ => hread) h4
  · rw [if_neg hread]
    exact .idle (fun h => absurd h h4) h7 (fun _ => by simpa using hread)

/-- **Everything a packet can do to the receiver.** -/
theorem sysexStep_cases (sysExCommandMap : Nat → Option Fn) (r : Receiver) (p : EventPacket) :
    SysexMove sysExCommandMap r p (sysexStep sysExCommandMap r p) := by
  unfold sysexStep
  split
  · rename_i h4
    exact sysexHandle3sc_cases h4
  · rename_i h4
    split
    · rename_i h5
      have hbytes : p.sysexBytes = [p.data1] := by simp [EventPacket.sysexBytes, h5]
      rw [sysexHandle1e, ← hbytes]
      exact sysexHandleEnd_cases (Or.inl h5)
    · rename_i h5
      split
      · rename_i h6
        have hbytes : p.sysexBytes = [p.data1, p.data2] := by
          simp [EventPacket.sysexBytes, h6]
        rw [sysexHandle2e, ← hbytes]
        exact sysexHandleEnd_cases (Or.inr h6)
      · rename_i h6
        split
        · rename_i h7
          exact sysexHandle3e_cases h7
        · rename_i h7
          exact .idle (fun h => absurd h h4) h7 (fun h => (h.elim h5 h6).elim)

/-! ## Effects -/

theorem mem_storesAt {ptr : Option Nat} {bs : List UInt8} {e : SysexEffect Fn}
    (h : e ∈ storesAt ptr bs) : ∃ q b, e = .store q b := by
  cases ptr with
  | none =>
      obtain ⟨b, -, rfl⟩ := List.mem_map.mp h
      exact ⟨none, b, rfl⟩
  | some p =>
      obtain ⟨i, _, rfl⟩ := List.mem_mapIdx.mp h
      exact ⟨some (p + i), _, rfl⟩

/-- `sysex_handle` calls a handler on the buffer, sends the identity reply,
or does nothing. -/
theorem mem_sysexHandle {r : Receiver} {len : UInt8} {e : SysexEffect Fn}
    (h : e ∈ sysexHandle sysExCommandMap r len) :
    (∃ fn, r.sysexState = .djtt ∧ 0 < len
        ∧ e = .command fn (r.sysexBuffer 0) (len - 1)
          (Cells.slice r.sysexBuffer 1 (len - 1).toNat))
      ∨ e = .send (midiStreamSysex (UInt8.ofNat identifyPayload.length) identifyPayload) := by
  unfold sysexHandle at h
  dsimp only at h
  split at h
  · rename_i hdjtt
    split at h
    · split at h
      · rename_i fn _
        exact Or.inl ⟨fn, hdjtt.1, hdjtt.2, List.mem_singleton.mp h⟩
      · cases h
    · cases h
  · split at h
    · split at h
      · exact Or.inr (List.mem_singleton.mp h)
      · cases h
    · cases h

/-! ## Bounds -/

/-- The stores go to an offset below `MIDI_MAX_SYSEX`, never through
`NULL`, and the length passed to `sysex_handle` is at most 63. -/
def SysexEffect.InBounds : SysexEffect Fn → Prop
  | .store (some p) _ => p < midiMaxSysex
  | .store none _ => False
  | .handle (some n) => n ≤ 63
  | .handle none => False
  | .command .. => True
  | .send _ => True

theorem storesAt_inBounds {p : Nat} {bs : List UInt8} (h : p + bs.length < midiMaxSysex) :
    ∀ e ∈ (storesAt (some p) bs : List (SysexEffect Fn)), e.InBounds := by
  intro e he
  obtain ⟨i, hi, rfl⟩ := List.mem_mapIdx.mp he
  show p + i < midiMaxSysex
  omega

theorem sysexHandle_inBounds {r : Receiver} {n : UInt8} :
    ∀ e ∈ sysexHandle sysExCommandMap r n, e.InBounds := by
  intro e he
  rcases mem_sysexHandle he with ⟨fn, -, -, rfl⟩ | rfl
  · trivial
  · trivial

theorem Receiver.push_some {r : Receiver} {p : Nat} (h : r.sysexPtr = some p) (bs : List UInt8) :
    r.push bs = { r with
      sysexBuffer := Cells.fill r.sysexBuffer p bs
      sysexPtr := some (p + bs.length) } := by
  simp only [Receiver.push, h]

theorem Receiver.hasRoom_some {r : Receiver} {p k : Nat} (h : r.sysexPtr = some p) :
    r.hasRoom k = true ↔ p + k < midiMaxSysex := by
  simp [Receiver.hasRoom, h]

theorem Receiver.process_some {r : Receiver} {p : Nat} (h : r.sysexPtr = some p)
    (bs : List UInt8) :
    r.process sysExCommandMap bs = (r.push bs, storesAt (some p) bs ++
      .handle (some (UInt8.ofNat (p + bs.length))) ::
        sysexHandle sysExCommandMap (r.push bs) (UInt8.ofNat (p + bs.length))) := by
  simp only [Receiver.process, Receiver.length, Receiver.push_some h, h, Option.map_some]

theorem process_inBounds {r : Receiver} {p : Nat} {bs : List UInt8}
    (hp : r.sysexPtr = some p) (hroom : p + bs.length < midiMaxSysex) :
    ∀ e ∈ (r.process sysExCommandMap bs).2, e.InBounds := by
  intro e he
  rw [Receiver.process_some hp] at he
  rcases List.mem_append.mp he with hstore | he
  · exact storesAt_inBounds hroom e hstore
  · rcases List.mem_cons.mp he with rfl | he
    · simp only [midiMaxSysex] at hroom
      have h63 : (63 : UInt8).toNat = 63 := rfl
      rw [SysexEffect.InBounds, UInt8.le_iff_toNat_le, UInt8.toNat_ofNat', h63]
      omega
    · exact sysexHandle_inBounds e he

/-- Once a message has been started, `sysex_ptr` points into the buffer,
with at least one byte of it left. -/
def Receiver.PtrOK (r : Receiver) : Prop :=
  (r.sysexIsReading = true → r.sysexPtr.isSome = true)
    ∧ ∀ p, r.sysexPtr = some p → p < midiMaxSysex

theorem Receiver.PtrOK.push {r : Receiver} {p : Nat} {bs : List UInt8}
    (hp : r.sysexPtr = some p) (hroom : p + bs.length < midiMaxSysex) : (r.push bs).PtrOK := by
  rw [Receiver.push_some hp]
  refine ⟨fun _ => rfl, fun q hq => ?_⟩
  obtain rfl := Option.some.inj hq
  exact hroom

/-- A move that is not a 3-byte end through `NULL` is in bounds and keeps
the pointer invariant. -/
theorem sysexStep_inBounds {r : Receiver} {p : EventPacket} (hr : r.PtrOK)
    (hok : p.cin = 0x7 → r.sysexPtr.isSome = true) :
    (sysexStep sysExCommandMap r p).1.PtrOK
      ∧ ∀ e ∈ (sysexStep sysExCommandMap r p).2, e.InBounds := by
  obtain ⟨hread, hlt⟩ := hr
  generalize hres : sysexStep sysExCommandMap r p = res
  cases hres ▸ sysexStep_cases sysExCommandMap r p with
  | idle => exact ⟨⟨hread, hlt⟩, by simp⟩
  | start =>
      refine ⟨⟨fun _ => rfl, fun q hq => ?_⟩, by simp⟩
      obtain rfl := Option.some.inj hq
      decide
  | reject => exact ⟨⟨hread, hlt⟩, by simp⟩
  | append hcin hr hroom =>
      obtain ⟨q, hq⟩ := Option.isSome_iff_exists.mp (hread hr)
      have hroom' := (Receiver.hasRoom_some hq).mp hroom
      refine ⟨Receiver.PtrOK.push hq hroom', ?_⟩
      rw [hq]
      exact storesAt_inBounds hroom'
  | discard => exact ⟨⟨by simp, hlt⟩, by simp⟩
  | @finish _ _ hr _ hroom _ r₀ hr₀ =>
      -- a 3-byte end has a pointer by `hok`, the shorter ones because a message is open
      have hsome : r.sysexPtr.isSome = true := by
        by_cases h7 : p.cin = 0x7
        · exact hok h7
        · exact hread (hr h7)
      obtain ⟨q, hq⟩ := Option.isSome_iff_exists.mp hsome
      have hroom' := (Receiver.hasRoom_some hq).mp hroom
      have hq₀ : r₀.sysexPtr = some q := by rw [hr₀]; exact hq
      refine ⟨?_, process_inBounds hq₀ hroom'⟩
      rw [Receiver.process_some hq₀]
      exact ⟨by simp [Receiver.push_some hq₀], (Receiver.PtrOK.push hq₀ hroom').2⟩

/-- The pointer leaves `NULL` at a start-or-continue packet and never
returns to it; an open message has one. -/
theorem sysexStep_ptr (sysExCommandMap : Nat → Option Fn) {r : Receiver} (p : EventPacket)
    (hread : r.sysexIsReading = true → r.sysexPtr.isSome = true) :
    ((sysexStep sysExCommandMap r p).1.sysexIsReading = true →
        (sysexStep sysExCommandMap r p).1.sysexPtr.isSome = true)
      ∧ (r.sysexPtr.isSome = true ∨ p.cin = 0x4 →
        (sysexStep sysExCommandMap r p).1.sysexPtr.isSome = true) := by
  have hpush : ∀ (q : Receiver) (bs : List UInt8), q.sysexPtr.isSome = true →
      (q.push bs).sysexPtr.isSome = true := by
    intro q bs hq
    obtain ⟨k, hk⟩ := Option.isSome_iff_exists.mp hq
    rw [Receiver.push_some hk]
    rfl
  generalize hres : sysexStep sysExCommandMap r p = res
  cases hres ▸ sysexStep_cases sysExCommandMap r p with
  | idle h4 => exact ⟨hread, fun h => h.elim id fun h => hread (h4 h).1⟩
  | start => exact ⟨fun _ => rfl, fun _ => rfl⟩
  | reject _ hr => exact ⟨hread, fun _ => hread hr⟩
  | append _ hr => exact ⟨fun _ => hpush _ _ (hread hr), fun _ => hpush _ _ (hread hr)⟩
  | discard _ h4 => exact ⟨by simp, fun h => h.elim id fun h => absurd h h4⟩
  | @finish _ _ _ h4 _ _ r₀ hr₀ =>
      have hr : r₀.sysexIsReading = false := by rw [hr₀]
      refine ⟨fun h => ?_, fun h => h.elim (fun h => ?_) fun h => absurd h h4⟩
      · simp only [Receiver.process, Receiver.push] at h
        split at h <;> simp [hr] at h
      · exact hpush _ _ (by rw [hr₀]; exact h)

theorem final_ptr_isSome {ps : List EventPacket} : ∀ {r : Receiver},
    (r.sysexIsReading = true → r.sysexPtr.isSome = true) →
    r.sysexPtr.isSome = true ∨ (∃ q ∈ ps, q.cin = 0x4) →
      (Machine.final (sysexStep sysExCommandMap) r ps).sysexPtr.isSome = true := by
  induction ps with
  | nil => intro r _ h; simpa using h
  | cons p ps ih =>
      intro r hread h
      obtain ⟨hread', hsome⟩ := sysexStep_ptr sysExCommandMap p hread
      refine ih hread' ?_
      rcases h with h | ⟨q, hq, h4⟩
      · exact Or.inl (hsome (Or.inl h))
      · rcases List.mem_cons.mp hq with rfl | hq
        · exact Or.inl (hsome (Or.inr h4))
        · exact Or.inr ⟨q, hq, h4⟩

/-- Without a start packet before it, a 3-byte end is handled in the boot
state: it stores through `NULL`. -/
theorem null_store_of_end_first {p : EventPacket} (h7 : p.cin = 0x7) (post : List EventPacket) :
    ∀ {pre : List EventPacket}, (∀ q ∈ pre, q.cin ≠ 0x4) →
      ∃ e ∈ Machine.outputs (sysexStep sysExCommandMap) Receiver.boot (pre ++ p :: post),
        ¬e.InBounds := by
  have hstore : ∀ q : EventPacket, q.cin = 0x7 →
      SysexEffect.store none q.data1 ∈ (sysexStep sysExCommandMap Receiver.boot q).2 := by
    intro q hq
    simp [sysexStep, hq, sysexHandle3e, sysexHandle3eBody, Receiver.boot, Receiver.hasRoom,
      Receiver.process, storesAt]
  intro pre
  induction pre with
  | nil =>
      intro _
      exact ⟨_, List.mem_append_left _ (hstore p h7), id⟩
  | cons q pre ih =>
      intro h4
      by_cases hq : q.cin = 0x7
      · exact ⟨_, List.mem_append_left _ (hstore q hq), id⟩
      · have hidle : sysexStep sysExCommandMap Receiver.boot q = (Receiver.boot, []) := by
          have hq4 := h4 q (List.mem_cons_self ..)
          simp [sysexStep, hq, hq4, sysexHandle1e, sysexHandle2e, sysexHandleEnd, Receiver.boot]
        obtain ⟨e, he, hbad⟩ := ih fun q' hq' => h4 q' (List.mem_cons_of_mem _ hq')
        refine ⟨e, ?_, hbad⟩
        rw [List.cons_append, Machine.outputs_cons, hidle]
        exact he

/-- **Bounds.** From boot, every byte stored through `sysex_ptr` lands in
`sysex_buffer` and every length passed to `sysex_handle` is at most 63
exactly when each 3-byte end packet has a start packet before it. -/
theorem stores_inBounds_iff (sysExCommandMap : Nat → Option Fn) (ps : List EventPacket) :
    (∀ e ∈ Machine.outputs (sysexStep sysExCommandMap) Receiver.boot ps, e.InBounds) ↔
      ∀ pre p post, ps = pre ++ p :: post → p.cin = 0x7 → ∃ q ∈ pre, q.cin = 0x4 := by
  constructor
  · intro hsafe pre p post hps h7
    by_contra hno
    obtain ⟨e, he, hbad⟩ := null_store_of_end_first h7 post fun q hq h4 => hno ⟨q, hq, h4⟩
    exact hbad (hsafe e (hps ▸ he))
  · intro hstart
    have hboot : Receiver.boot.sysexIsReading = true → Receiver.boot.sysexPtr.isSome = true :=
      fun h => nomatch h
    have hptr : Receiver.boot.PtrOK := ⟨hboot, fun p hp => nomatch hp⟩
    have halong : Machine.Along (sysexStep sysExCommandMap)
        (fun r p => p.cin = 0x7 → r.sysexPtr.isSome = true) Receiver.boot ps := by
      rw [Machine.along_iff_forall]
      intro pre p post hps h7
      exact final_ptr_isSome hboot (Or.inr (hstart pre p post hps h7))
    exact Machine.outputs_safe Receiver.PtrOK SysexEffect.InBounds
      (fun r p hr hok => (sysexStep_inBounds hr hok).1)
      (fun r p hr hok => (sysexStep_inBounds hr hok).2) hptr halong

/-- A 3-byte end packet right after boot. -/
theorem stores_not_inBounds_at_boot :
    ¬∀ e ∈ Machine.outputs (sysexStep configSetup) Receiver.boot [⟨0x7, 0x01, 0x02, 0xF7⟩],
      e.InBounds := by
  intro h
  exact h (.store none 0x01) (by decide)

end MidiFighter
