import MidiFighter.SysexFraming

/-!
# Encoder and receiver

`midi_stream_sysex` cuts a message into packets and the four handlers put
it together again. This file composes the two for the messages the device
exchanges with its editor, `F0 00 01 79 body F7`, whatever the receiver's
buffer and pointer hold from earlier messages.

The meeting point is `dispatched`, the calls a complete payload is due:
one call of the installed handler if the payload is shorter than the
buffer, none otherwise. `answers_loop` feeds the packets of a payload tail
to a receiver that has collected the payload so far; its induction follows
the packet loop of the encoder, and a message that runs out of room on the
way falls into `State_Invalid`, from where `answers_invalid` takes over.
-/

namespace MidiFighter

variable {Fn : Type}

/-! ## Calls -/

structure CommandCall (Fn : Type) where
  fn : Fn
  command : UInt8
  length : UInt8
  buffer : List UInt8
deriving Repr, DecidableEq

def SysexEffect.call? : SysexEffect Fn → Option (CommandCall Fn)
  | .command fn c n buffer => some ⟨fn, c, n, buffer⟩
  | _ => none

/-- The calls the payload of a complete DJTT message is due. -/
def dispatched (sysExCommandMap : Nat → Option Fn) : List UInt8 → List (CommandCall Fn)
  | [] => []
  | command :: args =>
      if args.length + 1 < midiMaxSysex ∧ 0 < command ∧ command ≤ maxCommand then
        match sysExCommandMap (command - 1).toNat with
        | some fn => [⟨fn, command, UInt8.ofNat args.length, args⟩]
        | none => []
      else []

/-- Receiving `packets` in state `r` makes exactly the calls `calls` and
leaves no message open. -/
structure Answers (sysExCommandMap : Nat → Option Fn) (r : Receiver)
    (packets : List EventPacket) (calls : List (CommandCall Fn)) : Prop where
  calls_eq : (Machine.outputs (sysexStep sysExCommandMap) r packets).filterMap
    SysexEffect.call? = calls
  state : (Machine.final (sysexStep sysExCommandMap) r packets).sysexState = .begin
  closed : (Machine.final (sysexStep sysExCommandMap) r packets).sysexIsReading = false

variable {sysExCommandMap : Nat → Option Fn}

theorem storesAt_calls (ptr : Option Nat) (bs : List UInt8) :
    (storesAt ptr bs : List (SysexEffect Fn)).filterMap SysexEffect.call? = [] := by
  rw [List.filterMap_eq_nil_iff]
  intro e he
  obtain ⟨_, _, rfl⟩ := mem_storesAt he
  rfl

theorem Answers.cons {r : Receiver} {p : EventPacket} {packets : List EventPacket}
    {calls : List (CommandCall Fn)}
    (hcalls : (sysexStep sysExCommandMap r p).2.filterMap SysexEffect.call? = [])
    (h : Answers sysExCommandMap (sysexStep sysExCommandMap r p).1 packets calls) :
    Answers sysExCommandMap r (p :: packets) calls := by
  refine ⟨?_, h.state, h.closed⟩
  rw [Machine.outputs_cons, List.filterMap_append, hcalls, List.nil_append, h.calls_eq]

theorem Answers.last {r : Receiver} {p : EventPacket} {calls : List (CommandCall Fn)}
    (hcalls : (sysexStep sysExCommandMap r p).2.filterMap SysexEffect.call? = calls)
    (hstate : (sysexStep sysExCommandMap r p).1.sysexState = .begin)
    (hclosed : (sysexStep sysExCommandMap r p).1.sysexIsReading = false) :
    Answers sysExCommandMap r [p] calls := by
  refine ⟨?_, hstate, hclosed⟩
  rw [Machine.outputs_cons, Machine.outputs_nil, List.append_nil, hcalls]

/-! ## The end packet -/

/-- Acting on a buffer that holds `payload` makes the calls it is due. -/
theorem sysexHandle_calls {r : Receiver} {payload : List UInt8}
    (hst : r.sysexState = .djtt) (hlen : payload.length < midiMaxSysex)
    (hbuf : Cells.slice r.sysexBuffer 0 payload.length = payload) :
    (sysexHandle sysExCommandMap r (UInt8.ofNat payload.length)).filterMap SysexEffect.call?
      = dispatched sysExCommandMap payload := by
  cases payload with
  | nil => simp [sysexHandle, hst, dispatched]
  | cons command args =>
      rw [List.length_cons, Cells.slice_succ] at hbuf
      obtain ⟨hcmd, hargs⟩ := List.cons.inj hbuf
      rw [List.length_cons] at hlen
      have hmax : args.length + 1 < 64 := hlen
      have hpos : (0 : UInt8) < UInt8.ofNat (args.length + 1) := by
        rw [UInt8.lt_iff_toNat_lt, UInt8.toNat_ofNat']
        have h0 : (0 : UInt8).toNat = 0 := rfl
        omega
      have hpred : UInt8.ofNat (args.length + 1) - 1 = UInt8.ofNat args.length := by
        rw [UInt8.ofNat_add]
        exact UInt8.add_sub_cancel _ 1
      have hnat : (UInt8.ofNat args.length).toNat = args.length :=
        UInt8.toNat_ofNat_of_lt' (Nat.lt_trans (Nat.lt_of_succ_lt hmax) (by decide))
      rw [sysexHandle, if_pos ⟨hst, by rw [List.length_cons]; exact hpos⟩]
      simp only [List.length_cons, hcmd, hpred, hnat, dispatched, hlen, true_and]
      split
      · cases sysExCommandMap (command - 1).toNat with
        | none => rfl
        | some fn =>
            rw [Nat.zero_add] at hargs
            simp [SysexEffect.call?, hargs]
      · rfl

theorem process_calls {r : Receiver} {payload bs : List UInt8} (hst : r.sysexState = .djtt)
    (hptr : r.sysexPtr = some payload.length)
    (hbuf : Cells.slice r.sysexBuffer 0 payload.length = payload)
    (hroom : payload.length + bs.length < midiMaxSysex) :
    (r.process sysExCommandMap bs).2.filterMap SysexEffect.call?
      = dispatched sysExCommandMap (payload ++ bs) := by
  have hlen : payload.length + bs.length = (payload ++ bs).length := List.length_append.symm
  rw [Receiver.process_some hptr, List.filterMap_append, storesAt_calls, List.nil_append,
    List.filterMap_cons_none rfl, hlen]
  rw [hlen] at hroom
  refine sysexHandle_calls ?_ hroom ?_
  · rw [Receiver.push_some hptr]
    exact hst
  · rw [Receiver.push_some hptr, List.length_append, Cells.slice_fill_append, hbuf]

theorem dispatched_of_le {payload : List UInt8} (h : midiMaxSysex ≤ payload.length) :
    dispatched sysExCommandMap payload = [] := by
  cases payload with
  | nil => rfl
  | cons command args =>
      rw [dispatched, if_neg]
      rintro ⟨hlt, -⟩
      exact absurd h (Nat.not_le.mpr hlt)

/-! ## Packets of an open message -/

section

variable (sysExCommandMap) (r : Receiver) (d1 d2 d3 : UInt8)

theorem sysexStep_cin4 :
    sysexStep sysExCommandMap r ⟨0x4, d1, d2, d3⟩ = sysexHandle3sc r ⟨0x4, d1, d2, d3⟩ := by
  simp [sysexStep, EventPacket.cin_mk]

theorem sysexStep_cin5 :
    sysexStep sysExCommandMap r ⟨0x5, d1, d2, d3⟩ = sysexHandleEnd sysExCommandMap r [d1] := by
  simp [sysexStep, EventPacket.cin_mk, sysexHandle1e]

theorem sysexStep_cin6 :
    sysexStep sysExCommandMap r ⟨0x6, d1, d2, d3⟩
      = sysexHandleEnd sysExCommandMap r [d1, d2] := by
  simp [sysexStep, EventPacket.cin_mk, sysexHandle2e]

theorem sysexStep_cin7 :
    sysexStep sysExCommandMap r ⟨0x7, d1, d2, d3⟩
      = sysexHandle3e sysExCommandMap r ⟨0x7, d1, d2, d3⟩ := by
  simp [sysexStep, EventPacket.cin_mk]

end

theorem answers_invalid : ∀ {data : List UInt8} {r : Receiver}, data ≠ [] →
    r.sysexState = .invalid → r.sysexIsReading = true →
      Answers sysExCommandMap r (midiStreamSysexLoop false data) []
  | d1 :: d2 :: d3 :: d4 :: rest, r, _, hst, hread => by
      have hstep : sysexStep sysExCommandMap r ⟨0x4, d1, d2, d3⟩ = (r, []) := by
        simp [sysexStep_cin4, sysexHandle3sc, hst, hread]
      refine .cons (by rw [hstep]; rfl) ?_
      rw [hstep]
      exact answers_invalid (List.cons_ne_nil d4 rest) hst hread
  | [d1, d2, d3], r, _, hst, _ => by
      refine .last ?_ ?_ ?_ <;>
        simp [sysexStep_cin7, sysexHandle3e, sysexHandle3eBody, hst]
  | [d1, d2], r, _, hst, hread => by
      refine .last ?_ ?_ ?_ <;> simp [sysexStep_cin6, sysexHandleEnd, hst, hread]
  | [d1], r, _, hst, hread => by
      refine .last ?_ ?_ ?_ <;> simp [sysexStep_cin5, sysexHandleEnd, hst, hread]
  | [], _, hne, _, _ => absurd rfl hne

/-- How an end packet closes a message in `State_DJTT`, once the handler
has cleared `sysex_is_reading`. -/
def Receiver.closeWith (sysExCommandMap : Nat → Option Fn) (r : Receiver) (bs : List UInt8) :
    Receiver × List (SysexEffect Fn) :=
  if r.hasRoom bs.length = true then
    ({ (r.process sysExCommandMap bs).1 with sysexState := .begin },
      (r.process sysExCommandMap bs).2)
  else ({ r with sysexState := .begin }, [])

theorem sysexHandleEnd_djtt {r : Receiver} {bs : List UInt8}
    (hst : r.sysexState = .djtt) (hread : r.sysexIsReading = true) :
    sysexHandleEnd sysExCommandMap r bs =
      { r with sysexIsReading := false }.closeWith sysExCommandMap bs := by
  have hinv : r.sysexState ≠ .invalid := by rw [hst]; decide
  rw [sysexHandleEnd, if_pos hread, Receiver.closeWith]
  dsimp only
  rw [if_pos hinv]
  split <;> rfl

theorem sysexHandle3e_djtt {r : Receiver} {p : EventPacket} (hst : r.sysexState = .djtt) :
    sysexHandle3e sysExCommandMap r p =
      { r with sysexIsReading := false }.closeWith sysExCommandMap
        [p.data1, p.data2, p.data3] := by
  have hmid : r.sysexState ≠ .checkMID := by rw [hst]; decide
  have hinv : r.sysexState ≠ .invalid := by rw [hst]; decide
  rw [sysexHandle3e, sysexHandle3eBody, if_neg hmid, if_pos hinv]
  by_cases hroom : { r with sysexIsReading := false }.hasRoom 3 = true
  · rw [if_pos hroom]
    exact (if_pos hroom).symm
  · rw [if_neg hroom]
    exact (if_neg hroom).symm

theorem answers_end {r r₀ : Receiver} (payload : List UInt8) {bs : List UInt8}
    {p : EventPacket}
    (hstep : sysexStep sysExCommandMap r p = r₀.closeWith sysExCommandMap bs)
    (hst : r₀.sysexState = .djtt) (hread : r₀.sysexIsReading = false)
    (hptr : r₀.sysexPtr = some payload.length)
    (hbuf : Cells.slice r₀.sysexBuffer 0 payload.length = payload) :
    Answers sysExCommandMap r [p] (dispatched sysExCommandMap (payload ++ bs)) := by
  have hiff := Receiver.hasRoom_some (k := bs.length) hptr
  rw [Receiver.closeWith] at hstep
  by_cases hroom : payload.length + bs.length < midiMaxSysex
  · rw [if_pos (hiff.mpr hroom)] at hstep
    refine .last ?_ (by rw [hstep]) ?_
    · rw [hstep]
      exact process_calls hst hptr hbuf hroom
    · rw [hstep, Receiver.process_some hptr, Receiver.push_some hptr]
      exact hread
  · rw [if_neg fun h => hroom (hiff.mp h)] at hstep
    refine .last ?_ (by rw [hstep]) (by rw [hstep]; exact hread)
    rw [hstep, dispatched_of_le (by rw [List.length_append]; omega)]
    rfl

/-- A receiver that has collected `payload` and is fed the packets of
`data` answers for `payload ++ data`. -/
theorem answers_loop : ∀ {data : List UInt8} (payload : List UInt8) {r : Receiver}, data ≠ [] →
    r.sysexState = .djtt → r.sysexIsReading = true → r.sysexPtr = some payload.length →
    Cells.slice r.sysexBuffer 0 payload.length = payload →
      Answers sysExCommandMap r (midiStreamSysexLoop false data)
        (dispatched sysExCommandMap (payload ++ data))
  | d1 :: d2 :: d3 :: d4 :: rest, payload, r, _, hst, hread, hptr, hbuf => by
      have hrest := List.cons_ne_nil d4 rest
      have hiff := Receiver.hasRoom_some (k := 3) hptr
      by_cases hroom : payload.length + 3 < midiMaxSysex
      · have hstep : sysexStep sysExCommandMap r ⟨0x4, d1, d2, d3⟩
            = (r.push [d1, d2, d3], storesAt r.sysexPtr [d1, d2, d3]) := by
          simp [sysexStep_cin4, sysexHandle3sc, hst, hread, hiff.mpr hroom]
        refine .cons (by rw [hstep]; exact storesAt_calls ..) ?_
        rw [hstep, Receiver.push_some hptr]
        have hsplit : payload ++ d1 :: d2 :: d3 :: d4 :: rest
            = (payload ++ [d1, d2, d3]) ++ d4 :: rest := by simp
        rw [hsplit]
        refine answers_loop (payload ++ [d1, d2, d3]) hrest hst hread ?_ ?_
        · rw [List.length_append]
        · rw [List.length_append, Cells.slice_fill_append, hbuf]
      · have hstep : sysexStep sysExCommandMap r ⟨0x4, d1, d2, d3⟩
            = ({ r with sysexState := .invalid }, []) := by
          have hno : r.hasRoom 3 = false := by simpa [hroom] using hiff
          simp [sysexStep_cin4, sysexHandle3sc, hst, hread, hno]
        have hlong : midiMaxSysex ≤ (payload ++ d1 :: d2 :: d3 :: d4 :: rest).length := by
          simp only [List.length_append, List.length_cons]
          omega
        rw [dispatched_of_le hlong]
        refine .cons (by rw [hstep]; rfl) ?_
        rw [hstep]
        exact answers_invalid hrest rfl hread
  | [d1, d2, d3], payload, r, _, hst, _, hptr, hbuf => by
      have hstep := (sysexStep_cin7 sysExCommandMap r d1 d2 d3).trans (sysexHandle3e_djtt hst)
      exact answers_end payload hstep hst rfl hptr hbuf
  | [d1, d2], payload, r, _, hst, hread, hptr, hbuf => by
      have hstep := (sysexStep_cin6 sysExCommandMap r d1 d2 0).trans
        (sysexHandleEnd_djtt hst hread)
      exact answers_end payload hstep hst rfl hptr hbuf
  | [d1], payload, r, _, hst, hread, hptr, hbuf => by
      have hstep := (sysexStep_cin5 sysExCommandMap r d1 0 0).trans
        (sysexHandleEnd_djtt hst hread)
      exact answers_end payload hstep hst rfl hptr hbuf
  | [], _, _, hne, _, _, _, _ => absurd rfl hne

/-! ## Whole messages -/

/-- The message `F0 00 01 79 body F7` as it is handed to
`midi_stream_sysex`. -/
def djttMessage (body : List UInt8) : List UInt8 := djttHeader ++ body ++ [0xF7]

theorem midiStreamSysex_djttMessage {body : List UInt8} (hlen : body.length + 5 ≤ 255) :
    midiStreamSysex (UInt8.ofNat (djttMessage body).length) (djttMessage body)
      = ⟨0x4, 0xF0, midiMfrId0, midiMfrId1⟩ ::
        midiStreamSysexLoop false (midiMfrId2 :: (body ++ [0xF7])) := by
  have hmsg : (djttMessage body).length = body.length + 5 := by
    simp [djttMessage, djttHeader]
  have hnat : (UInt8.ofNat (djttMessage body).length).toNat = (djttMessage body).length := by
    rw [UInt8.toNat_ofNat', hmsg]
    omega
  rw [midiStreamSysex, hnat, List.take_length]
  rfl

/-- The second packet, with the last ID byte in front: the start of the
payload, or all of a one-byte body. -/
theorem answers_checkMID {r : Receiver} {d1 d2 : UInt8} {rest : List UInt8}
    (hst : r.sysexState = .checkMID) (hread : r.sysexIsReading = true)
    (hptr : r.sysexPtr = some 0) :
    Answers sysExCommandMap r (midiStreamSysexLoop false (midiMfrId2 :: d1 :: d2 :: rest))
      (dispatched sysExCommandMap (d1 :: d2 :: rest)) := by
  have hroom : r.hasRoom 2 = true := (Receiver.hasRoom_some hptr).mpr (by decide)
  cases rest with
  | nil =>
      have hstep : sysexStep sysExCommandMap r ⟨0x7, midiMfrId2, d1, d2⟩
          = { r with sysexIsReading := false, sysexState := .djtt }.closeWith
            sysExCommandMap [d1, d2] := by
        rw [sysexStep_cin7, sysexHandle3e, sysexHandle3eBody, if_pos hst, if_pos ⟨rfl, hroom⟩,
          Receiver.closeWith]
        exact (if_pos hroom).symm
      exact answers_end [] hstep rfl rfl hptr rfl
  | cons d3 rest =>
      have hstep : sysexStep sysExCommandMap r ⟨0x4, midiMfrId2, d1, d2⟩
          = ({ r with sysexState := .djtt }.push [d1, d2], storesAt r.sysexPtr [d1, d2]) := by
        simp [sysexStep_cin4, sysexHandle3sc, hst, hread, hroom]
      have hpush := Receiver.push_some (r := { r with sysexState := .djtt }) hptr [d1, d2]
      refine .cons (by rw [hstep]; exact storesAt_calls ..) ?_
      rw [hstep, hpush]
      refine answers_loop [d1, d2] (List.cons_ne_nil d3 rest) rfl hread rfl ?_
      exact Cells.slice_fill r.sysexBuffer 0 [d1, d2]

/-- Every DJTT message a device emits is answered by exactly the calls its
payload is due, from any receiver with no message open. -/
theorem answers_djttMessage (sysExCommandMap : Nat → Option Fn) {r : Receiver}
    (hread : r.sysexIsReading = false) {body : List UInt8} (hne : body ≠ [])
    (hlen : body.length + 5 ≤ 255) :
    Answers sysExCommandMap r
      (midiStreamSysex (UInt8.ofNat (djttMessage body).length) (djttMessage body))
      (dispatched sysExCommandMap (body ++ [0xF7])) := by
  rw [midiStreamSysex_djttMessage hlen]
  have hstep : sysexStep sysExCommandMap r ⟨0x4, 0xF0, midiMfrId0, midiMfrId1⟩
      = ({ r with sysexIsReading := true, sysexPtr := some 0, sysexState := .checkMID }, []) := by
    simp [sysexStep_cin4, sysexHandle3sc, hread, midiMfrId0]
  refine .cons (by rw [hstep]; rfl) ?_
  rw [hstep]
  obtain ⟨d1, d2, rest, hbody⟩ : ∃ d1 d2 rest, body ++ [0xF7] = d1 :: d2 :: rest := by
    cases body with
    | nil => exact absurd rfl hne
    | cons d1 body =>
        cases body with
        | nil => exact ⟨d1, 0xF7, [], rfl⟩
        | cons d2 rest => exact ⟨d1, d2, rest ++ [0xF7], rfl⟩
  rw [hbody]
  exact answers_checkMID rfl rfl rfl

/-- **Round trip.** The receiver, with no message open and whatever else it
holds, calls handler `c` exactly once on the packets of a message with
command `c`, passing on the arguments and the `F7`, if the payload is
shorter than its buffer, and calls no handler otherwise; it ends with no
message open. -/
theorem command_roundTrip (sysExCommandMap : Nat → Option Fn) (r : Receiver)
    (hread : r.sysexIsReading = false) (c : UInt8) (hc : 1 ≤ c ∧ c ≤ 8) (fn : Fn)
    (hfn : sysExCommandMap (c - 1).toNat = some fn) (args : List UInt8)
    (hlen : (c :: args).length + 5 ≤ 255) :
    let packets := midiStreamSysex (UInt8.ofNat ((c :: args).length + 5))
      ([0xF0, 0x00, 0x01, 0x79] ++ (c :: args) ++ [0xF7])
    (Machine.outputs (sysexStep sysExCommandMap) r packets).filterMap SysexEffect.call?
        = (if (c :: args).length + 1 ≤ 63 then
            [⟨fn, c, UInt8.ofNat (c :: args).length, args ++ [0xF7]⟩] else [])
      ∧ (Machine.final (sysexStep sysExCommandMap) r packets).sysexState = .begin
      ∧ (Machine.final (sysexStep sysExCommandMap) r packets).sysexIsReading = false := by
  obtain ⟨hcalls, hstate, hclosed⟩ :=
    answers_djttMessage sysExCommandMap hread (List.cons_ne_nil c args) hlen
  have hmsg : (djttMessage (c :: args)).length = (c :: args).length + 5 := by
    simp [djttMessage, djttHeader]
  rw [hmsg] at hcalls hstate hclosed
  refine ⟨hcalls.trans ?_, hstate, hclosed⟩
  have hc' : 0 < c ∧ c ≤ maxCommand := by
    refine ⟨?_, hc.2⟩
    rw [UInt8.lt_iff_toNat_lt]
    exact UInt8.le_iff_toNat_le.mp hc.1
  rw [List.cons_append, dispatched, hfn]
  have hsize : (args ++ [0xF7]).length + 1 < midiMaxSysex ↔ (c :: args).length + 1 ≤ 63 := by
    simp only [List.length_append, List.length_cons, List.length_nil, midiMaxSysex]
    omega
  by_cases hfits : (c :: args).length + 1 ≤ 63
  · rw [if_pos ⟨hsize.mpr hfits, hc'⟩, if_pos hfits, List.length_append]
    rfl
  · rw [if_neg fun h => hfits (hsize.mp h.1), if_neg hfits]

/-- A pull request, received right after boot. -/
theorem command_roundTrip_pull :
    (Machine.outputs (sysexStep configSetup) Receiver.boot
        (midiStreamSysex 7 [0xF0, 0x00, 0x01, 0x79, 0x02, 0x00, 0xF7])).filterMap
      SysexEffect.call? = [⟨.sysExCmdPullConfig, 2, 2, [0x00, 0xF7]⟩] :=
  (command_roundTrip configSetup Receiver.boot rfl 2 (by decide) .sysExCmdPullConfig
    (by decide) [0x00] (by decide)).1

end MidiFighter
