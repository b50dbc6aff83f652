import Mathlib.Data.List.Infix
import MidiFighter.SysexSafety

/-!
# Message framing

A dispatched command should consist of bytes of one message: those
received since the most recent start packet (`sinceStart`, `Framed`). The
handlers decide between `start` and `continue` by `sysex_is_reading`
alone, so a start packet that arrives while a DJTT message is still open
is stored as data of that message (`command_not_framed`). Where this never
happens, `command_framed` recovers the property for every packet sequence.

The proof is a history invariant, `Collected`: in `State_CheckMID` exactly
the first two ID bytes have been read since the last start packet, and in
`State_DJTT` the buffer up to `sysex_ptr` is the message after its header.
-/

namespace MidiFighter

variable {Fn : Type} {sysExCommandMap : Nat → Option Fn}

/-! ## The current message -/

/-- The packets received since the most recent start packet, that one
included. -/
def sinceStart : List EventPacket → Option (List EventPacket)
  | [] => none
  | p :: ps =>
      match sinceStart ps with
      | some m => some m
      | none => if p.isStart then some (p :: ps) else none

def messageBytes (m : List EventPacket) : List UInt8 := m.flatMap EventPacket.sysexBytes

/-- Command byte and arguments are consecutive bytes of the message begun
by the most recent start packet. -/
def Framed (history : List EventPacket) (command : UInt8) (buffer : List UInt8) : Prop :=
  ∃ m ∈ sinceStart history, (command :: buffer) <:+: messageBytes m

theorem sinceStart_start {p : EventPacket} (hp : p.isStart = true) :
    ∀ h : List EventPacket, sinceStart (h ++ [p]) = some [p]
  | [] => by simp [sinceStart, hp]
  | q :: h => by rw [List.cons_append, sinceStart, sinceStart_start hp h]

theorem sinceStart_continue {p : EventPacket} (hp : p.isStart = false) :
    ∀ h : List EventPacket, sinceStart (h ++ [p]) = (sinceStart h).map (· ++ [p])
  | [] => by simp [sinceStart, hp]
  | q :: h => by
      rw [List.cons_append, sinceStart, sinceStart, sinceStart_continue hp h]
      cases sinceStart h with
      | some m => rfl
      | none =>
          by_cases hq : q.isStart = true
          · simp [hq]
          · simp [hq]

theorem messageBytes_append (m m' : List EventPacket) :
    messageBytes (m ++ m') = messageBytes m ++ messageBytes m' :=
  List.flatMap_append

theorem messageBytes_singleton (p : EventPacket) : messageBytes [p] = p.sysexBytes := by
  simp [messageBytes]

/-! ## What a dispatch passes on -/

/-- A dispatched command is read off the start of the buffer, its arguments
off the rest. -/
theorem mem_sysexHandle_command {r : Receiver} {len : UInt8} {fn : Fn} {c n : UInt8}
    {buf : List UInt8} (h : .command fn c n buf ∈ sysexHandle sysExCommandMap r len) :
    r.sysexState = .djtt ∧ c :: buf = Cells.slice r.sysexBuffer 0 len.toNat := by
  rcases mem_sysexHandle h with ⟨_, hst, hlen, heq⟩ | heq
  · obtain ⟨-, rfl, -, rfl⟩ := SysexEffect.command.inj heq
    have hlen' : len.toNat = (len - 1).toNat + 1 := by
      rw [UInt8.lt_iff_toNat_lt] at hlen
      have h1 : (1 : UInt8).toNat = 1 := rfl
      have h0 : (0 : UInt8).toNat = 0 := rfl
      rw [UInt8.toNat_sub_of_le _ _ (UInt8.le_iff_toNat_le.mpr (by omega)), h1]
      omega
    exact ⟨hst, by rw [hlen', Cells.slice_succ]⟩
  · cases heq

theorem command_notMem_storesAt {ptr : Option Nat} {bs : List UInt8} {fn : Fn} {c n : UInt8}
    {buf : List UInt8} : .command fn c n buf ∉ storesAt ptr bs := by
  intro h
  obtain ⟨_, _, heq⟩ := mem_storesAt h
  cases heq

theorem mem_process_command {r : Receiver} {bs : List UInt8}
    (hroom : r.hasRoom bs.length = true) {fn : Fn} {c n : UInt8} {buf : List UInt8}
    (h : .command fn c n buf ∈ (r.process sysExCommandMap bs).2) :
    r.sysexState = .djtt
      ∧ ∃ p, r.sysexPtr = some p ∧ c :: buf = Cells.slice r.sysexBuffer 0 p ++ bs := by
  cases hp : r.sysexPtr with
  | none =>
      simp only [Receiver.process, Receiver.length, Receiver.push, hp] at h
      rcases List.mem_append.mp h with h | h
      · exact absurd h command_notMem_storesAt
      · cases List.mem_singleton.mp h
  | some p =>
      have hlt := (Receiver.hasRoom_some hp).mp hroom
      rw [Receiver.process_some hp] at h
      rcases List.mem_append.mp h with h | h
      · exact absurd h command_notMem_storesAt
      · rcases List.mem_cons.mp h with h | h
        · cases h
        · obtain ⟨hst, heq⟩ := mem_sysexHandle_command h
          have hmod : (UInt8.ofNat (p + bs.length)).toNat = p + bs.length :=
            UInt8.toNat_ofNat_of_lt' (hlt.trans (by decide))
          rw [Receiver.push_some hp] at hst heq
          exact ⟨hst, p, rfl, by rw [heq, hmod, Cells.slice_fill_append]⟩

/-! ## The history invariant -/

/-- The receiver's state, read against the packets received so far. -/
structure Collected (h : List EventPacket) (r : Receiver) : Prop where
  idle : r.sysexIsReading = false → r.sysexState = .begin
  checkMID : r.sysexState = .checkMID → r.sysexPtr = some 0
    ∧ ∃ m, sinceStart h = some m ∧ messageBytes m = [0xF0, midiMfrId0, midiMfrId1]
  djtt : r.sysexState = .djtt → ∃ payload, r.sysexPtr = some payload.length
    ∧ Cells.slice r.sysexBuffer 0 payload.length = payload
    ∧ ∃ m, sinceStart h = some m
      ∧ messageBytes m = [0xF0, midiMfrId0, midiMfrId1, midiMfrId2] ++ payload

/-- A receiver that is in neither of the two collecting states satisfies
the invariant whatever has been received. -/
theorem Collected.of_ne {h : List EventPacket} {r : Receiver}
    (hidle : r.sysexIsReading = false → r.sysexState = .begin)
    (hmid : r.sysexState ≠ .checkMID) (hdjtt : r.sysexState ≠ .djtt) : Collected h r :=
  ⟨hidle, fun hst => absurd hst hmid, fun hst => absurd hst hdjtt⟩

theorem Collected.of_reading {h : List EventPacket} {r : Receiver}
    (hread : r.sysexIsReading = true) (hmid : r.sysexState ≠ .checkMID)
    (hdjtt : r.sysexState ≠ .djtt) : Collected h r :=
  .of_ne (fun hf => Bool.noConfusion (hread.symm.trans hf)) hmid hdjtt

/-- The bytes of the current message once packet `p` has been taken: `bs`
extends the collected payload, in `State_CheckMID` after the last ID byte. -/
theorem Collected.takes {h : List EventPacket} {r : Receiver} (hc : Collected h r)
    {p : EventPacket} {st : SysexState} {bs : List UInt8}
    (htakes : Takes r.sysexState p.sysexBytes st bs) (hst : st = .djtt)
    (hp : p.isStart = false) :
    ∃ payload, r.sysexPtr = some payload.length
      ∧ Cells.slice r.sysexBuffer 0 payload.length = payload
      ∧ ∃ m, sinceStart (h ++ [p]) = some m
        ∧ messageBytes m = [0xF0, midiMfrId0, midiMfrId1, midiMfrId2] ++ (payload ++ bs) := by
  rcases htakes with ⟨hmid, hbytes, -⟩ | ⟨-, hbs, hsame⟩
  · obtain ⟨hptr, m, hm, hmb⟩ := hc.checkMID hmid
    refine ⟨[], hptr, rfl, m ++ [p], by rw [sinceStart_continue hp, hm]; rfl, ?_⟩
    rw [messageBytes_append, messageBytes_singleton, hmb, hbytes]
    rfl
  · obtain ⟨payload, hptr, hslice, m, hm, hmb⟩ := hc.djtt (hsame ▸ hst)
    refine ⟨payload, hptr, hslice, m ++ [p], by rw [sinceStart_continue hp, hm]; rfl, ?_⟩
    rw [messageBytes_append, messageBytes_singleton, hmb, hbs, List.append_assoc]

theorem isStart_false_of_cin {p : EventPacket} (h : p.cin ≠ 0x4) : p.isStart = false := by
  simp [EventPacket.isStart, h]

theorem data1_of_sysexBytes {p : EventPacket} (hcin : p.cin = 0x4) {b : UInt8}
    {bs : List UInt8} (hbytes : p.sysexBytes = b :: bs) : p.data1 = b := by
  simp only [EventPacket.sysexBytes, hcin] at hbytes
  exact (List.cons.inj hbytes).1

theorem Collected.skip {h : List EventPacket} {r : Receiver} (hc : Collected h r)
    {p : EventPacket} (hp : p.isStart = false) (hbytes : p.sysexBytes = []) :
    Collected (h ++ [p]) r := by
  have hext : ∀ {bs}, (∃ m, sinceStart h = some m ∧ messageBytes m = bs) →
      ∃ m, sinceStart (h ++ [p]) = some m ∧ messageBytes m = bs := by
    rintro bs ⟨m, hm, hmb⟩
    refine ⟨m ++ [p], by rw [sinceStart_continue hp, hm]; rfl, ?_⟩
    rw [messageBytes_append, messageBytes_singleton, hbytes, List.append_nil, hmb]
  refine ⟨hc.idle, fun hst => ?_, fun hst => ?_⟩
  · obtain ⟨hptr, hm⟩ := hc.checkMID hst
    exact ⟨hptr, hext hm⟩
  · obtain ⟨payload, hptr, hslice, hm⟩ := hc.djtt hst
    exact ⟨payload, hptr, hslice, hext hm⟩

theorem Collected.start {h : List EventPacket} {r : Receiver} {p : EventPacket}
    (hcin : p.cin = 0x4) (hbytes : p.sysexBytes = [0xF0, midiMfrId0, midiMfrId1])
    (hread : r.sysexIsReading = true) (hst : r.sysexState = .checkMID)
    (hptr : r.sysexPtr = some 0) : Collected (h ++ [p]) r := by
  have hp : p.isStart = true := by
    simp [EventPacket.isStart, hcin, data1_of_sysexBytes hcin hbytes]
  refine ⟨fun hf => Bool.noConfusion (hread.symm.trans hf), fun _ => ?_,
    fun hf => SysexState.noConfusion (hst.symm.trans hf)⟩
  refine ⟨hptr, [p], sinceStart_start hp h, ?_⟩
  rw [messageBytes_singleton, hbytes]

theorem Collected.push {h : List EventPacket} {r : Receiver} (hc : Collected h r)
    {p : EventPacket} {bs : List UInt8} (hp : p.isStart = false)
    (hread : r.sysexIsReading = true) (htakes : Takes r.sysexState p.sysexBytes .djtt bs) :
    Collected (h ++ [p]) ({ r with sysexState := .djtt }.push bs) := by
  obtain ⟨payload, hptr, hslice, m, hm, hmb⟩ := hc.takes htakes rfl hp
  have hpush := Receiver.push_some (r := { r with sysexState := .djtt }) hptr bs
  rw [hpush]
  refine ⟨fun hf => Bool.noConfusion (hread.symm.trans hf), SysexState.noConfusion,
    fun _ => ⟨payload ++ bs, ?_, ?_, m, hm, hmb⟩⟩
  · rw [List.length_append]
  · rw [List.length_append, Cells.slice_fill_append, hslice]

/-- A start packet is not among those a DJTT message takes, unless the
message was open already. -/
theorem Takes.isStart_false {st : SysexState} {p : EventPacket} {bs : List UInt8}
    (hcin : p.cin = 0x4) (htakes : Takes st p.sysexBytes .djtt bs)
    (hok : ¬(p.isStart = true ∧ st = .djtt)) : p.isStart = false := by
  rcases htakes with ⟨-, hbytes, -⟩ | ⟨-, -, hsame⟩
  · have h1 : p.data1 = midiMfrId2 := data1_of_sysexBytes hcin hbytes
    simp [EventPacket.isStart, h1, midiMfrId2]
  · by_contra hstart
    exact hok ⟨by simpa using hstart, hsame.symm⟩

/-- A packet that is not a start packet inside an open DJTT message keeps
the invariant. -/
theorem sysexStep_collected {h : List EventPacket} {r : Receiver} {p : EventPacket}
    (hc : Collected h r) (hok : ¬(p.isStart = true ∧ r.sysexState = .djtt)) :
    Collected (h ++ [p]) (sysexStep sysExCommandMap r p).1 := by
  generalize hres : sysexStep sysExCommandMap r p = res
  cases hres ▸ sysexStep_cases sysExCommandMap r p with
  | idle h4 h7 hend =>
      by_cases hcin : p.cin = 0x4
      · obtain ⟨-, hinv⟩ := h4 hcin
        exact .of_ne hc.idle (hinv ▸ SysexState.noConfusion) (hinv ▸ SysexState.noConfusion)
      · by_cases hend' : p.cin = 0x5 ∨ p.cin = 0x6
        · have hbegin := hc.idle (hend hend')
          exact .of_ne hc.idle (hbegin ▸ SysexState.noConfusion)
            (hbegin ▸ SysexState.noConfusion)
        · have hbytes : p.sysexBytes = [] := by
            rw [not_or] at hend'
            simp [EventPacket.sysexBytes, hcin, h7, hend']
          exact hc.skip (isStart_false_of_cin hcin) hbytes
  | @start st hcin hread hst =>
      rcases hst with ⟨rfl, hbytes⟩ | rfl | rfl
      · exact .start hcin hbytes rfl rfl rfl
      · exact .of_reading rfl SysexState.noConfusion SysexState.noConfusion
      · exact .of_reading rfl SysexState.noConfusion SysexState.noConfusion
  | reject _ hread => exact .of_reading hread SysexState.noConfusion SysexState.noConfusion
  | @append st bs hcin hread hroom htakes hmid =>
      by_cases hst : st = .djtt
      · subst hst
        exact hc.push (htakes.isStart_false hcin hok) hread htakes
      · -- identity requests and the like: the state stays outside the two collecting ones
        have hsame : st = r.sysexState := by
          rcases htakes with ⟨-, -, rfl⟩ | ⟨-, -, hsame⟩
          · exact absurd rfl hst
          · exact hsame
        have hst' : ({ r with sysexState := st }.push bs).sysexState = st := by
          simp only [Receiver.push]
          split <;> rfl
        have hread' : ({ r with sysexState := st }.push bs).sysexIsReading = true := by
          simp only [Receiver.push]
          split <;> exact hread
        refine .of_reading hread' ?_ ?_
        · rw [hst']
          exact fun hm => hst (hmid (hsame ▸ hm))
        · rw [hst']
          exact hst
  | discard => exact .of_ne (fun _ => rfl) SysexState.noConfusion SysexState.noConfusion
  | finish => exact .of_ne (fun _ => rfl) SysexState.noConfusion SysexState.noConfusion

/-! ## Dispatched commands -/

/-- A dispatch hands over the whole message after its header. -/
theorem sysexStep_command {h : List EventPacket} {r : Receiver} {p : EventPacket}
    (hc : Collected h r) {fn : Fn} {c n : UInt8} {buf : List UInt8}
    (hmem : .command fn c n buf ∈ (sysexStep sysExCommandMap r p).2) :
    ∃ m ∈ sinceStart (h ++ [p]),
      messageBytes m = [0xF0, midiMfrId0, midiMfrId1, midiMfrId2] ++ c :: buf := by
  revert hmem
  generalize hres : sysexStep sysExCommandMap r p = res
  cases hres ▸ sysexStep_cases sysExCommandMap r p with
  | idle => exact fun hmem => nomatch hmem
  | start => exact fun hmem => nomatch hmem
  | reject => exact fun hmem => nomatch hmem
  | append => exact fun hmem => absurd hmem command_notMem_storesAt
  | discard => exact fun hmem => nomatch hmem
  | @finish st bs _ h4 hroom htakes r₀ hr₀ =>
      intro hmem
      obtain ⟨hst, q, hq, heq⟩ := mem_process_command (by rw [hr₀]; exact hroom) hmem
      rw [hr₀] at hst hq heq
      obtain ⟨payload, hptr, hslice, m, hm, hmb⟩ :=
        hc.takes htakes hst (isStart_false_of_cin h4)
      obtain rfl : payload.length = q := Option.some.inj (hptr.symm.trans hq)
      exact ⟨m, hm, by rw [hmb, heq, hslice]⟩

/-- **Framing.** In a packet sequence from boot with no start packet inside
an open DJTT message, every dispatched command and its arguments are bytes
of the message begun by the most recent start packet. -/
theorem command_framed (sysExCommandMap : Nat → Option Fn) (ps : List EventPacket)
    (hok : Machine.Along (sysexStep sysExCommandMap)
      (fun r p => ¬(p.isStart = true ∧ r.sysexState = .djtt)) Receiver.boot ps) :
    ∀ pre p post, ps = pre ++ p :: post → ∀ fn c n buf,
      .command fn c n buf ∈
          (sysexStep sysExCommandMap
            (Machine.final (sysexStep sysExCommandMap) Receiver.boot pre) p).2 →
        Framed (pre ++ [p]) c buf := by
  intro pre p post hps fn c n buf hmem
  subst hps
  have hboot : Collected [] Receiver.boot := .of_ne (fun _ => rfl) nofun nofun
  have hpre := (Machine.along_append.mp hok).1
  have hc : Collected pre (Machine.final (sysexStep sysExCommandMap) Receiver.boot pre) :=
    Machine.final_history Collected (fun _ _ _ hc hok => sysexStep_collected hc hok) hboot hpre
  obtain ⟨m, hm, hmb⟩ := sysexStep_command hc hmem
  exact ⟨m, hm, ⟨[0xF0, midiMfrId0, midiMfrId1, midiMfrId2], [], by rw [hmb]; simp⟩⟩

/-- A system command in three packets. -/
theorem command_framed_system :
    .command SysExFn.sysExCmdSystem 3 2 [0x02, 0xF7] ∈
        Machine.outputs (sysexStep configSetup) Receiver.boot
          [⟨0x4, 0xF0, 0x00, 0x01⟩, ⟨0x4, 0x79, 0x03, 0x02⟩, ⟨0x5, 0xF7, 0, 0⟩]
      ∧ Framed [⟨0x4, 0xF0, 0x00, 0x01⟩, ⟨0x4, 0x79, 0x03, 0x02⟩, ⟨0x5, 0xF7, 0, 0⟩]
        3 [0x02, 0xF7] :=
  ⟨by decide,
    command_framed configSetup
      [⟨0x4, 0xF0, 0x00, 0x01⟩, ⟨0x4, 0x79, 0x03, 0x02⟩, ⟨0x5, 0xF7, 0, 0⟩]
      ⟨by decide, by decide, by decide, trivial⟩
      [⟨0x4, 0xF0, 0x00, 0x01⟩, ⟨0x4, 0x79, 0x03, 0x02⟩] ⟨0x5, 0xF7, 0, 0⟩ [] rfl
      .sysExCmdSystem 3 2 _ (by decide)⟩

/-- A system command cut off before its end, and a configuration push that
starts and ends after it: the bytes of both are dispatched as one system
command. -/
theorem command_not_framed :
    let pre : List EventPacket :=
      [⟨0x4, 0xF0, 0x00, 0x01⟩, ⟨0x4, 0x79, 0x03, 0x02⟩, ⟨0x4, 0xF0, 0x00, 0x01⟩]
    let p : EventPacket := ⟨0x7, 0x79, 0x01, 0xF7⟩
    .command SysExFn.sysExCmdSystem 3 7 [0x02, 0xF0, 0x00, 0x01, 0x79, 0x01, 0xF7] ∈
        (sysexStep configSetup (Machine.final (sysexStep configSetup) Receiver.boot pre) p).2
      ∧ ¬Framed (pre ++ [p]) 3 [0x02, 0xF0, 0x00, 0x01, 0x79, 0x01, 0xF7] := by
  refine ⟨by decide, ?_⟩
  rintro ⟨m, hm, hinfix⟩
  have hm' : [⟨0x4, 0xF0, 0x00, 0x01⟩, ⟨0x7, 0x79, 0x01, 0xF7⟩] = m := Option.some.inj hm
  subst hm'
  exact absurd hinfix.length_le (by decide)

end MidiFighter
