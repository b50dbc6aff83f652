import MidiFighter.BulkRoundTrip
import MidiFighter.PowerLoss
import MidiFighter.Task

/-!
# Replies

What the host reads from the device: it collects the bytes of the packets
into sysex messages (`sysexMessages`), and each should be `F0`, data bytes
below `0x80` and `F7` (`WellFormed`). The identity reply is constant. A
config response carries settings and a colour dump carries scaled colours,
so the property is one of everything the host has stored before.

The invariant is that no reply would take anything but data bytes from the
store (`SendableStore`). Two commands break it. A config push whose last
tag has no value takes the `F7` for it, and the response then contains that
`F7`; a bulk PUSH of a colour that is misread as a palette colour stores
channels whose scaled value does not fit in seven bits. In every run without
them the replies are well formed (`replies_wellFormed`), whatever else is
received, properly framed or not.
-/

namespace MidiFighter

/-! ## Messages as the host reads them -/

/-- `F0` first, `F7` last, data bytes in between. -/
def WellFormed (m : List UInt8) : Prop :=
  m.head? = some 0xF0 ∧ m.getLast? = some 0xF7 ∧ ∀ b ∈ m.tail.dropLast, b < 0x80

instance (m : List UInt8) : Decidable (WellFormed m) :=
  inferInstanceAs (Decidable (_ ∧ _ ∧ _))

theorem WellFormed.of_body {body : List UInt8} (h : ∀ b ∈ body, b < 0x80) :
    WellFormed (0xF0 :: (body ++ [0xF7])) := by
  refine ⟨rfl, ?_, ?_⟩
  · rw [← List.cons_append, List.getLast?_concat]
  · rw [List.tail_cons, List.dropLast_concat]
    exact h

/-- The packets are whole messages, all of them well formed, whatever is
sent after them. -/
def WellFormedReplies (ps : List EventPacket) : Prop :=
  ∃ messages, (∀ m ∈ messages, WellFormed m)
    ∧ ∀ rest, sysexMessages (ps ++ rest) = messages ++ sysexMessages rest

namespace WellFormedReplies

theorem nil : WellFormedReplies [] := ⟨[], by simp, fun _ => rfl⟩

theorem append {ps ps' : List EventPacket} (h : WellFormedReplies ps)
    (h' : WellFormedReplies ps') : WellFormedReplies (ps ++ ps') := by
  obtain ⟨messages, hwf, heq⟩ := h
  obtain ⟨messages', hwf', heq'⟩ := h'
  refine ⟨messages ++ messages', List.forall_mem_append.mpr ⟨hwf, hwf'⟩, fun rest => ?_⟩
  rw [List.append_assoc, heq, heq', List.append_assoc]

theorem flatMap {ι : Type} {f : ι → List EventPacket} :
    ∀ {is : List ι}, (∀ i ∈ is, WellFormedReplies (f i)) → WellFormedReplies (is.flatMap f)
  | [], _ => nil
  | i :: is, h => by
      rw [List.forall_mem_cons] at h
      rw [List.flatMap_cons]
      exact h.1.append (flatMap h.2)

theorem of_channel : ∀ {ps : List EventPacket}, (∀ p ∈ ps, 8 ≤ p.cin) → WellFormedReplies ps
  | [], _ => nil
  | p :: ps, h => by
      obtain ⟨hp, hps⟩ := List.forall_mem_cons.mp h
      have hne : ∀ c < 8, p.cin ≠ c := fun c hc heq =>
        absurd (UInt8.lt_of_le_of_lt (heq ▸ hp) hc) (by simp)
      have hskip : WellFormedReplies [p] := by
        refine ⟨[], by simp, fun rest => ?_⟩
        have hend : ¬(p.cin = 0x5 ∨ p.cin = 0x6 ∨ p.cin = 0x7) := by
          simp [hne 5 (by decide), hne 6 (by decide), hne 7 (by decide)]
        have hbytes : p.sysexBytes = [] := by
          simp [EventPacket.sysexBytes, hne 4 (by decide), hne 5 (by decide),
            hne 6 (by decide), hne 7 (by decide)]
        rw [List.singleton_append, sysexMessages, assemble, if_neg hend, hbytes]
        rfl
      exact hskip.append (of_channel hps)

theorem stream {m : List UInt8} (hwf : WellFormed m) (hshort : 3 < m.length)
    (hlong : m.length < 256) :
    WellFormedReplies (midiStreamSysex (UInt8.ofNat m.length) m) :=
  ⟨[m], by simpa using hwf, fun rest => sysexMessages_midiStreamSysex hshort hlong rest⟩

theorem message {body : List UInt8} (hlen : body.length + 5 ≤ 255)
    (hbody : ∀ b ∈ body, b < 0x80) : WellFormedReplies (streamMessage body) := by
  have hmsg : (djttMessage body).length = body.length + 5 := by
    simp [djttMessage, djttHeader]
  have hwf : WellFormed (0xF0 :: (([midiMfrId0, midiMfrId1, midiMfrId2] ++ body) ++ [0xF7])) := by
    refine .of_body (List.forall_mem_append.mpr ⟨?_, hbody⟩)
    simp [midiMfrId0, midiMfrId1, midiMfrId2]
  exact stream (m := djttMessage body) hwf (by omega) (by omega)

theorem identify :
    WellFormedReplies (midiStreamSysex (UInt8.ofNat identifyPayload.length) identifyPayload) :=
  stream (by decide +kernel) (by decide) (by decide)

end WellFormedReplies

/-! ## Settings and colours that can be sent -/

def Sendable (c : Rgb) : Prop :=
  scaleOut c.r < 0x80 ∧ scaleOut c.g < 0x80 ∧ scaleOut c.b < 0x80

instance (c : Rgb) : Decidable (Sendable c) := inferInstanceAs (Decidable (_ ∧ _ ∧ _))

theorem sendable_of_mem_palette : ∀ c ∈ palette, Sendable c := by decide

/-- The quantiser makes every colour sendable, unless it leaves it as it
is. -/
theorem sendable_adjustedRgb {c : Rgb} (h : MisreadAsPalette c → Sendable c) :
    Sendable (adjustedRgb c) := by
  by_cases hmis : MisreadAsPalette c
  · rw [adjustedRgb, thisColorId_of_misread hmis]
    exact h hmis
  · exact sendable_of_mem_palette _ ((adjustedRgb_mem_palette c).mpr hmis)

def SendableTable (m : Nat → UInt8) : Prop := ∀ k < 128, Sendable (readRgb m (3 * k))

theorem InPalette.sendable {m : Nat → UInt8} (h : InPalette m) : SendableTable m :=
  fun k hk => sendable_of_mem_palette _ (h k hk)

theorem SendableTable.cell {m : Nat → UInt8} (h : SendableTable m) {i : Nat} (hi : i < 384) :
    scaleOut (m i) < 0x80 :=
  cell_of_readRgb (P := fun b => scaleOut b < 0x80) (h (i / 3) (by omega))

theorem SendableTable.congr {m m' : Nat → UInt8} (h : SendableTable m)
    (heq : ∀ i < 384, m' i = m i) : SendableTable m' := by
  intro k hk
  rw [readRgb_congr fun a ha => heq a (by omega)]
  exact h k hk

def SendableSettings (settings : Setting → UInt8) : Prop :=
  ∀ pair ∈ configPairs settings, pair.2 < 0x80

/-- No reply takes anything but data bytes from the store. A push reads its
settings back from the EEPROM, which is why the layout belongs here. -/
structure SendableStore (s : Store) : Prop where
  version : s.eeprom eeEepromVersion = eepromLayout
  settings : SendableSettings s.settings
  inactive : SendableTable s.colors.defaultBankInactive
  active : SendableTable s.colors.defaultBankActive

theorem SendableStore.of_loaded {s : Store} {settings : Setting → UInt8} {colors : ColorTables}
    (hver : s.eeprom eeEepromVersion = eepromLayout) (h : Loaded s settings colors)
    (hsettings : SendableSettings settings)
    (hinactive : SendableTable colors.defaultBankInactive)
    (hactive : SendableTable colors.defaultBankActive) : SendableStore s where
  version := hver
  settings := by
    rw [h.settings]
    exact hsettings
  inactive := hinactive.congr h.inactive
  active := hactive.congr h.active

theorem factory_sendable : SendableSettings Setting.factory := by
  simp only [SendableSettings, configPairs, Setting.factory, List.forall_mem_cons,
    List.not_mem_nil, false_implies, implies_true]
  decide

theorem SendableStore.of_atFactory {s : Store} (hver : s.eeprom eeEepromVersion = eepromLayout)
    (h : AtFactory s) : SendableStore s := by
  have hdefault := h ⟨fun _ => 0, fun _ => 0⟩
  refine .of_loaded hver hdefault factory_sendable ?_ ?_
  · exact (loadBanks_inPalette _ _ _).sendable
  · exact (loadBanks_inPalette _ _ _).sendable

/-! ## Config messages -/

/-- The response to a decoded table: plain tags come back as they are, the
tilt settings are cut to their bits and the pitch settings are old. -/
theorem settings_sendable {config : TvTable} {old : Setting → UInt8}
    (hplain : ∀ t ∈ plainTags, config t < 0x80) (hold : SendableSettings old) :
    SendableSettings (config.settings old) := by
  have hrotation : ∀ b : UInt8, b &&& 0x3 < 0x80 :=
    forall_byte (by decide +kernel)
  have htilt : ∀ b : UInt8, b &&& 0xF < 0x80 :=
    forall_byte (by decide +kernel)
  have hchannel : config 0 - 1 + 1 = config 0 := UInt8.sub_add_cancel _ _
  have hmode : config 13 + 1 - 1 = config 13 := UInt8.add_sub_cancel _ _
  have hsens : old .pitchSensitivity < 0x80 :=
    hold (15, old .pitchSensitivity) (by simp [configPairs])
  have hdead : old .pitchDeadzone < 0x80 := hold (19, old .pitchDeadzone) (by simp [configPairs])
  simp only [SendableSettings, configPairs, TvTable.settings, List.forall_mem_cons]
  refine ⟨?_, hplain 1 (by decide), hplain 3 (by decide), hplain 7 (by decide),
    hplain 8 (by decide), hplain 10 (by decide), hrotation _, htilt _, ?_, hplain 14 (by decide),
    hsens, hplain 16 (by decide), hplain 17 (by decide), hplain 18 (by decide), hdead,
    hplain 20 (by decide), hplain 21 (by decide), hplain 22 (by decide), hplain 23 (by decide),
    List.forall_mem_nil _⟩
  · exact hchannel.symm ▸ hplain 0 (by decide)
  · exact hmode.symm ▸ hplain 13 (by decide)

theorem sendConfigData_wellFormed {d : Device} (h : SendableSettings d.store.settings) :
    WellFormedReplies (sendConfigData d) := by
  have hbody : ∀ b ∈ [sysexCommandPullConf, 0x1] ++ encodePairs (configPairs d.store.settings),
      b < 0x80 := by
    refine List.forall_mem_append.mpr ⟨by simp [sysexCommandPullConf], fun b hb => ?_⟩
    have htag : ∀ pair ∈ configPairs d.store.settings, pair.1 < 0x80 := by
      simp [configPairs]
    obtain ⟨pair, hpair, hb⟩ := List.mem_flatMap.mp hb
    rcases List.mem_pair.mp hb with rfl | rfl
    · exact htag pair hpair
    · exact h pair hpair
  exact WellFormedReplies.message (by simp [encodePairs, configPairs]) hbody

theorem pushConfig_sendable {d : Device} {buffer : List UInt8} (h : SendableStore d.store)
    (hplain : ∀ t ∈ plainTags, tvTableDecode (fun _ => 0) buffer t < 0x80) :
    WellFormedReplies (sysExCmdPushConfig d buffer).2
      ∧ SendableStore (sysExCmdPushConfig d buffer).1.store := by
  have hsettings : SendableSettings (pushedStore d.store buffer).settings :=
    settings_sendable hplain h.settings
  refine ⟨?_, ?_⟩
  · rw [pushConfig_packets]
    exact sendConfigData_wellFormed hsettings
  · rw [pushConfig_store]
    exact .of_loaded (eepromSetup_version _)
      (loaded_of_saved (s := pushedStore d.store buffer) h.version rfl) hsettings h.inactive
      h.active

theorem factoryReset_sendable (s : Store) : SendableStore (eepromFactoryReset s) := by
  refine .of_atFactory (eepromFactoryReset_version s) (Loaded.atFactory (t := s.colors) ?_)
  rw [eepromFactoryReset]
  refine ⟨eepromSaveEdits_settings _, fun i _ => ?_, fun i _ => ?_⟩
  · rw [eepromSaveEdits_colors]
  · rw [eepromSaveEdits_colors]

/-! ## Colours -/

/-- Button `k` of a PUSH after the copy loop. In a payload that ends within
the button the other channels are those of the table. -/
def copiedRgb (part size : UInt8) (payload : List UInt8) (m : Nat → UInt8) (k : Nat) : Rgb :=
  readRgb (copyPayload (partBank part) (partOffset part) size.toNat payload m)
    (bankCell (partBank part) (partOffset part + 3 * k))

theorem pushPart_sendable {part size : UInt8} {payload : List UInt8} {m : Nat → UInt8}
    (hacc : Accepted part size payload) (hm : SendableTable m)
    (hmis : ∀ k < (size.toNat + 2) / 3, MisreadAsPalette (copiedRgb part size payload m k) →
      Sendable (copiedRgb part size payload m k)) :
    SendableTable (pushPart part size payload m) := by
  intro k hk
  have hslot := bankCell_part hacc.2.1 hacc.2.2.1
  by_cases hin : 8 * (part.toNat - 1) ≤ k ∧ k < 8 * (part.toNat - 1) + (size.toNat + 2) / 3
  · have hcell : 3 * k = bankCell (partBank part)
        (partOffset part + 3 * (k - 8 * (part.toNat - 1))) := by
      simp only [bankCell] at hslot ⊢
      omega
    rw [hcell, pushPart, adjustBankLedsForPower_read _ _ _ (by omega)]
    exact sendable_adjustedRgb (hmis _ (by omega))
  · have hsame : readRgb (pushPart part size payload m) (3 * k) = readRgb m (3 * k) :=
      readRgb_congr fun a ha => pushPart_frame payload m (by omega)
    rw [hsame]
    exact hm k hk

/-- No button of the PUSH is left with a colour that is misread as a palette
colour and cannot be sent. -/
def LeavesSendable (t : ColorTables) : List UInt8 → Prop
  | 0 :: tag :: part :: _ :: size :: payload =>
      Accepted part size payload → tag = 1 ∨ tag = 2 → ∀ k < (size.toNat + 2) / 3,
        MisreadAsPalette (copiedRgb part size payload (t.selected tag) k) →
          Sendable (copiedRgb part size payload (t.selected tag) k)
  | _ => True

instance (part size : UInt8) (payload : List UInt8) : Decidable (Accepted part size payload) :=
  inferInstanceAs (Decidable (_ ∧ _ ∧ _ ∧ _))

instance (t : ColorTables) (buffer : List UInt8) : Decidable (LeavesSendable t buffer) := by
  unfold LeavesSendable
  split <;> infer_instance

theorem bulkPush_sendable {t : ColorTables} {rest : List UInt8}
    (hinactive : SendableTable t.defaultBankInactive)
    (hactive : SendableTable t.defaultBankActive) (hok : LeavesSendable t (0 :: rest)) :
    SendableTable (bulkPush t rest).defaultBankInactive
      ∧ SendableTable (bulkPush t rest).defaultBankActive := by
  rcases bulkPush_cases t rest with hsame | ⟨tag, part, total, size, payload, rfl, hacc, htag⟩
  · rw [hsame]
    exact ⟨hinactive, hactive⟩
  · have hmis := hok hacc htag
    rcases htag with rfl | rfl
    · rw [bulkPush_inactive hacc]
      exact ⟨pushPart_sendable hacc hinactive hmis, hactive⟩
    · rw [bulkPush_active hacc]
      exact ⟨hinactive, pushPart_sendable hacc hactive hmis⟩

theorem bulkPull_wellFormed {t : ColorTables} (hinactive : SendableTable t.defaultBankInactive)
    (hactive : SendableTable t.defaultBankActive) (tag : UInt8) :
    WellFormedReplies (bulkPull t tag) := by
  by_cases htag : tag = 1 ∨ tag = 2
  · have hsource : SendableTable (t.selected tag) := by
      unfold ColorTables.selected
      split
      · exact hinactive
      · exact hactive
    rw [bulkPull_eq t htag]
    refine .flatMap fun body hbody => ?_
    obtain ⟨j, hj, rfl⟩ := List.mem_map.mp hbody
    rw [List.mem_range] at hj
    refine .message (by rw [length_partBody]; decide)
      (List.forall_mem_append.mpr ⟨?_, fun b hb => ?_⟩)
    · have htag' : tag < 0x80 := by rcases htag with rfl | rfl <;> decide
      have hpart : ∀ n : Fin 16, UInt8.ofNat (n + 1) < 0x80 := by decide
      simp only [List.forall_mem_cons]
      exact ⟨by decide, by decide, htag', hpart ⟨j, hj⟩, by decide, by decide,
        List.forall_mem_nil _⟩
    · obtain ⟨k, hk, rfl⟩ := List.mem_map.mp hb
      rw [List.mem_range] at hk
      exact hsource.cell (by omega)
  · rw [not_or] at htag
    rw [bulkPull, if_neg htag.1, if_neg htag.2]
    exact .nil

theorem bulkXfer_sendable {t : ColorTables} {buffer : List UInt8}
    (hinactive : SendableTable t.defaultBankInactive)
    (hactive : SendableTable t.defaultBankActive) (hok : LeavesSendable t buffer) :
    WellFormedReplies (sysExCmdBulkXfer t buffer).2
      ∧ SendableTable (sysExCmdBulkXfer t buffer).1.defaultBankInactive
      ∧ SendableTable (sysExCmdBulkXfer t buffer).1.defaultBankActive := by
  unfold sysExCmdBulkXfer
  split
  · split_ifs with hrest hpush hpull
    · exact ⟨.nil, hinactive, hactive⟩
    · subst hpush
      exact ⟨.nil, bulkPush_sendable hinactive hactive hok⟩
    · exact ⟨bulkPull_wellFormed hinactive hactive _, hinactive, hactive⟩
    · exact ⟨.nil, hinactive, hactive⟩
  · exact ⟨.nil, hinactive, hactive⟩

/-! ## Handlers and packets -/

/-- The call stores only what can be sent. If a message is framed properly,
the `F7` is the only byte a push can decode that is not a data byte. -/
def KeepsSendable (d : Device) : SysexEffect SysExFn → Prop
  | .command .sysExCmdPushConfig _ _ buffer =>
      ∀ t ∈ plainTags, tvTableDecode (fun _ => 0) buffer t < 0x80
  | .command .sysExCmdBulkXfer _ _ buffer => LeavesSendable d.store.colors buffer
  | _ => True

instance (d : Device) : DecidablePred (KeepsSendable d)
  | .command .sysExCmdPushConfig _ _ _ => List.decidableBAll _ plainTags
  | .command .sysExCmdBulkXfer _ _ _ => inferInstanceAs (Decidable (LeavesSendable ..))
  | .command .sysExCmdPullConfig _ _ _ => .isTrue trivial
  | .command .sysExCmdSystem _ _ _ => .isTrue trivial
  | .store _ _ => .isTrue trivial
  | .handle _ => .isTrue trivial
  | .send _ => .isTrue trivial

theorem call_sendable (fn : SysExFn) (command length : UInt8) (buffer : List UInt8) {d : Device}
    (h : SendableStore d.store) (hok : KeepsSendable d (.command fn command length buffer)) :
    WellFormedReplies (fn.call d buffer).2 ∧ SendableStore (fn.call d buffer).1.store := by
  cases fn with
  | sysExCmdPushConfig => exact pushConfig_sendable h hok
  | sysExCmdPullConfig =>
      rw [SysExFn.call]
      rcases pullConfig_cases d buffer with hpull | hpull
      · rw [hpull]
        exact ⟨sendConfigData_wellFormed h.settings, h⟩
      · rw [hpull]
        exact ⟨.nil, h⟩
  | sysExCmdSystem =>
      rw [SysExFn.call]
      rcases system_cases d buffer with hsystem | hsystem | ⟨-, hsystem⟩
      · rw [hsystem]
        exact ⟨.nil, h⟩
      · rw [hsystem]
        exact ⟨.nil, h⟩
      · have hreset := factoryReset_sendable d.store
        rw [hsystem]
        exact ⟨sendConfigData_wellFormed hreset.settings, hreset⟩
  | sysExCmdBulkXfer =>
      obtain ⟨hreplies, hinactive, hactive⟩ := bulkXfer_sendable h.inactive h.active hok
      exact ⟨hreplies, h.version, h.settings, hinactive, hactive⟩

def PacketKeepsSendable (l : Link) (rx : Received) : Prop :=
  Machine.Along runEffect KeepsSendable l.device (sysexStep configSetup l.receiver rx.packet).2

instance (l : Link) (rx : Received) : Decidable (PacketKeepsSendable l rx) :=
  inferInstanceAs (Decidable (Machine.Along ..))

theorem receivePacket_sendable {l : Link} {rx : Received} (h : SendableStore l.device.store)
    (hok : PacketKeepsSendable l rx) :
    WellFormedReplies (receivePacket l rx).2
      ∧ SendableStore (receivePacket l rx).1.device.store := by
  rcases receivePacket_cases l rx with hsysex | ⟨hsilent, hstore⟩
  · rw [hsysex, receiveSysex]
    -- the identity reply is the only thing sent without a call
    have halong : Machine.Along runEffect
        (fun d e => KeepsSendable d e ∧ e ∈ (sysexStep configSetup l.receiver rx.packet).2)
        l.device (sysexStep configSetup l.receiver rx.packet).2 := by
      refine Machine.along_iff_forall.mpr fun pre e post heq => ⟨?_, ?_⟩
      · exact Machine.along_iff_forall.mp hok pre e post heq
      · rw [heq]
        simp
    refine Machine.outputs_closed (fun d : Device => SendableStore d.store) WellFormedReplies
      .nil .append ?_ h halong
    rintro d (_ | _ | ⟨fn, command, length, buffer⟩ | packets) hd ⟨hcall, he⟩
    · exact ⟨.nil, hd⟩
    · exact ⟨.nil, hd⟩
    · exact call_sendable fn command length buffer hd hcall
    · rw [sysexStep_send he]
      exact ⟨.identify, hd⟩
  · rw [hsilent, hstore]
    exact ⟨.nil, h⟩

/-! ## Runs -/

theorem notePacket_channel_cin (channel pitch : UInt8) (onoff : Bool) (velocity : UInt8) :
    8 ≤ (notePacket channel pitch onoff velocity).cin := by
  rw [notePacket_cin]
  cases onoff <;> decide

theorem ccPacket_channel_cin (channel cc value : UInt8) : 8 ≤ (ccPacket channel cc value).cin := by
  rw [ccPacket_cin]
  decide

theorem keyMessages_cin {notes ccs : Prop} [Decidable notes] [Decidable ccs]
    (channel pitch : UInt8) (onoff : Bool) (velocity ccChannel cc value : UInt8) :
    ∀ p ∈ (if notes then [notePacket channel pitch onoff velocity] else []) ++
      (if ccs then [ccPacket ccChannel cc value] else []), 8 ≤ p.cin := by
  refine List.forall_mem_append.mpr ⟨?_, ?_⟩
  · split
    · exact List.forall_mem_singleton.mpr (notePacket_channel_cin ..)
    · exact List.forall_mem_nil _
  · split
    · exact List.forall_mem_singleton.mpr (ccPacket_channel_cin ..)
    · exact List.forall_mem_nil _

theorem serveKey_cin (keyTime : Nat → UInt16) (s : Device × Keys) (i : Nat) :
    ∀ p ∈ (serveKey keyTime s i).2, 8 ≤ p.cin := by
  refine List.forall_mem_append.mpr ⟨?_, ?_⟩
  · unfold serveKeyDown
    dsimp only
    split
    · exact keyMessages_cin _ _ _ _ _ _ _
    · exact List.forall_mem_nil _
  · unfold serveKeyUp
    dsimp only
    split
    · exact keyMessages_cin _ _ _ _ _ _ _
    · exact List.forall_mem_nil _

theorem serveCombos_cin (d : Device) (keys : Keys) (r : ComboRecognizer) :
    ∀ p ∈ (serveCombos d keys r).2, 8 ≤ p.cin := by
  unfold serveCombos
  dsimp only
  split
  · split
    · exact List.forall_mem_singleton.mpr (notePacket_channel_cin ..)
    · exact List.forall_mem_singleton.mpr (notePacket_channel_cin ..)
    · exact List.forall_mem_nil _
  · exact List.forall_mem_nil _

theorem refreshDisplay_cin (poll : Poll) (d : Device) (last : UInt16) :
    ∀ p ∈ (refreshDisplay poll d last).2, 8 ≤ p.cin := by
  rcases (refreshDisplay_cases poll d last).2 with ⟨-, hquiet⟩ | ⟨-, -, _, _, hreport⟩
  · rw [hquiet]
    exact List.forall_mem_nil _
  · rw [hreport]
    exact List.forall_mem_singleton.mpr (ccPacket_channel_cin ..)

theorem serveKeys_cin (s : System) (poll : Poll) : ∀ p ∈ (serveKeys s poll).2, 8 ≤ p.cin := by
  refine List.forall_mem_append.mpr ⟨List.forall_mem_append.mpr ⟨fun p hp => ?_, ?_⟩, ?_⟩
  · obtain ⟨_, i, _, _, hserved⟩ := Machine.mem_outputs.mp hp
    exact serveKey_cin _ _ i p hserved
  · exact serveCombos_cin _ _ _
  · exact refreshDisplay_cin _ _ _

def PollKeepsSendable (s : System) (poll : Poll) : Prop :=
  Machine.Along receivePacket PacketKeepsSendable s.toLink (poll.received.take usbRxPacketLimit)

instance (s : System) (poll : Poll) : Decidable (PollKeepsSendable s poll) :=
  inferInstanceAs (Decidable (Machine.Along ..))

theorem midifighterTask_sendable {s : System} {poll : Poll} (h : SendableStore s.device.store)
    (hok : PollKeepsSendable s poll) :
    WellFormedReplies (midifighterTask s poll).2
      ∧ SendableStore (midifighterTask s poll).1.device.store := by
  have hreceived : WellFormedReplies (getIncomingUsbMidiMessages s poll).2
      ∧ SendableStore (getIncomingUsbMidiMessages s poll).1.device.store :=
    Machine.outputs_closed (fun l : Link => SendableStore l.device.store) WellFormedReplies
      .nil .append (fun _ _ hl hrx => receivePacket_sendable hl hrx) h hok
  unfold midifighterTask
  dsimp only
  split_ifs
  · exact ⟨.nil, h⟩
  · exact hreceived
  · refine ⟨hreceived.1.append (.of_channel (serveKeys_cin _ poll)), ?_⟩
    rw [serveKeys_store]
    exact hreceived.2

/-- **Replies are well formed.** In every run that starts from the factory
settings and colours, every sysex message of the device is `F0`, bytes below
`0x80` and `F7`, provided that every config push decodes to data bytes and
no bulk PUSH leaves a colour that is misread as a palette colour and cannot
be sent. -/
theorem replies_wellFormed (store : Store) (hfactory : AtFactory (eepromSetup store))
    (samples : List (BitVec 64)) (polls : List Poll)
    (hok : Machine.Along midifighterTask PollKeepsSendable (boot store samples) polls) :
    ∀ m ∈ sysexMessages (Machine.outputs midifighterTask (boot store samples) polls),
      WellFormed m := by
  have hboot : SendableStore (boot store samples).device.store :=
    .of_atFactory (eepromSetup_version store) hfactory
  obtain ⟨⟨messages, hwf, heq⟩, -⟩ := Machine.outputs_closed
    (fun s : System => SendableStore s.device.store) WellFormedReplies .nil .append
    (fun _ _ hs hpoll => midifighterTask_sendable hs hpoll) hboot hok
  have hall := heq []
  rw [List.append_nil] at hall
  rw [hall]
  exact List.forall_mem_append.mpr ⟨hwf, List.forall_mem_nil _⟩

/-- An identity request, a push of velocity 5, and a dump after red was
pushed to the first button. -/
theorem replies_wellFormed_red :
    let store : Store := ⟨fun _ => 0xFF, 0, fun _ => 0, ⟨fun _ => 0, fun _ => 0⟩⟩
    let host := (midiStreamSysex 6 [0xF0, 0x7E, 0x7F, 0x06, 0x01, 0xF7] ++
      streamMessage [1, 1, 5] ++ streamMessage [4, 0, 1, 1, 16, 3, 127, 0, 0] ++
      streamMessage [4, 1, 1]).map (Received.mk 0)
    let replies := sysexMessages
      (Machine.outputs midifighterTask (boot store [0]) [Poll.still host 0])
    replies.length = 18 ∧ ∀ m ∈ replies, WellFormed m := by
  intro store host replies
  refine ⟨by decide +kernel, ?_⟩
  exact replies_wellFormed store (eepromSetup_atFactory (by decide)) [0] [Poll.still host 0]
    (by decide +kernel)

/-- A push of the velocity tag alone stores the `F7` as velocity; and a
violet that is misread as pink is dumped with the byte 160. -/
theorem replies_not_wellFormed :
    let store : Store := ⟨fun _ => 0xFF, 0, fun _ => 0, ⟨fun _ => 0, fun _ => 0⟩⟩
    let replies := fun packets : List EventPacket => sysexMessages
      (Machine.outputs midifighterTask (boot store [0])
        [Poll.still (packets.map (Received.mk 0)) 0])
    AtFactory (eepromSetup store)
      ∧ (∃ m ∈ replies (streamMessage [1, 1]), ¬WellFormed m)
      ∧ ∃ m ∈ replies (streamMessage [4, 0, 1, 1, 16, 3, 18, 0, 127] ++ streamMessage [4, 1, 1]),
        ¬WellFormed m := by
  intro store replies
  exact ⟨eepromSetup_atFactory (by decide), by decide +kernel, by decide +kernel⟩

end MidiFighter
