import MidiFighter.BulkXfer
import MidiFighter.Device

/-!
# Configuration

The command handlers of `config.c` on the device: a config push, a config
pull, the system commands, and the bulk transfer of `BulkXfer` on the
device's colour tables.

A push message is a list of (tag, value) pairs. `tv_table_decode` collects
them in a table that starts out zero, the settings are overwritten from
it, saved, answered with `send_config_data` and read back. The main result
follows one value through all of that (`config_roundTrip`): the packets of
the answer make up one message, the message carries the last value pushed
for each tag, and so does the answer to a pull after any later power cycle.
It is assembled from the decoder
(`tvTableDecode_get`), the field transformations, which are
inverse to each other although each wraps at 8 bits, and persistence
(`eepromSetup_of_saved`).
-/

namespace MidiFighter

/-! ## The tag-value table -/

def tvTableSize : UInt8 := 24

/-- `tvtable_t`, by tag. -/
abbrev TvTable := UInt8 → UInt8

namespace TvTable

variable (config : TvTable)

def midiChannel : UInt8 := config 0
def midiVelocity : UInt8 := config 1
def fourBanksMode : UInt8 := config 3
def softwareMode : UInt8 := config 7
def combos : UInt8 := config 8
def animation : UInt8 := config 10
def rotation : UInt8 := config 11
def tilt : UInt8 := config 12
def tiltMode : UInt8 := config 13
def tiltSens : UInt8 := config 14
def tiltRange : UInt8 := config 16
def pitchRange : UInt8 := config 17
def tiltDead : UInt8 := config 18
def tiltAxis : UInt8 := config 20
def pickSens : UInt8 := config 21
def sleepTime : UInt8 := config 22
def sideBank : UInt8 := config 23

end TvTable

/-- `tv_table_decode (table, buffer, size)`, with `size = buffer.length`. A
byte without a partner at the end, such as the `F7`, is not read. -/
def tvTableDecode (table : TvTable) : List UInt8 → TvTable
  | tag :: value :: rest =>
      tvTableDecode (if tag < tvTableSize then Function.update table tag value else table) rest
  | _ => table

/-- The settings a push assigns; the two pitch settings are not pushed. -/
def TvTable.settings (config : TvTable) (old : Setting → UInt8) : Setting → UInt8
  | .midiChannel => config.midiChannel - 1
  | .midiVelocity => config.midiVelocity
  | .fourBanksMode => config.fourBanksMode
  | .midiOutputMode => config.softwareMode
  | .combosEnable => config.combos
  | .animations => config.animation
  | .tiltMask => (config.tilt <<< 4) ||| config.rotation
  | .tiltMode => config.tiltMode + 1
  | .tiltSensitivity => config.tiltSens
  | .tiltRange => config.tiltRange
  | .pitchRange => config.pitchRange
  | .tiltDeadzone => config.tiltDead
  | .tiltAxis => config.tiltAxis
  | .pickSensitivity => config.pickSens
  | .sleepTime => config.sleepTime
  | .sideBank => config.sideBank
  | .pitchSensitivity => old .pitchSensitivity
  | .pitchDeadzone => old .pitchDeadzone

/-! ## Handlers -/

def configPairs (settings : Setting → UInt8) : List (UInt8 × UInt8) :=
  [(0, settings .midiChannel + 1),
    (1, settings .midiVelocity),
    (3, settings .fourBanksMode),
    (7, settings .midiOutputMode),
    (8, settings .combosEnable),
    (10, settings .animations),
    (11, settings .tiltMask &&& 0x3),
    (12, (settings .tiltMask >>> 4) &&& 0xF),
    (13, settings .tiltMode - 1),
    (14, settings .tiltSensitivity),
    (15, settings .pitchSensitivity),
    (16, settings .tiltRange),
    (17, settings .pitchRange),
    (18, settings .tiltDeadzone),
    (19, settings .pitchDeadzone),
    (20, settings .tiltAxis),
    (21, settings .pickSensitivity),
    (22, settings .sleepTime),
    (23, settings .sideBank)]

def encodePairs (pairs : List (UInt8 × UInt8)) : List UInt8 :=
  pairs.flatMap fun pair => [pair.1, pair.2]

/-- `send_config_data`; `0x1` marks a response. -/
def sendConfigData (d : Device) : List EventPacket :=
  let payload := djttHeader ++ [sysexCommandPullConf, 0x1] ++
    encodePairs (configPairs d.store.settings) ++ [0xF7]
  midiStreamSysex (UInt8.ofNat payload.length) payload

def sysExCmdPushConfig (d : Device) (buffer : List UInt8) : Device × List EventPacket :=
  let sideBankPrevState := d.setting .sideBank
  let config := tvTableDecode (fun _ => 0) buffer
  let d := { d with store := { d.store with settings := config.settings d.store.settings } }
  let d :=
    if d.setting .sideBank ≠ sideBankPrevState then
      if d.setting .sideBank = 0 then changeBank d 0 else d
    else d
  let d := startGeometricAnimation d 0 3
  let d := { d with store := eepromSaveEdits d.store }
  ({ d with store := eepromSetup d.store }, sendConfigData d)

def sysExCmdPullConfig (d : Device) (buffer : List UInt8) : Device × List EventPacket :=
  match buffer with
  | 0x0 :: _ => (d, sendConfigData d)
  | _ => (d, [])

/-- `sysExCmdSystem`: 1 enters the bootloader, 2 resets the settings. -/
def sysExCmdSystem (d : Device) (buffer : List UInt8) : Device × List EventPacket :=
  match buffer with
  | 1 :: _ => ({ d with inBootloader := true }, [])
  | 2 :: _ =>
      let d := { d with store := eepromFactoryReset d.store }
      (d, sendConfigData d)
  | _ => (d, [])

def SysExFn.call (fn : SysExFn) (d : Device) (buffer : List UInt8) :
    Device × List EventPacket :=
  match fn with
  | .sysExCmdPushConfig => MidiFighter.sysExCmdPushConfig d buffer
  | .sysExCmdPullConfig => MidiFighter.sysExCmdPullConfig d buffer
  | .sysExCmdSystem => MidiFighter.sysExCmdSystem d buffer
  | .sysExCmdBulkXfer =>
      let res := MidiFighter.sysExCmdBulkXfer d.store.colors buffer
      ({ d with store := { d.store with colors := res.1 } }, res.2)

theorem pullConfig_cases (d : Device) (buffer : List UInt8) :
    sysExCmdPullConfig d buffer = (d, sendConfigData d)
      ∨ sysExCmdPullConfig d buffer = (d, []) := by
  unfold sysExCmdPullConfig
  split
  · exact Or.inl rfl
  · exact Or.inr rfl

theorem system_cases (d : Device) (buffer : List UInt8) :
    sysExCmdSystem d buffer = (d, [])
      ∨ sysExCmdSystem d buffer = ({ d with inBootloader := true }, [])
      ∨ (∃ rest, buffer = 2 :: rest)
        ∧ sysExCmdSystem d buffer =
          ({ d with store := eepromFactoryReset d.store },
            sendConfigData { d with store := eepromFactoryReset d.store }) := by
  unfold sysExCmdSystem
  split
  · exact Or.inr (Or.inl rfl)
  · exact Or.inr (Or.inr ⟨⟨_, rfl⟩, rfl⟩)
  · exact Or.inl rfl

/-! ## The decoder -/

/-- The value of the last pair with tag `t`, 0 if there is none. -/
def lastValue (pairs : List (UInt8 × UInt8)) (t : UInt8) : UInt8 :=
  ((pairs.filter fun pair => pair.1 = t).getLast?.map Prod.snd).getD 0

/-- The arguments of a push message, up to the `F7`. -/
def pushMessage (pairs : List (UInt8 × UInt8)) : List UInt8 := encodePairs pairs ++ [0xF7]

theorem tvTableDecode_cons (table : TvTable) (pair : UInt8 × UInt8)
    (pairs : List (UInt8 × UInt8)) :
    tvTableDecode table (pushMessage (pair :: pairs)) =
      tvTableDecode (if pair.1 < tvTableSize then Function.update table pair.1 pair.2 else table)
        (pushMessage pairs) := by
  simp [pushMessage, encodePairs, tvTableDecode]

/-- Decoding keeps, for each tag of the table, the last value sent or what
the table held. The induction carries the table along. -/
theorem tvTableDecode_get : ∀ (pairs : List (UInt8 × UInt8)) (table : TvTable) {t : UInt8},
    t < tvTableSize →
      tvTableDecode table (pushMessage pairs) t =
        ((pairs.filter fun pair => pair.1 = t).getLast?.map Prod.snd).getD (table t)
  | [], _, _, _ => rfl
  | pair :: pairs, table, t, ht => by
      rw [tvTableDecode_cons, tvTableDecode_get pairs _ ht]
      by_cases htag : pair.1 = t
      · subst htag
        rw [if_pos ht, Function.update_self, List.filter_cons_of_pos (by simp),
          List.getLast?_cons]
        cases (pairs.filter fun p => p.1 = pair.1).getLast? <;> rfl
      · rw [List.filter_cons_of_neg (by simpa using htag)]
        split
        · rw [Function.update_of_ne (Ne.symm htag)]
        · rfl

theorem tvTableDecode_filter : ∀ (pairs : List (UInt8 × UInt8)) (table : TvTable),
    tvTableDecode table (pushMessage (pairs.filter fun pair => pair.1 < tvTableSize)) =
      tvTableDecode table (pushMessage pairs)
  | [], _ => rfl
  | pair :: pairs, table => by
      rw [tvTableDecode_cons]
      by_cases htag : pair.1 < tvTableSize
      · rw [List.filter_cons_of_pos (by simpa using htag), tvTableDecode_cons,
          tvTableDecode_filter]
      · rw [List.filter_cons_of_neg (by simpa using htag), if_neg htag, tvTableDecode_filter]

/-! ## What a push stores -/

theorem sendConfigData_congr {d d' : Device} (h : d.store.settings = d'.store.settings) :
    sendConfigData d = sendConfigData d' := by
  unfold sendConfigData
  rw [h]

def pushedStore (s : Store) (buffer : List UInt8) : Store :=
  { s with settings := (tvTableDecode (fun _ => 0) buffer).settings s.settings }

/-- Everything a push does: it saves the new settings and reads them back,
it may go to bank 0, and it starts animations. -/
theorem pushConfig_cases (d : Device) (buffer : List UInt8) :
    ∃ bank counters display,
      sysExCmdPushConfig d buffer =
        ({ d with
            store := eepromSetup (eepromSaveEdits (pushedStore d.store buffer))
            gBankSelected := bank
            gBankSelectCounter := counters
            display := display },
          sendConfigData { d with store := pushedStore d.store buffer })
        ∧ (bank = d.gBankSelected ∨ bank = 0) := by
  have hsend : ∀ e : Device, e.store.settings = (pushedStore d.store buffer).settings →
      sendConfigData { e with store := eepromSaveEdits e.store }
        = sendConfigData { d with store := pushedStore d.store buffer } :=
    fun e he => sendConfigData_congr ((eepromSaveEdits_settings e.store).trans he)
  unfold sysExCmdPushConfig
  dsimp only
  split_ifs
  · rw [hsend _ (by rw [startGeometricAnimation_eq, changeBank_eq]; rfl),
      startGeometricAnimation_eq, changeBank_eq]
    exact ⟨0, _, _, rfl, Or.inr rfl⟩
  · rw [hsend _ (by rw [startGeometricAnimation_eq]; rfl), startGeometricAnimation_eq]
    exact ⟨d.gBankSelected, _, _, rfl, Or.inl rfl⟩
  · rw [hsend _ (by rw [startGeometricAnimation_eq]; rfl), startGeometricAnimation_eq]
    exact ⟨d.gBankSelected, _, _, rfl, Or.inl rfl⟩

theorem pushConfig_clocks (d : Device) (buffer : List UInt8) :
    (sysExCmdPushConfig d buffer).1.display.clocks = d.display.clocks := by
  unfold sysExCmdPushConfig
  dsimp only
  rw [startGeometricAnimation_clocks]
  split_ifs
  · exact changeBank_clocks ..
  · rfl
  · rfl

/-- A push that turns the bank keys off goes back to bank 0. -/
theorem pushConfig_bank (d : Device) (buffer : List UInt8) :
    (sysExCmdPushConfig d buffer).1.gBankSelected =
      if (pushedStore d.store buffer).settings .sideBank = 0 ∧ d.setting .sideBank ≠ 0 then 0
      else d.gBankSelected := by
  have hside : ({ d with
      store := { d.store with
        settings := (tvTableDecode (fun _ => 0) buffer).settings d.store.settings } } :
        Device).setting .sideBank = (pushedStore d.store buffer).settings .sideBank := rfl
  unfold sysExCmdPushConfig
  dsimp only
  rw [startGeometricAnimation_eq, hside]
  generalize (pushedStore d.store buffer).settings .sideBank = new
  dsimp only
  split_ifs with hchanged hzero hoff hoff hoff
  · rw [changeBank_eq]
  · exact absurd ⟨hzero, fun h => hchanged (hzero.trans h.symm)⟩ hoff
  · exact absurd hoff.1 hzero
  · rfl
  · exact absurd (not_not.mp hchanged ▸ hoff.1) hoff.2
  · rfl

theorem pushConfig_store (d : Device) (buffer : List UInt8) :
    (sysExCmdPushConfig d buffer).1.store
      = eepromSetup (eepromSaveEdits (pushedStore d.store buffer)) := by
  obtain ⟨_, _, _, hpush, -⟩ := pushConfig_cases d buffer
  rw [hpush]

theorem pushConfig_packets (d : Device) (buffer : List UInt8) :
    (sysExCmdPushConfig d buffer).2
      = sendConfigData { d with store := pushedStore d.store buffer } := by
  obtain ⟨_, _, _, hpush, -⟩ := pushConfig_cases d buffer
  rw [hpush]

section

variable {d : Device} (hver : d.store.eeprom eeEepromVersion = eepromLayout)
  (buffer : List UInt8)

include hver

theorem pushConfig_settings :
    (sysExCmdPushConfig d buffer).1.store.settings = (pushedStore d.store buffer).settings := by
  rw [pushConfig_store]
  exact (eepromSetup_of_saved (s := pushedStore d.store buffer) hver rfl).1

theorem pushConfig_powerCycle {s : Store}
    (hs : s.eeprom = (sysExCmdPushConfig d buffer).1.store.eeprom) :
    (eepromSetup s).settings = (pushedStore d.store buffer).settings := by
  have hver' : (pushedStore d.store buffer).eeprom eeEepromVersion = eepromLayout := hver
  refine (eepromSetup_of_saved hver' ?_).1
  rw [hs, pushConfig_store, eepromSetup_of_version]
  rw [eepromSaveEdits_version, hver']

end

/-! ## Round trip -/

theorem tiltMask_rotation (tilt rotation : UInt8) :
    ((tilt <<< 4) ||| rotation) &&& 0x3 = rotation &&& 0x3 := by
  have hlow : (tilt <<< 4) &&& 0x3 = 0 :=
    forall_byte (p := fun b => (b <<< 4) &&& 0x3 = 0) (by decide +kernel) tilt
  rw [or_and_distrib, hlow, UInt8.zero_or]

/-- A rotation above 15 would spill into the tilt bits. -/
theorem tiltMask_tilt (tilt : UInt8) {rotation : UInt8} (h : rotation ≤ 15) :
    (((tilt <<< 4) ||| rotation) >>> 4) &&& 0xF = tilt &&& 0xF := by
  have hhigh : ((tilt <<< 4) >>> 4) &&& 0xF = tilt &&& 0xF :=
    forall_byte (p := fun b => ((b <<< 4) >>> 4) &&& 0xF = b &&& 0xF) (by decide +kernel) tilt
  have hlow : rotation >>> 4 = 0 :=
    forall_byte (p := fun b => b ≤ 15 → b >>> 4 = 0) (by decide +kernel) rotation h
  rw [UInt8.shiftRight_or, hlow, UInt8.or_zero, hhigh]

/-- The tags whose value comes back as it was pushed. Tags 11 and 12 share a
byte, and what is sent for tags 15 and 19 is not pushed at all. -/
def plainTags : List UInt8 := [0, 1, 3, 7, 8, 10, 13, 14, 16, 17, 18, 20, 21, 22, 23]

theorem configPairs_settings (config : TvTable) (old : Setting → UInt8) :
    (∀ t ∈ plainTags, (configPairs (config.settings old)).lookup t = some (config t))
      ∧ (configPairs (config.settings old)).lookup 11 = some (config 11 &&& 0x3)
      ∧ (config 11 ≤ 15 →
        (configPairs (config.settings old)).lookup 12 = some (config 12 &&& 0xF)) := by
  refine ⟨fun t ht => ?_, ?_, fun h => ?_⟩
  · have hchannel : config 0 - 1 + 1 = config 0 := UInt8.sub_add_cancel _ _
    have hmode : config 13 + 1 - 1 = config 13 := UInt8.add_sub_cancel _ _
    simp only [plainTags, List.mem_cons, List.not_mem_nil, or_false] at ht
    rcases ht with rfl | rfl | rfl | rfl | rfl | rfl | rfl | rfl | rfl | rfl | rfl | rfl | rfl |
      rfl | rfl
    · exact congrArg some hchannel
    iterate 5 rfl
    · exact congrArg some hmode
    iterate 8 rfl
  · exact congrArg some (tiltMask_rotation _ _)
  · exact congrArg some (tiltMask_tilt _ h)

/-- The packets are one message, and the message is a config response with
these pairs. -/
def IsConfigResponse (packets : List EventPacket) (pairs : List (UInt8 × UInt8)) : Prop :=
  sysexMessages packets = [[0xF0, 0x00, 0x01, 0x79, 0x02, 0x01] ++ encodePairs pairs ++ [0xF7]]

theorem sendConfigData_response (d : Device) :
    IsConfigResponse (sendConfigData d) (configPairs d.store.settings) := by
  have hlen : (djttHeader ++ [sysexCommandPullConf, 0x1] ++
      encodePairs (configPairs d.store.settings) ++ [0xF7]).length = 45 := rfl
  have hread := sysexMessages_midiStreamSysex (by rw [hlen]; decide) (by rw [hlen]; decide) []
  rw [List.append_nil] at hread
  exact hread

/-- **Configuration round trip.** A push is answered with one message, a
config response that carries the last value pushed for every tag, rotation and
tilt cut to their bits. A later pull is answered with the same packets, and so
is a pull after a power cycle from the same EEPROM with anything in RAM. Pairs
with an unknown tag change nothing at all. -/
theorem config_roundTrip (d : Device) (hver : d.store.eeprom eeEepromVersion = eepromLayout)
    (pairs : List (UInt8 × UInt8)) :
    let d' := (sysExCmdPushConfig d (pushMessage pairs)).1
    let answer := (sysExCmdPushConfig d (pushMessage pairs)).2
    (∃ response, IsConfigResponse answer response
      ∧ (∀ t ∈ plainTags, response.lookup t = some (lastValue pairs t))
      ∧ response.lookup 11 = some (lastValue pairs 11 &&& 3)
      ∧ (lastValue pairs 11 ≤ 15 → response.lookup 12 = some (lastValue pairs 12 &&& 15))
      ∧ (∀ request, IsConfigResponse (sysExCmdPullConfig d' (0x0 :: request)).2 response)
      ∧ ∀ d'' : Device, d''.store.eeprom = d'.store.eeprom → ∀ request,
        IsConfigResponse (sysExCmdPullConfig { d'' with store := eepromSetup d''.store }
          (0x0 :: request)).2 response)
      ∧ (∀ request, (sysExCmdPullConfig d' (0x0 :: request)).2 = answer)
      ∧ (∀ d'' : Device, d''.store.eeprom = d'.store.eeprom → ∀ request,
        (sysExCmdPullConfig { d'' with store := eepromSetup d''.store }
          (0x0 :: request)).2 = answer)
      ∧ sysExCmdPushConfig d (pushMessage (pairs.filter fun pair => pair.1 < 24))
          = sysExCmdPushConfig d (pushMessage pairs) := by
  intro d' answer
  have hget : ∀ t < tvTableSize,
      tvTableDecode (fun _ => 0) (pushMessage pairs) t = lastValue pairs t :=
    fun t ht => tvTableDecode_get pairs _ ht
  have hanswer : answer =
      sendConfigData { d with store := pushedStore d.store (pushMessage pairs) } :=
    pushConfig_packets d _
  have hpull : ∀ request, (sysExCmdPullConfig d' (0x0 :: request)).2 = answer := by
    intro request
    rw [hanswer]
    exact sendConfigData_congr (pushConfig_settings hver _)
  have hcycle : ∀ d'' : Device, d''.store.eeprom = d'.store.eeprom → ∀ request,
      (sysExCmdPullConfig { d'' with store := eepromSetup d''.store } (0x0 :: request)).2
        = answer := by
    intro d'' heeprom request
    rw [hanswer]
    exact sendConfigData_congr (pushConfig_powerCycle hver _ heeprom)
  obtain ⟨hplain, hrotation, htilt⟩ :=
    configPairs_settings (tvTableDecode (fun _ => 0) (pushMessage pairs)) d.store.settings
  rw [hget 11 (by decide)] at hrotation htilt
  rw [hget 12 (by decide)] at htilt
  have hsmall : ∀ t ∈ plainTags, t < tvTableSize := by simp [plainTags, tvTableSize]
  have hresponse : IsConfigResponse answer
      (configPairs (pushedStore d.store (pushMessage pairs)).settings) := by
    rw [hanswer]
    exact sendConfigData_response _
  refine ⟨⟨_, hresponse, fun t ht => ?_, hrotation, htilt, fun request => ?_,
    fun d'' heeprom request => ?_⟩, hpull, hcycle, ?_⟩
  · rw [← hget t (hsmall t ht)]
    exact hplain t ht
  · rw [hpull]
    exact hresponse
  · rw [hcycle d'' heeprom]
    exact hresponse
  · unfold sysExCmdPushConfig
    rw [show (24 : UInt8) = tvTableSize from rfl, tvTableDecode_filter]

/-- A channel pushed twice, on a device whose EEPROM is all ones, is the
last one in the answer to the push and in the answer to a pull. -/
theorem config_roundTrip_channel :
    let d := Device.start ⟨fun _ => 1, 0, fun _ => 0, ⟨fun _ => 0, fun _ => 0⟩⟩
    let pushed := sysExCmdPushConfig d (pushMessage [(0, 5), (0, 3)])
    d.store.eeprom eeEepromVersion = eepromLayout
      ∧ ∃ response, IsConfigResponse pushed.2 response
        ∧ IsConfigResponse (sysExCmdPullConfig pushed.1 [0x0, 0xF7]).2 response
        ∧ response.lookup 0 = some 3 := by
  obtain ⟨⟨response, hpush, hplain, -, -, hpull, -⟩, -⟩ := config_roundTrip
    (Device.start ⟨fun _ => 1, 0, fun _ => 0, ⟨fun _ => 0, fun _ => 0⟩⟩) rfl [(0, 5), (0, 3)]
  exact ⟨rfl, response, hpush, hpull [0xF7], hplain 0 (by decide)⟩

end MidiFighter
