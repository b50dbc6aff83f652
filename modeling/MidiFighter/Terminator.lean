import MidiFighter.Config

/-!
# The terminator of a message

The receiver hands a complete message to its handler as the data bytes
followed by `F7`, with a length that counts the `F7`. Data bytes are below
`80`, so a handler could tell the two apart, but neither of the two that
read variable-length data looks:

- `tv_table_decode` reads pairs while two bytes are left. After an odd
  number of data bytes the last tag is paired with the `F7`, and the
  message has the effect of its complete pairs exactly when the setting
  this changes is one nobody reads (`TagTakesTerminator`);
- the PUSH of `sysExCmdBulkXfer` compares SIZE with a count that includes
  the `F7`, so it accepts a SIZE one larger than the payload
  (`SizeCountsTerminator`).
-/

namespace MidiFighter

/-! ## Config push -/

def completePairs : List UInt8 → List (UInt8 × UInt8)
  | tag :: value :: rest => (tag, value) :: completePairs rest
  | _ => []

theorem data_cases : ∀ data : List UInt8,
    data = encodePairs (completePairs data) ∨
      ∃ tag, data = encodePairs (completePairs data) ++ [tag]
  | [] => Or.inl rfl
  | [tag] => Or.inr ⟨tag, rfl⟩
  | tag :: value :: rest => by
      rcases data_cases rest with h | ⟨last, h⟩
      · exact Or.inl (congrArg (tag :: value :: ·) h)
      · exact Or.inr ⟨last, congrArg (tag :: value :: ·) h⟩

theorem completePairs_append : ∀ (pairs : List (UInt8 × UInt8)) (tag : UInt8),
    completePairs (encodePairs pairs ++ [tag]) = pairs
  | [], _ => rfl
  | pair :: pairs, tag => congrArg (pair :: ·) (completePairs_append pairs tag)

/-- The decoder takes the `F7` for the value of a tag without partner. -/
theorem tvTableDecode_terminator (tag : UInt8) :
    ∀ (pairs : List (UInt8 × UInt8)) (table : TvTable),
      tvTableDecode table (encodePairs pairs ++ [tag] ++ [0xF7]) =
        let config := tvTableDecode table (pushMessage pairs)
        if tag < tvTableSize then Function.update config tag 0xF7 else config
  | [], _ => rfl
  | pair :: pairs, table => by
      rw [tvTableDecode_cons, ← tvTableDecode_terminator tag pairs]
      rfl

def tiltMaskOf (tilt rotation : UInt8) : UInt8 := (tilt <<< 4) ||| rotation

/-- What an `F7` taken for the value of `tag` changes: a setting that has a
tag of its own, or the tilt mask, which tags 11 and 12 share and which may
already have the bits the `F7` would set. -/
def TerminatorMatters (config : TvTable) (tag : UInt8) : Prop :=
  tag ∈ plainTags
    ∨ tag = 11 ∧ tiltMaskOf (config 12) 0xF7 ≠ tiltMaskOf (config 12) (config 11)
    ∨ tag = 12 ∧ tiltMaskOf 0xF7 (config 11) ≠ tiltMaskOf (config 12) (config 11)

/-- Two tables assign the same settings if they agree on the tags that are
read. -/
theorem settings_eq_iff (config config' : TvTable) (old : Setting → UInt8) :
    config.settings old = config'.settings old ↔
      (∀ t ∈ plainTags, config t = config' t)
        ∧ tiltMaskOf (config 12) (config 11) = tiltMaskOf (config' 12) (config' 11) := by
  constructor
  · intro h
    refine ⟨fun t ht => ?_, congrFun h .tiltMask⟩
    have hlookup := (configPairs_settings config old).1 t ht
    rw [h, (configPairs_settings config' old).1 t ht] at hlookup
    exact (Option.some.inj hlookup).symm
  · rintro ⟨hplain, hmask⟩
    funext setting
    cases setting with
    | tiltMask => exact hmask
    | midiChannel => exact congrArg (· - 1) (hplain 0 (by decide))
    | tiltMode => exact congrArg (· + 1) (hplain 13 (by decide))
    | pitchSensitivity | pitchDeadzone => rfl
    | _ => exact hplain _ (by decide)

theorem settings_update_eq_iff (config : TvTable) {tag : UInt8} (hF7 : config tag ≠ 0xF7)
    (old : Setting → UInt8) :
    TvTable.settings (Function.update config tag 0xF7) old = config.settings old ↔
      ¬TerminatorMatters config tag := by
  rw [settings_eq_iff]
  have hplain : (∀ t ∈ plainTags, Function.update config tag 0xF7 t = config t) ↔
      tag ∉ plainTags := by
    constructor
    · intro h hmem
      have htag := h tag hmem
      rw [Function.update_self] at htag
      exact hF7 htag.symm
    · intro hnot t ht
      have hne : t ≠ tag := fun heq => hnot (heq ▸ ht)
      exact Function.update_of_ne hne _ _
  rw [hplain, TerminatorMatters, not_or, not_or]
  refine and_congr_right fun hnot => ?_
  by_cases h11 : tag = 11
  · subst h11
    simp
  · by_cases h12 : tag = 12
    · subst h12
      simp
    · rw [Function.update_of_ne (Ne.symm h11), Function.update_of_ne (Ne.symm h12)]
      simp [h11, h12]

theorem pushConfig_congr {buffer buffer' : List UInt8}
    (h : ∀ old, (tvTableDecode (fun _ => 0) buffer).settings old =
      (tvTableDecode (fun _ => 0) buffer').settings old) (d : Device) :
    sysExCmdPushConfig d buffer = sysExCmdPushConfig d buffer' := by
  simp only [sysExCmdPushConfig, h]

/-- A device that has been set up before: its layout byte is in place. -/
def setUpDevice : Device :=
  Device.start ⟨fun _ => 1, 0, fun _ => 0, ⟨fun _ => 0, fun _ => 0⟩⟩

/-- Two pushes do the same to every device iff they decode to the same
settings; a device that keeps its EEPROM tells them apart. -/
theorem pushConfig_eq_iff (buffer buffer' : List UInt8) :
    (∀ d, sysExCmdPushConfig d buffer = sysExCmdPushConfig d buffer') ↔
      ∀ old, (tvTableDecode (fun _ => 0) buffer).settings old =
        (tvTableDecode (fun _ => 0) buffer').settings old := by
  refine ⟨fun h old => ?_, pushConfig_congr⟩
  have hver : setUpDevice.store.eeprom eeEepromVersion = eepromLayout := rfl
  have hstore := congrArg (fun res => res.1.store.settings) (h setUpDevice)
  rw [pushConfig_settings hver, pushConfig_settings hver] at hstore
  exact (settings_eq_iff _ _ old).mpr ((settings_eq_iff _ _ _).mp hstore)

/-- The message ends with a tag that has no value, and the `F7` taken for it
changes a setting. -/
def TagTakesTerminator (data : List UInt8) : Prop :=
  ∃ pairs tag, data = encodePairs pairs ++ [tag] ∧ TerminatorMatters (lastValue pairs) tag

theorem lastValue_mem {pairs : List (UInt8 × UInt8)} {t : UInt8} (h : lastValue pairs t ≠ 0) :
    (t, lastValue pairs t) ∈ pairs := by
  unfold lastValue at h ⊢
  cases hlast : (pairs.filter fun pair => pair.1 = t).getLast? with
  | none => rw [hlast] at h; exact absurd rfl h
  | some pair =>
      have hmem := List.mem_filter.mp (List.mem_of_getLast? hlast)
      have htag : pair.1 = t := of_decide_eq_true hmem.2
      subst htag
      exact hmem.1

theorem lastValue_lt {pairs : List (UInt8 × UInt8)} (h : ∀ b ∈ encodePairs pairs, b < 0x80)
    (t : UInt8) : lastValue pairs t < 0x80 := by
  by_cases h0 : lastValue pairs t = 0
  · rw [h0]
    decide
  · exact h _ (List.mem_flatMap.mpr ⟨_, lastValue_mem h0, by simp⟩)

theorem terminatorMatters_congr {config config' : TvTable} (h11 : config 11 = config' 11)
    (h12 : config 12 = config' 12) (tag : UInt8) :
    TerminatorMatters config tag ↔ TerminatorMatters config' tag := by
  rw [TerminatorMatters, TerminatorMatters, h11, h12]

theorem terminatorMatters_lt {config : TvTable} {tag : UInt8} (h : TerminatorMatters config tag) :
    tag < tvTableSize := by
  have hplain : ∀ t ∈ plainTags, t < tvTableSize := by simp [plainTags, tvTableSize]
  rcases h with h | ⟨rfl, -⟩ | ⟨rfl, -⟩
  · exact hplain tag h
  · decide
  · decide

theorem length_encodePairs (pairs : List (UInt8 × UInt8)) :
    (encodePairs pairs).length = 2 * pairs.length := by
  simp [encodePairs, Nat.mul_comm]

theorem tagTakesTerminator_iff (pairs : List (UInt8 × UInt8)) (tag : UInt8) :
    TagTakesTerminator (encodePairs pairs ++ [tag]) ↔ TerminatorMatters (lastValue pairs) tag := by
  refine ⟨?_, fun h => ⟨pairs, tag, rfl, h⟩⟩
  rintro ⟨pairs', tag', heq, h⟩
  have hpairs := completePairs_append pairs tag
  rw [heq, completePairs_append] at hpairs
  subst hpairs
  obtain rfl : tag = tag' := by simpa using heq
  exact h

theorem pushConfig_terminator_iff {data : List UInt8} (hdata : ∀ b ∈ data, b < 0x80) :
    (∀ d, sysExCmdPushConfig d (data ++ [0xF7]) =
        sysExCmdPushConfig d (pushMessage (completePairs data))) ↔
      ¬TagTakesTerminator data := by
  generalize hpairs : completePairs data = pairs
  rcases data_cases data with h | ⟨tag, h⟩
  · -- complete pairs only: the `F7` has no tag
    rw [hpairs] at h
    subst h
    refine iff_of_true (fun _ => rfl) ?_
    rintro ⟨pairs', tag, heq, -⟩
    have hlength := congrArg List.length heq
    rw [List.length_append, length_encodePairs, length_encodePairs, List.length_singleton]
      at hlength
    omega
  · rw [hpairs] at h
    subst h
    have hget : ∀ {t}, t < tvTableSize →
        tvTableDecode (fun _ => 0) (pushMessage pairs) t = lastValue pairs t :=
      fun ht => tvTableDecode_get pairs _ ht
    rw [pushConfig_eq_iff, tagTakesTerminator_iff, tvTableDecode_terminator,
      ← terminatorMatters_congr (hget (t := 11) (by decide)) (hget (t := 12) (by decide))]
    dsimp only
    by_cases htag : tag < tvTableSize
    · have hF7 : tvTableDecode (fun _ => 0) (pushMessage pairs) tag ≠ 0xF7 := by
        intro hF7
        have hlt := lastValue_lt (fun b hb => hdata b (List.mem_append_left _ hb)) tag
        rw [← hget htag, hF7] at hlt
        exact absurd hlt (by decide)
      rw [if_pos htag]
      exact ⟨fun hall => (settings_update_eq_iff _ hF7 _).mp (hall fun _ => 0),
        fun hnot old => (settings_update_eq_iff _ hF7 old).mpr hnot⟩
    · rw [if_neg htag]
      exact iff_of_true (fun _ => rfl) fun hmatters => htag (terminatorMatters_lt hmatters)

/-! ## Bulk push -/

/-- A PUSH for an existing part of one of the two tables whose SIZE counts the
`F7`. -/
def SizeCountsTerminator (data : List UInt8) : Prop :=
  ∃ tag part total size payload, data = 0 :: tag :: part :: total :: size :: payload
    ∧ (tag = 1 ∨ tag = 2) ∧ part ≠ 0 ∧ part ≤ 16 ∧ size.toNat = payload.length + 1

/-- The message is a PUSH that announces no more bytes than stand before its
`F7`. -/
def SizeInData (data : List UInt8) : Prop :=
  ∃ tag part total size payload, data = 0 :: tag :: part :: total :: size :: payload
    ∧ size.toNat ≤ payload.length

theorem bulkXfer_of_command {t : ColorTables} {command : UInt8} {rest : List UInt8}
    (h : command ≠ 0) : (sysExCmdBulkXfer t (command :: rest)).1 = t := by
  rcases rest with _ | ⟨tag, rest⟩
  · rfl
  · unfold sysExCmdBulkXfer
    dsimp only
    split_ifs <;> rfl

theorem pushFields_of_append {ds : List UInt8} {tag part total size last : UInt8}
    {payload : List UInt8} (h : ds ++ [last] = tag :: part :: total :: size :: payload)
    (hne : payload ≠ []) :
    ∃ data, ds = tag :: part :: total :: size :: data ∧ payload = data ++ [last] := by
  obtain ⟨data, b, rfl⟩ := (List.eq_nil_or_concat' payload).resolve_left hne
  have hsplit : ds ++ [last] = (tag :: part :: total :: size :: data) ++ [b] := h
  obtain ⟨hds, hlast⟩ := List.append_inj' hsplit rfl
  exact ⟨data, hds, by rw [List.cons.inj hlast |>.1]⟩

theorem bulkPush_ones_ne {tag part total size : UInt8} {payload : List UInt8}
    (hacc : Accepted part size payload) (hsize : 0 < size.toNat) (htag : tag = 1 ∨ tag = 2) :
    bulkPush ⟨fun _ => 1, fun _ => 1⟩ (tag :: part :: total :: size :: payload) ≠
      ⟨fun _ => 1, fun _ => 1⟩ := by
  have hne : pushPart part size payload (fun _ => 1)
      (bankCell (partBank part) (partOffset part) + 3 * 0) ≠ 1 := pushPart_changes payload hsize
  rcases htag with rfl | rfl
  · rw [bulkPush_inactive hacc]
    exact fun heq => hne (congrFun (ColorTables.mk.inj heq).1 _)
  · rw [bulkPush_active hacc]
    exact fun heq => hne (congrFun (ColorTables.mk.inj heq).2 _)

theorem bulkXfer_terminator_iff (data : List UInt8) :
    (∀ t, (sysExCmdBulkXfer t (data ++ [0xF7])).1 ≠ t → SizeInData data) ↔
      ¬SizeCountsTerminator data := by
  constructor
  · rintro h ⟨tag, part, total, size, payload, rfl, htag, hpart, hmax, hsize⟩
    have hacc : Accepted part size (payload ++ [0xF7]) :=
      ⟨by simp, hpart, hmax, by rw [List.length_append]; exact hsize.le⟩
    obtain ⟨_, _, _, _, _, heq, hle⟩ := h _ (by
      rw [List.cons_append, bulkXfer_push]
      exact bulkPush_ones_ne hacc (by omega) htag)
    obtain ⟨-, -, -, rfl, rfl⟩ := pushFields_inj (List.cons.inj heq).2
    omega
  · intro hcount t hne
    rcases data with _ | ⟨command, ds⟩
    · exact absurd rfl hne
    rw [List.cons_append] at hne
    by_cases hcommand : command = 0
    · subst hcommand
      rw [bulkXfer_push] at hne
      rcases bulkPush_cases t (ds ++ [0xF7]) with hsame |
        ⟨tag, part, total, size, payload, heq, ⟨hnil, hpart, hmax, hsize⟩, htag⟩
      · exact absurd hsame hne
      obtain ⟨payload, rfl, rfl⟩ := pushFields_of_append heq hnil
      rw [List.length_append, List.length_singleton] at hsize
      -- SIZE reaches the `F7` only in the excluded case
      have hbelow : size.toNat ≠ payload.length + 1 := fun hall =>
        hcount ⟨tag, part, total, size, payload, rfl, htag, hpart, hmax, hall⟩
      exact ⟨tag, part, total, size, payload, rfl, by omega⟩
    · exact absurd (bulkXfer_of_command hcommand) hne

/-! ## Both handlers -/

/-- **The terminator as data.** For data bytes below `80`, a config push has
the effect of its complete pairs exactly when the `F7` is not taken for the
value of a last tag that matters, and a bulk push touches the tables only for
a SIZE its payload covers exactly when SIZE does not count the `F7`. -/
theorem terminator_not_data_iff (data : List UInt8) (hdata : ∀ b ∈ data, b < 0x80) :
    ((∀ d, sysExCmdPushConfig d (data ++ [0xF7]) =
        sysExCmdPushConfig d (pushMessage (completePairs data))) ↔
      ¬TagTakesTerminator data) ∧
    ((∀ t, (sysExCmdBulkXfer t (data ++ [0xF7])).1 ≠ t → SizeInData data) ↔
      ¬SizeCountsTerminator data) :=
  ⟨pushConfig_terminator_iff hdata, bulkXfer_terminator_iff data⟩

/-- A push of MIDI channel 5 and a tag that is not read, without a value, and
a bulk push whose SIZE counts its three colour bytes. -/
theorem terminator_not_data_unread :
    let push : List UInt8 := [0, 5, 2]
    let bulk : List UInt8 := [0, 1, 1, 16, 3, 127, 0, 0]
    (∀ d, sysExCmdPushConfig d (push ++ [0xF7]) =
        sysExCmdPushConfig d (pushMessage [(0, 5)])) ∧
      ∀ t, (sysExCmdBulkXfer t (bulk ++ [0xF7])).1 ≠ t → SizeInData bulk := by
  intro push bulk
  have htag : ¬TagTakesTerminator push := by
    rintro ⟨pairs, tag, heq, hmatters⟩
    have hlast := congrArg List.getLast? heq
    rw [List.getLast?_concat] at hlast
    obtain rfl : 2 = tag := Option.some.inj hlast
    rcases hmatters with hplain | ⟨h11, -⟩ | ⟨h12, -⟩
    · exact absurd hplain (by decide)
    · exact absurd h11 (by decide)
    · exact absurd h12 (by decide)
  have hsize : ¬SizeCountsTerminator bulk := by
    rintro ⟨tag, part, total, size, payload, heq, -, -, -, hall⟩
    simp only [bulk, List.cons.injEq, true_and] at heq
    obtain ⟨-, -, -, rfl, rfl⟩ := heq
    exact absurd hall (by decide)
  exact ⟨(terminator_not_data_iff push (by simp [push])).1.mpr htag,
    (terminator_not_data_iff bulk (by simp [bulk])).2.mpr hsize⟩

/-- A push of channel 5 and the tag of the velocity without a value makes `F7`
the velocity. A bulk push with SIZE 1 and no payload stores the `F7`, doubled,
as a red channel that the quantiser takes for a full red. -/
theorem terminator_as_data :
    (sysExCmdPushConfig setUpDevice ([0, 5, 1] ++ [0xF7])).1.store.settings .midiVelocity = 0xF7
      ∧ (sysExCmdPushConfig setUpDevice (pushMessage (completePairs [0, 5, 1]))).1.store.settings
        .midiVelocity = 0
      ∧ readRgb (sysExCmdBulkXfer ⟨fun _ => 0, fun _ => 0⟩
          ([0, 1, 1, 16, 1] ++ [0xF7])).1.defaultBankInactive 0 = defaultColor .red := by
  have hver : setUpDevice.store.eeprom eeEepromVersion = eepromLayout := rfl
  refine ⟨?_, ?_, by decide +kernel⟩
  · rw [pushConfig_settings hver]
    decide
  · rw [pushConfig_settings hver]
    decide

end MidiFighter
