import MidiFighter.Colours

/-!
# Persistent settings

`eeprom.c`: the settings and the two colour tables live in RAM and are
saved to the EEPROM as a whole (`eeprom_save_edits`) and read back as a
whole (`eeprom_setup`, at power-on and after every config push).

The 18 saved settings are one enumeration. A setting's EEPROM cell and its
factory value are tables over it, and the RAM globals `G_EE_*` are a
function from it, so that "every setting" is a quantifier. The EEPROM is a
cell memory: a read returns the last byte written to that address.

`eeprom_save_edits` is the list of stores `saveEdits`: one per setting and
one per colour byte (`mem_saveEdits`), no two to the same cell
(`saveEdits_nodup`). So each store survives, and as `eeprom_setup` reads
settings and colours back from those cells (`loaded_iff`), it restores what
was saved (`eepromSetup_of_saved`).
-/

namespace MidiFighter

/-! ## Settings -/

/-- The globals `G_EE_*` in the order `eeprom_save_edits` stores them. -/
inductive Setting where
  | midiChannel
  | midiVelocity
  | combosEnable
  | midiOutputMode
  | fourBanksMode
  | tiltMode
  | tiltMask
  | animations
  | tiltSensitivity
  | pitchSensitivity
  | tiltRange
  | pitchRange
  | tiltDeadzone
  | pitchDeadzone
  | tiltAxis
  | pickSensitivity
  | sleepTime
  | sideBank
deriving Repr, DecidableEq

namespace Setting

def all : List Setting :=
  [.midiChannel, .midiVelocity, .combosEnable, .midiOutputMode, .fourBanksMode, .tiltMode,
    .tiltMask, .animations, .tiltSensitivity, .pitchSensitivity, .tiltRange, .pitchRange,
    .tiltDeadzone, .pitchDeadzone, .tiltAxis, .pickSensitivity, .sleepTime, .sideBank]

theorem mem_all (f : Setting) : f ∈ all := by
  cases f <;> decide

def address : Setting → Nat
  | .midiChannel => 0x0002
  | .midiVelocity => 0x0003
  | .fourBanksMode => 0x0005
  | .midiOutputMode => 0x0009
  | .combosEnable => 0x000A
  | .tiltMode => 0x000C
  | .tiltMask => 0x000D
  | .animations => 0x000E
  | .tiltSensitivity => 0x000F
  | .pitchSensitivity => 0x0010
  | .tiltRange => 0x0011
  | .pitchRange => 0x0012
  | .tiltDeadzone => 0x0013
  | .pitchDeadzone => 0x0014
  | .tiltAxis => 0x0015
  | .pickSensitivity => 0x0016
  | .sleepTime => 0x0017
  | .sideBank => 0x0018

end Setting

/-- `GEOMETRIC_ANIMATION_TYPES`, which as a setting turns animations off. -/
def geometricAnimationTypes : UInt8 := 4

def midiOutputModeNotesOnly : UInt8 := 0x00

def midiOutputModeCcsOnly : UInt8 := 0x02

def Setting.factory : Setting → UInt8
  | .midiChannel => 2
  | .midiVelocity => 127
  | .combosEnable => 0x01
  | .midiOutputMode => midiOutputModeNotesOnly
  | .fourBanksMode => 0x00
  | .tiltMode => 0x02
  | .tiltMask => 0xF1
  | .animations => geometricAnimationTypes
  | .tiltSensitivity => 0x1E
  | .pitchSensitivity => 0x7F
  | .tiltRange => 0x46
  | .pitchRange => 0x3C
  | .tiltDeadzone => 0x0C
  | .pitchDeadzone => 0x7F
  | .tiltAxis => 0x00
  | .pickSensitivity => 0x40
  | .sleepTime => 0x3C
  | .sideBank => 0x00

/-! ## The store -/

def eepromLayout : UInt8 := 1

def eeEepromVersion : Nat := 0x0000
def eeFirstBootCheck : Nat := 0x0001
def eeColorsIdle : Nat := 0x006F
def eeColorsActive : Nat := 0x01EF
def eeColorsLast : Nat := 0x036F

/-- The EEPROM and the RAM variables that are saved to it. -/
structure Store where
  eeprom : Nat → UInt8
  gSelfTestPassed : UInt8
  settings : Setting → UInt8
  colors : ColorTables

/-- The cell and value of `eeprom_write (address, data)`, which masks the
address. -/
def eepromWrite (address : Nat) (data : UInt8) : Nat × UInt8 := (address % 0x1000, data)

def saveRow (base bank : Nat) (colors : Nat → UInt8) : List (Nat × UInt8) :=
  (List.range (numButtons * 3)).map fun i =>
    eepromWrite (base + numButtons * 3 * bank + i) (colors (bankCell bank i))

/-- The stores `eeprom_save_edits` makes, in order. As a list they can be cut
off where the power goes. -/
def saveEdits (settings : Setting → UInt8) (colors : ColorTables) : List (Nat × UInt8) :=
  (Setting.all.map fun f => eepromWrite f.address (settings f)) ++
    (List.range numBanks).flatMap fun bank =>
      saveRow eeColorsIdle bank colors.defaultBankInactive ++
        saveRow eeColorsActive bank colors.defaultBankActive

def eepromSaveEdits (s : Store) : Store :=
  { s with eeprom := Cells.applyWrites s.eeprom (saveEdits s.settings s.colors) }

def eepromFactoryReset (s : Store) : Store :=
  eepromSaveEdits
    { eeprom := Cells.applyWrites s.eeprom [eepromWrite eeEepromVersion eepromLayout]
      gSelfTestPassed := 0xFF
      settings := Setting.factory
      colors := loadDefaultColors s.colors }

def loadRow (eeprom : Nat → UInt8) (base bank : Nat) (m : Nat → UInt8) : Nat → UInt8 :=
  Cells.applyWrites m <| (List.range (numButtons * 3)).map fun i =>
    (bankCell bank i, eeprom (base + numButtons * 3 * bank + i))

def loadColors (eeprom : Nat → UInt8) (t : ColorTables) : ColorTables :=
  (List.range numBanks).foldl
    (fun t bank =>
      { defaultBankInactive := loadRow eeprom eeColorsIdle bank t.defaultBankInactive
        defaultBankActive := loadRow eeprom eeColorsActive bank t.defaultBankActive })
    t

def eepromSetup (s : Store) : Store :=
  let s := if s.eeprom eeEepromVersion ≠ eepromLayout then eepromFactoryReset s else s
  { s with
    gSelfTestPassed := s.eeprom eeFirstBootCheck
    settings := fun f => s.eeprom f.address
    colors := loadColors s.eeprom s.colors }

/-! ## Saving -/

theorem Setting.address_mask (f : Setting) : f.address % 0x1000 = f.address := by
  cases f <;> rfl

theorem mem_saveRow {base bank : Nat} {colors : Nat → UInt8} {w : Nat × UInt8}
    (hbase : base + 384 ≤ 0x1000) (hbank : bank < numBanks) :
    w ∈ saveRow base bank colors
      ↔ ∃ i, bankCell bank 0 ≤ i ∧ i < bankCell bank 192 ∧ w = (base + i, colors i) := by
  have h2 : bank < 2 := hbank
  have hcell : ∀ i < 192, eepromWrite (base + numButtons * 3 * bank + i) (colors (bankCell bank i))
      = (base + bankCell bank i, colors (bankCell bank i)) := by
    intro i hi
    rw [eepromWrite, bankCell, numButtons, Nat.mod_eq_of_lt (by omega), Nat.add_assoc]
  simp only [saveRow, List.mem_map, List.mem_range]
  constructor
  · rintro ⟨i, hi, rfl⟩
    have hi' : i < 192 := hi
    refine ⟨bankCell bank i, ?_, ?_, hcell i hi⟩
    · simp only [bankCell]
      omega
    · simp only [bankCell]
      omega
  · rintro ⟨i, hlow, hhigh, rfl⟩
    simp only [bankCell] at hlow hhigh
    have hi : bankCell bank (i - 192 * bank) = i := by
      simp only [bankCell]
      omega
    refine ⟨i - 192 * bank, by simp only [numButtons]; omega, ?_⟩
    rw [hcell _ (by omega), hi]

/-- The stores of `eeprom_save_edits`: one per setting and one per byte of
the two colour tables. -/
theorem mem_saveEdits {settings : Setting → UInt8} {colors : ColorTables} {w : Nat × UInt8} :
    w ∈ saveEdits settings colors
      ↔ (∃ f : Setting, w = (f.address, settings f))
        ∨ (∃ i < 384, w = (eeColorsIdle + i, colors.defaultBankInactive i))
        ∨ ∃ i < 384, w = (eeColorsActive + i, colors.defaultBankActive i) := by
  have hrows : ∀ {base : Nat} {table : Nat → UInt8}, base + 384 ≤ 0x1000 →
      ((∃ bank < numBanks, w ∈ saveRow base bank table)
        ↔ ∃ i < 384, w = (base + i, table i)) := by
    intro base table hbase
    constructor
    · rintro ⟨bank, hbank, hw⟩
      have h2 : bank < 2 := hbank
      obtain ⟨i, -, hhigh, rfl⟩ := (mem_saveRow hbase hbank).mp hw
      simp only [bankCell] at hhigh
      exact ⟨i, by omega, rfl⟩
    · rintro ⟨i, hi, rfl⟩
      have hbank : i / 192 < numBanks := Nat.div_lt_of_lt_mul hi
      refine ⟨i / 192, hbank, (mem_saveRow hbase hbank).mpr ⟨i, ?_, ?_, rfl⟩⟩
      · simp only [bankCell]
        omega
      · simp only [bankCell]
        omega
  have hsettings : w ∈ Setting.all.map (fun f => eepromWrite f.address (settings f))
      ↔ ∃ f : Setting, w = (f.address, settings f) := by
    simp only [List.mem_map, Setting.mem_all, true_and, eepromWrite, Setting.address_mask, eq_comm]
  rw [saveEdits, List.mem_append, hsettings, ← hrows (by decide : eeColorsIdle + 384 ≤ 0x1000),
    ← hrows (by decide : eeColorsActive + 384 ≤ 0x1000), List.mem_flatMap]
  simp only [List.mem_append, List.mem_range, and_or_left, exists_or]

def SavedCell (a : Nat) : Prop :=
  (∃ f : Setting, a = f.address) ∨ eeColorsIdle ≤ a ∧ a < eeColorsLast

theorem savedCell_of_mem {settings : Setting → UInt8} {colors : ColorTables} {a : Nat}
    (h : a ∈ (saveEdits settings colors).map Prod.fst) : SavedCell a := by
  obtain ⟨w, hw, rfl⟩ := List.mem_map.mp h
  rcases mem_saveEdits.mp hw with ⟨f, rfl⟩ | ⟨i, hi, rfl⟩ | ⟨i, hi, rfl⟩
  · exact Or.inl ⟨f, rfl⟩
  · simp only [SavedCell, eeColorsIdle, eeColorsLast]
    omega
  · simp only [SavedCell, eeColorsIdle, eeColorsActive, eeColorsLast]
    omega

theorem not_savedCell_version : ¬SavedCell eeEepromVersion := by
  rintro (⟨f, hf⟩ | h)
  · cases f <;> cases hf
  · exact absurd h (by decide)

theorem not_savedCell_firstBoot : ¬SavedCell eeFirstBootCheck := by
  rintro (⟨f, hf⟩ | h)
  · cases f <;> cases hf
  · exact absurd h (by decide)

theorem saveRow_nodup {base bank : Nat} {colors : Nat → UInt8} (hbase : base + 384 ≤ 0x1000)
    (hbank : bank < numBanks) : ((saveRow base bank colors).map Prod.fst).Nodup := by
  have h2 : bank < 2 := hbank
  rw [saveRow, List.map_map, List.nodup_map_iff_inj_on List.nodup_range]
  intro i hi j hj hij
  simp only [numButtons, List.mem_range] at hi hj
  simp only [Function.comp_apply, eepromWrite, numButtons] at hij
  rw [Nat.mod_eq_of_lt (by omega), Nat.mod_eq_of_lt (by omega)] at hij
  omega

theorem saveRow_address {base bank a : Nat} {colors : Nat → UInt8} (hbase : base + 384 ≤ 0x1000)
    (hbank : bank < numBanks) (h : a ∈ (saveRow base bank colors).map Prod.fst) :
    base + 192 * bank ≤ a ∧ a < base + 192 * bank + 192 := by
  obtain ⟨w, hw, rfl⟩ := List.mem_map.mp h
  obtain ⟨i, hlow, hhigh, rfl⟩ := (mem_saveRow hbase hbank).mp hw
  simp only [bankCell] at hlow hhigh ⊢
  omega

/-- No two stores of `eeprom_save_edits` go to the same cell. -/
theorem saveEdits_nodup (settings : Setting → UInt8) (colors : ColorTables) :
    ((saveEdits settings colors).map Prod.fst).Nodup := by
  have hidle : eeColorsIdle + 384 ≤ 0x1000 := by decide
  have hactive : eeColorsActive + 384 ≤ 0x1000 := by decide
  have hsettings : (Setting.all.map fun f => f.address % 0x1000).Nodup := by decide
  have hlow : ∀ f ∈ Setting.all, f.address % 0x1000 < eeColorsIdle := by decide
  rw [saveEdits, List.map_append, List.nodup_append']
  refine ⟨by simpa [eepromWrite, Function.comp_def] using hsettings, ?_, ?_⟩
  · rw [List.map_flatMap, List.nodup_flatMap]
    constructor
    · intro bank hbank
      rw [List.mem_range] at hbank
      have h2 : bank < 2 := hbank
      rw [List.map_append, List.nodup_append']
      refine ⟨saveRow_nodup hidle hbank, saveRow_nodup hactive hbank, ?_⟩
      intro a ha ha'
      have hrow := saveRow_address hidle hbank ha
      have hrow' := saveRow_address hactive hbank ha'
      simp only [eeColorsIdle, eeColorsActive] at hrow hrow'
      omega
    · refine List.Pairwise.imp_of_mem ?_ List.pairwise_lt_range
      intro b c hb hc hlt a hab hac
      rw [List.mem_range] at hb hc
      have h2 : c < 2 := hc
      simp only [List.map_append, List.mem_append] at hab hac
      have hrow := hab.imp (saveRow_address hidle hb) (saveRow_address hactive hb)
      have hrow' := hac.imp (saveRow_address hidle hc) (saveRow_address hactive hc)
      simp only [eeColorsIdle, eeColorsActive] at hrow hrow'
      omega
  · intro a hset hcol
    obtain ⟨w, hw, rfl⟩ := List.mem_map.mp hset
    obtain ⟨f, hf, rfl⟩ := List.mem_map.mp hw
    rw [List.map_flatMap, List.mem_flatMap] at hcol
    obtain ⟨bank, hbank, hrows⟩ := hcol
    rw [List.mem_range] at hbank
    rw [List.map_append, List.mem_append] at hrows
    have hrow := hrows.imp (saveRow_address hidle hbank) (saveRow_address hactive hbank)
    have hf' := hlow f hf
    simp only [eepromWrite, eeColorsIdle, eeColorsActive] at hrow hf'
    omega

theorem eepromSaveEdits_eeprom (s : Store) :
    (eepromSaveEdits s).eeprom
      = Cells.applyWrites s.eeprom (saveEdits s.settings s.colors) := by
  unfold eepromSaveEdits
  dsimp only

theorem eepromSaveEdits_settings (s : Store) : (eepromSaveEdits s).settings = s.settings := by
  unfold eepromSaveEdits
  dsimp only

theorem eepromSaveEdits_colors (s : Store) : (eepromSaveEdits s).colors = s.colors := by
  unfold eepromSaveEdits
  dsimp only

theorem eepromSaveEdits_of_mem {s : Store} {w : Nat × UInt8}
    (h : w ∈ saveEdits s.settings s.colors) : (eepromSaveEdits s).eeprom w.1 = w.2 := by
  rw [eepromSaveEdits_eeprom]
  exact Cells.applyWrites_of_mem (saveEdits_nodup s.settings s.colors) h

theorem eepromSaveEdits_frame (s : Store) {a : Nat} (h : ¬SavedCell a) :
    (eepromSaveEdits s).eeprom a = s.eeprom a := by
  rw [eepromSaveEdits_eeprom]
  exact Cells.applyWrites_of_notMem fun hmem => h (savedCell_of_mem hmem)

theorem eepromSaveEdits_version (s : Store) :
    (eepromSaveEdits s).eeprom eeEepromVersion = s.eeprom eeEepromVersion :=
  eepromSaveEdits_frame s not_savedCell_version

theorem eepromFactoryReset_version (s : Store) :
    (eepromFactoryReset s).eeprom eeEepromVersion = eepromLayout := by
  rw [eepromFactoryReset, eepromSaveEdits_version, Cells.applyWrites_cons, Cells.applyWrites_nil]
  exact Function.update_self eeEepromVersion eepromLayout s.eeprom

/-! ## Loading -/

theorem loadRow_cell (eeprom : Nat → UInt8) (base bank : Nat) (m : Nat → UInt8) {i : Nat}
    (hi : i < 192) :
    loadRow eeprom base bank m (bankCell bank i) = eeprom (base + 192 * bank + i) := by
  refine Cells.applyWrites_of_mem ?_ (List.mem_map.mpr ⟨i, List.mem_range.mpr hi, rfl⟩)
  rw [List.map_map]
  refine List.nodup_range.map fun i j hij => ?_
  simp only [Function.comp_apply, bankCell] at hij
  omega

theorem loadRow_frame {eeprom : Nat → UInt8} {base bank a : Nat} (m : Nat → UInt8)
    (h : a < bankCell bank 0 ∨ bankCell bank 192 ≤ a) : loadRow eeprom base bank m a = m a := by
  refine Cells.applyWrites_of_notMem fun hmem => ?_
  rw [List.map_map, List.mem_map] at hmem
  obtain ⟨i, hi, rfl⟩ := hmem
  simp only [numButtons, List.mem_range] at hi
  simp only [Function.comp_apply, bankCell] at h
  omega

theorem loadRows_cell {eeprom : Nat → UInt8} {base i : Nat} (m : Nat → UInt8) (hi : i < 384) :
    loadRow eeprom base 1 (loadRow eeprom base 0 m) i = eeprom (base + i) := by
  by_cases hbank : i < 192
  · have hcell : bankCell 0 i = i := by simp [bankCell]
    have hload := loadRow_cell eeprom base 0 m hbank
    rw [loadRow_frame _ (Or.inl (by simp only [bankCell]; omega))]
    rwa [hcell] at hload
  · have hcell : bankCell 1 (i - 192) = i := by
      simp only [bankCell]
      omega
    have hload := loadRow_cell eeprom base 1 (loadRow eeprom base 0 m)
      (by omega : i - 192 < 192)
    have haddr : base + 192 * 1 + (i - 192) = base + i := by omega
    rw [hcell, haddr] at hload
    exact hload

theorem loadColors_eq (eeprom : Nat → UInt8) (t : ColorTables) :
    loadColors eeprom t =
      { defaultBankInactive :=
          loadRow eeprom eeColorsIdle 1 (loadRow eeprom eeColorsIdle 0 t.defaultBankInactive)
        defaultBankActive :=
          loadRow eeprom eeColorsActive 1
            (loadRow eeprom eeColorsActive 0 t.defaultBankActive) } := by
  simp [loadColors, numBanks, List.range_succ]

theorem eepromSetup_of_version {s : Store} (h : s.eeprom eeEepromVersion = eepromLayout) :
    eepromSetup s =
      { eeprom := s.eeprom
        gSelfTestPassed := s.eeprom eeFirstBootCheck
        settings := fun f => s.eeprom f.address
        colors := loadColors s.eeprom s.colors } := by
  rw [eepromSetup, if_neg (not_not.mpr h)]

theorem eepromSetup_version (s : Store) :
    (eepromSetup s).eeprom eeEepromVersion = eepromLayout := by
  unfold eepromSetup
  dsimp only
  split
  · exact eepromFactoryReset_version s
  · rename_i h
    exact not_not.mp h

/-- RAM holds these settings and, in the two tables of 384 bytes, these
colours. -/
structure Loaded (s : Store) (settings : Setting → UInt8) (colors : ColorTables) : Prop where
  settings : s.settings = settings
  inactive : ∀ i < 384, s.colors.defaultBankInactive i = colors.defaultBankInactive i
  active : ∀ i < 384, s.colors.defaultBankActive i = colors.defaultBankActive i

/-- `eeprom_setup` loads what `eeprom_save_edits` would store: the two agree
on the cell of every setting and every colour byte. -/
theorem loaded_iff {s : Store} (hver : s.eeprom eeEepromVersion = eepromLayout)
    {settings : Setting → UInt8} {colors : ColorTables} :
    Loaded (eepromSetup s) settings colors
      ↔ ∀ w ∈ saveEdits settings colors, s.eeprom w.1 = w.2 := by
  rw [eepromSetup_of_version hver, loadColors_eq]
  constructor
  · rintro ⟨hsettings, hinactive, hactive⟩ w hw
    dsimp only at hsettings hinactive hactive
    rcases mem_saveEdits.mp hw with ⟨f, rfl⟩ | ⟨i, hi, rfl⟩ | ⟨i, hi, rfl⟩
    · exact congrFun hsettings f
    · rw [← hinactive i hi, loadRows_cell _ hi]
    · rw [← hactive i hi, loadRows_cell _ hi]
  · intro h
    refine ⟨funext fun f => ?_, fun i hi => ?_, fun i hi => ?_⟩
    · exact h (f.address, settings f) (mem_saveEdits.mpr (Or.inl ⟨f, rfl⟩))
    · have hcell := h (eeColorsIdle + i, colors.defaultBankInactive i)
        (mem_saveEdits.mpr (Or.inr (Or.inl ⟨i, hi, rfl⟩)))
      dsimp only
      rwa [loadRows_cell _ hi]
    · have hcell := h (eeColorsActive + i, colors.defaultBankActive i)
        (mem_saveEdits.mpr (Or.inr (Or.inr ⟨i, hi, rfl⟩)))
      dsimp only
      rwa [loadRows_cell _ hi]

theorem loaded_of_saved {s s' : Store} (hver : s.eeprom eeEepromVersion = eepromLayout)
    (heeprom : s'.eeprom = (eepromSaveEdits s).eeprom) :
    Loaded (eepromSetup s') s.settings s.colors := by
  have hver' : s'.eeprom eeEepromVersion = eepromLayout := by
    rw [heeprom, eepromSaveEdits_version, hver]
  refine (loaded_iff hver').mpr fun w hw => ?_
  rw [heeprom]
  exact eepromSaveEdits_of_mem hw

/-- **Persistence.** Whatever RAM holds when power comes back, the settings
and colours are those that were saved last. -/
theorem eepromSetup_of_saved {s s' : Store} (hver : s.eeprom eeEepromVersion = eepromLayout)
    (heeprom : s'.eeprom = (eepromSaveEdits s).eeprom) :
    (eepromSetup s').settings = s.settings
      ∧ ∀ i < 384,
        (eepromSetup s').colors.defaultBankInactive i = s.colors.defaultBankInactive i
          ∧ (eepromSetup s').colors.defaultBankActive i = s.colors.defaultBankActive i := by
  have hloaded := loaded_of_saved hver heeprom
  exact ⟨hloaded.settings, fun i hi => ⟨hloaded.inactive i hi, hloaded.active i hi⟩⟩

/-- **Save and load.** From any EEPROM with the current layout: what
`eeprom_save_edits` stores, `eeprom_setup` restores into any RAM, without a
factory reset; and saving touches only the cells of the settings and the
colour area, so neither the version nor the first-boot byte. -/
theorem saveEdits_roundTrip (s : Store) (hver : s.eeprom eeEepromVersion = eepromLayout) :
    (∀ s' : Store, s'.eeprom = (eepromSaveEdits s).eeprom →
      (eepromSetup s').settings = s.settings
        ∧ (∀ i < 384,
          (eepromSetup s').colors.defaultBankInactive i = s.colors.defaultBankInactive i
            ∧ (eepromSetup s').colors.defaultBankActive i = s.colors.defaultBankActive i)
        ∧ s'.eeprom eeEepromVersion = eepromLayout ∧ (eepromSetup s').eeprom = s'.eeprom)
      ∧ (∀ a, (∀ f : Setting, a ≠ f.address) → a < 0x6F ∨ 0x36E < a →
        (eepromSaveEdits s).eeprom a = s.eeprom a)
      ∧ (eepromSaveEdits s).eeprom eeEepromVersion = s.eeprom eeEepromVersion
      ∧ (eepromSaveEdits s).eeprom eeFirstBootCheck = s.eeprom eeFirstBootCheck := by
  refine ⟨fun s' heeprom => ?_, fun a hsettings harea => ?_, eepromSaveEdits_version s,
    eepromSaveEdits_frame s not_savedCell_firstBoot⟩
  · obtain ⟨hsettings, hcolors⟩ := eepromSetup_of_saved hver heeprom
    have hver' : s'.eeprom eeEepromVersion = eepromLayout := by
      rw [heeprom, eepromSaveEdits_version, hver]
    refine ⟨hsettings, hcolors, hver', ?_⟩
    rw [eepromSetup_of_version hver']
  · refine eepromSaveEdits_frame s ?_
    rintro (⟨f, hf⟩ | ⟨hlow, hhigh⟩)
    · exact hsettings f hf
    · simp only [eeColorsIdle, eeColorsLast] at hlow hhigh
      omega

/-- An EEPROM of ones with all settings at 99, loaded into RAM full of
zeros. -/
theorem saveEdits_roundTrip_ninetyNine :
    let s : Store := ⟨fun _ => 1, 0, fun _ => 99, ⟨fun _ => 7, fun _ => 8⟩⟩
    let s' : Store := ⟨(eepromSaveEdits s).eeprom, 0, fun _ => 0, ⟨fun _ => 0, fun _ => 0⟩⟩
    s.eeprom eeEepromVersion = eepromLayout ∧ (eepromSetup s').settings = s.settings := by
  intro s s'
  have hver : s.eeprom eeEepromVersion = eepromLayout := rfl
  have heeprom : s'.eeprom = (eepromSaveEdits s).eeprom := by simp only [s']
  exact ⟨hver, ((saveEdits_roundTrip s hver).1 s' heeprom).1⟩

end MidiFighter
