import Mathlib.Data.List.Range
import MidiFighter.Cells

/-!
# Button colours

The colour half of `display.c`: the palette `default_color`, the two
tables `default_bank_inactive` and `default_bank_active`, the factory
tables of `load_default_colors`, and the quantiser
`adjust_*_bank_leds_for_power`, which maps a colour received over sysex to
a palette entry chosen for its power draw.

A table `uint8_t [2][64*3]` is a cell memory addressed by `192 * bank +
index`; a button is three consecutive cells. Both table loops visit one
button at a time, so they are instances of one loop that applies a colour
map to disjoint triples (`mapRgb`), for which `foldl_mapRgb_read` and
`foldl_mapRgb_frame` are proved once.

The quantiser leaves a button alone when one channel equals that channel
of the palette entry it is about to choose, whatever the other channels
hold. `MisreadAsPalette` is that condition on the incoming colour, and
`adjustedRgb_mem_palette` says that it is exactly what separates the
colours that end up in the palette from those that do not.
-/

namespace MidiFighter

def numBanks : Nat := 2

def numButtons : Nat := 64

structure Rgb where
  r : UInt8
  g : UInt8
  b : UInt8
deriving Repr, DecidableEq

/-! ## Palette -/

inductive ColorId where
  | off
  | red
  | redDim
  | orange
  | orangeDim
  | yellow
  | yellowDim
  | chartreuse
  | chartreuseDim
  | green
  | greenDim
  | cyan
  | cyanDim
  | blue
  | blueDim
  | lavender
  | lavenderDim
  | pink
  | pinkDim
  | white
deriving Repr, DecidableEq

def ColorId.all : List ColorId :=
  [.off, .red, .redDim, .orange, .orangeDim, .yellow, .yellowDim, .chartreuse, .chartreuseDim,
    .green, .greenDim, .cyan, .cyanDim, .blue, .blueDim, .lavender, .lavenderDim, .pink,
    .pinkDim, .white]

def defaultColor : ColorId → Rgb
  | .off => ⟨0x00, 0x00, 0x00⟩
  | .red => ⟨48, 0x00, 0x00⟩
  | .redDim => ⟨24, 0x00, 0x00⟩
  | .orange => ⟨40, 12, 0x00⟩
  | .orangeDim => ⟨20, 6, 0x00⟩
  | .yellow => ⟨32, 25, 0x00⟩
  | .yellowDim => ⟨16, 12, 0x00⟩
  | .chartreuse => ⟨25, 32, 0x00⟩
  | .chartreuseDim => ⟨12, 16, 0x00⟩
  | .green => ⟨0x00, 48, 0x00⟩
  | .greenDim => ⟨0x00, 24, 0x00⟩
  | .cyan => ⟨0x00, 30, 30⟩
  | .cyanDim => ⟨0x00, 15, 15⟩
  | .blue => ⟨0x00, 0x00, 48⟩
  | .blueDim => ⟨0x00, 0x00, 24⟩
  | .lavender => ⟨25, 7, 32⟩
  | .lavenderDim => ⟨13, 3, 17⟩
  | .pink => ⟨36, 0x00, 18⟩
  | .pinkDim => ⟨18, 0x00, 9⟩
  | .white => ⟨24, 24, 24⟩

def palette : List Rgb := ColorId.all.map defaultColor

theorem defaultColor_mem_palette (id : ColorId) : defaultColor id ∈ palette :=
  List.mem_map.mpr ⟨id, by cases id <;> decide, rfl⟩

/-- `DISPLAY_SCALING_COLOR_IN_MAX_VALUE`, the largest channel the tables
should hold. -/
def displayScalingColorInMaxValue : UInt8 := 48

/-- `DISPLAY_SCALING_COLOR_OUT_MAX_VALUE`, the largest sysex data byte. -/
def displayScalingColorOutMaxValue : UInt8 := 127

theorem palette_le_max : ∀ c ∈ palette, c.r ≤ displayScalingColorInMaxValue
    ∧ c.g ≤ displayScalingColorInMaxValue ∧ c.b ≤ displayScalingColorInMaxValue := by
  decide

/-! ## Quantiser -/

def lavenderGreenLimit : UInt8 := 0x24

def mf3dUtilityBrightColorLimit : UInt8 := 0x80

/-- `channel > MF3D_UTILITY_BRIGHT_COLOR_LIMIT ? bright : dim`. -/
def byBrightness (channel : UInt8) (bright dim : ColorId) : ColorId :=
  if channel > mf3dUtilityBrightColorLimit then bright else dim

/-- The arm most branches of the quantiser share: `continue` (`none`) when
the deciding channel already has its palette value, otherwise the bright or
the dim shade. -/
def shadeOf (channel assigned : UInt8) (bright dim : ColorId) : Option ColorId :=
  if channel = assigned then none else some (byBrightness channel bright dim)

/-- The decision tree that both `adjust_*_bank_leds_for_power` loops run on
`this_rgb`; `none` is `continue`. Lavender leaves on its blue channel but
picks its shade by the red one. -/
def thisColorId (rgb : Rgb) : Option ColorId :=
  if rgb.r = 0 then
    if rgb.g = 0 then
      if rgb.b = 0 then some .off
      else shadeOf rgb.b (defaultColor .blue).b .blue .blueDim
    else if rgb.b = 0 then shadeOf rgb.g (defaultColor .green).g .green .greenDim
    else shadeOf rgb.g (defaultColor .cyan).g .cyan .cyanDim
  else if rgb.g = 0 then
    if rgb.b = 0 then shadeOf rgb.r (defaultColor .red).r .red .redDim
    else shadeOf rgb.r (defaultColor .pink).r .pink .pinkDim
  else if rgb.b = 0 then
    if rgb.r < rgb.g then
      shadeOf rgb.g (defaultColor .chartreuse).g .chartreuse .chartreuseDim
    else if rgb.r >>> 1 ≥ rgb.g then shadeOf rgb.r (defaultColor .orange).r .orange .orangeDim
    else shadeOf rgb.r (defaultColor .yellow).r .yellow .yellowDim
  else if rgb.g > lavenderGreenLimit then some .white
  else if rgb.b = (defaultColor .lavender).b then none
  else some (byBrightness rgb.r .lavender .lavenderDim)

/-- The colour a button has after its turn of the quantiser loop. -/
def adjustedRgb (rgb : Rgb) : Rgb :=
  match thisColorId rgb with
  | none => rgb
  | some id => defaultColor id

/-- The incoming colour has the deciding channel of a bright palette entry
and is not that entry: a cyan with green 30, a pink with red 36, a
chartreuse with green 32, an orange with red 40, a yellow with red 32 or a
lavender with blue 32. -/
def MisreadAsPalette (c : Rgb) : Prop :=
  (c.r = 0 ∧ c.g = 30 ∧ c.b ≠ 0 ∧ c.b ≠ 30)
    ∨ (c.r = 36 ∧ c.g = 0 ∧ c.b ≠ 0 ∧ c.b ≠ 18)
    ∨ (c.r ≠ 0 ∧ c.g = 32 ∧ c.b = 0 ∧ c.r < 32 ∧ c.r ≠ 25)
    ∨ (c.r = 40 ∧ c.g ≠ 0 ∧ c.b = 0 ∧ c.g ≤ 20 ∧ c.g ≠ 12)
    ∨ (c.r = 32 ∧ c.b = 0 ∧ 16 < c.g ∧ c.g ≤ 32 ∧ c.g ≠ 25)
    ∨ (c.r ≠ 0 ∧ c.g ≠ 0 ∧ c.b = 32 ∧ c.g ≤ lavenderGreenLimit ∧ ¬(c.r = 25 ∧ c.g = 7))

instance (c : Rgb) : Decidable (MisreadAsPalette c) :=
  inferInstanceAs (Decidable (_ ∨ _ ∨ _ ∨ _ ∨ _ ∨ _))

theorem thisColorId_of_misread {c : Rgb} (h : MisreadAsPalette c) : thisColorId c = none := by
  obtain ⟨r, g, b⟩ := c
  rcases h with ⟨hr, hg, hb, -⟩ | ⟨hr, hg, hb, -⟩ | ⟨hr, hg, hb, hlt, -⟩ |
    ⟨hr, hg, hb, hle, -⟩ | ⟨hr, hb, hlt, hle, -⟩ | ⟨hr, hg, hb, hle, -⟩
  · simp_all [thisColorId, shadeOf, defaultColor]
  · simp_all [thisColorId, shadeOf, defaultColor]
  · simp_all [thisColorId, shadeOf, defaultColor]
  · dsimp only at hr hg hb hle
    subst hr hb
    have hnlt : ¬(40 : UInt8) < g := by
      rw [UInt8.not_lt]
      exact UInt8.le_trans hle (by decide)
    have hhalf : (40 : UInt8) >>> 1 = 20 := by decide
    simp [thisColorId, shadeOf, defaultColor, hg, hnlt, hhalf, hle]
  · dsimp only at hr hb hlt hle
    subst hr hb
    have hg : g ≠ 0 := fun h0 => absurd (h0 ▸ hlt) (by decide)
    have hhalf : (32 : UInt8) >>> 1 = 16 := by decide
    simp [thisColorId, shadeOf, defaultColor, hg, UInt8.not_lt.mpr hle, hhalf,
      UInt8.not_le.mpr hlt]
  · have hle' : ¬lavenderGreenLimit < g := UInt8.not_lt.mpr hle
    simp_all [thisColorId, defaultColor]

theorem not_misread_of_mem_palette : ∀ c ∈ palette, ¬MisreadAsPalette c := by
  decide

theorem shadeOf_eq_none {channel assigned : UInt8} {bright dim : ColorId}
    (h : shadeOf channel assigned bright dim = none) : channel = assigned := by
  unfold shadeOf at h
  split at h
  · assumption
  · cases h

/-- A colour the quantiser leaves alone is a palette colour unless it was
misread as one: the cases are the leaves of the decision tree. -/
theorem mem_palette_of_continue {c : Rgb} (h : thisColorId c = none)
    (hmis : ¬MisreadAsPalette c) : c ∈ palette := by
  obtain ⟨r, g, b⟩ := c
  simp only [MisreadAsPalette, not_or] at hmis
  obtain ⟨hcyan, hpink, hchartreuse, horange, hyellow, hlavender⟩ := hmis
  unfold thisColorId at h
  dsimp only at h
  split at h
  · rename_i hr
    obtain rfl := hr
    split at h
    · rename_i hg
      obtain rfl := hg
      split at h
      · cases h
      · obtain rfl := shadeOf_eq_none h
        exact defaultColor_mem_palette .blue
    · split at h
      · rename_i hb
        obtain rfl := hb
        obtain rfl := shadeOf_eq_none h
        exact defaultColor_mem_palette .green
      · rename_i hb
        obtain rfl := shadeOf_eq_none h
        obtain rfl : b = 30 := by_contra fun hne => hcyan ⟨rfl, rfl, hb, hne⟩
        exact defaultColor_mem_palette .cyan
  · rename_i hr
    split at h
    · rename_i hg
      obtain rfl := hg
      split at h
      · rename_i hb
        obtain rfl := hb
        obtain rfl := shadeOf_eq_none h
        exact defaultColor_mem_palette .red
      · rename_i hb
        obtain rfl := shadeOf_eq_none h
        obtain rfl : b = 18 := by_contra fun hne => hpink ⟨rfl, rfl, hb, hne⟩
        exact defaultColor_mem_palette .pink
    · rename_i hg
      split at h
      · rename_i hb
        obtain rfl := hb
        split at h
        · rename_i hlt
          obtain rfl := shadeOf_eq_none h
          obtain rfl : r = 25 := by_contra fun hne => hchartreuse ⟨hr, rfl, rfl, hlt, hne⟩
          exact defaultColor_mem_palette .chartreuse
        · rename_i hlt
          split at h
          · rename_i hle
            obtain rfl := shadeOf_eq_none h
            obtain rfl : g = 12 := by_contra fun hne => horange ⟨rfl, hg, rfl, hle, hne⟩
            exact defaultColor_mem_palette .orange
          · rename_i hle
            obtain rfl := shadeOf_eq_none h
            obtain rfl : g = 25 := by_contra fun hne =>
              hyellow ⟨rfl, rfl, UInt8.not_le.mp hle, UInt8.not_lt.mp hlt, hne⟩
            exact defaultColor_mem_palette .yellow
      · split at h
        · cases h
        · rename_i hlim
          split at h
          · rename_i hb
            obtain rfl := hb
            obtain ⟨rfl, rfl⟩ : r = 25 ∧ g = 7 := by_contra fun hne =>
              hlavender ⟨hr, hg, rfl, UInt8.not_lt.mp hlim, hne⟩
            exact defaultColor_mem_palette .lavender
          · cases h

/-- The quantiser produces a palette colour exactly when the colour it is
given is not misread as one. -/
theorem adjustedRgb_mem_palette (c : Rgb) : adjustedRgb c ∈ palette ↔ ¬MisreadAsPalette c := by
  unfold adjustedRgb
  constructor
  · intro hmem hmis
    rw [thisColorId_of_misread hmis] at hmem
    exact not_misread_of_mem_palette c hmem hmis
  · intro hmis
    cases h : thisColorId c with
    | none => exact mem_palette_of_continue h hmis
    | some id => exact defaultColor_mem_palette id

/-! ## Tables -/

structure ColorTables where
  defaultBankInactive : Nat → UInt8
  defaultBankActive : Nat → UInt8

/-- The address of `[bank][index]` in a table with rows of 64 buttons. -/
def bankCell (bank index : Nat) : Nat := 192 * bank + index

def readRgb (m : Nat → UInt8) (i : Nat) : Rgb := ⟨m i, m (i + 1), m (i + 2)⟩

def writeRgb (m : Nat → UInt8) (i : Nat) (c : Rgb) : Nat → UInt8 :=
  Cells.applyWrites m [(i, c.r), (i + 1, c.g), (i + 2, c.b)]

def mapRgb (f : Rgb → Rgb) (m : Nat → UInt8) (i : Nat) : Nat → UInt8 :=
  writeRgb m i (f (readRgb m i))

theorem writeRgb_frame {m : Nat → UInt8} {i a : Nat} {c : Rgb} (h : ¬(i ≤ a ∧ a < i + 3)) :
    writeRgb m i c a = m a := by
  refine Cells.applyWrites_of_notMem ?_
  simp only [List.map_cons, List.map_nil, List.mem_cons, List.not_mem_nil, or_false]
  omega

theorem readRgb_writeRgb (m : Nat → UInt8) (i : Nat) (c : Rgb) :
    readRgb (writeRgb m i c) i = c := by
  have hnodup : ([(i, c.r), (i + 1, c.g), (i + 2, c.b)].map Prod.fst).Nodup := by simp
  have hcell : ∀ {a v}, (a, v) ∈ [(i, c.r), (i + 1, c.g), (i + 2, c.b)] →
      writeRgb m i c a = v := fun h => Cells.applyWrites_of_mem hnodup h
  unfold readRgb
  rw [hcell (v := c.r) (by simp), hcell (v := c.g) (by simp), hcell (v := c.b) (by simp)]

theorem readRgb_congr {m m' : Nat → UInt8} {i : Nat}
    (h : ∀ a, i ≤ a ∧ a < i + 3 → m a = m' a) : readRgb m i = readRgb m' i := by
  unfold readRgb
  rw [h i (by omega), h (i + 1) (by omega), h (i + 2) (by omega)]

theorem eq_of_readRgb_eq {m m' : Nat → UInt8} {i a : Nat} (h : readRgb m i = readRgb m' i)
    (hlow : i ≤ a) (hhigh : a < i + 3) : m a = m' a := by
  obtain ⟨hr, hg, hb⟩ := Rgb.mk.inj h
  obtain rfl | rfl | rfl : a = i ∨ a = i + 1 ∨ a = i + 2 := by omega
  · exact hr
  · exact hg
  · exact hb

theorem writeRgb_congr {m m' : Nat → UInt8} {i a : Nat} {c : Rgb} (h : i ≤ a ∧ a < i + 3) :
    writeRgb m i c a = writeRgb m' i c a :=
  eq_of_readRgb_eq ((readRgb_writeRgb m i c).trans (readRgb_writeRgb m' i c).symm) h.1 h.2

theorem foldl_mapRgb_frame {f : Rgb → Rgb} {is : List Nat} {m : Nat → UInt8} {a : Nat}
    (h : ∀ i ∈ is, ¬(i ≤ a ∧ a < i + 3)) : is.foldl (mapRgb f) m a = m a :=
  Cells.foldl_frame (fun i a => i ≤ a ∧ a < i + 3)
    (fun _ _ _ hfoot => writeRgb_frame hfoot) h

theorem foldl_mapRgb_read {f : Rgb → Rgb} {is : List Nat} {m : Nat → UInt8} {i : Nat}
    (hpair : is.Pairwise (fun i j => i + 3 ≤ j)) (hi : i ∈ is) :
    readRgb (is.foldl (mapRgb f) m) i = f (readRgb m i) := by
  have hlocal := Cells.foldl_local (f := mapRgb f) (fun i a => i ≤ a ∧ a < i + 3)
    (fun _ _ _ hfoot => writeRgb_frame hfoot)
    (fun m m' i hm a ha => by
      unfold mapRgb
      rw [readRgb_congr hm]
      exact writeRgb_congr ha)
    (m := m) (hpair.imp fun hij a ha hb => by omega) i hi
  rw [readRgb_congr hlocal]
  exact readRgb_writeRgb m i _

/-! ## The loops over the tables -/

/-- The values `this_byte` takes: from `offset` in steps of three while
below `offset + size`. Parts start at 168 or below and hold at most 57
bytes, so the `uint8_t` counter never wraps. -/
def thisBytes (offset size : Nat) : List Nat :=
  (List.range ((size + 2) / 3)).map fun k => offset + 3 * k

/-- One turn of `adjust_*_bank_leds_for_power`. -/
def adjustRgb (bank : Nat) (m : Nat → UInt8) (thisByte : Nat) : Nat → UInt8 :=
  match thisColorId (readRgb m (bankCell bank thisByte)) with
  | none => m
  | some id => writeRgb m (bankCell bank thisByte) (defaultColor id)

def adjustBankLedsForPower (bank offset size : Nat) (m : Nat → UInt8) : Nat → UInt8 :=
  (thisBytes offset size).foldl (adjustRgb bank) m

def adjustInactiveBankLedsForPower (bank offset size : Nat) (t : ColorTables) : ColorTables :=
  { t with
    defaultBankInactive := adjustBankLedsForPower bank offset size t.defaultBankInactive }

def adjustActiveBankLedsForPower (bank offset size : Nat) (t : ColorTables) : ColorTables :=
  { t with defaultBankActive := adjustBankLedsForPower bank offset size t.defaultBankActive }

/-- One of the loops of `load_default_colors`: all 64 buttons of a bank. -/
def loadBank (id : ColorId) (bank : Nat) (m : Nat → UInt8) : Nat → UInt8 :=
  (List.range 64).foldl (fun m button => writeRgb m (bankCell bank (3 * button)) (defaultColor id))
    m

def loadDefaultColors (t : ColorTables) : ColorTables where
  defaultBankInactive := loadBank .white 1 (loadBank .off 0 t.defaultBankInactive)
  defaultBankActive := loadBank .green 1 (loadBank .blue 0 t.defaultBankActive)

theorem writeRgb_readRgb (m : Nat → UInt8) (i : Nat) : writeRgb m i (readRgb m i) = m := by
  simp [writeRgb, readRgb, Function.update_eq_self]

theorem adjustRgb_eq_mapRgb (bank : Nat) (m : Nat → UInt8) (thisByte : Nat) :
    adjustRgb bank m thisByte = mapRgb adjustedRgb m (bankCell bank thisByte) := by
  unfold adjustRgb mapRgb adjustedRgb
  split
  · rw [writeRgb_readRgb]
  · rfl

theorem adjustBankLedsForPower_eq (bank offset size : Nat) (m : Nat → UInt8) :
    adjustBankLedsForPower bank offset size m
      = ((thisBytes offset size).map (bankCell bank)).foldl (mapRgb adjustedRgb) m := by
  rw [adjustBankLedsForPower, List.foldl_map]
  exact congrArg (List.foldl · m _) (funext₂ fun m i => adjustRgb_eq_mapRgb bank m i)

theorem loadBank_eq (id : ColorId) (bank : Nat) (m : Nat → UInt8) :
    loadBank id bank m = ((List.range 64).map fun button => bankCell bank (3 * button)).foldl
      (mapRgb fun _ => defaultColor id) m := by
  rw [loadBank, List.foldl_map]
  rfl

theorem pairwise_buttons (base n : Nat) :
    ((List.range n).map fun k => base + 3 * k).Pairwise (fun i j => i + 3 ≤ j) := by
  rw [List.pairwise_map]
  exact List.pairwise_lt_range.imp fun h => by omega

theorem adjustBankLedsForPower_read (bank offset : Nat) {size k : Nat} (m : Nat → UInt8)
    (hk : 3 * k < size) :
    readRgb (adjustBankLedsForPower bank offset size m) (bankCell bank (offset + 3 * k))
      = adjustedRgb (readRgb m (bankCell bank (offset + 3 * k))) := by
  rw [adjustBankLedsForPower_eq, thisBytes, List.map_map]
  have hcell : bankCell bank ∘ (fun k => offset + 3 * k)
      = fun k => bankCell bank offset + 3 * k := by
    funext k
    simp only [Function.comp_apply, bankCell]
    omega
  rw [hcell]
  refine foldl_mapRgb_read (pairwise_buttons _ _) (List.mem_map.mpr ⟨k, ?_, ?_⟩)
  · rw [List.mem_range]
    omega
  · simp only [bankCell]
    omega

/-- It writes no cell before the part, and none past the last button it
starts in it. -/
theorem adjustBankLedsForPower_frame {bank offset size a : Nat} (m : Nat → UInt8)
    (h : a < bankCell bank offset ∨ bankCell bank offset + 3 * ((size + 2) / 3) ≤ a) :
    adjustBankLedsForPower bank offset size m a = m a := by
  rw [adjustBankLedsForPower_eq]
  refine foldl_mapRgb_frame fun i hi => ?_
  obtain ⟨j, hj, rfl⟩ := List.mem_map.mp hi
  obtain ⟨k, hk, rfl⟩ := List.mem_map.mp hj
  rw [List.mem_range] at hk
  simp only [bankCell] at h ⊢
  omega

theorem loadBank_read {id : ColorId} {bank k : Nat} (m : Nat → UInt8) (hk : k < 64) :
    readRgb (loadBank id bank m) (bankCell bank (3 * k)) = defaultColor id := by
  rw [loadBank_eq]
  exact foldl_mapRgb_read (pairwise_buttons _ _)
    (List.mem_map.mpr ⟨k, List.mem_range.mpr hk, rfl⟩)

theorem loadBank_frame {id : ColorId} {bank a : Nat} (m : Nat → UInt8)
    (h : a < bankCell bank 0 ∨ bankCell bank 192 ≤ a) : loadBank id bank m a = m a := by
  rw [loadBank_eq]
  refine foldl_mapRgb_frame fun i hi => ?_
  obtain ⟨k, hk, rfl⟩ := List.mem_map.mp hi
  rw [List.mem_range] at hk
  simp only [bankCell] at h ⊢
  omega

/-! ## Palette tables -/

def InPalette (m : Nat → UInt8) : Prop := ∀ k < 128, readRgb m (3 * k) ∈ palette

theorem eq_of_readRgb {m m' : Nat → UInt8} {i : Nat}
    (h : readRgb m (3 * (i / 3)) = readRgb m' (3 * (i / 3))) : m i = m' i :=
  eq_of_readRgb_eq h (by omega) (by omega)

theorem cell_of_readRgb {P : UInt8 → Prop} {m : Nat → UInt8} {i : Nat}
    (h : P (readRgb m (3 * (i / 3))).r ∧ P (readRgb m (3 * (i / 3))).g
      ∧ P (readRgb m (3 * (i / 3))).b) : P (m i) := by
  obtain ⟨hr, hg, hb⟩ := h
  obtain hi | hi | hi : i = 3 * (i / 3) ∨ i = 3 * (i / 3) + 1 ∨ i = 3 * (i / 3) + 2 := by omega
  · rw [hi]
    exact hr
  · rw [hi]
    exact hg
  · rw [hi]
    exact hb

theorem InPalette.le_max {m : Nat → UInt8} (h : InPalette m) {i : Nat} (hi : i < 384) :
    m i ≤ displayScalingColorInMaxValue :=
  cell_of_readRgb (P := (· ≤ displayScalingColorInMaxValue))
    (palette_le_max _ (h (i / 3) (by omega)))

theorem loadBanks_read {id₀ id₁ : ColorId} (m : Nat → UInt8) {k : Nat} (hk : k < 128) :
    readRgb (loadBank id₁ 1 (loadBank id₀ 0 m)) (3 * k)
      = defaultColor (if k < 64 then id₀ else id₁) := by
  split
  · rename_i hbank
    have hlow : readRgb (loadBank id₁ 1 (loadBank id₀ 0 m)) (3 * k)
        = readRgb (loadBank id₀ 0 m) (3 * k) := by
      refine readRgb_congr fun a ha => loadBank_frame _ (Or.inl ?_)
      simp only [bankCell]
      omega
    have hcell : 3 * k = bankCell 0 (3 * k) := by simp [bankCell]
    rw [hlow, hcell, loadBank_read m hbank]
  · have hcell : 3 * k = bankCell 1 (3 * (k - 64)) := by
      simp only [bankCell]
      omega
    rw [hcell, loadBank_read _ (by omega)]

theorem loadBanks_inPalette (id₀ id₁ : ColorId) (m : Nat → UInt8) :
    InPalette (loadBank id₁ 1 (loadBank id₀ 0 m)) := by
  intro k hk
  rw [loadBanks_read m hk]
  exact defaultColor_mem_palette _

theorem loadBanks_cell {id₀ id₁ : ColorId} (m m' : Nat → UInt8) {i : Nat} (hi : i < 384) :
    loadBank id₁ 1 (loadBank id₀ 0 m) i = loadBank id₁ 1 (loadBank id₀ 0 m') i :=
  eq_of_readRgb ((loadBanks_read m (by omega)).trans (loadBanks_read m' (by omega)).symm)

theorem loadDefaultColors_cell (t t' : ColorTables) {i : Nat} (hi : i < 384) :
    (loadDefaultColors t).defaultBankInactive i = (loadDefaultColors t').defaultBankInactive i
      ∧ (loadDefaultColors t).defaultBankActive i
        = (loadDefaultColors t').defaultBankActive i := by
  unfold loadDefaultColors
  dsimp only
  exact ⟨loadBanks_cell _ _ hi, loadBanks_cell _ _ hi⟩

/-! ## Applying the quantiser twice -/

/-- White (24, 24, 24) has less green than `LAVENDER_GREEN_LIMIT`, so it is
the one palette entry that the quantiser does not keep: it takes it for a
dim lavender. -/
theorem adjustedRgb_defaultColor (id : ColorId) :
    adjustedRgb (defaultColor id) = defaultColor id ↔ id ≠ .white := by
  cases id <;> decide

/-- The button is white already, or the quantiser turns it white: all three
channels lit, with more green than a lavender has. -/
def MeetsWhite (c : Rgb) : Prop :=
  c = defaultColor .white ∨ (c.r ≠ 0 ∧ c.b ≠ 0 ∧ c.g > lavenderGreenLimit)

instance (c : Rgb) : Decidable (MeetsWhite c) := inferInstanceAs (Decidable (_ ∨ _))

theorem shadeOf_ne_white {channel assigned : UInt8} {bright dim : ColorId}
    (hbright : bright ≠ .white) (hdim : dim ≠ .white) :
    shadeOf channel assigned bright dim ≠ some .white := by
  unfold shadeOf byBrightness
  split
  · exact (Option.some_ne_none _).symm
  · split
    · exact fun h => hbright (Option.some.inj h)
    · exact fun h => hdim (Option.some.inj h)

theorem thisColorId_eq_white (c : Rgb) :
    thisColorId c = some .white ↔ c.r ≠ 0 ∧ c.b ≠ 0 ∧ c.g > lavenderGreenLimit := by
  constructor
  · intro h
    unfold thisColorId at h
    split_ifs at h with hr hg hb hb hg hb hb hlt hhalf hlimit hlavender
    -- every leaf but the lit ones picks one of two shades, neither of them white
    all_goals try exact absurd h (shadeOf_ne_white (by decide) (by decide))
    · cases h
    · exact ⟨hr, hb, hlimit⟩
    · unfold byBrightness at h
      split at h <;> cases h
  · rintro ⟨hr, hb, hlimit⟩
    have hg : c.g ≠ 0 := fun h0 => absurd (h0 ▸ hlimit) (by decide)
    rw [thisColorId, if_neg hr, if_neg hg, if_neg hb, if_pos hlimit]

/-- A second turn changes what the first one made white, nothing else. -/
theorem adjustedRgb_adjustedRgb (c : Rgb) :
    adjustedRgb (adjustedRgb c) = adjustedRgb c ↔ thisColorId c ≠ some .white := by
  cases h : thisColorId c with
  | none =>
      have hkeep : adjustedRgb c = c := by rw [adjustedRgb, h]
      rw [hkeep, hkeep]
      exact ⟨fun _ => (Option.some_ne_none _).symm, fun _ => rfl⟩
  | some id =>
      have hid : adjustedRgb c = defaultColor id := by rw [adjustedRgb, h]
      rw [hid, adjustedRgb_defaultColor]
      exact not_congr (Option.some_inj).symm

theorem adjustBankLedsForPower_idem_iff (bank offset size : Nat) (m : Nat → UInt8) :
    adjustBankLedsForPower bank offset size (adjustBankLedsForPower bank offset size m) =
        adjustBankLedsForPower bank offset size m ↔
      ∀ k, 3 * k < size →
        thisColorId (readRgb m (bankCell bank (offset + 3 * k))) ≠ some .white := by
  constructor
  · intro h k hk
    rw [← adjustedRgb_adjustedRgb, ← adjustBankLedsForPower_read bank offset m hk,
      ← adjustBankLedsForPower_read bank offset _ hk, h]
  · intro h
    funext a
    by_cases ha : a < bankCell bank offset ∨ bankCell bank offset + 3 * ((size + 2) / 3) ≤ a
    · rw [adjustBankLedsForPower_frame _ ha]
    · obtain ⟨k, hk, hlow, hhigh⟩ : ∃ k, 3 * k < size ∧ bankCell bank (offset + 3 * k) ≤ a ∧
          a < bankCell bank (offset + 3 * k) + 3 := by
        simp only [bankCell] at ha ⊢
        exact ⟨(a - (192 * bank + offset)) / 3, by omega, by omega, by omega⟩
      refine eq_of_readRgb_eq ?_ hlow hhigh
      rw [adjustBankLedsForPower_read bank offset _ hk,
        adjustBankLedsForPower_read bank offset _ hk]
      exact (adjustedRgb_adjustedRgb _).mpr (h k hk)

/-- Adjusting twice is adjusting once, and the palette colours in the part are
left alone. -/
def AdjustSettles (bank offset size : Nat) (m : Nat → UInt8) : Prop :=
  adjustBankLedsForPower bank offset size (adjustBankLedsForPower bank offset size m) =
      adjustBankLedsForPower bank offset size m ∧
    ∀ k, 3 * k < size → readRgb m (bankCell bank (offset + 3 * k)) ∈ palette →
      readRgb (adjustBankLedsForPower bank offset size m) (bankCell bank (offset + 3 * k)) =
        readRgb m (bankCell bank (offset + 3 * k))

theorem adjustedRgb_of_mem_palette {c : Rgb} (h : c ∈ palette) :
    adjustedRgb c = c ↔ c ≠ defaultColor .white := by
  obtain ⟨id, -, rfl⟩ := List.mem_map.mp h
  rw [adjustedRgb_defaultColor]
  cases id <;> decide

theorem adjustSettles_iff (bank offset size : Nat) (m : Nat → UInt8) :
    AdjustSettles bank offset size m ↔
      ∀ k, 3 * k < size → ¬MeetsWhite (readRgb m (bankCell bank (offset + 3 * k))) := by
  rw [AdjustSettles, adjustBankLedsForPower_idem_iff]
  constructor
  · rintro ⟨htwice, hkeep⟩ k hk (hwhite | hlit)
    · have hmem : readRgb m (bankCell bank (offset + 3 * k)) ∈ palette :=
        hwhite ▸ defaultColor_mem_palette .white
      have hsame := hkeep k hk hmem
      rw [adjustBankLedsForPower_read bank offset m hk] at hsame
      exact (adjustedRgb_of_mem_palette hmem).mp hsame hwhite
    · exact htwice k hk ((thisColorId_eq_white _).mpr hlit)
  · intro h
    refine ⟨fun k hk hwhite => h k hk (Or.inr ((thisColorId_eq_white _).mp hwhite)), ?_⟩
    intro k hk hmem
    rw [adjustBankLedsForPower_read bank offset m hk]
    exact (adjustedRgb_of_mem_palette hmem).mpr fun hwhite => h k hk (Or.inl hwhite)

/-- A second call changes nothing, and palette colours are left alone, exactly
where no button of the part is white or about to become white. -/
theorem adjust_leds_settles_iff (bank offset size : Nat) (t : ColorTables) :
    ((adjustInactiveBankLedsForPower bank offset size
            (adjustInactiveBankLedsForPower bank offset size t) =
          adjustInactiveBankLedsForPower bank offset size t ∧
        ∀ k, 3 * k < size →
          readRgb t.defaultBankInactive (bankCell bank (offset + 3 * k)) ∈ palette →
          readRgb (adjustInactiveBankLedsForPower bank offset size t).defaultBankInactive
              (bankCell bank (offset + 3 * k)) =
            readRgb t.defaultBankInactive (bankCell bank (offset + 3 * k))) ↔
      ∀ k, 3 * k < size →
        ¬MeetsWhite (readRgb t.defaultBankInactive (bankCell bank (offset + 3 * k)))) ∧
    ((adjustActiveBankLedsForPower bank offset size
            (adjustActiveBankLedsForPower bank offset size t) =
          adjustActiveBankLedsForPower bank offset size t ∧
        ∀ k, 3 * k < size →
          readRgb t.defaultBankActive (bankCell bank (offset + 3 * k)) ∈ palette →
          readRgb (adjustActiveBankLedsForPower bank offset size t).defaultBankActive
              (bankCell bank (offset + 3 * k)) =
            readRgb t.defaultBankActive (bankCell bank (offset + 3 * k))) ↔
      ∀ k, 3 * k < size →
        ¬MeetsWhite (readRgb t.defaultBankActive (bankCell bank (offset + 3 * k)))) := by
  rw [← adjustSettles_iff, ← adjustSettles_iff]
  obtain ⟨inactive, active⟩ := t
  simp only [adjustInactiveBankLedsForPower, adjustActiveBankLedsForPower, AdjustSettles,
    ColorTables.mk.injEq, and_true, true_and]

/-- Buttons received as (127, 127, 127) are doubled to (254, 254, 254); the
first call makes them white and the second one a dim lavender. -/
theorem adjust_leds_white_twice :
    let t : ColorTables := ⟨fun _ => 254, fun _ => 254⟩
    let once := adjustInactiveBankLedsForPower 0 0 24 t
    let twice := adjustInactiveBankLedsForPower 0 0 24 once
    readRgb once.defaultBankInactive 0 = defaultColor .white ∧
      readRgb twice.defaultBankInactive 0 = defaultColor .lavenderDim ∧ twice ≠ once := by
  intro t once twice
  have hwhite : readRgb once.defaultBankInactive 0 = defaultColor .white := by decide +kernel
  have hdim : readRgb twice.defaultBankInactive 0 = defaultColor .lavenderDim := by
    decide +kernel
  refine ⟨hwhite, hdim, fun heq => ?_⟩
  rw [heq, hwhite] at hdim
  exact absurd hdim (by decide)

end MidiFighter
