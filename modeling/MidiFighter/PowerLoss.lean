import MidiFighter.Eeprom

/-!
# Power loss during a factory reset

An EEPROM of another layout is recognised by its version byte, and
`eeprom_setup` then resets it. Power may be lost after any of the stores of
that reset; what the next `eeprom_setup` finds is the old EEPROM with a
prefix of the stores done (`powerLost`).

The version byte is the commit mark of the reset: as long as it is missing,
the reset is repeated (`eepromSetup_atFactory`). But `eeprom_factory_reset`
writes it first. From then on the EEPROM is taken as it is, and a cut is
harmless only where the missing stores would have changed nothing
(`factoryReset_crashConsistent_iff`).
-/

namespace MidiFighter

/-- The stores `eeprom_factory_reset` makes, in order. -/
def factoryResetWrites (colors : ColorTables) : List (Nat × UInt8) :=
  eepromWrite eeEepromVersion eepromLayout ::
    saveEdits Setting.factory (loadDefaultColors colors)

def powerLost (s : Store) (n : Nat) : Nat → UInt8 :=
  Cells.applyWrites s.eeprom ((factoryResetWrites s.colors).take n)

theorem powerLost_complete (s : Store) {n : Nat}
    (hn : (factoryResetWrites s.colors).length ≤ n) :
    powerLost s n = (eepromFactoryReset s).eeprom := by
  rw [powerLost, List.take_of_length_le hn, eepromFactoryReset, eepromSaveEdits_eeprom,
    factoryResetWrites, Cells.applyWrites_cons, Cells.applyWrites_cons, Cells.applyWrites_nil]

def AtFactory (s : Store) : Prop := ∀ t, Loaded s Setting.factory (loadDefaultColors t)

/-- What a table held before the default colours were loaded is gone. -/
theorem Loaded.atFactory {s : Store} {t : ColorTables}
    (h : Loaded s Setting.factory (loadDefaultColors t)) : AtFactory s := by
  intro t'
  refine ⟨h.settings, fun i hi => ?_, fun i hi => ?_⟩
  · rw [h.inactive i hi]
    exact (loadDefaultColors_cell t t' hi).1
  · rw [h.active i hi]
    exact (loadDefaultColors_cell t t' hi).2

theorem eepromSetup_atFactory {s : Store} (hver : s.eeprom eeEepromVersion ≠ eepromLayout) :
    AtFactory (eepromSetup s) := by
  have hreset : eepromSetup s = eepromSetup (eepromFactoryReset s) := by
    rw [eepromSetup_of_version (eepromFactoryReset_version s), eepromSetup, if_pos hver]
  rw [hreset]
  refine Loaded.atFactory (t := s.colors)
    ((loaded_iff (eepromFactoryReset_version s)).mpr fun w hw => ?_)
  exact eepromSaveEdits_of_mem hw

/-- Once the version byte is written, the EEPROM is taken as it is. -/
theorem atFactory_iff {s : Store} (hver : s.eeprom eeEepromVersion = eepromLayout)
    (t : ColorTables) : AtFactory (eepromSetup s)
      ↔ ∀ w ∈ saveEdits Setting.factory (loadDefaultColors t), s.eeprom w.1 = w.2 := by
  rw [← loaded_iff hver]
  exact ⟨fun h => h t, Loaded.atFactory⟩

/-- The first store of the reset writes the version byte, and no later one
changes it. -/
theorem powerLost_version (s : Store) (n : Nat) :
    powerLost s (n + 1) eeEepromVersion = eepromLayout := by
  rw [powerLost, factoryResetWrites, List.take_succ_cons, Cells.applyWrites_cons]
  refine (Cells.applyWrites_of_notMem fun hmem => ?_).trans (Function.update_self ..)
  exact not_savedCell_version (savedCell_of_mem (List.map_subset _ (List.take_subset ..) hmem))

/-- After the first store, the rest of the reset is done iff the missing
stores would change nothing. -/
theorem powerLost_saved_iff (s : Store) (n : Nat) :
    (∀ w ∈ saveEdits Setting.factory (loadDefaultColors s.colors),
        powerLost s (n + 1) w.1 = w.2)
      ↔ ∀ w ∈ (factoryResetWrites s.colors).drop (n + 1), s.eeprom w.1 = w.2 := by
  rw [factoryResetWrites, List.drop_succ_cons]
  simp only [powerLost, factoryResetWrites, List.take_succ_cons, Cells.applyWrites_cons]
  rw [Cells.applyWrites_take_iff n (saveEdits_nodup _ _)]
  refine forall₂_congr fun w hw => ?_
  have hne : w.1 ≠ eeEepromVersion := fun heq =>
    not_savedCell_version (heq ▸ savedCell_of_mem (List.mem_map_of_mem (List.mem_of_mem_drop hw)))
  rw [show (eepromWrite eeEepromVersion eepromLayout).1 = eeEepromVersion from rfl,
    Function.update_of_ne hne]

/-- **Crash consistency of the factory reset.** Power is lost after `n`
stores of a reset. The next `eeprom_setup` leaves everything at its factory
value, whatever RAM holds, iff no store was made or every missing store
would have written what the old EEPROM held anyway. -/
theorem factoryReset_crashConsistent_iff (s : Store)
    (hver : s.eeprom eeEepromVersion ≠ eepromLayout) (n : Nat) :
    (∀ s' : Store, s'.eeprom = powerLost s n → AtFactory (eepromSetup s'))
      ↔ n = 0 ∨ ∀ w ∈ (factoryResetWrites s.colors).drop n, s.eeprom w.1 = w.2 := by
  cases n with
  | zero =>
      refine iff_of_true (fun s' heeprom => eepromSetup_atFactory ?_) (Or.inl rfl)
      rw [heeprom]
      exact hver
  | succ n =>
      rw [← powerLost_saved_iff, or_iff_right (Nat.succ_ne_zero n)]
      constructor
      · intro h
        have hcut := h { s with eeprom := powerLost s (n + 1) } rfl
        exact (atFactory_iff (powerLost_version s n) s.colors).mp hcut
      · intro h s' heeprom
        refine (atFactory_iff (t := s.colors) ?_).mpr ?_
        · rw [heeprom, powerLost_version]
        · rw [heeprom]
          exact h

/-- Power is lost once the version byte and the 18 settings are written. The
EEPROM, erased otherwise, had the factory colours already. -/
theorem factoryReset_crashConsistent_coloured :
    let colors : ColorTables := ⟨fun _ => 0, fun _ => 0⟩
    let eeprom := Cells.applyWrites (fun _ => 0xFF) ((factoryResetWrites colors).drop 19)
    let s : Store := ⟨eeprom, 0, fun _ => 0, colors⟩
    (s.eeprom eeEepromVersion ≠ eepromLayout ∧ s.eeprom Setting.midiVelocity.address = 0xFF)
      ∧ AtFactory (eepromSetup { s with eeprom := powerLost s 19 }) := by
  intro colors eeprom s
  have hnodup : (((factoryResetWrites colors).drop 19).map Prod.fst).Nodup := by
    rw [factoryResetWrites, List.drop_succ_cons]
    exact (saveEdits_nodup _ _).sublist ((List.drop_sublist ..).map _)
  have hversion : eeEepromVersion ∉ ((factoryResetWrites colors).drop 19).map Prod.fst := by
    rw [factoryResetWrites, List.drop_succ_cons]
    intro hmem
    exact not_savedCell_version (savedCell_of_mem (List.map_subset _ (List.drop_subset ..) hmem))
  have hvelocity : Setting.midiVelocity.address ∉
      ((factoryResetWrites colors).drop 19).map Prod.fst := by
    have hwritten : Setting.midiVelocity.address ∈
        ((saveEdits Setting.factory (loadDefaultColors colors)).map Prod.fst).take 18 := by
      decide +kernel
    rw [factoryResetWrites, List.drop_succ_cons, List.map_drop]
    exact List.disjoint_take_drop (saveEdits_nodup _ _) (Nat.le_refl 18) hwritten
  have hheld : ∀ w ∈ (factoryResetWrites colors).drop 19, eeprom w.1 = w.2 := fun w hw =>
    Cells.applyWrites_of_mem hnodup hw
  replace hversion : eeprom eeEepromVersion = 0xFF := Cells.applyWrites_of_notMem hversion
  replace hvelocity : eeprom Setting.midiVelocity.address = 0xFF :=
    Cells.applyWrites_of_notMem hvelocity
  clear_value eeprom
  have hver : s.eeprom eeEepromVersion ≠ eepromLayout := by
    rw [show s.eeprom eeEepromVersion = 0xFF from hversion]
    decide
  refine ⟨⟨hver, hvelocity⟩, ?_⟩
  exact (factoryReset_crashConsistent_iff s hver 19).mpr (Or.inr hheld) _ rfl

/-- Power is lost after the version byte was written to an erased EEPROM: the
velocity stays 255. -/
theorem factoryReset_not_crashConsistent :
    let s : Store := ⟨fun _ => 0xFF, 0, fun _ => 0, ⟨fun _ => 0, fun _ => 0⟩⟩
    s.eeprom eeEepromVersion ≠ eepromLayout
      ∧ ¬∀ s' : Store, s'.eeprom = powerLost s 1 → AtFactory (eepromSetup s') := by
  intro s
  refine ⟨by decide, fun h => ?_⟩
  have hcut := h { s with eeprom := powerLost s 1 } rfl
  rw [atFactory_iff (powerLost_version s 0) s.colors] at hcut
  have hvelocity : powerLost s 1 0x0003 = 127 :=
    hcut (0x0003, 127) (mem_saveEdits.mpr (Or.inl ⟨.midiVelocity, rfl⟩))
  rw [powerLost, factoryResetWrites, List.take_succ_cons, List.take_zero] at hvelocity
  exact absurd hvelocity (by decide)

end MidiFighter
