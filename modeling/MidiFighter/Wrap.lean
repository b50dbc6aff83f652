import Mathlib.Data.List.Basic
import Mathlib.Tactic.Ring

/-!
# Bytes as wrapped integers

A byte computed by additions and subtractions is the integer result modulo
256 (`UInt8.ofInt`). Code that then compares it with a small limit sees the
integer itself, as long as the integer stays within one turn of that range:
a negative result wraps to a large byte and fails the test like a result
past the limit (`eq_ofInt_iff`).

`window` is the loop over a wrapped interval that is first clipped to the
range below a limit; `mem_window` says that it visits the integers of the
interval that lie in the range.
-/

namespace Wrap

theorem toNat_ofInt (a : Int) : ((UInt8.ofInt a).toNat : Int) = a % 256 := by
  rw [UInt8.ofInt, UInt8.toNat_ofNat']
  omega

theorem ofInt_toNat (x : UInt8) : UInt8.ofInt x.toNat = x := by
  have hx := UInt8.toNat_lt x
  have hint := toNat_ofInt x.toNat
  apply UInt8.toNat_inj.mp
  omega

theorem ofInt_sub (a b : Int) : UInt8.ofInt (a - b) = UInt8.ofInt a - UInt8.ofInt b := by
  rw [Int.sub_eq_add_neg, UInt8.ofInt_add, UInt8.ofInt_neg, UInt8.sub_eq_add_neg]

theorem ofInt_sub_byte (a : Int) (y : UInt8) :
    UInt8.ofInt a - y = UInt8.ofInt (a - y.toNat) := by
  rw [ofInt_sub, ofInt_toNat]

theorem ofInt_add_byte (a : Int) (y : UInt8) :
    UInt8.ofInt a + y = UInt8.ofInt (a + y.toNat) := by
  rw [UInt8.ofInt_add, ofInt_toNat]

/-- A difference of bytes is the wrapped difference. -/
theorem sub_eq_ofInt (x y : UInt8) : x - y = UInt8.ofInt (x.toNat - y.toNat) := by
  rw [← ofInt_sub_byte, ofInt_toNat]

theorem add_eq_ofInt (x y : UInt8) : x + y = UInt8.ofInt (x.toNat + y.toNat) := by
  rw [← ofInt_add_byte, ofInt_toNat]

theorem eq_ofInt_iff {limit : UInt8} {a : Int} (hlow : (limit.toNat : Int) - 256 ≤ a)
    (hhigh : a < 256) {x : UInt8} (hx : x < limit) :
    x = UInt8.ofInt a ↔ (x.toNat : Int) = a := by
  have ha := toNat_ofInt a
  rw [UInt8.lt_iff_toNat_lt] at hx
  rw [← UInt8.toNat_inj]
  omega

/-! ## Loops -/

/-- The values of `x` in `for (x = first; x <= last; x++)`, for a `last` that
is not the largest byte. -/
def countUp (first last : UInt8) : List UInt8 :=
  (List.range' first.toNat (last.toNat + 1 - first.toNat)).map UInt8.ofNat

theorem mem_countUp {first last x : UInt8} : x ∈ countUp first last ↔ first ≤ x ∧ x ≤ last := by
  rw [countUp, List.mem_map, UInt8.le_iff_toNat_le, UInt8.le_iff_toNat_le]
  constructor
  · rintro ⟨n, hn, rfl⟩
    rw [List.mem_range'_1] at hn
    have hlast := UInt8.toNat_lt last
    rw [UInt8.toNat_ofNat']
    omega
  · intro hx
    refine ⟨x.toNat, ?_, UInt8.ofNat_toNat⟩
    rw [List.mem_range'_1]
    omega

/-- The loop from `min` to `max`, with a bound that is not below `limit`
replaced by the end of the range. -/
def window (limit min max : UInt8) : List UInt8 :=
  countUp (if min < limit then min else 0) (if max < limit then max else limit - 1)

theorem mem_window {limit x : UInt8} {a b : Int} (hlimit : 0 < limit)
    (hlow : (limit.toNat : Int) - 256 ≤ a) (hlow' : a < limit.toNat) (hhigh : 0 ≤ b)
    (hhigh' : b < 256) :
    x ∈ window limit (UInt8.ofInt a) (UInt8.ofInt b) ↔
      x < limit ∧ a ≤ x.toNat ∧ (x.toNat : Int) ≤ b := by
  have ha := toNat_ofInt a
  have hb := toNat_ofInt b
  have hl := UInt8.toNat_lt limit
  have hone : (1 : UInt8).toNat = 1 := rfl
  have hzero : (0 : UInt8).toNat = 0 := rfl
  have hlast : (limit - 1).toNat = limit.toNat - 1 := by
    rw [UInt8.lt_iff_toNat_lt, hzero] at hlimit
    rw [UInt8.toNat_sub, hone]
    omega
  rw [window, mem_countUp]
  simp only [UInt8.lt_iff_toNat_lt, UInt8.le_iff_toNat_le, hzero] at hlimit ⊢
  split_ifs <;> omega

end Wrap
