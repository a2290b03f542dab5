import CameraScript.Fault
import Mathlib.Algebra.Group.Nat.Defs

/-!
# Sums and products of words

What the arithmetic of words does as arithmetic of natural numbers.

* `Motion.toNat_clampedAdd`, `Motion.toNat_clampedMul`: sums and products that stop at the
  largest word.
* `addWide_eq_ok`, `addWide_eq_error_iff`, `successor_eq_ok_iff`: sums that must fit their word.
-/

namespace CameraScript

/-- A sum of words is below the first of them exactly where it wraps round. -/
theorem le_add_iff {a b : UInt64} : a ≤ a + b ↔ a.toNat + b.toNat < 2 ^ 64 := by
  have ha := a.toNat_lt
  have hb := b.toNat_lt
  rw [UInt64.le_iff_toNat_le, UInt64.toNat_add]
  omega

namespace Motion

theorem toNat_clampedAdd (a b : UInt64) :
    (clampedAdd a b).toNat = min (2 ^ 64 - 1) (a.toNat + b.toNat) := by
  unfold clampedAdd
  split
  · next h =>
    rw [le_add_iff] at h
    rw [UInt64.toNat_add, Nat.mod_eq_of_lt h]
    omega
  · next h =>
    rw [le_add_iff] at h
    simp only [UInt64.toNat_ofNat', UInt64.size]
    omega

theorem toNat_clampedMul (a b : UInt64) :
    (clampedMul a b).toNat = min (2 ^ 64 - 1) (a.toNat * b.toNat) := by
  unfold clampedMul UInt64.ofNatClamp
  split
  · next h =>
    rw [UInt64.toNat_ofNatLT]
    simp only [UInt64.size] at h
    omega
  · next h =>
    rw [UInt64.toNat_ofNatLT]
    simp only [UInt64.size] at h ⊢
    omega

end Motion

theorem addWide_eq_ok {a b : UInt64} (h : a.toNat + b.toNat < 2 ^ 64) :
    addWide a b = .ok (a + b) := by
  rw [addWide, if_pos (le_add_iff.2 h)]

theorem addWide_eq_error_iff {a b : UInt64} :
    addWide a b = .error .additionOverflow ↔ 2 ^ 64 ≤ a.toNat + b.toNat := by
  unfold addWide
  split
  · next h =>
    rw [le_add_iff] at h
    exact iff_of_false nofun (Nat.not_le_of_lt h)
  · next h =>
    rw [le_add_iff] at h
    exact iff_of_true rfl (Nat.le_of_not_lt h)

theorem successor_eq_ok {a : UInt32} (h : a.toNat + 1 < 2 ^ 32) :
    successor a = .ok (a + 1) := by
  have hlt : a < a + 1 := by
    rw [UInt32.lt_iff_toNat_lt, UInt32.toNat_add, UInt32.toNat_one, Nat.mod_eq_of_lt h]
    omega
  rw [successor, if_pos hlt]

theorem successor_max : successor 0xffffffff = .error .additionOverflow := rfl

theorem successor_eq_ok_iff {a b : UInt32} : successor a = .ok b ↔ b.toNat = a.toNat + 1 := by
  constructor
  · intro h
    by_cases hlt : a.toNat + 1 < 2 ^ 32
    · rw [successor_eq_ok hlt] at h
      cases h
      rw [UInt32.toNat_add, UInt32.toNat_one, Nat.mod_eq_of_lt hlt]
    · have hmax : a = 0xffffffff := by
        apply UInt32.toNat_inj.1
        have := a.toNat_lt
        change a.toNat = 4294967295
        omega
      rw [hmax, successor_max] at h
      cases h
  · intro h
    have hlt : a.toNat + 1 < 2 ^ 32 := h ▸ b.toNat_lt
    rw [successor_eq_ok hlt]
    congr 1
    apply UInt32.toNat_inj.1
    rw [UInt32.toNat_add, UInt32.toNat_one, Nat.mod_eq_of_lt hlt, h]

theorem eq_additionOverflow_of_successor {a : UInt32} {fault : Fault}
    (h : successor a = .error fault) : fault = .additionOverflow := by
  unfold successor at h
  split at h
  · cases h
  · cases h
    rfl

end CameraScript
