/-!
# What the bits of a float stand for

* `Decoded.ofBits`: a 64-bit pattern as a NaN, an infinity or the exact value
  `± mantissa * 2 ^ exponent`. The sign is kept for zero.
* `roundDiv`: a quotient rounded to the nearest natural (`roundDiv_near`), a half going to
  the even neighbour (`roundDiv_even`).
-/

namespace CameraScript.Numeric

inductive Decoded
  | nan
  | infinite (negative : Bool)
  | finite (negative : Bool) (mantissa : Nat) (exponent : Int)
  deriving DecidableEq, Repr

namespace Decoded

/-- The exponent of the smallest floats. -/
def leastExponent : Int := -1074

/-- The mantissa of a power of two. -/
def leadingBit : Nat := 0x10000000000000

def ofBits (bits : UInt64) : Decoded :=
  let negative := decide (0x8000000000000000 ≤ bits.toNat)
  let biased := bits.toNat / leadingBit % 2048
  let fraction := bits.toNat % leadingBit
  if biased = 2047 then
    if fraction = 0 then infinite negative else nan
  else if biased = 0 then
    finite negative fraction leastExponent
  else
    finite negative (leadingBit + fraction) (leastExponent + (biased - 1 : Nat))

def ofFloat (x : Float) : Decoded := ofBits x.toBits

end Decoded

/-! ## Rounded quotients -/

/-- The natural nearest to `num / den`, the even one of two. -/
def roundDiv (num den : Nat) : Nat :=
  let quotient := num / den
  let twice := 2 * (num % den)
  if twice < den then quotient
  else if den < twice then quotient + 1
  else quotient + quotient % 2

theorem roundDiv_near {num den : Nat} (h : 0 < den) :
    2 * (roundDiv num den * den) ≤ 2 * num + den
      ∧ 2 * num ≤ 2 * (roundDiv num den * den) + den := by
  have hd := Nat.div_add_mod' num den
  have hm := Nat.mod_lt num h
  have hs : (num / den + 1) * den = num / den * den + den := Nat.succ_mul _ _
  simp only [roundDiv]
  split
  · omega
  · split
    · omega
    · rcases Nat.mod_two_eq_zero_or_one (num / den) with hq | hq
      · rw [hq, Nat.add_zero]
        omega
      · rw [hq]
        omega

theorem roundDiv_even {num den : Nat} (h : 2 * (num % den) = den) :
    roundDiv num den % 2 = 0 := by
  simp only [roundDiv, h, Nat.lt_irrefl, if_false]
  omega

end CameraScript.Numeric
