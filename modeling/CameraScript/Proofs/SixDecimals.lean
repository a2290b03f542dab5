import CameraScript.Proofs.Compilation
import CameraScript.Proofs.Numerals
import Mathlib

/-!
# Numbers with six decimals

The numbers of a camera command are floats, and a float is written with six decimals by rounding
its exact value. What that value is can be told from the 64 bits of the float.

* `exactValue`: the value of finite bits, from their `signBit`, `exponentField` and
  `fractionField`. `Decoded.ofFloat_ofBits`: a float that is made from bits is decoded as these.
* `Decimal`: six digits behind a point, and in front of it digits without a leading zero.
* `roundDiv_half`, `Fixed.millionths_half`: rounding is off by a half at most, and by a half only
  where it ends in an even number.
* `Written`: how bits are written. `written_text`: all bits are written so.
* `Command.camera_numbers_written`: the five numbers of a camera command are.
-/

namespace CameraScript

namespace Numeric

/-! ## Bits -/

def signBit (bits : UInt64) : Bool := bits.toNat.testBit 63

/-- The eleven bits below the sign. -/
def exponentField (bits : UInt64) : Nat := bits.toNat / 2 ^ 52 % 2 ^ 11

/-- The lowest 52 bits. -/
def fractionField (bits : UInt64) : Nat := bits.toNat % 2 ^ 52

def signed (negative : Bool) (magnitude : ℚ) : ℚ := if negative then -magnitude else magnitude

/-- The value of bits whose exponent field is not full. An empty exponent field is that of the
smallest numbers, which have no leading bit. -/
def exactValue (bits : UInt64) : ℚ :=
  signed (signBit bits) <|
    if exponentField bits = 0 then (fractionField bits : ℚ) * 2 ^ (-1074 : ℤ)
    else ((2 ^ 52 + fractionField bits : ℕ) : ℚ) * 2 ^ ((exponentField bits : ℤ) - 1075)

theorem abs_signed_sub_signed (negative : Bool) (x y : ℚ) :
    |signed negative x - signed negative y| = |x - y| := by
  cases negative with
  | false => rfl
  | true => rw [signed, signed, if_pos rfl, if_pos rfl, neg_sub_neg, abs_sub_comm]

section Bits

open Float.Model (Format)
open Float.Model.UnpackedFloat

variable {bits : UInt64}

theorem decide_le_toNat_eq_signBit :
    decide (0x8000000000000000 ≤ bits.toNat) = signBit bits := by
  have hlt := bits.toNat_lt
  rw [signBit, Nat.testBit_eq_decide_div_mod_eq, decide_eq_decide]
  omega

/-- Finite bits are decoded to a mantissa and an exponent that have their value. -/
theorem Decoded.ofBits_of_ne (h : exponentField bits ≠ 2047) :
    ∃ (mantissa : Nat) (exponent : Int),
      Decoded.ofBits bits = .finite (signBit bits) mantissa exponent ∧
        exactValue bits = signed (signBit bits) (mantissa * 2 ^ exponent) := by
  have hfield : bits.toNat / Decoded.leadingBit % 2048 = exponentField bits := rfl
  unfold Decoded.ofBits exactValue
  rw [hfield, decide_le_toNat_eq_signBit]
  dsimp only
  rw [if_neg h]
  by_cases hzero : exponentField bits = 0
  · rw [if_pos hzero, if_pos hzero]
    exact ⟨_, _, rfl, rfl⟩
  · rw [if_neg hzero, if_neg hzero]
    have hexponent : Decoded.leastExponent + (exponentField bits - 1 : ℕ) =
        (exponentField bits : ℤ) - 1075 := by
      rw [Decoded.leastExponent]
      omega
    refine ⟨_, _, rfl, ?_⟩
    rw [hexponent]
    rfl

theorem Decoded.ofBits_of_eq (h : exponentField bits = 2047) :
    Decoded.ofBits bits = if fractionField bits = 0 then .infinite (signBit bits) else .nan := by
  have hfield : bits.toNat / Decoded.leadingBit % 2048 = exponentField bits := rfl
  unfold Decoded.ofBits
  rw [hfield, decide_le_toNat_eq_signBit]
  dsimp only
  rw [if_pos h]
  rfl

theorem isNaNBits_iff :
    @isNaNBits Format.binary64 bits.toBitVec = true ↔
      exponentField bits = 2047 ∧ fractionField bits ≠ 0 := by
  have hexponent : (@unpackExponent Format.binary64 bits.toBitVec).toNat =
      exponentField bits := by
    rw [unpackExponent_def, BitVec.extractLsb'_toNat, Nat.shiftRight_eq_div_pow]
    rfl
  have hfraction : (@unpackMantissa Format.binary64 bits.toBitVec).toNat =
      fractionField bits := by
    rw [unpackMantissa_def, BitVec.extractLsb'_toNat]
    rfl
  rw [isNaNBits, decide_eq_true_iff, ← BitVec.toNat_inj, ne_eq, ← BitVec.toNat_inj, hexponent,
    hfraction]
  rfl

/-- Floats do not keep all the bits of a NaN, and decoding does not look at them. -/
theorem Decoded.ofFloat_ofBits : Decoded.ofFloat (Float.ofBits bits) = Decoded.ofBits bits := by
  have hbits : (Float.ofBits bits).toBits = UInt64.ofBitVec
      (if @isNaNBits Format.binary64 bits.toBitVec then packedNaN Format.binary64
        else bits.toBitVec) := by
    rw [← pack_unpack]
    rfl
  rw [ofFloat, hbits]
  by_cases hnan : exponentField bits = 2047 ∧ fractionField bits ≠ 0
  · rw [if_pos (isNaNBits_iff.2 hnan), ofBits_of_eq hnan.1, if_neg hnan.2]
    decide +kernel
  · rw [if_neg (mt isNaNBits_iff.1 hnan)]

end Bits

/-! ## Decimals -/

/-- A number written with a point and six digits behind it. -/
structure Decimal where
  negative : Bool
  whole : List Char
  places : List Char
  isDigit : ∀ c ∈ whole ++ places, c.isDigit = true
  whole_ne_nil : whole ≠ []
  no_leading_zero : whole.head? = some '0' → whole = ['0']
  length_places : places.length = 6

namespace Decimal

def text (d : Decimal) : String :=
  String.ofList ((if d.negative then ['-'] else []) ++ d.whole ++ '.' :: d.places)

def value (d : Decimal) : ℚ :=
  signed d.negative (Nat.ofDigitChars 10 d.whole 0 + Nat.ofDigitChars 10 d.places 0 / 10 ^ 6)

/-- Whether the last digit is even. -/
def IsEven (d : Decimal) : Prop := ∃ c ∈ ['0', '2', '4', '6', '8'], d.places.getLast? = some c

end Decimal

theorem eq_zero_of_head?_toDigits {n : Nat} (h : (Nat.toDigits 10 n).head? = some '0') :
    n = 0 := by
  induction n using Nat.strong_induction_on with
  | _ n ih =>
    rw [Nat.toDigits_eq_if (by decide)] at h
    split at h
    · rw [List.head?_cons, Option.some.injEq] at h
      exact Nat.digitChar_eq_zero.1 h
    · obtain ⟨c, rest, hcons⟩ :=
        List.exists_cons_of_ne_nil (Nat.toDigits_ne_nil (n := n / 10) (b := 10))
      have hfirst : (Nat.toDigits 10 (n / 10)).head? = some '0' := by
        rw [hcons] at h ⊢
        exact h
      have hzero := ih (n / 10) (by omega) hfirst
      omega

namespace Fixed

theorem ofDigitChars_digits (width n : Nat) :
    Nat.ofDigitChars 10 (digits width n) 0 = n % 10 ^ width := by
  induction width generalizing n with
  | zero => rw [digits, Nat.ofDigitChars_nil, Nat.pow_zero, Nat.mod_one]
  | succ width ih =>
    rw [digits, Nat.ofDigitChars_append, ih,
      Nat.ofDigitChars_cons_digitChar_of_lt_ten (Nat.mod_lt n (by decide)), Nat.ofDigitChars_nil,
      Nat.pow_succ', Nat.mod_mul, Nat.add_comm]

/-- So many millionths as a decimal. -/
def decimal (negative : Bool) (n : Nat) : Decimal where
  negative
  whole := Nat.toDigits 10 (n / 1000000)
  places := digits 6 (n % 1000000)
  isDigit := by
    intro c hc
    rcases List.mem_append.1 hc with hc | hc
    · exact Nat.isDigit_of_mem_toDigits (by decide) (by decide) hc
    · exact isDigit_of_mem_digits hc
  whole_ne_nil := Nat.toDigits_ne_nil
  no_leading_zero := by
    intro h
    rw [eq_zero_of_head?_toDigits h]
    rfl
  length_places := length_digits 6 _

theorem text_decimal (negative : Bool) (n : Nat) :
    (decimal negative n).text = String.ofList (sign negative ++ chars n) := by
  rw [Decimal.text, chars, List.append_assoc]
  rfl

theorem value_decimal (negative : Bool) (n : Nat) :
    (decimal negative n).value = signed negative (n / 1000000) := by
  have hplaces : n % 1000000 % 10 ^ 6 = n % 1000000 := Nat.mod_mod _ _
  have hcast : (n : ℚ) = 1000000 * (n / 1000000 : ℕ) + (n % 1000000 : ℕ) := by
    exact_mod_cast (Nat.div_add_mod n 1000000).symm
  rw [Decimal.value]
  simp only [decimal, Nat.ofDigitChars_ten_toDigits, ofDigitChars_digits, hplaces]
  congr 1
  rw [hcast]
  ring

theorem isEven_decimal {negative : Bool} {n : Nat} (h : n % 2 = 0) :
    (decimal negative n).IsEven := by
  have hlast : (decimal negative n).places.getLast? =
      some (Nat.digitChar (n % 1000000 % 10)) := by
    simp only [decimal, digits, List.getLast?_concat]
  have heven : n % 1000000 % 10 ∈ [0, 2, 4, 6, 8] := by
    simp only [List.mem_cons, List.not_mem_nil, or_false]
    omega
  exact ⟨_, List.mem_map_of_mem (f := Nat.digitChar) heven, hlast⟩

end Fixed

/-! ## Rounding -/

theorem roundDiv_lt {num den : Nat} (h : 0 < den) (hne : 2 * (num % den) ≠ den) :
    2 * (roundDiv num den * den) < 2 * num + den ∧
      2 * num < 2 * (roundDiv num den * den) + den := by
  have hd := Nat.div_add_mod' num den
  have hm := Nat.mod_lt num h
  have hs : (num / den + 1) * den = num / den * den + den := Nat.succ_mul _ _
  simp only [roundDiv]
  split
  · omega
  · split
    · omega
    · omega

theorem roundDiv_half {num den : Nat} (h : 0 < den) :
    |(roundDiv num den : ℚ) - num / den| ≤ 1 / 2 ∧
      (|(roundDiv num den : ℚ) - num / den| = 1 / 2 → roundDiv num den % 2 = 0) := by
  have hden : (0 : ℚ) < den := by exact_mod_cast h
  have hsub : (roundDiv num den : ℚ) - num / den = (roundDiv num den * den - num) / den := by
    field_simp
  rw [hsub, abs_div, abs_of_pos hden]
  constructor
  · obtain ⟨hupper, hlower⟩ := @roundDiv_near num den h
    have hupper' : 2 * ((roundDiv num den : ℚ) * den) ≤ 2 * num + den := by
      exact_mod_cast hupper
    have hlower' : 2 * (num : ℚ) ≤ 2 * (roundDiv num den * den) + den := by
      exact_mod_cast hlower
    rw [div_le_iff₀ hden, abs_le]
    constructor
    · linarith
    · linarith
  · intro heq
    apply roundDiv_even
    by_contra hne
    obtain ⟨hupper, hlower⟩ := roundDiv_lt h hne
    have hupper' : 2 * ((roundDiv num den : ℚ) * den) < 2 * num + den := by
      exact_mod_cast hupper
    have hlower' : 2 * (num : ℚ) < 2 * (roundDiv num den * den) + den := by
      exact_mod_cast hlower
    have hlt : |(roundDiv num den : ℚ) * den - num| / den < 1 / 2 := by
      rw [div_lt_iff₀ hden, abs_lt]
      constructor
      · linarith
      · linarith
    exact hlt.ne heq

namespace Fixed

theorem millionths_half (mantissa : Nat) (exponent : Int) :
    |(millionths mantissa exponent : ℚ) - mantissa * 2 ^ exponent * 1000000| ≤ 1 / 2 ∧
      (|(millionths mantissa exponent : ℚ) - mantissa * 2 ^ exponent * 1000000| = 1 / 2 →
        millionths mantissa exponent % 2 = 0) := by
  cases exponent with
  | ofNat e =>
    have hexact : (millionths mantissa (Int.ofNat e) : ℚ) =
        mantissa * 2 ^ Int.ofNat e * 1000000 := by
      rw [millionths, Nat.cast_mul, Nat.cast_mul, Nat.pow_eq, Nat.cast_pow, Int.ofNat_eq_natCast,
        zpow_natCast, Nat.cast_ofNat, Nat.cast_ofNat]
    rw [hexact, sub_self, abs_zero]
    norm_num
  | negSucc e =>
    have hquotient : (mantissa : ℚ) * 2 ^ Int.negSucc e * 1000000 =
        (mantissa * 1000000 : ℕ) / (Nat.pow 2 (e + 1) : ℕ) := by
      rw [zpow_negSucc, Nat.pow_eq, Nat.cast_pow, Nat.cast_mul, Nat.cast_ofNat, Nat.cast_ofNat,
        div_eq_mul_inv]
      ring
    rw [hquotient, millionths]
    exact roundDiv_half (Nat.pow_pos (by decide))

end Fixed

/-! ## Texts -/

/-- How the number with these bits is written. -/
structure Written (bits : UInt64) (text : String) : Prop where
  nan : exponentField bits = 2047 → fractionField bits ≠ 0 → text = "NaN"
  infinite : exponentField bits = 2047 → fractionField bits = 0 →
    text = if signBit bits then "-inf" else "inf"
  finite : exponentField bits ≠ 2047 → ∃ d : Decimal, text = d.text ∧ d.negative = signBit bits ∧
    |d.value - exactValue bits| ≤ 1 / 2000000 ∧
    (|d.value - exactValue bits| = 1 / 2000000 → d.IsEven)
  no_exponent : 'e' ∉ text.toList ∧ 'E' ∉ text.toList

theorem Fixed.abs_value_decimal_sub {bits : UInt64} {mantissa : Nat} {exponent : Int}
    (h : exactValue bits = signed (signBit bits) (mantissa * 2 ^ exponent)) :
    |(Fixed.decimal (signBit bits) (Fixed.millionths mantissa exponent)).value
        - exactValue bits| =
      |(Fixed.millionths mantissa exponent : ℚ) - mantissa * 2 ^ exponent * 1000000|
        / 1000000 := by
  rw [h, Fixed.value_decimal, abs_signed_sub_signed, div_sub' (by norm_num), abs_div,
    mul_comm (1000000 : ℚ), abs_of_pos (by norm_num : (0 : ℚ) < 1000000)]

theorem written_text (bits : UInt64) : Written bits (Fixed.text (Float.ofBits bits)) where
  nan := by
    intro hexponent hfraction
    rw [Fixed.text, Decoded.ofFloat_ofBits, Decoded.ofBits_of_eq hexponent, if_neg hfraction]
    rfl
  infinite := by
    intro hexponent hfraction
    rw [Fixed.text, Decoded.ofFloat_ofBits, Decoded.ofBits_of_eq hexponent, if_pos hfraction]
    cases signBit bits with
    | false => rfl
    | true => rfl
  finite := by
    intro hexponent
    obtain ⟨mantissa, exponent, hdecoded, hvalue⟩ := Decoded.ofBits_of_ne hexponent
    obtain ⟨hnear, heven⟩ := Fixed.millionths_half mantissa exponent
    refine ⟨Fixed.decimal (signBit bits) (Fixed.millionths mantissa exponent), ?_, rfl, ?_, ?_⟩
    · rw [Fixed.text, Decoded.ofFloat_ofBits, hdecoded, Fixed.text_decimal]
      rfl
    · rw [Fixed.abs_value_decimal_sub hvalue]
      linarith
    · intro htie
      rw [Fixed.abs_value_decimal_sub hvalue] at htie
      exact Fixed.isEven_decimal (heven (by linarith))
  no_exponent := by
    constructor
    · intro hmem
      exact absurd (Fixed.isNumeral_of_mem_text hmem) (by decide)
    · intro hmem
      exact absurd (Fixed.isNumeral_of_mem_text hmem) (by decide)

end Numeric

/-! ## Camera commands -/

open Numeric

/-- The pose with these bits. -/
def Pose.ofBits (x y z pitch yaw : UInt64) : Pose where
  position := ⟨Float.ofBits x, Float.ofBits y, Float.ofBits z⟩
  pitch := Float.ofBits pitch
  yaw := Float.ofBits yaw

/-- **The numbers of a camera command.** Whatever the bits of a pose are, each of its numbers is
written as the six decimals next to its exact value, the even ones where two are equally near, or
as the name of what is not finite. The angles are written twice, in the same way. -/
theorem Command.camera_numbers_written (template : Template) (counter : String) (tick : UInt32)
    (htick : tick.toNat < 2 ^ 32 - 1) (ease : Bool) (xBits yBits zBits pitchBits yawBits : UInt64) :
    ∃ x y z pitch yaw : String,
      (camera tick (.ofBits xBits yBits zBits pitchBits yawBits) ease).text template counter =
        .ok ("execute as @a if score @s " ++ counter ++ " matches " ++ (tick.toNat + 1).repr
          ++ " positioned as " ++ template.anchor ++ " rotated as " ++ template.anchor
          ++ " positioned " ++ template.anchorOffset ++ " positioned " ++ template.focusOffset
          ++ " positioned ~" ++ x ++ "~" ++ y ++ "~" ++ z ++ " rotated ~" ++ pitch ++ " ~" ++ yaw
          ++ " run camera @s set minecraft:free" ++ template.easeText ease
          ++ " pos ^^^ rot " ++ pitch ++ " " ++ yaw) ∧
      Written xBits x ∧ Written yBits y ∧ Written zBits z ∧ Written pitchBits pitch ∧
      Written yawBits yaw := by
  obtain ⟨line, hline⟩ : ∃ line,
      (camera tick (.ofBits xBits yBits zBits pitchBits yawBits) ease).text template counter =
        .ok line :=
    exists_text_iff.2 (show tick.toNat + 1 < 2 ^ 32 by omega)
  obtain ⟨score, hscore, rfl⟩ := text_camera_eq_ok_iff.1 hline
  refine ⟨_, _, _, _, _, ?_, written_text xBits, written_text yBits, written_text zBits,
    written_text pitchBits, written_text yawBits⟩
  rw [hline, ← hscore]
  rfl

/-- A number in the middle between two with six decimals, a zero and a tiny number below zero,
and two angles that are not finite, in a command that waits for the greatest score. -/
theorem Command.camera_numbers_written_extreme :
    (4294967294 : UInt32).toNat < 2 ^ 32 - 1 ∧
    ∃ x y z : String,
      (camera 4294967294 (.ofBits 0x3F80000000000000 0x8000000000000000 0x8000000000000001
        0xFFF8000000000000 0xFFF0000000000000) false).text {} "s" =
        .ok ("execute as @a if score @s " ++ "s" ++ " matches " ++ "4294967295"
          ++ " positioned as " ++ "@e[type=pj:song_manager,c=1]"
          ++ " rotated as " ++ "@e[type=pj:song_manager,c=1]"
          ++ " positioned " ++ "~~-0.8~" ++ " positioned " ++ "^^^9"
          ++ " positioned ~" ++ x ++ "~" ++ y ++ "~" ++ z
          ++ " rotated ~" ++ "NaN" ++ " ~" ++ "-inf"
          ++ " run camera @s set minecraft:free" ++ ""
          ++ " pos ^^^ rot " ++ "NaN" ++ " " ++ "-inf") ∧
      (∃ d : Decimal, x = d.text ∧ d.negative = false ∧ |d.value - 1 / 128| ≤ 1 / 2000000 ∧
        (|d.value - 1 / 128| = 1 / 2000000 → d.IsEven)) ∧
      (∃ d : Decimal, y = d.text ∧ d.negative = true ∧ |d.value| ≤ 1 / 2000000) ∧
      (∃ d : Decimal, z = d.text ∧ d.negative = true) := by
  have htick : (4294967294 : UInt32).toNat < 2 ^ 32 - 1 := by decide
  obtain ⟨x, y, z, pitch, yaw, hline, hx, hy, hz, hpitch, hyaw⟩ :=
    camera_numbers_written {} "s" 4294967294 htick false 0x3F80000000000000 0x8000000000000000
      0x8000000000000001 0xFFF8000000000000 0xFFF0000000000000
  have hscore : ((4294967294 : UInt32).toNat + 1).repr = "4294967295" := by decide +kernel
  rw [hpitch.nan (by decide) (by decide), hyaw.infinite (by decide) (by decide), hscore] at hline
  have hmiddle : exactValue 0x3F80000000000000 = 1 / 128 := by
    have hsign : signBit 0x3F80000000000000 = false := by decide
    have hexponent : exponentField 0x3F80000000000000 = 1016 := by decide
    have hfraction : fractionField 0x3F80000000000000 = 0 := by decide
    rw [exactValue, hsign, hexponent, hfraction]
    norm_num [signed]
  have hzero : exactValue 0x8000000000000000 = 0 := by
    have hexponent : exponentField 0x8000000000000000 = 0 := by decide
    have hfraction : fractionField 0x8000000000000000 = 0 := by decide
    rw [exactValue, hexponent, hfraction]
    norm_num [signed]
  obtain ⟨dx, hdx, hsignx, hnearx, hevenx⟩ := hx.finite (by decide)
  obtain ⟨dy, hdy, hsigny, hneary, -⟩ := hy.finite (by decide)
  obtain ⟨dz, hdz, hsignz, -⟩ := hz.finite (by decide)
  rw [hmiddle] at hnearx hevenx
  rw [hzero, sub_zero] at hneary
  exact ⟨htick, x, y, z, hline, ⟨dx, hdx, hsignx, hnearx, hevenx⟩, ⟨dy, hdy, hsigny, hneary⟩,
    ⟨dz, hdz, hsignz⟩⟩

end CameraScript
