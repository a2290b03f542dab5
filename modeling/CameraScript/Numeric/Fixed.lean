import CameraScript.Numeric.Decoded

/-!
# Numbers with six decimals

* `Fixed.text`: the exact value of a float rounded to six places, a half going to the even
  last digit; all digits before the point, never an exponent. A negative value keeps its
  sign when it rounds to zero, and so does `-0`.
* `Fixed.millionths`: the rounded value in units of the last place.
-/

namespace CameraScript.Numeric.Fixed

/-- The last `width` decimal digits of `n`, with leading zeros. -/
def digits : (width : Nat) → Nat → List Char
  | 0, _ => []
  | width + 1, n => digits width (n / 10) ++ [Nat.digitChar (n % 10)]

@[simp] theorem length_digits (width n : Nat) : (digits width n).length = width := by
  induction width generalizing n with
  | zero => rfl
  | succ width ih => simp [digits, ih]

/-- `mantissa * 2 ^ exponent` in millionths. -/
def millionths (mantissa : Nat) : (exponent : Int) → Nat
  | .ofNat e => mantissa * Nat.pow 2 e * 1000000
  | .negSucc e => roundDiv (mantissa * 1000000) (Nat.pow 2 (e + 1))

/-- A number of millionths with its point. -/
def chars (n : Nat) : List Char :=
  Nat.toDigits 10 (n / 1000000) ++ '.' :: digits 6 (n % 1000000)

def sign (negative : Bool) : List Char :=
  if negative then ['-'] else []

def render : Decoded → List Char
  | .nan => ['N', 'a', 'N']
  | .infinite negative => sign negative ++ ['i', 'n', 'f']
  | .finite negative mantissa exponent => sign negative ++ chars (millionths mantissa exponent)

def text (x : Float) : String := String.ofList (render (Decoded.ofFloat x))

end CameraScript.Numeric.Fixed
