import CameraScript.Numeric.Shortest

/-!
# The characters of numbers

Numbers stand between other pieces of a command, and end where a character comes that no number
has in it.

* `Numeric.IsNumeral`: the characters that numbers are written with.
* `Numeric.Fixed.isNumeral_of_mem_text`: a number with six decimals has no others, whether it is
  finite or not. `Numeric.Shortest.isNumeral_of_mem_text`: nor has the shortest text of a number.
-/

namespace CameraScript.Numeric

/-- Digits, the sign and the point, and the letters of what is not finite. -/
def IsNumeral (c : Char) : Prop :=
  c.isDigit = true ∨ c ∈ ['-', '.', 'N', 'a', 'i', 'n', 'f']

instance : DecidablePred IsNumeral := fun c =>
  inferInstanceAs (Decidable (c.isDigit = true ∨ c ∈ ['-', '.', 'N', 'a', 'i', 'n', 'f']))

variable {c : Char}

theorem isNumeral_of_mem_toDigits {n : Nat} (h : c ∈ Nat.toDigits 10 n) : IsNumeral c :=
  .inl (Nat.isDigit_of_mem_toDigits (by decide) (by decide) h)

theorem isNumeral_of_mem_nan (h : c ∈ ['N', 'a', 'N']) : IsNumeral c := by
  simp only [List.mem_cons, List.not_mem_nil, or_false] at h
  rcases h with rfl | rfl | rfl
  all_goals decide

namespace Fixed

theorem isDigit_of_mem_digits {width n : Nat} (h : c ∈ digits width n) : c.isDigit = true := by
  induction width generalizing n with
  | zero => cases h
  | succ width ih =>
    rcases List.mem_append.1 h with h | h
    · exact ih h
    · have hdigit : n % 10 < 10 := Nat.mod_lt n (by decide)
      rw [List.mem_singleton.1 h, Nat.isDigit_digitChar, decide_eq_true hdigit]

theorem isNumeral_of_mem_sign {negative : Bool} (h : c ∈ sign negative) : IsNumeral c := by
  cases negative with
  | false => cases h
  | true =>
    rw [List.mem_singleton.1 h]
    decide

theorem isNumeral_of_mem_infinite {negative : Bool}
    (h : c ∈ sign negative ++ ['i', 'n', 'f']) : IsNumeral c := by
  rcases List.mem_append.1 h with h | h
  · exact isNumeral_of_mem_sign h
  · simp only [List.mem_cons, List.not_mem_nil, or_false] at h
    rcases h with rfl | rfl | rfl
    all_goals decide

/-- Digits, and behind a point some more of them. -/
theorem isNumeral_of_mem_pointed {whole width n : Nat}
    (h : c ∈ Nat.toDigits 10 whole ++ '.' :: digits width n) : IsNumeral c := by
  rcases List.mem_append.1 h with h | h
  · exact isNumeral_of_mem_toDigits h
  · rcases List.mem_cons.1 h with rfl | h
    · decide
    · exact .inl (isDigit_of_mem_digits h)

theorem isNumeral_of_mem_render {number : Decoded} (h : c ∈ render number) : IsNumeral c := by
  cases number with
  | nan => exact isNumeral_of_mem_nan h
  | infinite negative => exact isNumeral_of_mem_infinite h
  | finite negative mantissa exponent =>
    rcases List.mem_append.1 h with h | h
    · exact isNumeral_of_mem_sign h
    · exact isNumeral_of_mem_pointed h

theorem isNumeral_of_mem_text {x : Float} (h : c ∈ (text x).toList) : IsNumeral c := by
  rw [text, String.toList_ofList] at h
  exact isNumeral_of_mem_render h

end Fixed

namespace Shortest

theorem isNumeral_of_mem_positional {n : Nat} {place : Int} (h : c ∈ positional n place) :
    IsNumeral c := by
  cases place with
  | ofNat zeros =>
    rcases List.mem_append.1 h with h | h
    · exact isNumeral_of_mem_toDigits h
    · rw [List.eq_of_mem_replicate h]
      decide
  | negSucc k => exact Fixed.isNumeral_of_mem_pointed h

theorem isNumeral_of_mem_render {number : Decoded} (h : c ∈ render number) : IsNumeral c := by
  cases number with
  | nan => exact isNumeral_of_mem_nan h
  | infinite negative => exact Fixed.isNumeral_of_mem_infinite h
  | finite negative mantissa exponent =>
    rcases List.mem_append.1 h with h | h
    · exact Fixed.isNumeral_of_mem_sign h
    · split at h
      · rw [List.mem_singleton.1 h]
        decide
      · exact isNumeral_of_mem_positional h

theorem isNumeral_of_mem_text {x : Float} (h : c ∈ (text x).toList) : IsNumeral c := by
  rw [text, String.toList_ofList] at h
  exact isNumeral_of_mem_render h

end Shortest

end CameraScript.Numeric
