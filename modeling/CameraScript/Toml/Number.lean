import CameraScript.Toml.Token
import CameraScript.Toml.Value

/-!
# Numbers of a settings document

A number is split by the scanner wherever it has a point or a plus sign, so it is read from
its first piece and the tokens behind that.

* `digitRun`: digits with single underscores between them.
* `integer`: whole numbers, which must fit 64 bits with a sign.
* `Float.ofDigits`: the float nearest to a decimal; `none` when that is infinite.
* `number`: all numbers; `dateTime`: the extent of a date or time.
-/

namespace CameraScript.Toml

/-! ## Digits -/

/-- The value of `c` as a digit in the given radix, which is at most sixteen. -/
def digitValue? (radix : Nat) (c : Char) : Option Nat :=
  (hexValue? c).filter (· < radix)

/-- Whether each underscore has a digit on both sides. -/
def isSpaced : List Char → Bool
  | [] => false
  | '_' :: _ => false
  | [_] => true
  | _ :: '_' :: rest => isSpaced rest
  | _ :: rest => isSpaced rest

/-- Whether there is a zero with further digits behind it. -/
def hasLeadingZero : List Char → Bool
  | '0' :: _ :: _ => true
  | _ => false

/-- The digits at the start of a text, and the text behind them. -/
def digitRun (radix : Nat) (leadingZeros : Bool) (text : List Char) :
    Option (List Nat × List Char) :=
  let isPart (c : Char) : Bool := c = '_' || (digitValue? radix c).isSome
  let run := text.takeWhile isPart
  if isSpaced run && (leadingZeros || !hasLeadingZero run) then
    some (run.filterMap (digitValue? radix), text.dropWhile isPart)
  else
    none

def ofDigits (radix : Nat) (digits : List Nat) : Nat :=
  digits.foldl (fun n d => radix * n + d) 0

/-- Splits off a minus sign. -/
def splitSign : List Char → Bool × List Char
  | '-' :: rest => (true, rest)
  | text => (false, text)

/-! ## Integers -/

/-- A text that is an integer and nothing else. Only decimal integers have a sign, and they
have no leading zeros. -/
def integer (radix : Nat) (text : List Char) : Option Value :=
  let decimal := radix = 10
  let (negative, text) := if decimal then splitSign text else (false, text)
  match digitRun radix (!decimal) text with
  | some (digits, []) =>
    let n : Int := ofDigits radix digits
    let n := if negative then -n else n
    if -0x8000000000000000 ≤ n ∧ n < 0x8000000000000000 then some (.integer n) else none
  | _ => none

/-! ## Floats -/

/-- The float nearest to `± 0.digits * 10 ^ place`, unless that is infinite. Decimals far
outside the range of floats are told by their place alone. -/
def floatOfDigits (negative : Bool) (digits : List Nat) (place : Int) : Option Float :=
  let significant := digits.dropWhile (· = 0)
  let place := place - (digits.length - significant.length : Nat)
  let exponent := place - significant.length
  let magnitude : Option Float :=
    if significant.isEmpty || place < -330 then some 0
    else if 310 < place then none
    else
      let x := Float.ofScientific (ofDigits 10 significant) (exponent < 0) exponent.natAbs
      if x.isInf then none else some x
  magnitude.map fun x => if negative then -x else x

/-- A decimal from its parts; `exponent` has a sign of its own. -/
def floatOfParts (negative : Bool) (whole fraction : List Nat) (exponent : Bool × List Nat) :
    Option Value :=
  let power : Int := ofDigits 10 exponent.2
  let power := if exponent.1 then -power else power
  (floatOfDigits negative (whole ++ fraction) (whole.length + power)).map .float

/-- The exponent in `text`, which is the rest of the last piece of a float, and the tokens
behind the number. A plus sign makes the exponent a piece of its own. -/
def exponentPart (text : List Char) (tokens : List Token) :
    Option ((Bool × List Nat) × List Token) :=
  let final (negative : Bool) (run : Option (List Nat × List Char)) (tokens : List Token) :
      Option ((Bool × List Nat) × List Token) :=
    match run with
    | some (digits, []) => some ((negative, digits), tokens)
    | _ => none
  match text with
  | [] => some ((false, []), tokens)
  | c :: rest =>
    if c = 'e' || c = 'E' then
      match rest with
      | [] =>
        let tokens := if tokens.head? = some .plus then tokens.drop 1 else tokens
        match tokens with
        | .bare digits :: tokens => final false (digitRun 10 true digits) tokens
        | _ => none
      | rest =>
        let (negative, digits) := splitSign rest
        final negative (digitRun 10 true digits) tokens
    else
      none

/-- A float whose first piece is `text`. The piece behind its point is given apart. -/
def float (text : List Char) (afterPoint : Option (List Char)) (tokens : List Token) :
    Option (Value × List Token) := do
  let (negative, text) := splitSign text
  let (whole, rest) ← digitRun 10 false text
  let (fraction, rest) ←
    match afterPoint with
    | none => some ([], rest)
    | some text => if rest.isEmpty then digitRun 10 true text else none
  let (exponent, tokens) ← exponentPart rest tokens
  return (← floatOfParts negative whole fraction exponent, tokens)

/-! ## Numbers and dates -/

def infinity : Float := 1 / 0

def notANumber : Float := 0 / 0

/-- The number whose first piece is `text`. -/
def number (text : List Char) (tokens : List Token) : Option (Value × List Token) :=
  let whole (radix : Nat) (digits : List Char) : Option (Value × List Token) :=
    (integer radix digits).map (·, tokens)
  match text with
  | '0' :: 'x' :: digits => whole 16 digits
  | '0' :: 'o' :: digits => whole 8 digits
  | '0' :: 'b' :: digits => whole 2 digits
  | _ =>
    if text.contains 'e' || text.contains 'E' then
      float text none tokens
    else
      match tokens with
      | .period :: .bare afterPoint :: tokens => float text (some afterPoint) tokens
      | .period :: _ => none
      | _ =>
        match text with
        | ['i', 'n', 'f'] => some (.float infinity, tokens)
        | ['-', 'i', 'n', 'f'] => some (.float (-infinity), tokens)
        | ['n', 'a', 'n'] => some (.float notANumber, tokens)
        | ['-', 'n', 'a', 'n'] => some (.float (-notANumber), tokens)
        | _ => whole 10 text

/-- Whether a text has a letter `e` right before a minus sign. -/
def hasSignedExponent : List Char → Bool
  | c :: '-' :: rest => c = 'e' || c = 'E' || hasSignedExponent ('-' :: rest)
  | _ :: rest => hasSignedExponent rest
  | [] => false

/-- Whether a piece of text can only be the start of a date. -/
def looksLikeDate (text : List Char) : Bool :=
  text.contains 'T' || text.contains 't'
    || ((text.drop 1).contains '-' && !hasSignedExponent text)

/-- The tokens behind one more piece of a date. -/
def skipPiece : List Token → Option (List Token)
  | .bare _ :: tokens => some tokens
  | _ => none

/-- The tokens behind the separator and the piece after it, if the separator is there. -/
def skipPart (separator : Token) (tokens : List Token) : Option (List Token) :=
  if tokens.head? = some separator then skipPiece (tokens.drop 1) else some tokens

/-- The tokens behind a date or time whose first piece is read already, with the colon
behind it if `afterColon`. Digits are not checked. -/
def dateTime (afterColon : Bool) (tokens : List Token) : Option (List Token) :=
  let tokens :=
    match tokens with
    | .blank true :: .bare _ :: tokens => tokens
    | tokens => tokens
  let time (tokens : List Token) : Option (List Token) := do
    let tokens ← skipPiece tokens
    let tokens ← if tokens.head? = some .colon then skipPiece (tokens.drop 1) else none
    let tokens ← skipPart .period tokens
    let tokens ← skipPart .plus tokens
    skipPart .colon tokens
  if afterColon then time tokens
  else if tokens.head? = some .colon then time (tokens.drop 1)
  else some tokens

/-- The number or date whose first piece is `text`. -/
def numberOrDate (text : List Char) (tokens : List Token) : Option (Value × List Token) :=
  if looksLikeDate text then
    (dateTime false tokens).map (.datetime, ·)
  else if tokens.head? = some .colon then
    (dateTime true (tokens.drop 1)).map (.datetime, ·)
  else
    number text tokens

end CameraScript.Toml
