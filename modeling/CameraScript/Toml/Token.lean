/-!
# Tokens of a settings document

* `Token.scan`: the tokens of a text, with quoted text already decoded; `none` where a
  character or a quotation is out of place.
* `quotation`: basic and literal strings, on one line or on several.
-/

namespace CameraScript.Toml

inductive Token
  | newline
  /-- A run of blanks, and whether it is exactly one space. -/
  | blank (single : Bool)
  | comment
  | equals
  | period
  | comma
  | colon
  | plus
  | openBrace
  | closeBrace
  | openBracket
  | closeBracket
  /-- A run of letters, digits, underscores and minus signs. -/
  | bare (text : List Char)
  | quoted (text : List Char) (multiline : Bool)
  deriving DecidableEq, Repr

/-! ## Characters -/

def isBlank (c : Char) : Bool := c = ' ' || c = '\t'

def isBareChar (c : Char) : Bool := c.isAlphanum || c = '_' || c = '-'

/-- Whether the character may stand in a comment. -/
def isCommentChar (c : Char) : Bool := c = '\t' || ' ' ≤ c

/-- Whether the character may stand for itself between quotes. -/
def isQuotedChar (c : Char) : Bool := isCommentChar c && c ≠ '\x7f'

/-- The value of a hexadecimal digit. -/
def hexValue? (c : Char) : Option Nat :=
  if c.isDigit then some (c.toNat - '0'.toNat)
  else if 'a' ≤ c && c ≤ 'f' then some (c.toNat - 'a'.toNat + 10)
  else if 'A' ≤ c && c ≤ 'F' then some (c.toNat - 'A'.toNat + 10)
  else none

/-- A line may end in a carriage return and a newline, which count as a newline. -/
def unifyNewlines : List Char → List Char
  | '\r' :: '\n' :: rest => '\n' :: unifyNewlines rest
  | c :: rest => c :: unifyNewlines rest
  | [] => []

/-! ## Quotations -/

/-- The character with the number that the first `width` hexadecimal digits name. -/
def codePoint (width : Nat) (text : List Char) : Option (List Char × List Char) := do
  let digits ← (text.take width).mapM hexValue?
  let n := digits.foldl (fun n d => 16 * n + d) 0
  if digits.length = width ∧ n.isValidChar then
    some ([Char.ofNat n], text.drop width)
  else
    none

/-- What a backslash and the characters behind it stand for, and the text after them. In a
quotation of several lines a backslash at the end of a line drops the line break and all
blanks and line breaks behind it. -/
def escape (multiline : Bool) : List Char → Option (List Char × List Char)
  | [] => none
  | '"' :: rest => some (['"'], rest)
  | '\\' :: rest => some (['\\'], rest)
  | 'b' :: rest => some (['\x08'], rest)
  | 'f' :: rest => some (['\x0c'], rest)
  | 'n' :: rest => some (['\n'], rest)
  | 'r' :: rest => some (['\r'], rest)
  | 't' :: rest => some (['\t'], rest)
  | 'u' :: rest => codePoint 4 rest
  | 'U' :: rest => codePoint 8 rest
  | c :: rest =>
    if multiline then
      match (c :: rest).dropWhile isBlank with
      | '\n' :: after => some ([], after.dropWhile fun c => isBlank c || c = '\n')
      | _ => none
    else
      none

/-- The text up to the closing delimiter, behind the text `done` that is read already, and
the rest. Of more than three delimiters that close a quotation of several lines, up to two
belong to the text. -/
def quotationFrom (delimiter : Char) (escapes multiline : Bool) :
    (fuel : Nat) → (done text : List Char) → Option (List Char × List Char)
  | 0, _, _ => none
  | _ + 1, _, [] => none
  | fuel + 1, done, c :: rest =>
    if c = delimiter then
      if !multiline then
        some (done.reverse, rest)
      else if rest.take 2 = [delimiter, delimiter] then
        let after := rest.drop 2
        let extra := min 2 (after.takeWhile (· = delimiter)).length
        some (done.reverse ++ List.replicate extra delimiter, after.drop extra)
      else
        quotationFrom delimiter escapes multiline fuel (c :: done) rest
    else if c = '\n' then
      if multiline then
        quotationFrom delimiter escapes multiline fuel (c :: done) rest
      else
        none
    else if escapes && c = '\\' then
      match escape multiline rest with
      | some (text, rest) =>
        quotationFrom delimiter escapes multiline fuel (text.reverse ++ done) rest
      | none => none
    else if isQuotedChar c then
      quotationFrom delimiter escapes multiline fuel (c :: done) rest
    else
      none

/-- The quotation behind one delimiter. Three of them open several lines, and a line break
right behind those is dropped. -/
def quotation (delimiter : Char) (escapes : Bool) (text : List Char) :
    Option (Token × List Char) :=
  if text.take 2 = [delimiter, delimiter] then
    let text := text.drop 2
    let text := if text.head? = some '\n' then text.drop 1 else text
    (quotationFrom delimiter escapes true (text.length + 1) [] text).map
      fun (content, rest) => (.quoted content true, rest)
  else
    (quotationFrom delimiter escapes false (text.length + 1) [] text).map
      fun (content, rest) => (.quoted content false, rest)

/-! ## Scanning -/

namespace Token

/-- The first token and the text behind it. -/
def next? : List Char → Option (Token × List Char)
  | [] => none
  | c :: rest =>
    match c with
    | '\n' => some (newline, rest)
    | '#' => some (comment, rest.dropWhile isCommentChar)
    | '=' => some (equals, rest)
    | '.' => some (period, rest)
    | ',' => some (comma, rest)
    | ':' => some (colon, rest)
    | '+' => some (plus, rest)
    | '\x7b' => some (openBrace, rest)
    | '\x7d' => some (closeBrace, rest)
    | '[' => some (openBracket, rest)
    | ']' => some (closeBracket, rest)
    | '\'' => quotation '\'' false rest
    | '"' => quotation '"' true rest
    | c =>
      if isBlank c then
        let text := (c :: rest).takeWhile isBlank
        some (blank (text = [' ']), (c :: rest).dropWhile isBlank)
      else if isBareChar c then
        some (bare ((c :: rest).takeWhile isBareChar), (c :: rest).dropWhile isBareChar)
      else
        none

/-- The tokens of a text, behind those that are known already. -/
def scanFrom : (fuel : Nat) → (done : List Token) → List Char → Option (List Token)
  | _, done, [] => some done.reverse
  | 0, _, _ => none
  | fuel + 1, done, text =>
    match next? text with
    | some (token, rest) => scanFrom fuel (token :: done) rest
    | none => none

/-- The tokens of a text. A byte order mark at its start is skipped. -/
def scan (text : String) : Option (List Token) :=
  let chars := text.toList
  let chars := if chars.head? = some '\ufeff' then chars.drop 1 else chars
  let chars := unifyNewlines chars
  scanFrom chars.length [] chars

end Token

end CameraScript.Toml
