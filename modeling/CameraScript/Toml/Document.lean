import CameraScript.Toml.Number

/-!
# Settings documents

A document is a list of lines: keys with values, and headers that name the table that the
lines below them belong to.

* `value`: one value; arrays may span lines, tables in braces may not.
* `blocks`: the headers of a document with the keys below them.
* `assemble`: the blocks as one table. A table is headed once, and a header in double
  brackets adds an element to an array of tables.
* `parse`: the table that a document stands for, or `none` if it is malformed.
-/

namespace CameraScript.Toml

/-! ## Blanks and line ends -/

def skipBlank : List Token → List Token
  | .blank _ :: tokens => tokens
  | tokens => tokens

/-- Skips a line break, which the end of the document stands for too. -/
def lineBreak : List Token → Option (List Token)
  | [] => some []
  | .newline :: tokens => some tokens
  | _ => none

/-- Skips what may follow on a line that is complete. -/
def lineEnd (tokens : List Token) : Option (List Token) :=
  match skipBlank tokens with
  | .comment :: tokens => lineBreak tokens
  | tokens => lineBreak tokens

/-- Skips blanks, comments and line breaks. -/
def skipLines : List Token → Option (List Token)
  | .blank _ :: tokens => skipLines tokens
  | .newline :: tokens => skipLines tokens
  | [.comment] => some []
  | .comment :: .newline :: tokens => skipLines tokens
  | .comment :: _ => none
  | tokens => some tokens

def expect (token : Token) (tokens : List Token) : Option (List Token) :=
  if tokens.head? = some token then some (tokens.drop 1) else none

/-! ## Keys -/

/-- One part of a key. -/
def simpleKey : List Token → Option (String × List Token)
  | .bare text :: tokens => some (String.ofList text, tokens)
  | .quoted text false :: tokens => some (String.ofList text, tokens)
  | _ => none

/-- The parts of a key from the first period on. The parts are fewer than the tokens. -/
def keyParts : (fuel : Nat) → List Token → Option (List String × List Token)
  | 0, _ => none
  | fuel + 1, tokens =>
    match tokens with
    | .period :: tokens => do
      let (part, tokens) ← simpleKey (skipBlank tokens)
      let (parts, tokens) ← keyParts fuel (skipBlank tokens)
      return (part :: parts, tokens)
    | tokens => some ([], tokens)

/-- A key of one or more parts with periods between them, and the blanks behind it. -/
def dottedKey (tokens : List Token) : Option (List String × List Token) := do
  let (part, tokens) ← simpleKey tokens
  let (parts, tokens) ← keyParts (tokens.length + 1) (skipBlank tokens)
  return (part :: parts, tokens)

/-- The tokens from the value on, behind the equals sign of a key. -/
def equalsSign (tokens : List Token) : Option (List Token) :=
  (expect .equals tokens).map skipBlank

/-! ## Values -/

/-- A word without quotes. -/
def bareValue (text : List Char) (tokens : List Token) : Option (Value × List Token) :=
  match text with
  | ['t', 'r', 'u', 'e'] => some (.boolean true, tokens)
  | ['f', 'a', 'l', 's', 'e'] => some (.boolean false, tokens)
  | ['i', 'n', 'f'] => numberOrDate text tokens
  | ['n', 'a', 'n'] => numberOrDate text tokens
  | c :: _ => if c.isDigit || c = '-' then numberOrDate text tokens else none
  | [] => none

mutual

/-- The value at the start of the tokens. Values lie at most as deep as there are
tokens. -/
def value : (fuel : Nat) → List Token → Option (Value × List Token)
  | 0, _ => none
  | fuel + 1, tokens =>
    match tokens with
    | .quoted text _ :: tokens => some (.string (String.ofList text), tokens)
    | .bare text :: tokens => bareValue text tokens
    | .plus :: .bare text :: tokens => number text tokens
    | .openBrace :: tokens =>
      match skipBlank tokens with
      | .closeBrace :: tokens => some (.table .closed [], tokens)
      | tokens => (members fuel [] tokens).map fun (entries, tokens) =>
        (.table .closed entries, tokens)
    | .openBracket :: tokens => (items fuel tokens).map fun (items, tokens) =>
      (.array items, tokens)
    | _ => none

/-- The keys and values up to a closing brace, behind the entries known already. -/
def members : (fuel : Nat) → Entries → List Token → Option (Entries × List Token)
  | 0, _, _ => none
  | fuel + 1, entries, tokens => do
    let (key, tokens) ← dottedKey tokens
    let (v, tokens) ← value fuel (← equalsSign tokens)
    let entries ← v.insert key entries
    match skipBlank tokens with
    | .closeBrace :: tokens => some (entries, tokens)
    | .comma :: tokens => members fuel entries (skipBlank tokens)
    | _ => none

/-- The values up to a closing bracket. -/
def items : (fuel : Nat) → List Token → Option (List Value × List Token)
  | 0, _ => none
  | fuel + 1, tokens => do
    match ← skipLines tokens with
    | .closeBracket :: tokens => some ([], tokens)
    | tokens =>
      let (first, tokens) ← value fuel tokens
      match ← skipLines tokens with
      | .comma :: tokens =>
        let (rest, tokens) ← items fuel tokens
        return (first :: rest, tokens)
      | .closeBracket :: tokens => some ([first], tokens)
      | _ => none

end

/-! ## Lines -/

/-- A header and the keys below it; `element` marks a header in double brackets. -/
structure Block where
  path : List String
  element : Bool
  entries : Entries
  deriving Repr

/-- The header behind its first bracket. -/
def header (tokens : List Token) : Option (Block × List Token) := do
  let element := tokens.head? = some .openBracket
  let tokens := if element then tokens.drop 1 else tokens
  let (path, tokens) ← dottedKey (skipBlank tokens)
  let tokens ← expect .closeBracket tokens
  let tokens ← if element then expect .closeBracket tokens else some tokens
  return ({ path, element, entries := [] }, ← lineEnd tokens)

/-- The blocks from `current` on. Every line has a token, so there are no more lines than
tokens. -/
def blocksFrom : (fuel : Nat) → (current : Block) → List Token → Option (List Block)
  | 0, _, _ => none
  | fuel + 1, current, tokens => do
    match ← skipLines tokens with
    | [] => return [current]
    | .openBracket :: tokens =>
      let (block, tokens) ← header tokens
      return current :: (← blocksFrom fuel block tokens)
    | tokens =>
      let (key, tokens) ← dottedKey tokens
      let tokens ← equalsSign tokens
      let (v, tokens) ← value (tokens.length + 1) tokens
      let entries ← v.insert key current.entries
      blocksFrom fuel { current with entries } (← lineEnd tokens)

/-- The blocks of a document. The first one has no header. -/
def blocks (tokens : List Token) : Option (List Block) :=
  blocksFrom (tokens.length + 1) { path := [], element := false, entries := [] } tokens

/-! ## Tables -/

/-- The block seen from the table `key`, if it lies there. -/
def Block.under (key : String) (block : Block) : Option Block :=
  match block.path with
  | first :: path => if first = key then some { block with path } else none
  | [] => none

/-- The blocks before the first element of an array of tables, and its elements, each with
the blocks that lie inside it. A header in single brackets may not name the array again. -/
def elements : List Block → Option (List Block × List (Entries × List Block))
  | [] => some ([], [])
  | block :: rest => do
    let (inside, later) ← elements rest
    if !block.path.isEmpty then
      return (block :: inside, later)
    else if block.element then
      return ([], (block.entries, inside) :: later)
    else
      none

/-- The keys directly below the header that names this table, if there is one. -/
def ownEntries (blocks : List Block) : Option Entries :=
  match blocks.filter (·.path.isEmpty) with
  | [] => some []
  | [block] => if block.element then none else some block.entries
  | _ => none

/-- The table that the blocks inside it make. No path is longer than `depth`. -/
def assemble : (depth : Nat) → List Block → Option Entries
  | 0, blocks => ownEntries blocks
  | depth + 1, blocks => do
    let own ← ownEntries blocks
    let keys := (blocks.filterMap (·.path.head?)).eraseDups
    let nested ← keys.mapM fun key => do
      let inside := blocks.filterMap (Block.under key)
      let startsArray := inside.head?.any fun first => first.element && first.path.isEmpty
      if startsArray then
        let (_, found) ← elements inside
        let items ← found.mapM fun (entries, inside) => do
          return Value.table .closed (entries ++ (← assemble depth inside))
        return (key, Value.array items)
      else
        return (key, Value.table .closed (← assemble depth inside))
    return own ++ nested

def parse (text : String) : Option Value := do
  let blocks ← blocks (← Token.scan text)
  let depth := (blocks.map (·.path.length)).foldl max 0
  return .table .closed (← assemble depth blocks)

end CameraScript.Toml
