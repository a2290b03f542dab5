/-!
# Values of a settings document

* `Value`: what a key of a TOML document stands for. Tables keep repeated keys; whoever
  reads a table decides whether a repetition matters.
* `Value.insert`: gives a value to a dotted key. It may extend a table only if that table
  was made by dotted keys too.
-/

namespace CameraScript.Toml

/-- Whether dotted keys may still add to a table. -/
inductive TableForm
  | closed
  | dotted
  deriving DecidableEq, Repr

/-- The text of a date or time is not kept: no setting is one. -/
inductive Value
  | string (text : String)
  | integer (n : Int)
  | float (x : Float)
  | boolean (b : Bool)
  | datetime
  | array (items : List Value)
  | table (form : TableForm) (entries : List (String × Value))
  deriving Repr

abbrev Entries := List (String × Value)

namespace Value

/-- Changes the table of dotted keys at the first `key`, or makes one. -/
def changeUnder (key : String) (change : Entries → Option Entries) :
    Entries → Option Entries
  | [] => (change []).map fun inner => [(key, table .dotted inner)]
  | (k, v) :: rest =>
    if k = key then
      match v with
      | table .dotted inner => (change inner).map fun inner => (k, table .dotted inner) :: rest
      | _ => none
    else
      (changeUnder key change rest).map ((k, v) :: ·)

def insert (value : Value) : (path : List String) → Entries → Option Entries
  | [], _ => none
  | [key], entries => some (entries ++ [(key, value)])
  | key :: path, entries => changeUnder key (insert value path) entries

end Value

end CameraScript.Toml
