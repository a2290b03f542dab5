import CameraScript.Settings
import CameraScript.Toml.Document

/-!
# Settings from a document

Every field has a default, so a document names only what it changes. A group of fields is a
table, or an array that lists the values of its first fields in order.

* `Toml.Value.fields`: the values that a table or array gives to named fields.
* `Settings.ofValue`: the settings of a table; `none` if a value does not fit its field.
* `Settings.ofText`: the settings of a document.
-/

namespace CameraScript

open Toml

namespace Toml.Value

/-! ## Single values -/

def text? : Value → Option String
  | string text => some text
  | _ => none

/-- An integer counts as the nearest float. -/
def number? : Value → Option Float
  | float x => some x
  | integer n => some (Float.ofInt n)
  | _ => none

/-! ## Groups of fields -/

/-- The values given to the fields called `names`. Other keys of a table are ignored, a
field given twice does not fit, and neither does an array with more values than fields. A
date has no fields. -/
def fields (names : List String) : Value → Option Entries
  | table _ entries =>
    let known := entries.filter (names.contains ·.1)
    if (known.map (·.1)).Nodup then some known else none
  | array items => if items.length ≤ names.length then some (names.zip items) else none
  | datetime => some []
  | _ => none

end Toml.Value

/-- The value of one field, or its default if no value is given. -/
def Toml.Entries.get {α : Type} (entries : Entries) (name : String)
    (read : Value → Option α) (default : α) : Option α :=
  match entries.lookup name with
  | some value => read value
  | none => some default

/-! ## The groups -/

def Timebase.ofValue (value : Value) : Option Timebase := do
  let fields ← value.fields ["source_fps", "tick_rate"]
  let default : Timebase := {}
  return { sourceFps := ← fields.get "source_fps" Value.number? default.sourceFps
           tickRate := ← fields.get "tick_rate" Value.number? default.tickRate }

def Displacement.ofValue (value : Value) : Option Displacement := do
  let fields ← value.fields ["base", "divisor"]
  let default : Displacement := {}
  return { base := ← fields.get "base" Value.number? default.base
           divisor := ← fields.get "divisor" Value.number? default.divisor }

def Transform.ofValue (value : Value) : Option Transform := do
  let fields ← value.fields ["scale", "displacement"]
  let default : Transform := {}
  return { scale := ← fields.get "scale" Value.number? default.scale
           displacement :=
             ← fields.get "displacement" (Displacement.ofValue · |>.map some) none }

def Template.ofValue (value : Value) : Option Template := do
  let fields ← value.fields
    ["anchor", "anchor_offset", "focus_offset", "ease_duration", "ease_function"]
  let default : Template := {}
  return { anchor := ← fields.get "anchor" Value.text? default.anchor
           anchorOffset := ← fields.get "anchor_offset" Value.text? default.anchorOffset
           focusOffset := ← fields.get "focus_offset" Value.text? default.focusOffset
           easeDuration := ← fields.get "ease_duration" Value.number? default.easeDuration
           easeFunction := ← fields.get "ease_function" Value.text? default.easeFunction }

namespace Settings

def ofValue (value : Value) : Option Settings := do
  let fields ← value.fields ["pack_root", "timebase", "transform", "template"]
  let default : Settings := {}
  return { packRoot := ← fields.get "pack_root" Value.text? default.packRoot
           timebase := ← fields.get "timebase" Timebase.ofValue default.timebase
           transform := ← fields.get "transform" Transform.ofValue default.transform
           template := ← fields.get "template" Template.ofValue default.template }

def ofText (text : String) : Except Fault Settings :=
  match (Toml.parse text).bind ofValue with
  | some settings => .ok settings
  | none => .error .settings

end Settings

end CameraScript
