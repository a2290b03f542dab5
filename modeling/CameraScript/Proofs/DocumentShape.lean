import CameraScript.Settings.Document
import Mathlib.Data.List.Count
import Mathlib.Data.List.Nodup

/-!
# Values and the fields that they give

A group of fields is given by a table, under their names, or by an array, in their order. Which
values can be read as a group, and what they give to each field, is said here for any fields, and
that a reader made from readers of the fields does what this says.

* `Shape`: what a field takes. `Shape.Fits`: the values that it takes.
* `Toml.Value.given?`, `Shape.at?`: what a value gives to a field, and to a field of a field.
* `Shape.AddKey`: one more key that names no field.
* `FieldIs`: what a field is, from what is given for it.
* `Toml.Value.lookup_of_fields`, `Toml.Value.exists_fields_iff`: the fields that are read.
* `Shape.ReadBy`: a reader that takes what fits, with or without keys that name no field.
  `Shape.ReadBy.group`: a group is read in this way if its fields are.
-/

namespace CameraScript

open Toml

/-! ## Values -/

namespace Toml.Value

/-- There is no date or time anywhere in the value. -/
inductive Dateless : Value → Prop
  | string (text : String) : Dateless (string text)
  | integer (n : Int) : Dateless (integer n)
  | float (x : Float) : Dateless (float x)
  | boolean (b : Bool) : Dateless (boolean b)
  | array {items : List Value} (h : ∀ item ∈ items, Dateless item) : Dateless (array items)
  | table {form : TableForm} {entries : Entries} (h : ∀ entry ∈ entries, Dateless entry.2) :
    Dateless (table form entries)

inductive IsText : Value → String → Prop
  | string (text : String) : IsText (string text) text

/-- An integer stands for the nearest float. -/
inductive IsNumber : Value → Float → Prop
  | float (x : Float) : IsNumber (float x) x
  | integer (n : Int) : IsNumber (integer n) (Float.ofInt n)

end Toml.Value

/-! ## Shapes -/

/-- What values a field takes. -/
inductive Shape
  | text
  | number
  | group (fields : List (String × Shape))

/-- A table or array can be read as these fields: a table names none of them twice, and an array
has no more values than there are fields. -/
def Toml.Value.IsGroup (fields : List (String × Shape)) : Value → Prop
  | table _ entries => ∀ name ∈ fields.map Prod.fst, (entries.map Prod.fst).count name ≤ 1
  | array items => items.length ≤ fields.length
  | _ => False

/-- What a table or array gives to the field called `name`. -/
def Toml.Value.given? (fields : List (String × Shape)) (name : String) : Value → Option Value
  | table _ entries => entries.lookup name
  | array items => items[(fields.map Prod.fst).idxOf name]?
  | _ => none

namespace Shape

/-- A value fits where every known field that it gives fits. -/
inductive Fits : Shape → Value → Prop
  | string (text : String) : Fits .text (.string text)
  | float (x : Float) : Fits .number (.float x)
  | integer (n : Int) : Fits .number (.integer n)
  | group {fields : List (String × Shape)} {value : Value}
    (isGroup : value.IsGroup fields)
    (fits : ∀ field ∈ fields, ∀ v, value.given? fields field.1 = some v → Fits field.2 v) :
    Fits (.group fields) value

/-- The value at a path of field names. -/
def at? : Shape → (path : List String) → Value → Option Value
  | _, [], value => some value
  | .group fields, name :: path, value => do
    let shape ← fields.lookup name
    let inner ← value.given? fields name
    shape.at? path inner
  | _, _ :: _, _ => none

/-- A key that names no field is added to a table, at any depth of the fields. -/
inductive AddKey : Shape → Value → Value → Prop
  | here {fields : List (String × Shape)} {form : TableForm} {before behind : Entries}
    {key : String} {value : Value} (h : key ∉ fields.map Prod.fst) :
    AddKey (.group fields) (.table form (before ++ behind))
      (.table form (before ++ (key, value) :: behind))
  | inTable {fields : List (String × Shape)} {form : TableForm} {before behind : Entries}
    {field : String × Shape} {value value' : Value} (hfield : field ∈ fields)
    (h : AddKey field.2 value value') :
    AddKey (.group fields) (.table form (before ++ (field.1, value) :: behind))
      (.table form (before ++ (field.1, value') :: behind))
  | inArray {fields : List (String × Shape)} {items : List Value} {i : Nat}
    {field : String × Shape} {value value' : Value} (hfield : fields[i]? = some field)
    (hitem : items[i]? = some value) (h : AddKey field.2 value value') :
    AddKey (.group fields) (.array items) (.array (items.set i value'))

end Shape

/-! ## Fields -/

/-- A field is what the value given for it stands for, or its default where none is given. -/
def FieldIs {α : Type} (stands : Value → α → Prop) (default : α) (given : Option Value) (a : α) :
    Prop :=
  match given with
  | some value => stands value a
  | none => a = default

/-! ## Groups of values -/

namespace Toml.Value

variable {names : List String} {name : String} {value : Value} {entries : Entries}

theorem lookup_zip {items : List Value} (h : name ∈ names) :
    (names.zip items).lookup name = items[names.idxOf name]? := by
  induction names generalizing items with
  | nil => cases h
  | cons first names ih =>
    cases items with
    | nil => rfl
    | cons item items =>
      rw [List.zip_cons_cons, List.lookup_cons, List.idxOf_cons]
      by_cases heq : first = name
      · simp [heq]
      · have hne : (name == first) = false := by simpa using Ne.symm heq
        have hne' : (first == name) = false := by simpa using heq
        rw [hne, hne', ih ((List.mem_cons.1 h).resolve_left (Ne.symm heq))]
        rfl

theorem lookup_filter_contains (h : name ∈ names) :
    (entries.filter (names.contains ·.1)).lookup name = entries.lookup name := by
  induction entries with
  | nil => rfl
  | cons entry entries ih =>
    by_cases heq : name = entry.1
    · have hkept : names.contains entry.1 = true := by simpa [← heq] using h
      rw [List.filter_cons, if_pos hkept, List.lookup_cons, List.lookup_cons]
      simp [heq]
    · have hne : (name == entry.1) = false := by simpa using heq
      rw [List.filter_cons, List.lookup_cons, hne, ← ih]
      split
      · rw [List.lookup_cons, hne]
      · rfl

theorem nodup_known_iff :
    ((entries.filter (names.contains ·.1)).map (·.1)).Nodup ↔
      ∀ name ∈ names, (entries.map Prod.fst).count name ≤ 1 := by
  have hknown : (entries.filter (names.contains ·.1)).map (·.1) =
      (entries.map Prod.fst).filter (names.contains ·) := by
    rw [List.filter_map]
    rfl
  rw [hknown, List.nodup_iff_count_le_one]
  refine forall_congr' fun name => ?_
  by_cases hname : name ∈ names
  · rw [List.count_filter (by simpa using hname)]
    exact ⟨fun h _ => h, fun h => h hname⟩
  · rw [List.count_eq_zero.2 (by simp [hname])]
    exact ⟨fun _ h => absurd h hname, fun _ => Nat.zero_le 1⟩

theorem exists_fields_iff {fields : List (String × Shape)} (hdate : value ≠ datetime) :
    (∃ entries, value.fields (fields.map Prod.fst) = some entries) ↔ value.IsGroup fields := by
  cases value with
  | table form entries =>
    simp only [Value.fields, Option.ite_none_right_eq_some, Option.some.injEq, nodup_known_iff,
      exists_and_left, exists_eq', and_true]
    rfl
  | array items =>
    simp only [Value.fields, Option.ite_none_right_eq_some, Option.some.injEq, List.length_map,
      exists_and_left, exists_eq', and_true]
    rfl
  | datetime => exact absurd rfl hdate
  | _ => exact ⟨fun h => (by obtain ⟨_, h⟩ := h; cases h), False.elim⟩

/-- The fields that are read are what the value gives for their names. -/
theorem lookup_of_fields {fields : List (String × Shape)}
    (h : value.fields (fields.map Prod.fst) = some entries) (hname : name ∈ fields.map Prod.fst) :
    entries.lookup name = value.given? fields name := by
  cases value with
  | table form all =>
    simp only [Value.fields, Option.ite_none_right_eq_some, Option.some.injEq] at h
    rw [← h.2]
    exact lookup_filter_contains hname
  | array items =>
    simp only [Value.fields, Option.ite_none_right_eq_some, Option.some.injEq] at h
    rw [← h.2]
    exact lookup_zip hname
  | datetime =>
    cases h
    rfl
  | _ => cases h

theorem text?_eq_some_iff {text : String} : value.text? = some text ↔ value.IsText text := by
  constructor
  · intro h
    cases value with
    | string =>
      cases h
      exact .string _
    | _ => cases h
  · rintro ⟨⟩
    rfl

theorem number?_eq_some_iff {x : Float} : value.number? = some x ↔ value.IsNumber x := by
  constructor
  · intro h
    cases value with
    | float =>
      cases h
      exact .float _
    | integer =>
      cases h
      exact .integer _
    | _ => cases h
  · rintro (_ | _)
    · rfl
    · rfl

theorem Dateless.ne_datetime (h : value.Dateless) : value ≠ datetime := by
  rintro rfl
  cases h

theorem Dateless.given? {fields : List (String × Shape)} {inner : Value} (h : value.Dateless)
    (hgiven : value.given? fields name = some inner) : inner.Dateless := by
  cases h with
  | table h =>
    obtain ⟨before, behind, rfl, -⟩ := List.lookup_eq_some_iff.1 hgiven
    exact h (name, inner) (by simp)
  | array h => exact h inner (List.mem_of_getElem? hgiven)
  | _ => cases hgiven

end Toml.Value

def Reads {α : Type} (read : Value → Option α) (value : Value) (a : α) : Prop := read value = some a

theorem Toml.Entries.get_eq_some_iff {α : Type} {entries : Entries} {name : String}
    {read : Value → Option α} {default a : α} :
    entries.get name read default = some a ↔
      FieldIs (Reads read) default (entries.lookup name) a := by
  unfold Toml.Entries.get FieldIs
  cases entries.lookup name with
  | none => rw [Option.some.injEq, eq_comm]
  | some value => rfl

/-- A field of a group is what is read from what the group gives for it. -/
theorem Toml.Value.fieldIs_of_get {α : Type} (fields : List (String × Shape)) {name : String}
    {value : Value} {entries : Entries} {read : Value → Option α} {default a : α}
    (hentries : value.fields (fields.map Prod.fst) = some entries)
    (hname : name ∈ fields.map Prod.fst) (hget : entries.get name read default = some a) :
    FieldIs (Reads read) default (value.given? fields name) a := by
  rw [← lookup_of_fields hentries hname]
  exact Toml.Entries.get_eq_some_iff.1 hget

/-! ## Which values are read, and what does not matter for them -/

namespace Shape

/-- Two fields are given nothing or the same, or values that differ in a key that names no
field. -/
def SameGiven (shape : Shape) (given given' : Option Value) : Prop :=
  given = given' ∨ ∃ value value', given = some value ∧ given' = some value' ∧
    shape.AddKey value value'

theorem fits_group_iff {fields : List (String × Shape)} {value : Value} :
    Fits (.group fields) value ↔ value.IsGroup fields ∧
      ∀ field ∈ fields, ∀ v, value.given? fields field.1 = some v → field.2.Fits v := by
  constructor
  · rintro (_ | _ | _ | ⟨hgroup, hfits⟩)
    exact ⟨hgroup, hfits⟩
  · rintro ⟨hgroup, hfits⟩
    exact .group hgroup hfits

theorem lookup_append_cons_of_ne {before behind : Entries} {key name : String} {value : Value}
    (h : name ≠ key) :
    (before ++ (key, value) :: behind).lookup name = (before ++ behind).lookup name := by
  have hne : (name == key) = false := by simpa using h
  rw [List.lookup_append, List.lookup_append, List.lookup_cons, hne]

theorem count_append_cons_of_ne {before behind : Entries} {key name : String} {value : Value}
    (h : name ≠ key) :
    ((before ++ (key, value) :: behind).map Prod.fst).count name =
      ((before ++ behind).map Prod.fst).count name := by
  simp [List.count_cons_of_ne (Ne.symm h)]

/-- What adding a key that names no field leaves as it is. -/
theorem AddKey.group {fields : List (String × Shape)} {value value' : Value}
    (hnodup : (fields.map Prod.fst).Nodup) (h : AddKey (.group fields) value value') :
    value ≠ .datetime ∧ value' ≠ .datetime ∧ (value.IsGroup fields ↔ value'.IsGroup fields) ∧
      ∀ field ∈ fields,
        field.2.SameGiven (value.given? fields field.1) (value'.given? fields field.1) := by
  cases h with
  | @here _ form before behind key added hkey =>
    have hne : ∀ name ∈ fields.map Prod.fst, name ≠ key := fun name hname heq => hkey (heq ▸ hname)
    refine ⟨nofun, nofun, ?_, fun field hfield => .inl ?_⟩
    · exact forall₂_congr fun name hname => by rw [count_append_cons_of_ne (hne name hname)]
    · exact (lookup_append_cons_of_ne (hne _ (List.mem_map_of_mem hfield))).symm
  | @inTable _ form before behind field value value' hfield h =>
    refine ⟨nofun, nofun, ?_, fun other hother => ?_⟩
    · exact forall₂_congr fun name hname => by simp
    · by_cases hname : other.1 = field.1
      · obtain rfl : other = field := List.inj_on_of_nodup_map hnodup hother hfield hname
        simp only [Value.given?, List.lookup_append, List.lookup_cons_self]
        cases before.lookup other.1 with
        | none => exact .inr ⟨value, value', rfl, rfl, h⟩
        | some earlier => exact .inl rfl
      · exact .inl ((lookup_append_cons_of_ne hname).trans (lookup_append_cons_of_ne hname).symm)
  | @inArray _ items i field value value' hfield hitem h =>
    refine ⟨nofun, nofun, ?_, fun other hother => ?_⟩
    · exact Eq.to_iff (by rw [Value.IsGroup, Value.IsGroup, List.length_set])
    · have hmem : other.1 ∈ fields.map Prod.fst := List.mem_map_of_mem hother
      simp only [Value.given?]
      by_cases hi : (fields.map Prod.fst).idxOf other.1 = i
      · have hname : other.1 = field.1 := by
          have hget : (fields.map Prod.fst)[i]? = some other.1 := by
            rw [← hi, List.getElem?_idxOf hmem]
          rw [List.getElem?_map, hfield, Option.map_some, Option.some.injEq] at hget
          exact hget.symm
        obtain rfl : other = field :=
          List.inj_on_of_nodup_map hnodup hother (List.mem_of_getElem? hfield) hname
        rw [hi, hitem, List.getElem?_set_self (List.getElem?_eq_some_iff.1 hitem).1]
        exact .inr ⟨value, value', rfl, rfl, h⟩
      · rw [List.getElem?_set_ne (Ne.symm hi)]
        exact .inl rfl

/-- The reader takes the values of this shape, and reads them in the same way with or without keys
that name no field. -/
structure ReadBy {α : Type} (shape : Shape) (read : Value → Option α) : Prop where
  exists_iff : ∀ value : Value, value.Dateless → ((∃ a, read value = some a) ↔ shape.Fits value)
  congr : ∀ value value' : Value, shape.AddKey value value' → read value = read value'

namespace ReadBy

theorem text : ReadBy .text Value.text? where
  exists_iff := by
    intro value _
    simp only [Value.text?_eq_some_iff]
    constructor
    · rintro ⟨_, ⟨⟩⟩
      exact .string _
    · rintro (text | _)
      exact ⟨text, .string text⟩
  congr := by
    intro value value' h
    cases h

theorem number : ReadBy .number Value.number? where
  exists_iff := by
    intro value _
    simp only [Value.number?_eq_some_iff]
    constructor
    · rintro ⟨_, _ | _⟩
      · exact .float _
      · exact .integer _
    · rintro (_ | x | n)
      · exact ⟨x, .float x⟩
      · exact ⟨_, .integer n⟩
  congr := by
    intro value value' h
    cases h

variable {α β : Type} {shape : Shape} {read : Value → Option α}

theorem map (h : ReadBy shape read) (f : α → β) :
    ReadBy shape fun value => (read value).map f where
  exists_iff := by
    intro value hdateless
    rw [← h.exists_iff value hdateless]
    constructor
    · rintro ⟨b, hb⟩
      obtain ⟨a, ha, -⟩ := Option.map_eq_some_iff.1 hb
      exact ⟨a, ha⟩
    · rintro ⟨a, ha⟩
      exact ⟨f a, Option.map_eq_some_iff.2 ⟨a, ha, rfl⟩⟩
  congr := by
    intro value value' hadd
    rw [h.congr value value' hadd]

variable {fields : List (String × Shape)} {name : String} {value : Value}

/-- A field that is read is given a value that fits, or none. -/
theorem exists_get_iff (h : ReadBy shape read) (default : α) {entries : Entries} {name : String}
    (hdateless : ∀ v, entries.lookup name = some v → v.Dateless) :
    (∃ a, entries.get name read default = some a) ↔
      ∀ v, entries.lookup name = some v → shape.Fits v := by
  unfold Entries.get
  cases hv : entries.lookup name with
  | none => exact ⟨fun _ v hv => (by cases hv), fun _ => ⟨default, rfl⟩⟩
  | some value =>
    rw [h.exists_iff value (hdateless value hv)]
    constructor
    · intro hfits v hv
      cases hv
      exact hfits
    · intro hfits
      exact hfits value rfl

theorem get_congr (h : ReadBy shape read) {entries entries' : Entries} {name : String} {default : α}
    (hsame : shape.SameGiven (entries.lookup name) (entries'.lookup name)) :
    entries.get name read default = entries'.get name read default := by
  unfold Entries.get
  rcases hsame with heq | ⟨value, value', hvalue, hvalue', hadd⟩
  · rw [heq]
  · rw [hvalue, hvalue']
    exact h.congr value value' hadd

end ReadBy

/-- The same for a reader of several fields at once. -/
structure FieldsReadBy {α : Type} (fields : List (String × Shape)) (build : Entries → Option α) :
    Prop where
  exists_iff : ∀ entries : Entries,
    (∀ field ∈ fields, ∀ v, entries.lookup field.1 = some v → v.Dateless) →
      ((∃ a, build entries = some a) ↔
        ∀ field ∈ fields, ∀ v, entries.lookup field.1 = some v → field.2.Fits v)
  congr : ∀ entries entries' : Entries,
    (∀ field ∈ fields,
      field.2.SameGiven (entries.lookup field.1) (entries'.lookup field.1)) →
    build entries = build entries'

section Fields

variable {α β : Type} {shape : Shape} {read : Value → Option α} {fields : List (String × Shape)}

theorem FieldsReadBy.nil (a : α) : FieldsReadBy [] fun _ => some a where
  exists_iff := by
    intro entries _
    exact ⟨fun _ _ hmem => (nomatch hmem), fun _ => ⟨a, rfl⟩⟩
  congr := by
    intro entries entries' _
    rfl

/-- One more field in front of the others. -/
theorem FieldsReadBy.cons {name : String} {default : α} {rest : α → Entries → Option β}
    (h : ReadBy shape read) (hrest : ∀ a, FieldsReadBy fields (rest a)) :
    FieldsReadBy ((name, shape) :: fields) fun entries =>
      (entries.get name read default).bind fun a => rest a entries where
  exists_iff := by
    intro entries hdateless
    obtain ⟨hfirst, hothers⟩ := List.forall_mem_cons.1 hdateless
    have hget := h.exists_get_iff default hfirst
    rw [List.forall_mem_cons, ← hget]
    constructor
    · rintro ⟨b, hb⟩
      obtain ⟨a, ha, hb⟩ := Option.bind_eq_some_iff.1 hb
      exact ⟨⟨a, ha⟩, ((hrest a).exists_iff entries hothers).1 ⟨b, hb⟩⟩
    · rintro ⟨⟨a, ha⟩, hfits⟩
      obtain ⟨b, hb⟩ := ((hrest a).exists_iff entries hothers).2 hfits
      exact ⟨b, Option.bind_eq_some_iff.2 ⟨a, ha, hb⟩⟩
  congr := by
    intro entries entries' hsame
    obtain ⟨hfirst, hothers⟩ := List.forall_mem_cons.1 hsame
    rw [h.get_congr hfirst]
    exact congrArg _ (funext fun a => (hrest a).congr entries entries' hothers)

/-- A group is read by reading its fields. -/
theorem ReadBy.group {build : Entries → Option α} (hnodup : (fields.map Prod.fst).Nodup)
    (h : FieldsReadBy fields build) :
    ReadBy (.group fields) fun value => (value.fields (fields.map Prod.fst)).bind build where
  exists_iff := by
    intro value hdateless
    have hlookup {entries : Entries} (hentries : value.fields (fields.map Prod.fst) = some entries)
        (field : String × Shape) (hfield : field ∈ fields) :
        entries.lookup field.1 = value.given? fields field.1 :=
      Value.lookup_of_fields hentries (List.mem_map_of_mem hfield)
    have hbuild {entries : Entries} (hentries : value.fields (fields.map Prod.fst) = some entries) :
        (∃ a, build entries = some a) ↔
          ∀ field ∈ fields, ∀ v, value.given? fields field.1 = some v → field.2.Fits v := by
      rw [h.exists_iff entries fun field hfield v hv =>
        hdateless.given? ((hlookup hentries field hfield).symm.trans hv)]
      exact forall₂_congr fun field hfield => by rw [hlookup hentries field hfield]
    rw [fits_group_iff, ← Value.exists_fields_iff hdateless.ne_datetime]
    constructor
    · rintro ⟨a, ha⟩
      obtain ⟨entries, hentries, ha⟩ := Option.bind_eq_some_iff.1 ha
      exact ⟨⟨entries, hentries⟩, (hbuild hentries).1 ⟨a, ha⟩⟩
    · rintro ⟨⟨entries, hentries⟩, hfits⟩
      obtain ⟨a, ha⟩ := (hbuild hentries).2 hfits
      exact ⟨a, Option.bind_eq_some_iff.2 ⟨entries, hentries, ha⟩⟩
  congr := by
    intro value value' hadd
    obtain ⟨hdate, hdate', hgroup, hsame⟩ := hadd.group hnodup
    rw [← Value.exists_fields_iff hdate, ← Value.exists_fields_iff hdate'] at hgroup
    cases hentries : value.fields (fields.map Prod.fst) with
    | none =>
      cases hentries' : value'.fields (fields.map Prod.fst) with
      | none => rfl
      | some entries' =>
        obtain ⟨entries, hsome⟩ := hgroup.2 ⟨entries', hentries'⟩
        cases hentries.symm.trans hsome
    | some entries =>
      obtain ⟨entries', hentries'⟩ := hgroup.1 ⟨entries, hentries⟩
      rw [hentries', Option.bind_some, Option.bind_some]
      refine h.congr entries entries' fun field hfield => ?_
      rw [Value.lookup_of_fields hentries (List.mem_map_of_mem hfield),
        Value.lookup_of_fields hentries' (List.mem_map_of_mem hfield)]
      exact hsame field hfield

end Fields

end Shape

end CameraScript
