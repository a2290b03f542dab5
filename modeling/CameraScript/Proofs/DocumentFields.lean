import CameraScript.Proofs.DocumentShape
import Mathlib.Logic.Relation

/-!
# Settings by their fields

Each field of the settings is what the document gives for this field, wherever it stands, or else
the default of this field. There are no defaults of whole groups.

* `Settings.shape`: the fields of settings and of their groups, in order.
* `Settings.GivenBy`: each field is what is given for it.
* `Settings.readBy`: the reader of settings takes what fits.
* `Settings.givenBy_of_ofValue`: what it reads is what is given.
* `Settings.ofText_by_fields`: both for a document, and that other keys do not matter.
-/

namespace CameraScript

open Toml

def Timebase.fields : List (String × Shape) := [("source_fps", .number), ("tick_rate", .number)]

def Displacement.fields : List (String × Shape) := [("base", .number), ("divisor", .number)]

def Transform.fields : List (String × Shape) :=
  [("scale", .number), ("displacement", .group Displacement.fields)]

def Template.fields : List (String × Shape) :=
  [("anchor", .text), ("anchor_offset", .text), ("focus_offset", .text),
    ("ease_duration", .number), ("ease_function", .text)]

def Settings.fields : List (String × Shape) :=
  [("pack_root", .text), ("timebase", .group Timebase.fields),
    ("transform", .group Transform.fields), ("template", .group Template.fields)]

def Settings.shape : Shape := .group fields

/-- Each field of these settings is what the document gives for this field alone. -/
structure Settings.GivenBy (value : Value) (settings : Settings) : Prop where
  packRoot : FieldIs Value.IsText "./packs/BP" (shape.at? ["pack_root"] value) settings.packRoot
  sourceFps : FieldIs Value.IsNumber 30 (shape.at? ["timebase", "source_fps"] value)
    settings.timebase.sourceFps
  tickRate : FieldIs Value.IsNumber 20 (shape.at? ["timebase", "tick_rate"] value)
    settings.timebase.tickRate
  scale : FieldIs Value.IsNumber (1 / 6) (shape.at? ["transform", "scale"] value)
    settings.transform.scale
  displacement : settings.transform.displacement.isSome ↔
    (shape.at? ["transform", "displacement"] value).isSome
  base : ∀ displacement, settings.transform.displacement = some displacement →
    FieldIs Value.IsNumber 26 (shape.at? ["transform", "displacement", "base"] value)
      displacement.base
  divisor : ∀ displacement, settings.transform.displacement = some displacement →
    FieldIs Value.IsNumber 1.2 (shape.at? ["transform", "displacement", "divisor"] value)
      displacement.divisor
  anchor : FieldIs Value.IsText "@e[type=pj:song_manager,c=1]"
    (shape.at? ["template", "anchor"] value) settings.template.anchor
  anchorOffset : FieldIs Value.IsText "~~-0.8~" (shape.at? ["template", "anchor_offset"] value)
    settings.template.anchorOffset
  focusOffset : FieldIs Value.IsText "^^^9" (shape.at? ["template", "focus_offset"] value)
    settings.template.focusOffset
  easeDuration : FieldIs Value.IsNumber 0.1 (shape.at? ["template", "ease_duration"] value)
    settings.template.easeDuration
  easeFunction : FieldIs Value.IsText "linear" (shape.at? ["template", "ease_function"] value)
    settings.template.easeFunction

/-! ## Readers -/

open Shape

theorem Timebase.readBy : ReadBy (.group fields) ofValue :=
  .group (by decide) (.cons .number fun _ => .cons .number fun _ => .nil _)

theorem Displacement.readBy : ReadBy (.group fields) ofValue :=
  .group (by decide) (.cons .number fun _ => .cons .number fun _ => .nil _)

theorem Transform.readBy : ReadBy (.group fields) ofValue :=
  .group (by decide) (.cons .number fun _ => .cons (Displacement.readBy.map some) fun _ => .nil _)

theorem Template.readBy : ReadBy (.group fields) ofValue :=
  .group (by decide) (.cons .text fun _ => .cons .text fun _ => .cons .text fun _ =>
    .cons .number fun _ => .cons .text fun _ => .nil _)

theorem Settings.readBy : ReadBy shape ofValue :=
  .group (by decide) (.cons .text fun _ => .cons Timebase.readBy fun _ =>
    .cons Transform.readBy fun _ => .cons Template.readBy fun _ => .nil _)

/-! ## What each field is -/

theorem reads_text? : Reads Value.text? = Value.IsText :=
  funext₂ fun _ _ => propext Value.text?_eq_some_iff

theorem reads_number? : Reads Value.number? = Value.IsNumber :=
  funext₂ fun _ _ => propext Value.number?_eq_some_iff

section Given

variable {given : Option Value}

theorem Timebase.fieldIs_of_given {timebase : Timebase}
    (h : FieldIs (Reads ofValue) {} given timebase) :
    FieldIs Value.IsNumber 30 (given.bind (Value.given? fields "source_fps"))
        timebase.sourceFps ∧
      FieldIs Value.IsNumber 20 (given.bind (Value.given? fields "tick_rate"))
        timebase.tickRate := by
  rw [← reads_number?]
  cases given with
  | none =>
    cases h
    exact ⟨rfl, rfl⟩
  | some value =>
    have hread : ofValue value = some timebase := h
    simp only [ofValue, Option.bind_eq_bind, Option.bind_eq_some_iff, Option.pure_def,
      Option.some.injEq] at hread
    obtain ⟨entries, hentries, _, hfps, _, hrate, rfl⟩ := hread
    exact ⟨Value.fieldIs_of_get fields hentries (by decide) hfps,
      Value.fieldIs_of_get fields hentries (by decide) hrate⟩

theorem Displacement.fieldIs_of_given {displacement : Option Displacement}
    (h : FieldIs (Reads fun value => (ofValue value).map some) none given displacement) :
    (displacement.isSome ↔ given.isSome) ∧
      ∀ d, displacement = some d →
        FieldIs Value.IsNumber 26 (given.bind (Value.given? fields "base")) d.base ∧
        FieldIs Value.IsNumber 1.2 (given.bind (Value.given? fields "divisor")) d.divisor := by
  rw [← reads_number?]
  cases given with
  | none =>
    cases h
    exact ⟨Iff.rfl, nofun⟩
  | some value =>
    obtain ⟨d, hread, rfl⟩ := Option.map_eq_some_iff.1 h
    refine ⟨Iff.rfl, fun d' hd => ?_⟩
    cases hd
    simp only [ofValue, Option.bind_eq_bind, Option.bind_eq_some_iff, Option.pure_def,
      Option.some.injEq] at hread
    obtain ⟨entries, hentries, _, hbase, _, hdivisor, rfl⟩ := hread
    exact ⟨Value.fieldIs_of_get fields hentries (by decide) hbase,
      Value.fieldIs_of_get fields hentries (by decide) hdivisor⟩

theorem Transform.fieldIs_of_given {transform : Transform}
    (h : FieldIs (Reads ofValue) {} given transform) :
    FieldIs Value.IsNumber (1 / 6) (given.bind (Value.given? fields "scale")) transform.scale ∧
      FieldIs (Reads fun value => (Displacement.ofValue value).map some) none
        (given.bind (Value.given? fields "displacement")) transform.displacement := by
  rw [← reads_number?]
  cases given with
  | none =>
    cases h
    exact ⟨rfl, rfl⟩
  | some value =>
    have hread : ofValue value = some transform := h
    simp only [ofValue, Option.bind_eq_bind, Option.bind_eq_some_iff, Option.pure_def,
      Option.some.injEq] at hread
    obtain ⟨entries, hentries, _, hscale, _, hdisplacement, rfl⟩ := hread
    exact ⟨Value.fieldIs_of_get fields hentries (by decide) hscale,
      Value.fieldIs_of_get fields hentries (by decide) hdisplacement⟩

theorem Template.fieldIs_of_given {template : Template}
    (h : FieldIs (Reads ofValue) {} given template) :
    FieldIs Value.IsText "@e[type=pj:song_manager,c=1]"
        (given.bind (Value.given? fields "anchor")) template.anchor ∧
      FieldIs Value.IsText "~~-0.8~" (given.bind (Value.given? fields "anchor_offset"))
        template.anchorOffset ∧
      FieldIs Value.IsText "^^^9" (given.bind (Value.given? fields "focus_offset"))
        template.focusOffset ∧
      FieldIs Value.IsNumber 0.1 (given.bind (Value.given? fields "ease_duration"))
        template.easeDuration ∧
      FieldIs Value.IsText "linear" (given.bind (Value.given? fields "ease_function"))
        template.easeFunction := by
  rw [← reads_number?, ← reads_text?]
  cases given with
  | none =>
    cases h
    exact ⟨rfl, rfl, rfl, rfl, rfl⟩
  | some value =>
    have hread : ofValue value = some template := h
    simp only [ofValue, Option.bind_eq_bind, Option.bind_eq_some_iff, Option.pure_def,
      Option.some.injEq] at hread
    obtain ⟨entries, hentries, _, hanchor, _, hoffset, _, hfocus, _, hduration, _, hfunction,
      rfl⟩ := hread
    exact ⟨Value.fieldIs_of_get fields hentries (by decide) hanchor,
      Value.fieldIs_of_get fields hentries (by decide) hoffset,
      Value.fieldIs_of_get fields hentries (by decide) hfocus,
      Value.fieldIs_of_get fields hentries (by decide) hduration,
      Value.fieldIs_of_get fields hentries (by decide) hfunction⟩

end Given

section Paths

variable {fields inner : List (String × Shape)} {name name' : String} {shape : Shape}
  {value : Value}

theorem Shape.at?_cons {path : List String} (h : fields.lookup name = some shape) :
    (group fields).at? (name :: path) value = (value.given? fields name).bind (shape.at? path) := by
  rw [at?, h]
  rfl

theorem Shape.at?_singleton (h : fields.lookup name = some shape) :
    (group fields).at? [name] value = value.given? fields name := by
  have hnil : shape.at? [] = some := by
    funext value
    cases shape <;> rfl
  rw [at?_cons h, hnil, Option.bind_fun_some]

theorem Shape.at?_pair (h : fields.lookup name = some (.group inner))
    (h' : inner.lookup name' = some shape) :
    (group fields).at? [name, name'] value =
      (value.given? fields name).bind (Value.given? inner name') := by
  rw [at?_cons h]
  exact congrArg _ (funext fun value => at?_singleton h')

end Paths

namespace Settings

section Paths

variable {value : Value} {field : Shape}

theorem at?_group (name : String) {inner : List (String × Shape)}
    (hname : fields.lookup name = some (.group inner)) (name' : String)
    (hname' : inner.lookup name' = some field) :
    shape.at? [name, name'] value = (value.given? fields name).bind (Value.given? inner name') :=
  Shape.at?_pair hname hname'

theorem at?_displacement (name : String) (hname : Displacement.fields.lookup name = some field) :
    shape.at? ["transform", "displacement", name] value =
      ((value.given? fields "transform").bind (Value.given? Transform.fields "displacement")).bind
        (Value.given? Displacement.fields name) := by
  have hpair (v : Value) : (Shape.group Transform.fields).at? ["displacement", name] v =
      (v.given? Transform.fields "displacement").bind (Value.given? Displacement.fields name) :=
    Shape.at?_pair rfl hname
  have hcons : shape.at? ["transform", "displacement", name] value =
      (value.given? fields "transform").bind
        ((Shape.group Transform.fields).at? ["displacement", name]) := Shape.at?_cons rfl
  rw [hcons, funext hpair, Option.bind_assoc]

end Paths

/-- What is read is what the document gives, field by field. -/
theorem givenBy_of_ofValue {value : Value} {settings : Settings}
    (h : ofValue value = some settings) : GivenBy value settings := by
  simp only [ofValue, Option.bind_eq_bind, Option.bind_eq_some_iff, Option.pure_def,
    Option.some.injEq] at h
  obtain ⟨entries, hentries, _, hroot, _, htimebase, _, htransform, _, htemplate, rfl⟩ := h
  have hroot := Value.fieldIs_of_get fields hentries (by decide) hroot
  obtain ⟨hfps, hrate⟩ := Timebase.fieldIs_of_given
    (Value.fieldIs_of_get fields hentries (by decide) htimebase)
  obtain ⟨hscale, hdisplacement⟩ := Transform.fieldIs_of_given
    (Value.fieldIs_of_get fields hentries (by decide) htransform)
  obtain ⟨hanchor, hoffset, hfocus, hduration, hfunction⟩ := Template.fieldIs_of_given
    (Value.fieldIs_of_get fields hentries (by decide) htemplate)
  obtain ⟨hsome, hfields⟩ := Displacement.fieldIs_of_given hdisplacement
  rw [reads_text?] at hroot
  constructor
  case packRoot => exact (Shape.at?_singleton rfl : shape.at? ["pack_root"] value = _) ▸ hroot
  case sourceFps => exact at?_group "timebase" rfl "source_fps" rfl ▸ hfps
  case tickRate => exact at?_group "timebase" rfl "tick_rate" rfl ▸ hrate
  case scale => exact at?_group "transform" rfl "scale" rfl ▸ hscale
  case displacement => exact at?_group "transform" rfl "displacement" rfl ▸ hsome
  case base => exact fun d hd => at?_displacement "base" rfl ▸ (hfields d hd).1
  case divisor => exact fun d hd => at?_displacement "divisor" rfl ▸ (hfields d hd).2
  case anchor => exact at?_group "template" rfl "anchor" rfl ▸ hanchor
  case anchorOffset => exact at?_group "template" rfl "anchor_offset" rfl ▸ hoffset
  case focusOffset => exact at?_group "template" rfl "focus_offset" rfl ▸ hfocus
  case easeDuration => exact at?_group "template" rfl "ease_duration" rfl ▸ hduration
  case easeFunction => exact at?_group "template" rfl "ease_function" rfl ▸ hfunction

theorem ofText_eq_ok_iff {text : String} {value : Value} (hparse : parse text = some value)
    {settings : Settings} : ofText text = .ok settings ↔ ofValue value = some settings := by
  rw [ofText, hparse, Option.bind_some]
  cases ofValue value with
  | none => exact ⟨nofun, nofun⟩
  | some found => rw [Except.ok.injEq, Option.some.injEq]

theorem ofText_congr {text text' : String} {value value' : Value} (hparse : parse text = some value)
    (hparse' : parse text' = some value') (h : ofValue value = ofValue value') :
    ofText text' = ofText text := by
  rw [ofText, ofText, hparse, hparse', Option.bind_some, Option.bind_some, h]

theorem ofValue_eq_of_eqvGen {value value' : Value}
    (h : Relation.EqvGen shape.AddKey value value') : ofValue value = ofValue value' := by
  induction h with
  | rel value value' hadd => exact readBy.congr value value' hadd
  | refl => rfl
  | symm _ _ _ ih => exact ih.symm
  | trans _ _ _ _ _ ih ih' => exact ih.trans ih'

/-- **Settings by their fields.** A document without dates is read exactly where each known field
that it gives fits, whether it is given by a key or by its place in an array. Each field of the
settings is then what is given for it, or its own default where nothing is, whatever else the
document holds. Keys that name no field make no difference, wherever they are. -/
theorem ofText_by_fields {text : String} {value : Value} (hparse : parse text = some value)
    (hdateless : value.Dateless) :
    ((∃ settings, ofText text = .ok settings) ↔ shape.Fits value) ∧
      (¬ shape.Fits value → ofText text = .error .settings) ∧
      (∀ settings, ofText text = .ok settings → GivenBy value settings) ∧
      ∀ (text' : String) (value' : Value), parse text' = some value' →
        Relation.EqvGen shape.AddKey value value' → ofText text' = ofText text := by
  have hfits : (∃ settings, ofText text = .ok settings) ↔ shape.Fits value := by
    simp only [ofText_eq_ok_iff hparse]
    exact readBy.exists_iff value hdateless
  refine ⟨hfits, fun hnot => ?_, fun settings h => ?_, fun text' value' hparse' hkeys => ?_⟩
  · cases hread : ofValue value with
    | none => rw [ofText, hparse, Option.bind_some, hread]
    | some settings => exact absurd (hfits.1 ⟨settings, (ofText_eq_ok_iff hparse).2 hread⟩) hnot
  · exact givenBy_of_ofValue ((ofText_eq_ok_iff hparse).1 h)
  · exact ofText_congr hparse hparse' (ofValue_eq_of_eqvGen hkeys)

/-- What the documents below hold: groups that are given as an array, in braces and under a header,
with these keys in the braces and these keys in front of the header. -/
def documentValue (braces front : Entries) : Value :=
  .table .closed
    (("transform", .array [.integer 2, .table .closed braces]) :: front ++
      [("timebase", .table .closed [("tick_rate", .integer 10)])])

/-- With keys that name no field. -/
def mixedDocument : String :=
  "transform=[2,\x7bbase=30,x=[]\x7d]\ny=true\n[timebase]\ntick_rate=10"

def mixedTokens : List Token :=
  [.bare ['t', 'r', 'a', 'n', 's', 'f', 'o', 'r', 'm'], .equals, .openBracket, .bare ['2'], .comma,
    .openBrace, .bare ['b', 'a', 's', 'e'], .equals, .bare ['3', '0'], .comma, .bare ['x'], .equals,
    .openBracket, .closeBracket, .closeBrace, .closeBracket, .newline, .bare ['y'], .equals,
    .bare ['t', 'r', 'u', 'e'], .newline, .openBracket,
    .bare ['t', 'i', 'm', 'e', 'b', 'a', 's', 'e'], .closeBracket, .newline,
    .bare ['t', 'i', 'c', 'k', '_', 'r', 'a', 't', 'e'], .equals, .bare ['1', '0']]

def mixedValue : Value :=
  documentValue [("base", .integer 30), ("x", .array [])] [("y", .boolean true)]

/-- Without them. -/
def plainDocument : String := "transform=[2,\x7bbase=30\x7d]\n[timebase]\ntick_rate=10"

def plainTokens : List Token :=
  [.bare ['t', 'r', 'a', 'n', 's', 'f', 'o', 'r', 'm'], .equals, .openBracket, .bare ['2'], .comma,
    .openBrace, .bare ['b', 'a', 's', 'e'], .equals, .bare ['3', '0'], .closeBrace, .closeBracket,
    .newline, .openBracket, .bare ['t', 'i', 'm', 'e', 'b', 'a', 's', 'e'], .closeBracket, .newline,
    .bare ['t', 'i', 'c', 'k', '_', 'r', 'a', 't', 'e'], .equals, .bare ['1', '0']]

def plainValue : Value := documentValue [("base", .integer 30)] []

theorem parse_mixedDocument : parse mixedDocument = some mixedValue := by
  have hscan : Token.scan mixedDocument = some mixedTokens := by decide +kernel
  rw [parse, hscan]
  rfl

theorem parse_plainDocument : parse plainDocument = some plainValue := by
  have hscan : Token.scan plainDocument = some plainTokens := by decide +kernel
  rw [parse, hscan]
  rfl

theorem dateless_documentValue {braces front : Entries}
    (hbraces : ∀ entry ∈ braces, entry.2.Dateless) (hfront : ∀ entry ∈ front, entry.2.Dateless) :
    (documentValue braces front).Dateless := by
  have htimebase : (Value.table .closed [("tick_rate", .integer 10)]).Dateless :=
    .table (List.forall_mem_singleton.2 (.integer 10))
  have htransform : (Value.array [.integer 2, .table .closed braces]).Dateless :=
    .array (List.forall_mem_cons.2 ⟨.integer 2, List.forall_mem_singleton.2 (.table hbraces)⟩)
  refine .table ?_
  rw [List.cons_append, List.forall_mem_cons, List.forall_mem_append]
  exact ⟨htransform, hfront, List.forall_mem_singleton.2 htimebase⟩

/-- A key among the known ones in braces, and one in front of the header. -/
theorem eqvGen_mixedValue_plainValue : Relation.EqvGen shape.AddKey mixedValue plainValue := by
  have hfront : shape.AddKey plainValue
      (documentValue [("base", .integer 30)] [("y", .boolean true)]) :=
    @Shape.AddKey.here fields _ [_] [_] "y" _ (by decide)
  have hbraces : Shape.AddKey (.group Displacement.fields) (.table .closed [("base", .integer 30)])
      (.table .closed [("base", .integer 30), ("x", .array [])]) :=
    @Shape.AddKey.here Displacement.fields _ [_] [] "x" _ (by decide)
  have htransform : Shape.AddKey (.group Transform.fields)
      (.array [.integer 2, .table .closed [("base", .integer 30)]])
      (.array [.integer 2, .table .closed [("base", .integer 30), ("x", .array [])]]) :=
    @Shape.AddKey.inArray Transform.fields _ 1 _ _ _ rfl rfl hbraces
  have hmixed : shape.AddKey (documentValue [("base", .integer 30)] [("y", .boolean true)])
      mixedValue :=
    @Shape.AddKey.inTable fields _ [] _ ("transform", .group Transform.fields) _ _
      (by simp [fields]) htransform
  exact .symm _ _ (.trans _ _ _ (.rel _ _ hfront) (.rel _ _ hmixed))

theorem ofText_by_fields_mixedDocument :
    parse mixedDocument = some mixedValue ∧ mixedValue.Dateless ∧
      parse plainDocument = some plainValue ∧
      Relation.EqvGen shape.AddKey mixedValue plainValue ∧ shape.Fits mixedValue ∧
      ∃ settings displacement, ofText mixedDocument = .ok settings ∧
        ofText plainDocument = .ok settings ∧ settings.packRoot = "./packs/BP" ∧
        settings.timebase.sourceFps = 30 ∧ settings.timebase.tickRate = Float.ofInt 10 ∧
        settings.transform.scale = Float.ofInt 2 ∧
        settings.transform.displacement = some displacement ∧
        displacement.base = Float.ofInt 30 ∧ displacement.divisor = 1.2 := by
  have hdateless : mixedValue.Dateless :=
    dateless_documentValue (List.forall_mem_cons.2 ⟨.integer 30, List.forall_mem_singleton.2
      (.array nofun)⟩) (List.forall_mem_singleton.2 (.boolean true))
  obtain ⟨hfits, -, hgiven, hkeys⟩ := ofText_by_fields parse_mixedDocument hdateless
  obtain ⟨settings, hread⟩ : ∃ settings, ofValue mixedValue = some settings := ⟨_, rfl⟩
  have hok : ofText mixedDocument = .ok settings := (ofText_eq_ok_iff parse_mixedDocument).2 hread
  have hplain := hkeys plainDocument plainValue parse_plainDocument eqvGen_mixedValue_plainValue
  have hfields := hgiven settings hok
  obtain ⟨displacement, hdisplacement⟩ := Option.isSome_iff_exists.1 (hfields.displacement.2 rfl)
  have hinteger {n : Int} {x : Float} (h : Value.IsNumber (.integer n) x) : x = Float.ofInt n := by
    cases h
    rfl
  exact ⟨parse_mixedDocument, hdateless, parse_plainDocument, eqvGen_mixedValue_plainValue,
    hfits.1 ⟨settings, hok⟩, settings, displacement, hok, hplain.trans hok, hfields.packRoot,
    hfields.sourceFps, hinteger hfields.tickRate, hinteger hfields.scale, hdisplacement,
    hinteger (hfields.base displacement hdisplacement),
    hfields.divisor displacement hdisplacement⟩

end Settings

end CameraScript
