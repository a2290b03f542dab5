import CameraScript.Proofs.OptionalSections

/-!
# What the log says about sections

The search for the sections of a file reports each section that it finds. It reports no more once
a section that must be there is missing, and of the sections that may be missing the first one
that is.

* `Logged.lines`: the log of a run as it is shown, and `Logged.lines_bind_of_ok`,
  `Logged.lines_bind_of_error`: that of a sequence of runs.
* `placeLine`, `absentLine`: what is shown of a section that is found and of one that is not.
* `Layout.mandatoryLines`, `Layout.optionalLines`: what is shown of the sections of a file.
* `exists_required`, `exists_optional`: one step of the search, with its line.
* `Layout.transcribed_ofBytes`: the whole search.
-/

namespace CameraScript

open Motion

/-! ## Lines of the log -/

def Event.line (event : Event) : Level × String := (event.level, event.text)

namespace Logged

variable {α β : Type}

/-- The log of a run as it is shown. -/
def lines (run : Logged α) : List (Level × String) := run.events.map Event.line

theorem lines_report (events : List Event) : (report events).lines = events.map Event.line := rfl

theorem lines_bind_of_ok {run : Logged α} {next : α → Logged β} {a : α} (h : run.result = .ok a) :
    (run >>= next).lines = run.lines ++ (next a).lines := by
  change ((run.bind next).events).map Event.line = _
  unfold Logged.bind
  rw [h]
  exact List.map_append

theorem lines_bind_of_error {run : Logged α} {next : α → Logged β} {fault : Fault}
    (h : run.result = .error fault) : (run >>= next).lines = run.lines := by
  change ((run.bind next).events).map Event.line = _
  unfold Logged.bind
  rw [h]
  rfl

theorem bind_of_ok {next : α → Logged β} {events : List Event} {a : α} :
    ((⟨events, .ok a⟩ : Logged α) >>= next) = ⟨events ++ (next a).events, (next a).result⟩ := rfl

end Logged

namespace Motion

/-- A section with its number of records and the offset of the first one. -/
def placeLine (kind : SectionKind) (count start : Nat) : Level × String :=
  (.trace, kind.name ++ ": " ++ count.repr ++ " record(s) at " ++ hexText start)

/-- A section that is not in the file behind `offset`. Where its count can be read, and with it
the size of its records, the file ends within these. -/
def absentLine (data : Bytes) (kind : SectionKind) (offset : Nat) : Level × String :=
  (.debug,
    if offset + 4 ≤ data.length ∧
        (kind = .ik → data.number offset ≠ 0 → offset + 13 ≤ data.length) then
      kind.name ++ " section wants " ++ (data.number offset).repr
        ++ " record(s) but the file ends at " ++ hexText data.length
    else
      "no " ++ kind.name ++ " section at " ++ hexText offset)

def Section.line (found : Section) : Level × String :=
  placeLine found.kind found.count.toNat found.start.toNat

theorem Section.IsAt.line_eq {found : Section} {data : Bytes} {kind : SectionKind} {offset : Nat}
    (h : found.IsAt data kind offset) :
    found.line = placeLine kind (data.number offset) (offset + 4) := by
  rw [Section.line, h.kind_eq, h.count_eq, h.start_eq]

/-! ## One section -/

theorem number_lt (data : Bytes) (offset : Nat) : data.number offset < 2 ^ 32 := by
  have h₀ := (data.getD offset 0).toNat_lt
  have h₁ := (data.getD (offset + 1) 0).toNat_lt
  have h₂ := (data.getD (offset + 2) 0).toNat_lt
  have h₃ := (data.getD (offset + 3) 0).toNat_lt
  rw [Bytes.number]
  omega

section One

variable {data : Bytes} {kind : SectionKind} {offset : UInt64} {found : Section}

theorem toNat_stop_of_place? {offset : Nat} (hkind : kind ≠ .ik) (hoffset : offset < 2 ^ 63)
    (h : place? data kind offset = some found) :
    found.stop.toNat = offset + 4 + data.number offset * kind.recordSize.toNat := by
  obtain ⟨count, size, hcount, hsize, rfl⟩ := place?_eq_some_iff.1 h
  rw [recordSize?_of_ne_ik data hkind, Option.some.injEq] at hsize
  subst hsize
  rw [Layout.toNat_stop_behind kind count hoffset, Bytes.number_eq_toNat hcount]

/-- Records of a fixed size end not too far behind their count. -/
theorem toNat_stop_le_of_place? {offset : Nat} (hkind : kind ≠ .ik) (hoffset : offset < 2 ^ 63)
    (h : place? data kind offset = some found) : found.stop.toNat ≤ offset + 2 ^ 39 := by
  have hrecords : data.number offset * kind.recordSize.toNat ≤ 2 ^ 32 * 111 :=
    Nat.mul_le_mul (Nat.le_of_lt (number_lt data offset)) (Layout.toNat_recordSize_le kind)
  rw [toNat_stop_of_place? hkind hoffset h]
  omega

/-- A section that must be there and is not ends the search without a line. -/
theorem required_of_lt (hoffset : offset.toNat < 2 ^ 63) (h : data.length < offset.toNat + 4) :
    required data kind offset = .fail (.truncated kind) := by
  have hnone : place? data kind offset.toNat = none := by
    rw [← Option.not_isSome_iff_eq_none, isSome_place?_iff]
    omega
  rw [required, locate_eq_of_lt kind (by omega), hnone]
  rfl

theorem exists_required (data : Bytes) (kind : SectionKind) (hkind : kind ≠ .ik)
    (hoffset : offset.toNat < 2 ^ 63) (h : offset.toNat + 4 ≤ data.length) :
    ∃ found, required data kind offset = ⟨[.located found], .ok found⟩ ∧
      found.line = placeLine kind (data.number offset.toNat) (offset.toNat + 4) ∧
      found.stop.toNat = offset.toNat + 4 + data.number offset.toNat * kind.recordSize.toNat := by
  obtain ⟨found, hfound⟩ := Option.isSome_iff_exists.1
    (isSome_place?_iff.2 ⟨h, fun hik => absurd hik hkind⟩)
  refine ⟨found, ?_, (isAt_of_place?_of_lt (by omega) hfound).line_eq,
    toNat_stop_of_place? hkind hoffset hfound⟩
  rw [required, locate_eq_of_lt kind (by omega), hfound]

/-- The line about an optional section. -/
def optionalLine (data : Bytes) (kind : SectionKind) (offset : Nat) :
    Option Section → Level × String
  | some found => found.line
  | none => absentLine data kind offset

/-- A section that may be missing is reported in one line, whether it is found or not. -/
theorem exists_optional (hoffset : offset.toNat < 2 ^ 63) :
    ∃ found, (optional data kind (some offset)).result = .ok found ∧
      (optional data kind (some offset)).lines = [optionalLine data kind offset.toNat found] ∧
      ∀ s, found = some s →
        s.kind = kind ∧ (kind ≠ .ik → s.stop.toNat ≤ offset.toNat + 2 ^ 39) := by
  rw [optional, locate_eq_of_lt kind (by omega)]
  cases hplace : place? data kind offset.toNat with
  | none =>
    have hnot := mt isSome_place?_iff.2 (by rw [hplace]; exact Bool.false_ne_true)
    refine ⟨none, rfl, ?_, ?_⟩
    · rw [optionalLine, absentLine, if_neg hnot]
      rfl
    · intro s hs
      cases hs
  | some s =>
    have hat := isAt_of_place?_of_lt (by omega) hplace
    by_cases hlt : data.length < s.stop.toNat
    · have hread := isSome_place?_iff.1 (Option.isSome_of_eq_some hplace)
      refine ⟨none, by simp [hlt], ?_, ?_⟩
      · rw [optionalLine, absentLine, if_pos hread, ← hat.count_eq]
        simp [hlt, Logged.lines, Event.line, Event.level, Event.text, hat.kind_eq]
      · intro s hs
        cases hs
    · refine ⟨some s, by simp [hlt], by simp [hlt]; rfl, ?_⟩
      intro s' hs
      cases hs
      exact ⟨hat.kind_eq, fun hkind => toNat_stop_le_of_place? hkind hoffset hplace⟩

end One

/-! ## All sections -/

namespace Layout

/-- The lines about the sections that must be there. -/
def mandatoryLines (data : Bytes) : List (Level × String) :=
  [placeLine .bone (boneCount data) 54,
    placeLine .morph (morphCount data) (58 + 111 * boneCount data),
    placeLine .camera (cameraCount data) (62 + 111 * boneCount data + 23 * morphCount data)]

/-- How many of these are found before the search fails. -/
def foundBefore : Fault → Nat
  | .truncated .morph => 1
  | .truncated .camera => 2
  | _ => 0

/-- The sections that may be missing, in the order of the file. -/
def optionalSections (layout : Layout) : List (SectionKind × Option Section) :=
  [(.light, layout.light), (.shadow, layout.shadow), (.ik, layout.ik)]

/-- The lines about them: one for each that is found, and one for the first that is missing. It is
missing behind the last one found, or behind the camera where none is. -/
def optionalLines (layout : Layout) (data : Bytes) : List (Level × String) :=
  let found := layout.optionalSections.filterMap fun entry => entry.2
  let missing := layout.optionalSections.find? fun entry => entry.2.isNone
  found.map Section.line ++
    (missing.map fun entry =>
      absentLine data entry.1 (found.getLastD layout.camera).stop.toNat).toList

/-- How the search for the sections of a file goes on behind the camera. -/
def walkBehind (data : Bytes) (bone morph camera : Section) : Logged Layout := do
  let light ← optional data .light (some camera.stop)
  let shadow ← optional data .shadow (light.map Section.stop)
  let ik ← optional data .ik (shadow.map Section.stop)
  return { modelName := modelNameOf data, header := headerSection,
           bone, morph, camera, light, shadow, ik }

/-- The search behind the camera always ends with a layout. A section is looked for only behind
one that is found, so that there is one line for each until the first that is missing. -/
theorem exists_walkBehind {data : Bytes} (bone morph : Section) {camera : Section}
    (h : camera.stop.toNat < 2 ^ 62) :
    ∃ layout, (walkBehind data bone morph camera).result = .ok layout ∧ layout.bone = bone ∧
      layout.morph = morph ∧ layout.camera = camera ∧
      (∀ entry ∈ layout.optionalSections, ∀ s, entry.2 = some s → s.kind = entry.1) ∧
      (walkBehind data bone morph camera).lines = layout.optionalLines data := by
  obtain ⟨light, hlight, hlightLine, hlightFound⟩ :
      ∃ found, (optional data .light (some camera.stop)).result = .ok found ∧ _ ∧ _ :=
    exists_optional (by omega)
  unfold walkBehind
  rw [Logged.result_bind, Logged.lines_bind_of_ok hlight, hlight, hlightLine]
  cases light with
  | none => exact ⟨_, rfl, rfl, rfl, rfl, by simp [optionalSections], rfl⟩
  | some light =>
    obtain ⟨hlightKind, hlightStop⟩ := hlightFound light rfl
    have hlightStop := hlightStop (by decide)
    obtain ⟨shadow, hshadow, hshadowLine, hshadowFound⟩ :
        ∃ found, (optional data .shadow (some light.stop)).result = .ok found ∧ _ ∧ _ :=
      exists_optional (by omega)
    change ∃ layout, (_ >>= _ : Logged Layout).result = _ ∧ _
    rw [Option.map_some, Logged.result_bind, Logged.lines_bind_of_ok hshadow, hshadow, hshadowLine]
    cases shadow with
    | none => exact ⟨_, rfl, rfl, rfl, rfl, by simp [optionalSections, hlightKind], rfl⟩
    | some shadow =>
      obtain ⟨hshadowKind, hshadowStop⟩ := hshadowFound shadow rfl
      have hshadowStop := hshadowStop (by decide)
      obtain ⟨ik, hik, hikLine, hikFound⟩ :
          ∃ found, (optional data .ik (some shadow.stop)).result = .ok found ∧ _ ∧ _ :=
        exists_optional (by omega)
      change ∃ layout, (_ >>= _ : Logged Layout).result = _ ∧ _
      rw [Option.map_some, Logged.result_bind, Logged.lines_bind_of_ok hik, hik, hikLine]
      cases ik with
      | none =>
        exact ⟨_, rfl, rfl, rfl, rfl, by simp [optionalSections, hlightKind, hshadowKind], rfl⟩
      | some ik =>
        have hikKind := (hikFound ik rfl).1
        exact ⟨_, rfl, rfl, rfl, rfl,
          by simp [optionalSections, hlightKind, hshadowKind, hikKind], rfl⟩

section Walk

variable {data : Bytes} {offset : UInt64}

theorem exists_bone (h : 54 ≤ data.length) :
    ∃ bone, required data .bone headerSection.stop = ⟨[.located bone], .ok bone⟩ ∧
      bone.line = placeLine .bone (boneCount data) 54 ∧
      bone.stop.toNat = 54 + 111 * boneCount data := by
  have hoffset : headerSection.stop.toNat = 50 := toNat_stop_headerSection
  obtain ⟨bone, hrun, hline, hstop⟩ :=
    exists_required data .bone (by decide) (show headerSection.stop.toNat < 2 ^ 63 by omega)
      (by omega)
  refine ⟨bone, hrun, ?_, ?_⟩
  · rw [hline, hoffset, boneCount]
  · rw [hstop, hoffset, boneCount, show SectionKind.bone.recordSize.toNat = 111 from rfl]
    omega

theorem exists_morph (hoffset : offset.toNat = 54 + 111 * boneCount data)
    (h : 58 + 111 * boneCount data ≤ data.length) :
    ∃ morph, required data .morph offset = ⟨[.located morph], .ok morph⟩ ∧
      morph.line = placeLine .morph (morphCount data) (58 + 111 * boneCount data) ∧
      morph.stop.toNat = 58 + 111 * boneCount data + 23 * morphCount data := by
  have hbones : boneCount data < 2 ^ 32 := number_lt data 50
  obtain ⟨morph, hrun, hline, hstop⟩ :=
    exists_required data .morph (by decide) (show offset.toNat < 2 ^ 63 by omega) (by omega)
  refine ⟨morph, hrun, ?_, ?_⟩
  · rw [hline, hoffset, morphCount, Nat.add_right_comm]
  · rw [hstop, hoffset, morphCount, show SectionKind.morph.recordSize.toNat = 23 from rfl]
    omega

theorem exists_camera
    (hoffset : offset.toNat = 58 + 111 * boneCount data + 23 * morphCount data)
    (h : 62 + 111 * boneCount data + 23 * morphCount data ≤ data.length) :
    ∃ camera, required data .camera offset = ⟨[.located camera], .ok camera⟩ ∧
      camera.line = placeLine .camera (cameraCount data)
        (62 + 111 * boneCount data + 23 * morphCount data) ∧
      camera.stop.toNat < 2 ^ 62 := by
  have hbones : boneCount data < 2 ^ 32 := number_lt data 50
  have hmorphs : morphCount data < 2 ^ 32 := number_lt data _
  obtain ⟨camera, hrun, hline, hstop⟩ :=
    exists_required data .camera (by decide) (show offset.toNat < 2 ^ 63 by omega) (by omega)
  have hcameras := number_lt data offset.toNat
  refine ⟨camera, hrun, ?_, ?_⟩
  · rw [hline, hoffset, cameraCount, Nat.add_right_comm _ _ 4, Nat.add_right_comm _ _ 4]
  · rw [hstop, show SectionKind.camera.recordSize.toNat = 61 from rfl]
    omega

end Walk

/-- What a search shows: where it fails the sections found so far, else all sections. -/
structure Transcribed (data : Bytes) (run : Logged Layout) : Prop where
  error : ∀ fault, run.result = .error fault →
    run.lines = (mandatoryLines data).take (foundBefore fault)
  ok : ∀ layout, run.result = .ok layout →
    mandatoryLines data = [layout.bone, layout.morph, layout.camera].map Section.line ∧
      (∀ entry ∈ layout.optionalSections, ∀ s, entry.2 = some s → s.kind = entry.1) ∧
      run.lines = mandatoryLines data ++ layout.optionalLines data

/-- The failure of the search for a section that must be there, behind those that are. -/
theorem transcribed_error {data : Bytes} {events : List Event} {fault : Fault}
    (h : events.map Event.line = (mandatoryLines data).take (foundBefore fault)) :
    Transcribed data ⟨events, .error fault⟩ where
  error := by
    intro fault' hfault
    cases hfault
    exact h
  ok := by
    intro layout hlayout
    cases hlayout

theorem transcribed_walk (data : Bytes) : Transcribed data (walk data) := by
  have hbones : boneCount data < 2 ^ 32 := number_lt data 50
  have hmorphs : morphCount data < 2 ^ 32 := number_lt data _
  rw [walk]
  rcases Nat.lt_or_ge data.length 54 with hbone | hbone
  · have hoffset : headerSection.stop.toNat = 50 := toNat_stop_headerSection
    rw [required_of_lt (by omega) (by omega)]
    exact transcribed_error rfl
  obtain ⟨bone, hboneRun, hboneLine, hboneStop⟩ := exists_bone hbone
  rw [hboneRun, Logged.bind_of_ok]
  rcases Nat.lt_or_ge data.length (58 + 111 * boneCount data) with hmorph | hmorph
  · rw [required_of_lt (by omega) (by omega)]
    exact transcribed_error (congrArg (fun line => [line]) hboneLine)
  obtain ⟨morph, hmorphRun, hmorphLine, hmorphStop⟩ := exists_morph hboneStop hmorph
  rw [hmorphRun, Logged.bind_of_ok]
  rcases Nat.lt_or_ge data.length (62 + 111 * boneCount data + 23 * morphCount data)
    with hcamera | hcamera
  · rw [required_of_lt (by omega) (by omega)]
    exact transcribed_error (congrArg₂ (fun line line' => [line, line']) hboneLine hmorphLine)
  obtain ⟨camera, hcameraRun, hcameraLine, hcameraStop⟩ := exists_camera hmorphStop hcamera
  rw [hcameraRun, Logged.bind_of_ok, ← walkBehind]
  have hmandatory : mandatoryLines data = [bone, morph, camera].map Section.line := by
    rw [List.map_cons, List.map_cons, List.map_singleton, hboneLine, hmorphLine, hcameraLine]
    rfl
  obtain ⟨layout, hlayout, rfl, rfl, rfl, hkinds, hlines⟩ :=
    exists_walkBehind bone morph hcameraStop
  rw [hlayout]
  refine ⟨fun fault h => (by cases h), fun layout' h => ?_⟩
  cases h
  rw [hmandatory, ← hlines]
  exact ⟨rfl, hkinds, rfl⟩

/-- **The log of the search.** Nothing is shown of a file without a signature or with a header
that is cut. -/
theorem transcribed_ofBytes (data : Bytes) : Transcribed data (ofBytes data) := by
  unfold ofBytes
  split
  · exact transcribed_error rfl
  · split
    · exact transcribed_error rfl
    · exact transcribed_walk data

end Layout

end Motion

end CameraScript
