import CameraScript.Proofs.Truncation

/-!
# Which optional sections are found

Light, shadow and IK are found one behind the other as long as each of them is in the file. The
walk decides this with words that are clamped; here it is decided by numbers of any size.

* `recordBytes`, `Fits`: the size of the records at an offset, and whether all of them are in
  the file.
* `Section.IsAt`: a section that says what the numbers at an offset say.
* `isSome_fitting?_iff`, `isAt_of_fitting?`: the section at an offset is found where it fits, and
  is the one that is there.
* `FoundBehind`: what is found behind another section.
* `Layout.optional_sections_foundBehind`: the three sections of a file.
-/

namespace CameraScript.Motion

/-! ## One section -/

/-- The bytes of one record of the section whose count is at `offset`. -/
def recordBytes (data : Bytes) (kind : SectionKind) (offset : Nat) : Nat :=
  match kind with
  | .light => 28
  | .shadow => 9
  | .ik => if data.number offset = 0 then 9 else 9 + 21 * data.number (offset + 9)
  | kind => kind.recordSize.toNat

/-- The section whose count is at `offset` is in the file, with the number of keys that the size
of IK records depends on and with all of its records. -/
structure Fits (data : Bytes) (kind : SectionKind) (offset : Nat) : Prop where
  count_le : offset + 4 ≤ data.length
  keys_le : kind = .ik → data.number offset ≠ 0 → offset + 13 ≤ data.length
  records_le : offset + 4 + data.number offset * recordBytes data kind offset ≤ data.length

/-- The section is what the numbers at `offset` describe. -/
structure Section.IsAt (s : Section) (data : Bytes) (kind : SectionKind) (offset : Nat) :
    Prop where
  kind_eq : s.kind = kind
  count_eq : s.count.toNat = data.number offset
  start_eq : s.start.toNat = offset + 4
  recordSize_eq : s.recordSize.toNat = recordBytes data kind offset

section One

variable {data : Bytes} {kind : SectionKind} {offset : Nat} {count : UInt32} {size : UInt64}
  {found : Section}

theorem toNat_eq_zero_iff {w : UInt32} : w.toNat = 0 ↔ w = 0 :=
  UInt32.toNat_inj (b := 0)

theorem toNat_recordSize? (hcount : data.word? offset = some count)
    (h : recordSize? data kind offset count = some size) :
    size.toNat = recordBytes data kind offset := by
  have hnumber := Bytes.number_eq_toNat hcount
  cases kind with
  | ik =>
    rw [recordBytes, hnumber]
    rcases recordSize?_ik_eq_some_iff.1 h with ⟨rfl, rfl⟩ | ⟨hne, keys, hkeys, rfl⟩
    · rfl
    · have hpos : count.toNat ≠ 0 := fun hzero => hne (toNat_eq_zero_iff.1 hzero)
      rw [if_neg hpos, Bytes.number_eq_toNat hkeys, UInt64.toNat_add,
        Nat.mod_eq_of_lt (ikRecordSize_lt keys), toNat_ikKeys]
      rfl
  | _ =>
    cases h
    rfl

/-- The size of IK records is the only one that has to be read. -/
theorem isSome_recordSize?_iff (hcount : data.word? offset = some count) :
    (recordSize? data kind offset count).isSome ↔
      (kind = .ik → data.number offset ≠ 0 → offset + 13 ≤ data.length) := by
  by_cases hkind : kind = .ik
  · subst hkind
    rw [Bytes.number_eq_toNat hcount, Ne, toNat_eq_zero_iff, recordSize?]
    by_cases hzero : count = 0
    · simp [hzero]
    · rw [if_neg hzero, Option.isSome_map, Bytes.isSome_word?_iff]
      exact ⟨fun h _ _ => h, fun h => h rfl hzero⟩
  · rw [recordSize?_of_ne_ik data hkind]
    exact ⟨fun _ hik => absurd hik hkind, fun _ => rfl⟩

theorem isAt_of_place?_of_lt (hoffset : offset + 4 < 2 ^ 64)
    (h : place? data kind offset = some found) : found.IsAt data kind offset := by
  obtain ⟨count, size, hcount, hsize, rfl⟩ := place?_eq_some_iff.1 h
  refine ⟨rfl, ?_, Section.toNat_start_behind _ _ _ hoffset, toNat_recordSize? hcount hsize⟩
  rw [Bytes.number_eq_toNat hcount]
  exact UInt32.toNat_toUInt64 count

theorem isAt_of_place? (hlen : data.length < 2 ^ 63) (h : place? data kind offset = some found) :
    found.IsAt data kind offset := by
  obtain ⟨count, size, hcount, -, -⟩ := place?_eq_some_iff.1 h
  have hle := add_four_le_of_word? hcount
  exact isAt_of_place?_of_lt (by omega) h

theorem Section.IsAt.extent_eq (h : found.IsAt data kind offset) :
    found.extent = offset + 4 + data.number offset * recordBytes data kind offset := by
  rw [Section.extent, h.start_eq, h.count_eq, h.recordSize_eq]

theorem isSome_place?_iff :
    (place? data kind offset).isSome ↔
      offset + 4 ≤ data.length ∧
        (kind = .ik → data.number offset ≠ 0 → offset + 13 ≤ data.length) := by
  rw [Option.isSome_iff_exists]
  constructor
  · rintro ⟨found, h⟩
    obtain ⟨count, size, hcount, hsize, -⟩ := place?_eq_some_iff.1 h
    exact ⟨add_four_le_of_word? hcount, (isSome_recordSize?_iff hcount).1 (by rw [hsize]; rfl)⟩
  · rintro ⟨hle, hkeys⟩
    obtain ⟨count, hcount, -⟩ := Bytes.exists_word? hle
    obtain ⟨size, hsize⟩ :=
      Option.isSome_iff_exists.1 ((isSome_recordSize?_iff hcount).2 hkeys)
    exact ⟨_, place?_eq_some_iff.2 ⟨count, size, hcount, hsize, rfl⟩⟩

theorem isAt_of_fitting? (hlen : data.length < 2 ^ 63)
    (h : fitting? data kind (some offset) = some found) : found.IsAt data kind offset :=
  isAt_of_place? hlen (fitting?_eq_some_iff.1 h).1

theorem isSome_fitting?_iff (hlen : data.length < 2 ^ 63) :
    (fitting? data kind (some offset)).isSome ↔ Fits data kind offset := by
  rw [Option.isSome_iff_exists]
  constructor
  · rintro ⟨found, h⟩
    obtain ⟨hplace, hextent⟩ := fitting?_eq_some_iff.1 h
    obtain ⟨hcount, hkeys⟩ := isSome_place?_iff.1 (Option.isSome_of_eq_some hplace)
    rw [(isAt_of_place? hlen hplace).extent_eq] at hextent
    exact ⟨hcount, hkeys, hextent⟩
  · intro h
    obtain ⟨found, hplace⟩ :=
      Option.isSome_iff_exists.1 (isSome_place?_iff.2 ⟨h.count_le, h.keys_le⟩)
    refine ⟨found, fitting?_eq_some_iff.2 ⟨hplace, ?_⟩⟩
    rw [(isAt_of_place? hlen hplace).extent_eq]
    exact h.records_le

end One

/-! ## One section behind another -/

/-- What is found behind `previous`: a section where there is one before it and it fits behind
that. It is the section that is there, and it ends in the file. -/
structure FoundBehind (data : Bytes) (kind : SectionKind) (previous found : Option Section) :
    Prop where
  isSome_iff : found.isSome ↔ ∃ before, previous = some before ∧ Fits data kind before.extent
  isAt : ∀ before s, previous = some before → found = some s → s.IsAt data kind before.extent
  stop_le : ∀ s, found = some s → s.stop.toNat = s.extent ∧ s.stop.toNat ≤ data.length

theorem foundBehind_fitting? {data : Bytes} (hlen : data.length < 2 ^ 63) (kind : SectionKind)
    (previous : Option Section) :
    FoundBehind data kind previous (fitting? data kind (previous.map Section.extent)) where
  isSome_iff := by
    cases previous with
    | none => simp [fitting?]
    | some before => simp [isSome_fitting?_iff hlen]
  isAt := by
    rintro before s rfl hs
    exact isAt_of_fitting? hlen hs
  stop_le := by
    intro s hs
    have hstop := toNat_stop_of_fitting? hlen hs
    exact ⟨hstop, hstop ▸ extent_le_of_fitting? hs⟩

theorem FoundBehind.isSome_previous {data : Bytes} {kind : SectionKind}
    {previous found : Option Section} (h : FoundBehind data kind previous found)
    (hfound : found.isSome) : previous.isSome := by
  obtain ⟨before, hbefore, -⟩ := h.isSome_iff.1 hfound
  exact Option.isSome_of_eq_some hbefore

/-! ## The three sections -/

namespace Layout

/-- **Optional sections.** Light behind the camera, shadow behind light and IK behind shadow are
found where the section before is found and the count and all records are in the file, counted
without any bound. What is found is the section that is there. -/
theorem optional_sections_foundBehind {data : Bytes} (hlen : data.length < 2 ^ 63)
    {layout : Layout} (h : (ofBytes data).result = .ok layout) :
    FoundBehind data .light (some layout.camera) layout.light ∧
      FoundBehind data .shadow layout.light layout.shadow ∧
      FoundBehind data .ik layout.shadow layout.ik ∧
      (layout.ik.isSome → layout.shadow.isSome) ∧ (layout.shadow.isSome → layout.light.isSome) := by
  obtain ⟨-, c, hc, rfl⟩ := (result_ofBytes_eq_ok_iff hlen).1 h
  have hlight := foundBehind_fitting? hlen .light (some (ofCounts data c).camera)
  have hshadow := foundBehind_fitting? hlen .shadow (ofCounts data c).light
  have hik := foundBehind_fitting? hlen .ik (ofCounts data c).shadow
  rw [Option.map_some, extent_camera_ofCounts hlen hc] at hlight
  exact ⟨hlight, hshadow, hik, hik.isSome_previous, hshadow.isSome_previous⟩

/-- A file with as many IK records, with as many keys in the first one, as can be counted. -/
def countlessIkRecords : Bytes :=
  signature ++ List.replicate 45 0 ++ List.replicate 4 0xff ++ List.replicate 5 0
    ++ List.replicate 25 0xff

/-- One record with one key is found. Records that are too many for a word of 64 bits are not. -/
theorem optional_sections_ikRecords :
    oneIkRecord.length < 2 ^ 63 ∧ countlessIkRecords.length < 2 ^ 63 ∧
      (ofBytes oneIkRecord).result = .ok oneIkRecordLayout ∧ Fits oneIkRecord .ik 70 ∧
      (ofBytes countlessIkRecords).result = .ok { oneIkRecordLayout with ik := none } ∧
      2 ^ 64 ≤ countlessIkRecords.number 70 * recordBytes countlessIkRecords .ik 70 ∧
      ¬ Fits countlessIkRecords .ik 70 := by
  have hlen : oneIkRecord.length < 2 ^ 63 := by decide
  have hlen' : countlessIkRecords.length < 2 ^ 63 := by decide
  have hlayout : (ofBytes oneIkRecord).result = .ok oneIkRecordLayout := by decide +kernel
  have hlayout' : (ofBytes countlessIkRecords).result =
      .ok { oneIkRecordLayout with ik := none } := by decide +kernel
  obtain ⟨-, -, hik, -⟩ := optional_sections_foundBehind hlen hlayout
  obtain ⟨-, -, hik', -⟩ := optional_sections_foundBehind hlen' hlayout'
  refine ⟨hlen, hlen', hlayout, ?_, hlayout', by decide +kernel, fun hfits => ?_⟩
  · obtain ⟨before, hbefore, hfits⟩ := hik.isSome_iff.1 rfl
    cases hbefore
    exact hfits
  · have hsome := hik'.isSome_iff.2 ⟨_, rfl, hfits⟩
    cases hsome

end Layout

end CameraScript.Motion
