import CameraScript.Proofs.SectionLog

/-!
# The arithmetic of sections in exact numbers

Counts come from the file, and offsets are computed from them before anything is known about what
lies there. The end of a run of records is clamped to a word, twice over; all other sums are
expected to fit. Both agree with the arithmetic of natural numbers.

* `Section.start_le_stop`, `Section.stop_le_stop`: clamping keeps the order.
* `Section.stop_clamped_once`: a clamped sum with a clamped product is one clamp of the exact
  number, for any three words.
* `sums`: the sums on the way to one section. `locate_eq_additionOverflow_iff`: the way ends with
  an overflow exactly where one of them exceeds a word.
* `lt_of_mem_sums`: none does in a file that fits in memory, wherever the section is looked for.
* `Layout.result_ofBytes_ne_additionOverflow`: the search ends with no fault of this kind if no
  step does.
* `Layout.extent_lt_of_mem_sections`: a section that is reported is nowhere near the clamp.
* `Layout.search_exact`: the search for all sections.
-/

namespace CameraScript

namespace Motion

/-! ## Clamped extents -/

namespace Section

variable {s t : Section} {length : Nat}

theorem extent_le_extent (hstart : s.start ≤ t.start) (hcount : s.count ≤ t.count)
    (hsize : s.recordSize ≤ t.recordSize) : s.extent ≤ t.extent := by
  rw [UInt64.le_iff_toNat_le] at hstart hcount hsize
  exact Nat.add_le_add hstart (Nat.mul_le_mul hcount hsize)

theorem start_le_stop (s : Section) : s.start ≤ s.stop := by
  have hstart := s.start.toNat_lt
  rw [UInt64.le_iff_toNat_le, toNat_stop_eq_min, extent]
  omega

theorem stop_le_stop (hstart : s.start ≤ t.start) (hcount : s.count ≤ t.count)
    (hsize : s.recordSize ≤ t.recordSize) : s.stop ≤ t.stop := by
  have hextent := extent_le_extent hstart hcount hsize
  rw [UInt64.le_iff_toNat_le, toNat_stop_eq_min, toNat_stop_eq_min]
  omega

theorem stop_le_iff (h : length < 2 ^ 64 - 1) : s.stop.toNat ≤ length ↔ s.extent ≤ length := by
  rw [← Nat.not_lt, lt_stop_iff h, Nat.not_lt]

theorem toNat_totalBytes_eq (h : s.extent < 2 ^ 64) :
    s.totalBytes.toNat = s.count.toNat * s.recordSize.toNat := by
  rw [extent] at h
  rw [toNat_totalBytes]
  omega

/-- The bytes between the two ends of a section are its records. -/
theorem length_drop_take {data : Bytes} (hlen : data.length < 2 ^ 64 - 1)
    (h : s.stop.toNat ≤ data.length) :
    ((data.take s.stop.toNat).drop s.start.toNat).length
      = s.count.toNat * s.recordSize.toNat := by
  have hextent := (stop_le_iff hlen).1 h
  rw [List.length_drop, List.length_take, toNat_stop_eq (by omega), extent]
  rw [extent] at hextent
  omega

/-- **Clamping.** Whatever the three words of a section are, its size and its end are the exact
numbers, or the largest word where these are larger. So the end is never before the start, it
does not decrease with any of the words, and in data that is shorter than the largest word the
records lie between the two ends exactly where the exact end is in the data. -/
theorem stop_clamped_once (s : Section) :
    s.totalBytes.toNat = min (2 ^ 64 - 1) (s.count.toNat * s.recordSize.toNat) ∧
      s.stop.toNat =
        min (2 ^ 64 - 1) (s.start.toNat + s.count.toNat * s.recordSize.toNat) ∧
      s.start ≤ s.stop ∧
      (∀ t : Section, s.start ≤ t.start → s.count ≤ t.count → s.recordSize ≤ t.recordSize →
        s.stop ≤ t.stop) ∧
      (∀ length, length < 2 ^ 64 - 1 →
        (s.stop.toNat ≤ length ↔
          s.start.toNat + s.count.toNat * s.recordSize.toNat ≤ length)) ∧
      ∀ data : Bytes, data.length < 2 ^ 64 - 1 → s.stop.toNat ≤ data.length →
        ((data.take s.stop.toNat).drop s.start.toNat).length
          = s.count.toNat * s.recordSize.toNat :=
  ⟨toNat_totalBytes s, toNat_stop_eq_min s, start_le_stop s, fun _ => stop_le_stop,
    fun _ => stop_le_iff, fun _ => length_drop_take⟩

/-- So many records that their size in bytes is two if it wraps round. -/
def countlessRecords : Section :=
  { kind := .camera, count := 0x8000000000000001, start := 62, recordSize := 2 }

/-- Two of these records are in data of 66 bytes, and all of them are in none. -/
theorem stop_countlessRecords :
    countlessRecords.count * countlessRecords.recordSize = 2 ∧
      countlessRecords.totalBytes.toNat = 2 ^ 64 - 1 ∧
      countlessRecords.stop.toNat = 2 ^ 64 - 1 ∧
      { countlessRecords with count := 2 }.stop ≤ countlessRecords.stop ∧
      ¬ countlessRecords.stop.toNat ≤ 2 ^ 64 - 2 ∧
      (((List.replicate 66 0).take { countlessRecords with count := 2 }.stop.toNat).drop 62
        : Bytes).length = 4 := by
  obtain ⟨htotal, hstop, -, -, hle, -⟩ := stop_clamped_once countlessRecords
  obtain ⟨-, -, -, hmono, -, hrecords⟩ := stop_clamped_once { countlessRecords with count := 2 }
  refine ⟨by decide, htotal, hstop, ?_, ?_, ?_⟩
  · exact hmono countlessRecords (by decide) (by decide) (by decide)
  · rw [hle (2 ^ 64 - 2) (by decide)]
    decide
  · exact hrecords (List.replicate 66 0) (by decide) (by decide)

end Section

/-! ## Sums on the way to a section -/

/-- The exact values of the sums on the way to the section whose count is at `offset`. There are
none where the count cannot be read. The keys of IK records are counted where there is a record,
and their count is behind the first two fields of it. -/
def sums (data : Bytes) (kind : SectionKind) (offset : Nat) : List Nat :=
  match data.word? offset with
  | none => []
  | some count =>
    (offset + 4) ::
      if kind = .ik ∧ count ≠ 0 then
        (offset + 4 + 5) ::
          ((data.word? (offset + 4 + 5)).map fun keys => 9 + 21 * keys.toNat).toList
      else
        []

section Sums

variable {data : Bytes} {kind : SectionKind}

theorem sums_of_word? {offset : Nat} {count : UInt32} (hcount : data.word? offset = some count)
    (h : ¬ (kind = .ik ∧ count ≠ 0)) : sums data kind offset = [offset + 4] := by
  rw [sums, hcount]
  exact congrArg _ (if_neg h)

/-- All sums are smaller than a word where the offsets are. -/
theorem lt_of_mem_sums_of_lt {offset sum : Nat} (hoffset : offset + 9 < 2 ^ 64)
    (h : sum ∈ sums data kind offset) : sum < 2 ^ 64 := by
  unfold sums at h
  split at h
  · cases h
  split at h
  · simp only [List.mem_cons, Option.mem_toList, Option.map_eq_some_iff] at h
    rcases h with rfl | rfl | ⟨keys, -, rfl⟩
    · omega
    · omega
    · have hkeys := keys.toNat_lt
      omega
  · rw [List.mem_singleton] at h
    omega

/-- The count that was read keeps all sums behind it small. -/
theorem lt_of_mem_sums (hlen : data.length < 2 ^ 63) {offset sum : Nat}
    (h : sum ∈ sums data kind offset) : sum < 2 ^ 64 := by
  cases hcount : data.word? offset with
  | none =>
    rw [sums, hcount] at h
    cases h
  | some count =>
    have hle := add_four_le_of_word? hcount
    exact lt_of_mem_sums_of_lt (by omega) h

theorem recordSizeAt_of_not_ik {offset : UInt64} {count : UInt32}
    (h : ¬ (kind = .ik ∧ count ≠ 0)) :
    recordSizeAt data kind offset count = .ok kind.recordSize := by
  cases kind with
  | ik =>
    have hzero : count = 0 := by simpa using h
    exact if_pos hzero
  | _ => rfl

/-- Where the offset of the keys exceeds a word, so does a sum on the way to it. -/
theorem recordSizeAt_of_ik {offset : UInt64} {count : UInt32} (hcount : count ≠ 0)
    (h : 2 ^ 64 ≤ offset.toNat + 9) :
    recordSizeAt data .ik offset count = .error .additionOverflow := by
  have hfour : (4 : UInt64).toNat = 4 := rfl
  have hfive : (5 : UInt64).toNat = 5 := rfl
  unfold recordSizeAt
  rw [if_neg hcount, Except.bind_eq_error_iff]
  by_cases hoverflow : 2 ^ 64 ≤ offset.toNat + 4
  · exact .inl (addWide_eq_error_iff.2 hoverflow)
  · refine .inr ⟨offset + 4, addWide_eq_ok (by omega), ?_⟩
    rw [Except.bind_eq_error_iff]
    refine .inl (addWide_eq_error_iff.2 ?_)
    rw [UInt64.toNat_add]
    omega

/-- The way to a section ends with an overflow exactly where one of the sums exceeds a word. -/
theorem locate_eq_additionOverflow_iff {offset : UInt64} :
    locate data kind offset = .error .additionOverflow ↔
      ∃ sum ∈ sums data kind offset.toNat, 2 ^ 64 ≤ sum := by
  -- Only the last nine offsets of a word are too far behind for any of the sums.
  by_cases hoffset : offset.toNat + 9 < 2 ^ 64
  · refine iff_of_false ?_ fun ⟨sum, hsum, hle⟩ => ?_
    · rw [locate_eq_of_lt kind hoffset]
      split <;> exact nofun
    · have := lt_of_mem_sums_of_lt hoffset hsum
      omega
  have hoffset : 2 ^ 64 ≤ offset.toNat + 9 := Nat.le_of_not_lt hoffset
  unfold locate
  cases hcount : data.word? offset.toNat with
  | none => exact iff_of_false nofun (by simp [sums, hcount])
  | some count =>
    by_cases hkeys : kind = .ik ∧ count ≠ 0
    · obtain ⟨rfl, hne⟩ := hkeys
      refine iff_of_true ?_ ⟨offset.toNat + 4 + 5, ?_, hoffset⟩
      · exact Except.bind_eq_error_iff.2 (.inl (recordSizeAt_of_ik hne hoffset))
      · simp [sums, hcount, hne]
    · rw [sums_of_word? hcount hkeys]
      simp only [recordSizeAt_of_not_ik hkeys, List.mem_singleton, exists_eq_left]
      exact Except.map_eq_error_iff.trans addWide_eq_error_iff

theorem locate_ne_additionOverflow (hlen : data.length < 2 ^ 63) (kind : SectionKind)
    (offset : UInt64) : locate data kind offset ≠ .error .additionOverflow := by
  rw [Ne, locate_eq_additionOverflow_iff]
  rintro ⟨sum, hsum, hle⟩
  have := lt_of_mem_sums hlen hsum
  omega

theorem isAt_of_locate (hlen : data.length < 2 ^ 63) {offset : UInt64} {found : Section}
    (h : locate data kind offset = .ok found) : found.IsAt data kind offset.toNat := by
  rw [locate_eq hlen] at h
  split at h
  · next hplace =>
    cases h
    exact isAt_of_place? hlen hplace
  · cases h

end Sums

/-! ## All sections -/

namespace Layout

/-- The sections that are reported. -/
def sections (layout : Layout) : List Section :=
  [layout.header, layout.bone, layout.morph, layout.camera] ++
    layout.optionalSections.filterMap fun entry => entry.2

variable {data : Bytes}

theorem result_required_ne_error {kind : SectionKind} {offset : UInt64} {fault : Fault}
    (h : locate data kind offset ≠ .error fault) :
    (required data kind offset).result ≠ .error fault := by
  unfold required
  split
  · exact nofun
  · next hfault =>
    rwa [hfault] at h

theorem result_optional_ne_error {kind : SectionKind} {offset : Option UInt64} {fault : Fault}
    (h : ∀ offset, locate data kind offset ≠ .error fault) :
    (optional data kind offset).result ≠ .error fault := by
  cases offset with
  | none => exact nofun
  | some offset =>
    intro hresult
    cases hlocate : locate data kind offset with
    | ok found =>
      simp only [optional, hlocate] at hresult
      split at hresult <;> cases hresult
    | error reason =>
      cases reason with
      | truncated _ =>
        simp only [optional, hlocate] at hresult
        cases hresult
      | _ =>
        simp only [optional, hlocate] at hresult
        cases hresult
        exact h offset hlocate

/-- The search for all sections has no sums but those on the way to each. -/
theorem result_ofBytes_ne_additionOverflow
    (h : ∀ kind offset, locate data kind offset ≠ .error .additionOverflow) :
    (ofBytes data).result ≠ .error .additionOverflow := by
  unfold ofBytes
  split
  · exact nofun
  split
  · exact nofun
  refine Logged.result_bind_ne_error (result_required_ne_error (h _ _)) fun bone => ?_
  refine Logged.result_bind_ne_error (result_required_ne_error (h _ _)) fun morph => ?_
  refine Logged.result_bind_ne_error (result_required_ne_error (h _ _)) fun camera => ?_
  refine Logged.result_bind_ne_error (result_optional_ne_error (h _)) fun light => ?_
  refine Logged.result_bind_ne_error (result_optional_ne_error (h _)) fun shadow => ?_
  exact Logged.result_bind_ne_error (result_optional_ne_error (h _)) fun ik => nofun

theorem extent_lt_of_mem_sections (hlen : data.length < 2 ^ 63) {layout : Layout}
    (h : (ofBytes data).result = .ok layout) {s : Section} (hs : s ∈ layout.sections) :
    s.extent < 2 ^ 64 := by
  obtain ⟨-, c, hc, rfl⟩ := (result_ofBytes_eq_ok_iff hlen).1 h
  have hmorph := add_four_le_of_word? hc.morphs
  have hcamera := hc.cameraOffset_le
  have hfitting {kind : SectionKind} {offset : Option Nat}
      (hfound : fitting? data kind offset = some s) : s.extent < 2 ^ 64 := by
    have := extent_le_of_fitting? hfound
    omega
  simp only [sections, optionalSections, ofCounts, List.cons_append, List.nil_append,
    List.mem_cons, List.mem_filterMap, List.not_mem_nil, or_false, exists_eq_or_imp,
    exists_eq_left] at hs
  rcases hs with rfl | rfl | rfl | rfl | hlight | hshadow | hik
  · decide
  · exact extent_behind_lt .bone c.bones (by decide)
  · exact extent_behind_lt .morph c.morphs (by omega)
  · exact extent_behind_lt .camera c.cameras (by omega)
  · exact hfitting hlight
  · exact hfitting hshadow
  · exact hfitting hik

/-- **Sums of the search.** The way to a section ends with an overflow exactly where one of its
sums exceeds a word. In a file that fits in memory none does, whichever section is looked for and
wherever, so that a section found is what the file says and the search never stops for an
overflow. The size and the end of every section that is reported are exact, also where its records
are not in the file. -/
theorem search_exact (data : Bytes) :
    (∀ kind offset, locate data kind offset = .error .additionOverflow ↔
      ∃ sum ∈ sums data kind offset.toNat, 2 ^ 64 ≤ sum) ∧
      (data.length < 2 ^ 63 →
        (∀ kind offset, ∀ sum ∈ sums data kind offset, sum < 2 ^ 64) ∧
          (∀ kind offset found, locate data kind offset = .ok found →
            found.IsAt data kind offset.toNat) ∧
          (ofBytes data).result ≠ .error .additionOverflow ∧
          ∀ layout, (ofBytes data).result = .ok layout → ∀ s ∈ layout.sections,
            s.totalBytes.toNat = s.count.toNat * s.recordSize.toNat ∧
              s.stop.toNat = s.start.toNat + s.count.toNat * s.recordSize.toNat) := by
  refine ⟨fun kind offset => locate_eq_additionOverflow_iff, fun hlen => ?_⟩
  refine ⟨fun kind offset sum => lt_of_mem_sums hlen, fun kind offset found => isAt_of_locate hlen,
    result_ofBytes_ne_additionOverflow (locate_ne_additionOverflow hlen), fun layout h s hs => ?_⟩
  have hextent := extent_lt_of_mem_sections hlen h hs
  exact ⟨Section.toNat_totalBytes_eq hextent, Section.toNat_stop_eq hextent⟩

/-- A file that ends behind a count of camera records. -/
def cutCameraRecords : Bytes := signature ++ List.replicate 33 0 ++ List.replicate 4 0xff

/-- The camera is reported although none of its records is there. The records of an IK section
exceed a word if there are as many as can be counted, but not on the way to them. -/
theorem search_exact_cutCameraRecords :
    cutCameraRecords.length < 2 ^ 63 ∧ countlessIkRecords.length < 2 ^ 63 ∧
      (∃ layout, (ofBytes cutCameraRecords).result = .ok layout ∧
        layout.camera.stop.toNat = 62 + (2 ^ 32 - 1) * 61 ∧
        cutCameraRecords.length < layout.camera.stop.toNat) ∧
      sums countlessIkRecords .ik 70 = [74, 79, 9 + 21 * (2 ^ 32 - 1)] ∧
      9 + 21 * (2 ^ 32 - 1) < 2 ^ 64 ∧
      2 ^ 64 ≤ (2 ^ 32 - 1) * (9 + 21 * (2 ^ 32 - 1)) ∧
      (ofBytes countlessIkRecords).result ≠ .error .additionOverflow := by
  have hlen : cutCameraRecords.length < 2 ^ 63 := by decide
  have hlen' : countlessIkRecords.length < 2 ^ 63 := by decide
  have hlayout : ∃ layout, (ofBytes cutCameraRecords).result = .ok layout ∧
      layout.camera = ⟨.camera, 0xffffffff, 62, 61⟩ := ⟨_, by rfl, by rfl⟩
  have hsums : sums countlessIkRecords .ik 70 = [74, 79, 9 + 21 * (2 ^ 32 - 1)] := by
    decide +kernel
  obtain ⟨-, -, -, hexact⟩ := (search_exact cutCameraRecords).2 hlen
  obtain ⟨hlt, -, hne, -⟩ := (search_exact countlessIkRecords).2 hlen'
  obtain ⟨layout, hresult, hcamera⟩ := hlayout
  obtain ⟨-, hstop⟩ := hexact layout hresult layout.camera (by simp [sections])
  rw [hcamera] at hstop
  refine ⟨hlen, hlen', ⟨layout, hresult, ?_, ?_⟩, hsums, ?_, by decide, hne⟩
  · rw [hcamera]
    exact hstop
  · rw [hcamera, hstop]
    decide
  · exact hlt .ik 70 _ (by rw [hsums]; decide)

end Layout

end Motion

end CameraScript
