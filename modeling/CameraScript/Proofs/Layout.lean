import CameraScript.Motion.Layout
import CameraScript.Proofs.Outcome
import CameraScript.Proofs.Words

/-!
# Where the sections of a motion file lie

The walk over a motion file computes with 64-bit words, some clamped and some that must
not overflow. For a file of less than `2 ^ 63` bytes it agrees with the arithmetic of
natural numbers, which this file states section by section.

* `Section.extent`: the offset behind the last record. `Section.toNat_stop_eq_min`:
  clamping twice is clamping this number once.
* `place?`: the section whose count word is at an offset. `locate_eq`: no sum on the way
  to it overflows, nor does one (`locate_eq_of_lt`) in a file of any length while the offset is
  small.
* `fitting?`: the section at an offset whose records are in the file.
* `Counts.Stored`: the counts of bones, morphs and camera records in a file, each stored
  at the offset that the counts before it give.
* `Layout.result_ofBytes_eq_ok_iff`: a layout is found exactly where the signature and
  these three counts are, and it is then the one that the counts give.
-/

namespace CameraScript.Motion

/-! ## Extents -/

namespace Section

/-- The offset behind the last record, as a number of any size. -/
def extent (s : Section) : Nat := s.start.toNat + s.count.toNat * s.recordSize.toNat

theorem toNat_totalBytes (s : Section) :
    s.totalBytes.toNat = min (2 ^ 64 - 1) (s.count.toNat * s.recordSize.toNat) :=
  toNat_clampedMul _ _

theorem toNat_stop (s : Section) :
    s.stop.toNat = min (2 ^ 64 - 1) (s.start.toNat + s.totalBytes.toNat) :=
  toNat_clampedAdd _ _

theorem toNat_stop_eq_min (s : Section) : s.stop.toNat = min (2 ^ 64 - 1) s.extent := by
  rw [toNat_stop, toNat_totalBytes, extent]
  omega

theorem toNat_stop_eq {s : Section} (h : s.extent < 2 ^ 64) : s.stop.toNat = s.extent := by
  rw [toNat_stop_eq_min]
  omega

theorem lt_stop_iff {s : Section} {length : Nat} (h : length < 2 ^ 64 - 1) :
    length < s.stop.toNat ↔ length < s.extent := by
  rw [toNat_stop_eq_min]
  omega

/-- The records behind a count word at `offset`. -/
def behind (kind : SectionKind) (offset : Nat) (count : UInt32) (recordSize : UInt64) :
    Section :=
  { kind, count := count.toUInt64, start := UInt64.ofNat (offset + 4), recordSize }

theorem toNat_start_behind (kind : SectionKind) {offset : Nat} (count : UInt32)
    (recordSize : UInt64) (h : offset + 4 < 2 ^ 64) :
    (behind kind offset count recordSize).start.toNat = offset + 4 :=
  UInt64.toNat_ofNat_of_lt h

theorem extent_behind (kind : SectionKind) {offset : Nat} (count : UInt32)
    (recordSize : UInt64) (h : offset + 4 < 2 ^ 64) :
    (behind kind offset count recordSize).extent
      = offset + 4 + count.toNat * recordSize.toNat := by
  rw [extent, toNat_start_behind kind count recordSize h]
  simp [behind]

theorem extent_behind_zero (kind : SectionKind) {offset : Nat} (recordSize : UInt64)
    (h : offset + 4 < 2 ^ 64) : (behind kind offset 0 recordSize).extent = offset + 4 := by
  rw [extent_behind kind 0 recordSize h, show (0 : UInt32).toNat = 0 from rfl, Nat.zero_mul,
    Nat.add_zero]

end Section

/-! ## The section at an offset -/

/-- The size of the records behind `count`, where it can be read. -/
def recordSize? (data : Bytes) (kind : SectionKind) (offset : Nat) (count : UInt32) :
    Option UInt64 :=
  match kind with
  | .ik =>
    if count = 0 then
      some SectionKind.ik.recordSize
    else
      (data.word? (offset + 9)).map fun keys =>
        SectionKind.ik.recordSize + ikKeySize * keys.toUInt64
  | _ => some kind.recordSize

/-- The section whose count word is at `offset`. -/
def place? (data : Bytes) (kind : SectionKind) (offset : Nat) : Option Section := do
  let count ← data.word? offset
  let recordSize ← recordSize? data kind offset count
  return .behind kind offset count recordSize

theorem recordSize?_of_ne_ik (data : Bytes) {kind : SectionKind} (hk : kind ≠ .ik)
    (offset : Nat) (count : UInt32) :
    recordSize? data kind offset count = some kind.recordSize := by
  cases kind with
  | ik => exact absurd rfl hk
  | _ => rfl

theorem add_four_le_of_word? {data : Bytes} {offset : Nat} {w : UInt32}
    (h : data.word? offset = some w) : offset + 4 ≤ data.length :=
  Bytes.isSome_word?_iff.1 (by rw [h]; rfl)

theorem toNat_ikKeys (keys : UInt32) :
    (ikKeySize * keys.toUInt64).toNat = 21 * keys.toNat := by
  have h := keys.toNat_lt
  rw [UInt64.toNat_mul, UInt32.toNat_toUInt64, show ikKeySize.toNat = 21 from rfl]
  omega

theorem ikRecordSize_lt (keys : UInt32) :
    SectionKind.ik.recordSize.toNat + (ikKeySize * keys.toUInt64).toNat < 2 ^ 64 := by
  have h := keys.toNat_lt
  rw [toNat_ikKeys, show SectionKind.ik.recordSize.toNat = 9 from rfl]
  omega

theorem recordSizeAt_eq {data : Bytes} {offset : UInt64} (kind : SectionKind)
    (count : UInt32) (h : offset.toNat + 9 < 2 ^ 64) :
    recordSizeAt data kind offset count =
      match recordSize? data kind offset.toNat count with
      | some size => .ok size
      | none => .error (.truncated kind) := by
  cases kind with
  | ik =>
    unfold recordSizeAt recordSize?
    by_cases hc : count = 0
    · simp [hc]
    · have four : (4 : UInt64).toNat = 4 := rfl
      have five : (5 : UInt64).toNat = 5 := rfl
      have h4 : (offset + 4).toNat = offset.toNat + 4 := by
        rw [UInt64.toNat_add, four]
        omega
      have h5 : (offset + 4 + 5).toNat = offset.toNat + 9 := by
        rw [UInt64.toNat_add, h4, five]
        omega
      have hfirst : addWide offset 4 = .ok (offset + 4) := addWide_eq_ok (by omega)
      have hkeys : addWide (offset + 4) 5 = .ok (offset + 4 + 5) := addWide_eq_ok (by omega)
      simp only [hc, if_false, hfirst, bind, Except.bind, hkeys, h5]
      cases hw : data.word? (offset.toNat + 9) with
      | none => rfl
      | some keys =>
        exact addWide_eq_ok (ikRecordSize_lt keys)
  | _ => rfl

/-- No sum overflows on the way to a section that is not too far behind. -/
theorem locate_eq_of_lt {data : Bytes} (kind : SectionKind) {offset : UInt64}
    (h : offset.toNat + 9 < 2 ^ 64) :
    locate data kind offset =
      match place? data kind offset.toNat with
      | some found => .ok found
      | none => .error (.truncated kind) := by
  unfold locate place?
  cases hw : data.word? offset.toNat with
  | none => rfl
  | some count =>
    have hstart : addWide offset 4 = .ok (offset + 4) :=
      addWide_eq_ok (by rw [show (4 : UInt64).toNat = 4 from rfl]; omega)
    have hofNat : UInt64.ofNat (offset.toNat + 4) = offset + 4 := by
      apply UInt64.toNat_inj.1
      rw [UInt64.toNat_add, UInt64.toNat_ofNat', show (4 : UInt64).toNat = 4 from rfl]
    simp only [recordSizeAt_eq kind count h, hstart, bind, Except.bind, Option.bind]
    cases recordSize? data kind offset.toNat count with
    | none => rfl
    | some size => simp only [pure, Except.pure, Section.behind, hofNat]

/-- No sum overflows on the way to a section of a file that fits in memory. -/
theorem locate_eq {data : Bytes} (hlen : data.length < 2 ^ 63) (kind : SectionKind)
    (offset : UInt64) :
    locate data kind offset =
      match place? data kind offset.toNat with
      | some found => .ok found
      | none => .error (.truncated kind) := by
  by_cases h : offset.toNat + 9 < 2 ^ 64
  · exact locate_eq_of_lt kind h
  · have hw : data.word? offset.toNat = none := by
      rw [← Option.not_isSome_iff_eq_none, Bytes.isSome_word?_iff]
      omega
    unfold locate place?
    rw [hw]
    rfl

theorem result_required {data : Bytes} (hlen : data.length < 2 ^ 63) {kind : SectionKind}
    (hk : kind ≠ .ik) (offset : UInt64) :
    (required data kind offset).result =
      match data.word? offset.toNat with
      | some count => .ok (.behind kind offset.toNat count kind.recordSize)
      | none => .error (.truncated kind) := by
  unfold required
  rw [locate_eq hlen, place?]
  cases data.word? offset.toNat with
  | none => rfl
  | some count =>
    simp only [bind, Option.bind, recordSize?_of_ne_ik data hk]
    rfl

/-- The section at `offset`, if there is an offset and all of its records are in the file. -/
def fitting? (data : Bytes) (kind : SectionKind) (offset : Option Nat) : Option Section := do
  let found ← place? data kind (← offset)
  if found.extent ≤ data.length then some found else none

theorem result_optional {data : Bytes} (hlen : data.length < 2 ^ 63) (kind : SectionKind)
    (offset : Option UInt64) :
    (optional data kind offset).result
      = .ok (fitting? data kind (offset.map UInt64.toNat)) := by
  cases offset with
  | none => rfl
  | some offset =>
    simp only [optional, fitting?, locate_eq hlen, Option.map_some, bind, Option.bind]
    cases place? data kind offset.toNat with
    | none => rfl
    | some found =>
      have hiff := Section.lt_stop_iff (s := found) (show data.length < 2 ^ 64 - 1 by omega)
      by_cases hlt : data.length < found.stop.toNat
      · have hgt : ¬ found.extent ≤ data.length := by
          rw [hiff] at hlt
          omega
        simp [hlt, hgt]
      · have hle : found.extent ≤ data.length := by
          rw [hiff] at hlt
          omega
        simp [hlt, hle]

theorem extent_le_of_fitting? {data : Bytes} {kind : SectionKind} {offset : Option Nat}
    {found : Section} (h : fitting? data kind offset = some found) :
    found.extent ≤ data.length := by
  unfold fitting? at h
  simp only [Option.bind_eq_bind, Option.bind_eq_some_iff] at h
  obtain ⟨_, _, _, _, h⟩ := h
  split at h
  · next hle =>
    cases h
    exact hle
  · cases h

/-- A section that is found ends where its records do. -/
theorem toNat_stop_of_fitting? {data : Bytes} (hlen : data.length < 2 ^ 63)
    {kind : SectionKind} {offset : Option Nat} {found : Section}
    (h : fitting? data kind offset = some found) : found.stop.toNat = found.extent := by
  have hle := extent_le_of_fitting? h
  exact Section.toNat_stop_eq (by omega)

/-- A section without records is there wherever its count word is. -/
theorem fitting?_of_word?_eq_zero {data : Bytes} (hlen : data.length < 2 ^ 63)
    (kind : SectionKind) {offset : Nat} (h : data.word? offset = some 0) :
    fitting? data kind (some offset) = some (.behind kind offset 0 kind.recordSize) := by
  have hle := add_four_le_of_word? h
  have hsize : recordSize? data kind offset 0 = some kind.recordSize := by
    cases kind <;> rfl
  have hextent := Section.extent_behind_zero kind kind.recordSize
    (show offset + 4 < 2 ^ 64 by omega)
  simp [fitting?, place?, h, hsize, hextent, hle]

theorem fitting?_eq_none {data : Bytes} (kind : SectionKind) {offset : Nat}
    (h : data.length < offset + 4) : fitting? data kind (some offset) = none := by
  have hw : data.word? offset = none := by
    rw [← Option.not_isSome_iff_eq_none, Bytes.isSome_word?_iff]
    omega
  simp [fitting?, place?, hw]

/-! ## All sections -/

/-- The counts of the sections that every motion file has. -/
structure Counts where
  bones : UInt32
  morphs : UInt32
  cameras : UInt32
  deriving DecidableEq, Repr

namespace Counts

/-- The offset of the first count word. -/
def boneOffset : Nat := 50

/-- The offset of the morph count, behind the bone records. -/
def morphOffset (c : Counts) : Nat := 54 + 111 * c.bones.toNat

/-- The offset of the camera count, behind the morph records. -/
def cameraOffset (c : Counts) : Nat := c.morphOffset + 4 + 23 * c.morphs.toNat

/-- The offset behind the camera records. -/
def cameraStop (c : Counts) : Nat := c.cameraOffset + 4 + 61 * c.cameras.toNat

theorem cameraOffset_le_cameraStop (c : Counts) : c.cameraOffset ≤ c.cameraStop := by
  rw [cameraStop]
  omega

theorem morphOffset_le_cameraStop (c : Counts) : c.morphOffset ≤ c.cameraStop := by
  have := c.cameraOffset_le_cameraStop
  rw [cameraOffset] at this
  omega

theorem header_le_cameraStop (c : Counts) : 50 ≤ c.cameraStop := by
  have := c.morphOffset_le_cameraStop
  rw [morphOffset] at this
  omega

/-- Each count is stored where the counts before it say. -/
structure Stored (c : Counts) (data : Bytes) : Prop where
  bones : data.word? boneOffset = some c.bones
  morphs : data.word? c.morphOffset = some c.morphs
  cameras : data.word? c.cameraOffset = some c.cameras

theorem Stored.cameraOffset_le {c : Counts} {data : Bytes} (h : c.Stored data) :
    c.cameraOffset + 4 ≤ data.length :=
  add_four_le_of_word? h.cameras

end Counts

namespace Layout

/-- The layout of a file with these counts. -/
def ofCounts (data : Bytes) (c : Counts) : Layout :=
  let light := fitting? data .light (some c.cameraStop)
  let shadow := fitting? data .shadow (light.map Section.extent)
  { modelName := modelNameOf data
    header := headerSection
    bone := .behind .bone Counts.boneOffset c.bones SectionKind.bone.recordSize
    morph := .behind .morph c.morphOffset c.morphs SectionKind.morph.recordSize
    camera := .behind .camera c.cameraOffset c.cameras SectionKind.camera.recordSize
    light
    shadow
    ik := fitting? data .ik (shadow.map Section.extent) }

/-- Each count is right before the records that it counts. -/
theorem start_ofCounts {data : Bytes} (hlen : data.length < 2 ^ 63) {c : Counts}
    (hc : c.Stored data) :
    (ofCounts data c).bone.start.toNat = Counts.boneOffset + 4 ∧
      (ofCounts data c).morph.start.toNat = c.morphOffset + 4 ∧
      (ofCounts data c).camera.start.toNat = c.cameraOffset + 4 := by
  have hmorph := add_four_le_of_word? hc.morphs
  have hcamera := hc.cameraOffset_le
  exact ⟨rfl, Section.toNat_start_behind _ _ _ (by omega),
    Section.toNat_start_behind _ _ _ (by omega)⟩

/-- The camera records end where the counts say, as the count of the camera is in the file. -/
theorem extent_camera_ofCounts {data : Bytes} (hlen : data.length < 2 ^ 63) {c : Counts}
    (hc : c.Stored data) : (ofCounts data c).camera.extent = c.cameraStop := by
  have hle := hc.cameraOffset_le
  rw [ofCounts, Section.extent_behind _ _ _ (by omega), Counts.cameraStop, Nat.mul_comm]
  rfl

theorem toNat_stop_headerSection : headerSection.stop.toNat = Counts.boneOffset := by
  decide

theorem toNat_recordSize_le (kind : SectionKind) : kind.recordSize.toNat ≤ 111 := by
  cases kind <;> decide

/-- Records of a fixed size end far below the largest word, even if they reach past the end of the
file. -/
theorem extent_behind_lt (kind : SectionKind) {offset : Nat} (count : UInt32)
    (h : offset < 2 ^ 63) :
    (Section.behind kind offset count kind.recordSize).extent < 2 ^ 64 := by
  have hrecords : count.toNat * kind.recordSize.toNat ≤ 2 ^ 32 * 111 :=
    Nat.mul_le_mul (Nat.le_of_lt count.toNat_lt) (toNat_recordSize_le kind)
  rw [Section.extent_behind kind count kind.recordSize (by omega)]
  omega

theorem toNat_stop_behind (kind : SectionKind) {offset : Nat} (count : UInt32)
    (h : offset < 2 ^ 63) :
    (Section.behind kind offset count kind.recordSize).stop.toNat
      = offset + 4 + count.toNat * kind.recordSize.toNat := by
  rw [Section.toNat_stop_eq (extent_behind_lt kind count h),
    Section.extent_behind kind count kind.recordSize (by omega)]

theorem map_stop_fitting? {data : Bytes} (hlen : data.length < 2 ^ 63) (kind : SectionKind)
    (offset : Option Nat) :
    ((fitting? data kind offset).map Section.stop).map UInt64.toNat
      = (fitting? data kind offset).map Section.extent := by
  cases h : fitting? data kind offset with
  | none => rfl
  | some found => simp only [Option.map_some, toNat_stop_of_fitting? hlen h]

theorem toNat_stop_bone (bones : UInt32) :
    (Section.behind .bone Counts.boneOffset bones SectionKind.bone.recordSize).stop.toNat
      = 54 + 111 * bones.toNat := by
  rw [toNat_stop_behind .bone bones (by decide), Counts.boneOffset,
    show SectionKind.bone.recordSize.toNat = 111 from rfl]
  omega

theorem toNat_stop_morph (morphs : UInt32) {offset : Nat} (h : offset < 2 ^ 63) :
    (Section.behind .morph offset morphs SectionKind.morph.recordSize).stop.toNat
      = offset + 4 + 23 * morphs.toNat := by
  rw [toNat_stop_behind .morph morphs h, show SectionKind.morph.recordSize.toNat = 23 from rfl]
  omega

theorem toNat_stop_camera (cameras : UInt32) {offset : Nat} (h : offset < 2 ^ 63) :
    (Section.behind .camera offset cameras SectionKind.camera.recordSize).stop.toNat
      = offset + 4 + 61 * cameras.toNat := by
  rw [toNat_stop_behind .camera cameras h,
    show SectionKind.camera.recordSize.toNat = 61 from rfl]
  omega

/-- The walk behind the header, decided by three words of the file. -/
theorem result_walk {data : Bytes} (hlen : data.length < 2 ^ 63) :
    (walk data).result =
      match data.word? Counts.boneOffset with
      | none => .error (.truncated .bone)
      | some bones =>
        match data.word? (54 + 111 * bones.toNat) with
        | none => .error (.truncated .morph)
        | some morphs =>
          match data.word? (54 + 111 * bones.toNat + 4 + 23 * morphs.toNat) with
          | none => .error (.truncated .camera)
          | some cameras => .ok (ofCounts data { bones, morphs, cameras }) := by
  simp only [walk, Logged.result_bind, Logged.result_pure, result_optional hlen]
  rw [result_required hlen (by decide), toNat_stop_headerSection]
  cases data.word? Counts.boneOffset with
  | none => rfl
  | some bones =>
    simp only [bind, Except.bind]
    rw [result_required hlen (by decide), toNat_stop_bone]
    cases hm : data.word? (54 + 111 * bones.toNat) with
    | none => rfl
    | some morphs =>
      have hmorph := add_four_le_of_word? hm
      simp only []
      rw [result_required hlen (by decide), toNat_stop_morph morphs (by omega)]
      cases hc : data.word? (54 + 111 * bones.toNat + 4 + 23 * morphs.toNat) with
      | none => rfl
      | some cameras =>
        have hcamera := add_four_le_of_word? hc
        have hoffset : 54 + 111 * bones.toNat + 4 + 23 * morphs.toNat < 2 ^ 63 := by omega
        simp only [Option.map_some, toNat_stop_camera cameras hoffset, map_stop_fitting? hlen]
        rfl

theorem length_header : signature.length + paddingSize + nameSize = Counts.boneOffset := rfl

/-- A layout is found exactly where the signature and the three counts are. -/
theorem result_ofBytes_eq_ok_iff {data : Bytes} (hlen : data.length < 2 ^ 63)
    {layout : Layout} :
    (ofBytes data).result = .ok layout ↔
      data.take signature.length = signature ∧
        ∃ c : Counts, c.Stored data ∧ layout = ofCounts data c := by
  unfold ofBytes
  constructor
  · intro h
    split at h
    · cases h
    · next hsig =>
      refine ⟨not_not.1 hsig, ?_⟩
      split at h
      · cases h
      · rw [result_walk hlen] at h
        split at h
        · cases h
        · next bones hb =>
          split at h
          · cases h
          · next morphs hm =>
            split at h
            · cases h
            · next cameras hc =>
              exact ⟨⟨bones, morphs, cameras⟩, ⟨hb, hm, hc⟩, (Except.ok.inj h).symm⟩
  · rintro ⟨hsig, c, hc, rfl⟩
    have hle := add_four_le_of_word? hc.bones
    have hm : data.word? (54 + 111 * c.bones.toNat) = some c.morphs := hc.morphs
    have hk : data.word? (54 + 111 * c.bones.toNat + 4 + 23 * c.morphs.toNat)
        = some c.cameras := hc.cameras
    rw [if_neg (not_not.2 hsig), length_header, if_neg (by omega), result_walk hlen, hc.bones]
    simp only [hm, hk]

end Layout

end CameraScript.Motion
