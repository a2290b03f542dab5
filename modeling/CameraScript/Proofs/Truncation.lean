import CameraScript.Proofs.Refusal

/-!
# Files that are cut off

A section that is found in a file is found in the front of it, too, or not at all: never at
another place and never with other records.

* `Bytes.word?_take`: the words in the front of a file.
* `fitting?_take`: the optional sections in the front of a file.
* `Layout.upTo`: a layout without the optional sections that end behind an offset.
* `Layout.ofCounts_take`: what is found in the front of a file that holds the three counts.
* `Layout.result_ofBytes_take`: what is found in a file of which only the front is left, and
  what in a file that more is written behind.
-/

namespace CameraScript

/-! ## Words -/

namespace Bytes

theorem word?_take (data : Bytes) (offset n : Nat) :
    word? (data.take n) offset = if offset + 4 ≤ n then data.word? offset else none := by
  split
  · next h =>
    apply Option.ext
    intro w
    rw [word?_eq_some_iff, word?_eq_some_iff, List.drop_take, List.take_take,
      Nat.min_eq_left (by omega)]
  · apply word?_eq_none
    rw [List.length_take]
    omega

theorem word?_take_of_le {data : Bytes} {offset n : Nat} (h : offset + 4 ≤ n) :
    word? (data.take n) offset = data.word? offset := by
  rw [word?_take, if_pos h]

theorem word?_of_word?_take {data : Bytes} {offset n : Nat} {w : UInt32}
    (h : word? (data.take n) offset = some w) : data.word? offset = some w := by
  rw [word?_take] at h
  split at h
  · exact h
  · cases h

end Bytes

namespace Motion

/-! ## One section -/

section One

variable {data : Bytes} {kind : SectionKind} {offset n : Nat} {count : UInt32} {size : UInt64}
  {found : Section}

theorem place?_eq_some_iff :
    place? data kind offset = some found ↔
      ∃ count size, data.word? offset = some count ∧
        recordSize? data kind offset count = some size ∧
        .behind kind offset count size = found := by
  unfold place?
  simp only [Option.bind_eq_bind, Option.bind_eq_some_iff, Option.pure_def, Option.some.injEq]
  exact exists_congr fun count => exists_and_left.symm

/-- The size of IK records is known where there are none, or where the keys of the first one
are counted. -/
theorem recordSize?_ik_eq_some_iff :
    recordSize? data .ik offset count = some size ↔
      (count = 0 ∧ SectionKind.ik.recordSize = size) ∨
      (count ≠ 0 ∧ ∃ keys, data.word? (offset + 9) = some keys ∧
        SectionKind.ik.recordSize + ikKeySize * keys.toUInt64 = size) := by
  by_cases hcount : count = 0
  · simp [recordSize?, hcount]
  · simp [recordSize?, hcount, Option.map_eq_some_iff]

theorem recordSize?_of_recordSize?_take
    (h : recordSize? (data.take n) kind offset count = some size) :
    recordSize? data kind offset count = some size := by
  cases kind with
  | ik =>
    rw [recordSize?_ik_eq_some_iff] at h ⊢
    refine h.imp_right fun ⟨hcount, keys, hkeys, hsize⟩ => ?_
    exact ⟨hcount, keys, Bytes.word?_of_word?_take hkeys, hsize⟩
  | _ => exact h

theorem recordSize?_take (h : recordSize? data kind offset count = some size)
    (hn : offset + 4 + count.toNat * size.toNat ≤ n) :
    recordSize? (data.take n) kind offset count = some size := by
  cases kind with
  | ik =>
    rw [recordSize?_ik_eq_some_iff] at h ⊢
    refine h.imp_right fun ⟨hcount, keys, hkeys, hsize⟩ => ⟨hcount, keys, ?_, hsize⟩
    -- The first record is there, and with it the number of its keys.
    have hpos : 0 < count.toNat := Nat.pos_of_ne_zero fun h => hcount (UInt32.toNat_inj.1 h)
    have hnine : 9 ≤ size.toNat := by
      rw [← hsize, UInt64.toNat_add, Nat.mod_eq_of_lt (ikRecordSize_lt keys)]
      exact Nat.le_add_right 9 _
    have hmul : size.toNat ≤ count.toNat * size.toNat := Nat.le_mul_of_pos_left _ hpos
    rw [Bytes.word?_take_of_le (by omega), hkeys]
  | _ => exact h

theorem place?_take_eq_some_iff (hlen : data.length < 2 ^ 63) (hn : found.extent ≤ n) :
    place? (data.take n) kind offset = some found ↔ place? data kind offset = some found := by
  rw [place?_eq_some_iff, place?_eq_some_iff]
  constructor
  · rintro ⟨count, size, hcount, hsize, hfound⟩
    exact ⟨count, size, Bytes.word?_of_word?_take hcount, recordSize?_of_recordSize?_take hsize,
      hfound⟩
  · rintro ⟨count, size, hcount, hsize, rfl⟩
    have hle := add_four_le_of_word? hcount
    rw [Section.extent_behind _ _ _ (by omega)] at hn
    refine ⟨count, size, ?_, recordSize?_take hsize hn, rfl⟩
    rw [Bytes.word?_take_of_le (by omega), hcount]

theorem fitting?_eq_some_iff :
    fitting? data kind (some offset) = some found ↔
      place? data kind offset = some found ∧ found.extent ≤ data.length := by
  simp only [fitting?, Option.bind_eq_bind, Option.bind_some, Option.bind_eq_some_iff,
    Option.ite_none_right_eq_some, Option.some.injEq]
  constructor
  · rintro ⟨_, hplace, hle, rfl⟩
    exact ⟨hplace, hle⟩
  · rintro ⟨hplace, hle⟩
    exact ⟨found, hplace, hle, rfl⟩

theorem fitting?_take_some (hlen : data.length < 2 ^ 63) :
    fitting? (data.take n) kind (some offset) =
      (fitting? data kind (some offset)).filter fun found => found.extent ≤ n := by
  apply Option.ext
  intro found
  rw [Option.filter_eq_some_iff, fitting?_eq_some_iff, fitting?_eq_some_iff, List.length_take,
    decide_eq_true_iff]
  constructor
  · rintro ⟨hplace, hle⟩
    exact ⟨⟨(place?_take_eq_some_iff hlen (by omega)).1 hplace, by omega⟩, by omega⟩
  · rintro ⟨⟨hplace, hle⟩, hn⟩
    exact ⟨(place?_take_eq_some_iff hlen hn).2 hplace, by omega⟩

theorem lt_extent_of_fitting? (hlen : data.length < 2 ^ 63)
    (h : fitting? data kind (some offset) = some found) : offset < found.extent := by
  obtain ⟨count, size, hcount, -, rfl⟩ := place?_eq_some_iff.1 (fitting?_eq_some_iff.1 h).1
  have hle := add_four_le_of_word? hcount
  rw [Section.extent_behind _ _ _ (by omega)]
  omega

/-- What is left of a section when the file, and with it the section before, is cut off. -/
theorem fitting?_take (hlen : data.length < 2 ^ 63) (previous : Option Nat) :
    fitting? (data.take n) kind (previous.filter fun offset => offset ≤ n) =
      (fitting? data kind previous).filter fun found => found.extent ≤ n := by
  cases previous with
  | none => rfl
  | some offset =>
    by_cases hoffset : offset ≤ n
    · rw [Option.filter_some_pos (by simpa using hoffset), fitting?_take_some hlen]
    · have hnone : (fitting? data kind (some offset)).filter (fun found => found.extent ≤ n)
          = none := by
        rw [Option.filter_eq_none_iff]
        intro found hfound
        have hlt := lt_extent_of_fitting? hlen hfound
        rw [decide_eq_true_iff]
        omega
      rw [Option.filter_some_neg (by simpa using hoffset), hnone]
      rfl

theorem map_extent_filter (section? : Option Section) (n : Nat) :
    (section?.filter fun found => found.extent ≤ n).map Section.extent =
      (section?.map Section.extent).filter fun offset => offset ≤ n := by
  rw [Option.filter_map]
  rfl

end One

/-! ## All sections -/

namespace Counts

theorem header_le_morphOffset (c : Counts) : boneOffset + 4 ≤ c.morphOffset :=
  Nat.le_add_right 54 _

theorem morphOffset_add_four_le (c : Counts) : c.morphOffset + 4 ≤ c.cameraOffset :=
  Nat.le_add_right (c.morphOffset + 4) _

end Counts

namespace Layout

variable {data : Bytes} {c : Counts} {layout : Layout} {n : Nat}

/-- A layout without the optional sections that end behind an offset. -/
def upTo (layout : Layout) (n : Nat) : Layout :=
  { layout with
    light := layout.light.filter fun found => found.stop.toNat ≤ n
    shadow := layout.shadow.filter fun found => found.stop.toNat ≤ n
    ik := layout.ik.filter fun found => found.stop.toNat ≤ n }

theorem filter_stop_fitting? (hlen : data.length < 2 ^ 63) (kind : SectionKind)
    (offset : Option Nat) (n : Nat) :
    ((fitting? data kind offset).filter fun found => found.stop.toNat ≤ n) =
      (fitting? data kind offset).filter fun found => found.extent ≤ n := by
  cases h : fitting? data kind offset with
  | none => rfl
  | some found => simp only [Option.filter_some, toNat_stop_of_fitting? hlen h]

theorem modelNameOf_take (hn : 50 ≤ n) : modelNameOf (data.take n) = modelNameOf data := by
  have hname : signature.length + paddingSize = 30 := rfl
  rw [modelNameOf, modelNameOf, hname, List.drop_take, List.take_take, nameSize,
    Nat.min_eq_left (by omega)]

theorem ofCounts_take (hlen : data.length < 2 ^ 63) (hn : c.cameraOffset + 4 ≤ n) :
    ofCounts (data.take n) c = (ofCounts data c).upTo n := by
  have hbone : 50 + 4 ≤ c.morphOffset := c.header_le_morphOffset
  have hmorph := c.morphOffset_add_four_le
  have hheader : 50 ≤ n := by omega
  simp only [ofCounts, upTo, filter_stop_fitting? hlen, modelNameOf_take hheader,
    fitting?_take_some hlen, map_extent_filter, fitting?_take hlen]

theorem stored_take (hc : c.Stored data) (hn : c.cameraOffset + 4 ≤ n) :
    c.Stored (data.take n) := by
  have hbone := c.header_le_morphOffset
  have hmorph := c.morphOffset_add_four_le
  refine ⟨?_, ?_, ?_⟩
  · rw [Bytes.word?_take_of_le (by omega), hc.bones]
  · rw [Bytes.word?_take_of_le (by omega), hc.morphs]
  · rw [Bytes.word?_take_of_le hn, hc.cameras]

theorem stored_of_stored_take (hc : c.Stored (data.take n)) : c.Stored data :=
  ⟨Bytes.word?_of_word?_take hc.bones, Bytes.word?_of_word?_take hc.morphs,
    Bytes.word?_of_word?_take hc.cameras⟩

theorem take_signature_take (hsig : data.take signature.length = signature) (hn : 25 ≤ n) :
    (data.take n).take signature.length = signature := by
  rw [List.take_take, Nat.min_eq_left (show signature.length ≤ n from hn), hsig]

/-- The walk comes as far as the counts are in the front of the file. -/
theorem result_walk_take (hlen : data.length < 2 ^ 63) (hc : c.Stored data)
    (hn : n < c.cameraOffset + 4) :
    (walk (data.take n)).result =
      if n < 54 then .error (.truncated .bone)
      else if n < c.morphOffset + 4 then .error (.truncated .morph)
      else .error (.truncated .camera) := by
  have hshort : (data.take n).length ≤ n := List.length_take_le n data
  have hlen' : (data.take n).length < 2 ^ 63 :=
    Nat.lt_of_le_of_lt (List.length_take_le' n data) hlen
  have hmorph : c.morphOffset = 54 + 111 * c.bones.toNat := rfl
  have hcamera : c.cameraOffset = 58 + 111 * c.bones.toNat + 23 * c.morphs.toNat := by
    rw [Counts.cameraOffset, hmorph]
    omega
  split
  · exact result_walk_bone hlen' (by omega)
  · next hbone =>
    have hbones : Bytes.word? (data.take n) Counts.boneOffset = some c.bones := by
      rw [Bytes.word?_take_of_le (show Counts.boneOffset + 4 ≤ n from Nat.le_of_not_lt hbone),
        hc.bones]
    split
    · exact result_walk_morph hlen' hbones (by omega)
    · next hmorph =>
      have hmorphs : Bytes.word? (data.take n) c.morphOffset = some c.morphs := by
        rw [Bytes.word?_take_of_le (Nat.le_of_not_lt hmorph), hc.morphs]
      exact result_walk_camera hlen' hbones hmorphs (by omega)

/-- What is found in the front of a file with these counts. -/
theorem result_ofBytes_take_of_stored (hlen : data.length < 2 ^ 63)
    (hsig : data.take signature.length = signature) (hc : c.Stored data) (n : Nat) :
    (ofBytes (data.take n)).result =
      if n < 25 then .error .invalidFormat
      else if n < 50 then .error (.truncated .header)
      else if n < 54 then .error (.truncated .bone)
      else if n < c.morphOffset + 4 then .error (.truncated .morph)
      else if n < c.cameraOffset + 4 then .error (.truncated .camera)
      else .ok ((ofCounts data c).upTo n) := by
  have hle := hc.cameraOffset_le
  have hbone : 50 + 4 ≤ c.morphOffset := c.header_le_morphOffset
  have hmorph := c.morphOffset_add_four_le
  by_cases hformat : n < 25
  · rw [if_pos hformat]
    apply result_ofBytes_of_take_ne
    intro h
    have hlength := congrArg List.length h
    rw [List.length_take, List.length_take, show signature.length = 25 from rfl] at hlength
    omega
  rw [if_neg hformat]
  have hsig' := take_signature_take hsig (Nat.le_of_not_lt hformat)
  have hlength : (data.take n).length = min n data.length := List.length_take
  by_cases hheader : n < 50
  · rw [if_pos hheader]
    exact result_ofBytes_header hsig' (by omega)
  rw [if_neg hheader]
  by_cases hcut : n < c.cameraOffset + 4
  · rw [if_pos hcut, result_ofBytes_eq_result_walk hsig' (by omega), result_walk_take hlen hc hcut]
  · have hn : c.cameraOffset + 4 ≤ n := Nat.le_of_not_lt hcut
    rw [if_neg (by omega), if_neg (by omega), if_neg hcut,
      result_ofBytes_eq_ok_iff (by omega : (data.take n).length < 2 ^ 63)]
    exact ⟨hsig', c, stored_take hc hn, (ofCounts_take hlen hn).symm⟩

/-- **Files that are cut off.** Of a file with a layout, the first `n` bytes are refused for the
first section whose count is not in them. If there is none, they have the same layout without
the optional sections that end behind them. So what is written behind a file does not change
the sections that are found in it. -/
theorem result_ofBytes_take (hlen : data.length < 2 ^ 63)
    (h : (ofBytes data).result = .ok layout) :
    (∀ n, (ofBytes (data.take n)).result =
      if n < 25 then .error .invalidFormat
      else if n < 50 then .error (.truncated .header)
      else if n < 54 then .error (.truncated .bone)
      else if n < layout.morph.start.toNat then .error (.truncated .morph)
      else if n < layout.camera.start.toNat then .error (.truncated .camera)
      else .ok (layout.upTo n)) ∧
    (∀ more : Bytes, (data ++ more).length < 2 ^ 63 →
      ∃ whole : Layout, (ofBytes (data ++ more)).result = .ok whole ∧
        layout = whole.upTo data.length) := by
  obtain ⟨hsig, c, hc, rfl⟩ := (result_ofBytes_eq_ok_iff hlen).1 h
  have hle := hc.cameraOffset_le
  have horder := c.morphOffset_add_four_le
  have hmorph : (ofCounts data c).morph.start.toNat = c.morphOffset + 4 :=
    Section.toNat_start_behind _ _ _ (by omega)
  have hcamera : (ofCounts data c).camera.start.toNat = c.cameraOffset + 4 :=
    Section.toNat_start_behind _ _ _ (by omega)
  refine ⟨fun n => ?_, fun more hlen' => ?_⟩
  · rw [hmorph, hcamera, result_ofBytes_take_of_stored hlen hsig hc]
  · have hfront : (data ++ more).take data.length = data := List.take_left
    have hsig' : (data ++ more).take signature.length = signature := by
      have hsignature : signature.length ≤ Counts.boneOffset := by decide
      have hbone := c.header_le_morphOffset
      rw [List.take_append_of_le_length (by omega), hsig]
    have hc' : c.Stored (data ++ more) := stored_of_stored_take (hfront.symm ▸ hc)
    refine ⟨ofCounts (data ++ more) c,
      (result_ofBytes_eq_ok_iff hlen').2 ⟨hsig', c, hc', rfl⟩, ?_⟩
    rw [← ofCounts_take hlen' hle, hfront]

/-- A file whose sections are empty but for one IK record with one key. -/
def oneIkRecord : Bytes :=
  signature ++ List.replicate 45 0 ++ Word.toBytes 1 ++ List.replicate 5 0 ++ Word.toBytes 1
    ++ List.replicate 21 0

def oneIkRecordLayout : Layout where
  modelName := []
  header := headerSection
  bone := { kind := .bone, count := 0, start := 54, recordSize := 111 }
  morph := { kind := .morph, count := 0, start := 58, recordSize := 23 }
  camera := { kind := .camera, count := 0, start := 62, recordSize := 61 }
  light := some { kind := .light, count := 0, start := 66, recordSize := 28 }
  shadow := some { kind := .shadow, count := 0, start := 70, recordSize := 9 }
  ik := some { kind := .ik, count := 1, start := 74, recordSize := 30 }

/-- Cut before the camera count, inside the count of keys, and with one byte behind. -/
theorem result_ofBytes_take_oneIkRecord :
    oneIkRecord.length < 2 ^ 63 ∧ (ofBytes oneIkRecord).result = .ok oneIkRecordLayout ∧
      (ofBytes (oneIkRecord.take 60)).result = .error (.truncated .camera) ∧
      (ofBytes (oneIkRecord.take 82)).result = .ok { oneIkRecordLayout with ik := none } ∧
      ∃ whole : Layout, (ofBytes (oneIkRecord ++ [0xff])).result = .ok whole ∧
        oneIkRecordLayout = whole.upTo 104 := by
  have hlen : oneIkRecord.length < 2 ^ 63 := by decide
  have hlayout : (ofBytes oneIkRecord).result = .ok oneIkRecordLayout := by decide +kernel
  obtain ⟨htake, happend⟩ := result_ofBytes_take hlen hlayout
  exact ⟨hlen, hlayout, htake 60, htake 82, happend [0xff] (by decide)⟩

end Layout

end Motion

end CameraScript
