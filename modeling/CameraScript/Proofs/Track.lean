import CameraScript.Motion.Track
import CameraScript.Proofs.Layout
import CameraScript.Proofs.Record

/-!
# Which files hold a camera track

* `Track.decode_eq`: the bytes between the two ends of a run are as many blocks as it has records.
* `Track.decode_eq_ok_iff`: a run of records is decoded exactly where all of it is in the
  file, record by record.
* `Track.result_ofBytes_eq_ok_iff`: the same for the whole file, in terms of its counts.
* `Parts`: a motion file cut at its count words, behind its camera records and inside its
  header. Bone and morph records, padding, name and tail may be any bytes.
* `Track.result_ofBytes_eq_ok_iff_parts`: the files that hold a track are the ones that can be
  cut so, and the track consists of the 61-byte records of the camera part.
-/

namespace CameraScript

/-! ## Bytes at an offset -/

namespace Bytes

theorem drop_eq_take_append_drop (data : Bytes) (offset size : Nat) :
    data.drop offset = (data.drop offset).take size ++ data.drop (offset + size) := by
  rw [← List.drop_drop, List.take_append_drop]

theorem length_take_drop {data : Bytes} {offset size : Nat} (h : offset + size ≤ data.length) :
    ((data.drop offset).take size).length = size := by
  rw [List.length_take, List.length_drop]
  omega

theorem drop_eq_toBytes_append {data : Bytes} {offset : Nat} {w : UInt32}
    (h : data.word? offset = some w) :
    data.drop offset = Word.toBytes w ++ data.drop (offset + 4) := by
  rw [← word?_eq_some_iff.1 h]
  exact drop_eq_take_append_drop data offset 4

theorem getElem_blocks {size count i : Nat} {data : Bytes}
    (h : i < (blocks size count data).length) :
    (blocks size count data)[i] = (data.drop (size * i)).take size := by
  have hi : i < count := by
    rw [length_blocks] at h
    exact h
  have hget : (blocks size count data)[i]? = some ((data.drop (size * i)).take size) :=
    getElem?_blocks data hi
  rw [List.getElem?_eq_getElem h] at hget
  exact Option.some.inj hget

/-- Blocks that end in the first `length` bytes do not depend on what is behind these. -/
theorem blocks_take {size count length : Nat} {data : Bytes} (h : size * count ≤ length) :
    blocks size count (data.take length) = blocks size count data := by
  induction count generalizing data length with
  | zero => rfl
  | succ count ih =>
    rw [Nat.mul_succ] at h
    have hrest : size * count ≤ length - size := by omega
    rw [blocks, blocks, List.take_take, Nat.min_eq_left (by omega), List.drop_take, ih hrest]

theorem chunks_of_length_eq {size count : Nat} {data : Bytes} (hsize : size ≠ 0)
    (h : data.length = count * size) : chunks size data = blocks size count data := by
  rw [chunks, h, Nat.mul_div_cancel _ (Nat.pos_of_ne_zero hsize)]

theorem word?_of_eq {data : Bytes} {w : UInt32} {offset : Nat} (before after : Bytes)
    (hdata : data = before ++ (Word.toBytes w ++ after)) (hoffset : offset = before.length) :
    data.word? offset = some w := by
  subst hdata hoffset
  rw [word?_eq_some_iff, List.drop_left, List.take_left' (Word.length_toBytes w)]

end Bytes

namespace Motion

/-! ## One record -/

theorem Keyframe.drop_of_read {data rest : Bytes} {k : Keyframe}
    (h : Keyframe.read data = .ok (k, rest)) : data.drop 61 = rest := by
  obtain ⟨flag, -, rfl⟩ := Keyframe.read_eq_ok_iff.1 h
  rw [List.drop_append, Keyframe.length_body]
  rfl

/-- A record is decided by its own 61 bytes. -/
theorem Keyframe.read_take_iff {data : Bytes} {k : Keyframe} :
    Keyframe.read (data.take 61) = .ok (k, []) ↔
      Keyframe.read data = .ok (k, data.drop 61) := by
  rw [Keyframe.read_eq_ok_iff, Keyframe.read_eq_ok_iff]
  constructor
  · rintro ⟨flag, hflag, h⟩
    refine ⟨flag, hflag, ?_⟩
    conv_lhs => rw [← List.take_append_drop 61 data]
    rw [h, List.append_assoc]
    rfl
  · rintro ⟨flag, hflag, h⟩
    refine ⟨flag, hflag, ?_⟩
    rw [h, List.take_append, Keyframe.length_body]
    rfl

namespace Track

theorem decodeBlock_eq_ok_iff {block : Bytes} {k : Keyframe} :
    decodeBlock block = .ok k ↔ Keyframe.read (block.take 61) = .ok (k, []) := by
  rw [Keyframe.read_take_iff]
  unfold decodeBlock
  constructor
  · intro h
    split at h
    · next keyframe rest hr =>
      cases h
      rw [hr, Keyframe.drop_of_read hr]
    · cases h
  · intro h
    rw [h]

end Track

/-! ## A run of records -/

namespace Section

variable {data : Bytes} {s : Section}

theorem slice?_eq_none (hlen : data.length < 2 ^ 63) (h : data.length < s.extent) :
    data.slice? s.start.toNat s.stop.toNat = none := by
  have hstop : data.length < s.stop.toNat := (lt_stop_iff (by omega)).2 h
  apply if_neg
  intro hslice
  omega

theorem slice?_eq_some (hlen : data.length < 2 ^ 63) (h : s.extent ≤ data.length) :
    data.slice? s.start.toNat s.stop.toNat =
      some ((data.drop s.start.toNat).take (s.count.toNat * s.recordSize.toNat)) := by
  have hstop : s.stop.toNat = s.start.toNat + s.count.toNat * s.recordSize.toNat :=
    toNat_stop_eq (by omega)
  rw [extent] at h
  rw [Bytes.slice?, hstop, if_pos (by omega), List.drop_take, Nat.add_sub_cancel_left]

end Section

namespace Track

/-- Decoding does not see where the end of the records is clamped, and finds as many records as
the place has. -/
theorem decode_eq {data : Bytes} (hlen : data.length < 2 ^ 63) (place : Section) :
    decode data place =
      if data.length < place.extent then .error (.truncated .camera)
      else if place.recordSize.toNat = 0 then .error .emptyBlock
      else (Bytes.blocks place.recordSize.toNat place.count.toNat
        (data.drop place.start.toNat)).mapM decodeBlock := by
  unfold decode
  by_cases hextent : data.length < place.extent
  · rw [Section.slice?_eq_none hlen hextent, if_pos hextent]
  · have hle : place.extent ≤ data.length := Nat.le_of_not_lt hextent
    have hzero : place.recordSize = 0 ↔ place.recordSize.toNat = 0 := UInt64.toNat_inj.symm
    rw [Section.slice?_eq_some hlen hle, if_neg hextent]
    simp only [hzero]
    by_cases hsize : place.recordSize.toNat = 0
    · rw [if_pos hsize, if_pos hsize]
    · have hlength : ((data.drop place.start.toNat).take
          (place.count.toNat * place.recordSize.toNat)).length =
            place.count.toNat * place.recordSize.toNat := Bytes.length_take_drop hle
      rw [if_neg hsize, if_neg hsize, Bytes.chunks_of_length_eq hsize hlength,
        Bytes.blocks_take (Nat.le_of_eq (Nat.mul_comm _ _))]

theorem decode_eq_ok_iff {data : Bytes} (hlen : data.length < 2 ^ 63) {place : Section}
    (hsize : place.recordSize ≠ 0) {keyframes : List Keyframe} :
    decode data place = .ok keyframes ↔
      place.extent ≤ data.length ∧ keyframes.length = place.count.toNat ∧
        ∀ i (h : i < keyframes.length),
          decodeBlock ((data.drop (place.start.toNat + place.recordSize.toNat * i)).take
            place.recordSize.toNat) = .ok keyframes[i] := by
  have hne : place.recordSize.toNat ≠ 0 := fun heq => hsize (UInt64.toNat_inj.1 heq)
  rw [decode_eq hlen]
  by_cases hextent : data.length < place.extent
  · rw [if_pos hextent]
    constructor
    · intro h
      cases h
    · rintro ⟨hle, -, -⟩
      omega
  · have hle : place.extent ≤ data.length := Nat.le_of_not_lt hextent
    rw [if_neg hextent, if_neg hne, Except.mapM_eq_ok_iff, List.forall₂_iff_get]
    simp only [List.get_eq_getElem, Bytes.getElem_blocks, List.drop_drop,
      Bytes.length_blocks]
    constructor
    · rintro ⟨hcount, hread⟩
      exact ⟨hle, hcount.symm, fun i hi => hread i (by omega) hi⟩
    · rintro ⟨-, hcount, hread⟩
      exact ⟨hcount.symm, fun i _ hi => hread i hi⟩

end Track

/-! ## A whole file -/

/-- The camera records behind these counts are in the file and hold the keyframes. -/
structure Counts.HoldTrack (c : Counts) (data : Bytes) (keyframes : List Keyframe) :
    Prop where
  stop_le : c.cameraStop ≤ data.length
  length_eq : keyframes.length = c.cameras.toNat
  read : ∀ i (h : i < keyframes.length),
    Keyframe.read ((data.drop (c.cameraOffset + 4 + 61 * i)).take 61) = .ok (keyframes[i], [])

namespace Track

theorem decode_ofCounts_eq_ok_iff {data : Bytes} (hlen : data.length < 2 ^ 63) {c : Counts}
    (hc : c.Stored data) {keyframes : List Keyframe} :
    decode data (Layout.ofCounts data c).camera = .ok keyframes ↔ c.HoldTrack data keyframes := by
  obtain ⟨-, -, hstart⟩ := Layout.start_ofCounts hlen hc
  have hcount : (Layout.ofCounts data c).camera.count.toNat = c.cameras.toNat :=
    UInt32.toNat_toUInt64 _
  have hsize : (Layout.ofCounts data c).camera.recordSize.toNat = 61 := rfl
  rw [decode_eq_ok_iff hlen (by decide : (61 : UInt64) ≠ 0), hstart, hcount, hsize,
    Layout.extent_camera_ofCounts hlen hc]
  simp only [decodeBlock_eq_ok_iff, List.take_take, Nat.min_self]
  constructor
  · rintro ⟨hstop, hlength, hread⟩
    exact ⟨hstop, hlength, hread⟩
  · intro htrack
    exact ⟨htrack.1, htrack.2, htrack.3⟩

theorem result_ofBytes (data : Bytes) :
    (ofBytes data).result
      = (Layout.ofBytes data).result >>= fun layout => decode data layout.camera := by
  simp only [ofBytes, Logged.result_bind, Logged.result_ofExcept, Logged.result_report,
    Logged.result_pure]
  congr 1
  funext layout
  cases decode data layout.camera with
  | error fault => rfl
  | ok keyframes => rfl

theorem result_ofBytes_eq_ok_iff {data : Bytes} (hlen : data.length < 2 ^ 63)
    {keyframes : List Keyframe} :
    (ofBytes data).result = .ok keyframes ↔
      data.take signature.length = signature ∧
        ∃ c : Counts, c.Stored data ∧ c.HoldTrack data keyframes := by
  rw [result_ofBytes, Except.bind_eq_ok_iff]
  constructor
  · rintro ⟨layout, hlayout, hdecode⟩
    obtain ⟨hsig, c, hc, rfl⟩ := (Layout.result_ofBytes_eq_ok_iff hlen).1 hlayout
    exact ⟨hsig, c, hc, (decode_ofCounts_eq_ok_iff hlen hc).1 hdecode⟩
  · rintro ⟨hsig, c, hc, htrack⟩
    exact ⟨Layout.ofCounts data c, (Layout.result_ofBytes_eq_ok_iff hlen).2 ⟨hsig, c, hc, rfl⟩,
      (decode_ofCounts_eq_ok_iff hlen hc).2 htrack⟩

end Track

/-! ## Cutting a file into parts -/

/-- A motion file in parts: a header, three counts with the records behind each, and a tail.
Sections behind the camera records, and bytes that belong to no section, are the tail. -/
structure Parts where
  padding : Bytes
  name : Bytes
  counts : Counts
  boneRecords : Bytes
  morphRecords : Bytes
  cameraRecords : Bytes
  tail : Bytes
  length_padding : padding.length = 5
  length_name : name.length = 20
  length_boneRecords : boneRecords.length = 111 * counts.bones.toNat
  length_morphRecords : morphRecords.length = 23 * counts.morphs.toNat
  length_cameraRecords : cameraRecords.length = 61 * counts.cameras.toNat

namespace Parts

def header (p : Parts) : Bytes := signature ++ p.padding ++ p.name

def toBytes (p : Parts) : Bytes :=
  p.header ++ Word.toBytes p.counts.bones ++ p.boneRecords ++ Word.toBytes p.counts.morphs
    ++ p.morphRecords ++ Word.toBytes p.counts.cameras ++ p.cameraRecords ++ p.tail

theorem length_header (p : Parts) : p.header.length = 50 := by
  simp only [header, List.length_append, p.length_padding, p.length_name]
  rfl

/-- The bytes before the camera records. -/
def front (p : Parts) : Bytes :=
  p.header ++ Word.toBytes p.counts.bones ++ p.boneRecords ++ Word.toBytes p.counts.morphs
    ++ p.morphRecords ++ Word.toBytes p.counts.cameras

theorem toBytes_eq (p : Parts) : p.toBytes = p.front ++ (p.cameraRecords ++ p.tail) := by
  rw [toBytes, front, List.append_assoc]

theorem length_front (p : Parts) : p.front.length = p.counts.cameraOffset + 4 := by
  simp only [front, List.length_append, p.length_header, p.length_boneRecords,
    p.length_morphRecords, Word.length_toBytes, Counts.cameraOffset, Counts.morphOffset]

theorem take_toBytes (p : Parts) : p.toBytes.take signature.length = signature := by
  simp only [toBytes, header, List.append_assoc]
  exact List.take_left

theorem stored_toBytes (p : Parts) : p.counts.Stored p.toBytes where
  bones := by
    refine Bytes.word?_of_eq p.header
      (p.boneRecords ++ Word.toBytes p.counts.morphs ++ p.morphRecords
        ++ Word.toBytes p.counts.cameras ++ p.cameraRecords ++ p.tail) ?_ p.length_header.symm
    simp only [toBytes, List.append_assoc]
  morphs := by
    refine Bytes.word?_of_eq (p.header ++ Word.toBytes p.counts.bones ++ p.boneRecords)
      (p.morphRecords ++ Word.toBytes p.counts.cameras ++ p.cameraRecords ++ p.tail) ?_ ?_
    · simp only [toBytes, List.append_assoc]
    · simp only [List.length_append, p.length_header, p.length_boneRecords,
        Word.length_toBytes, Counts.morphOffset]
  cameras := by
    refine Bytes.word?_of_eq
      (p.header ++ Word.toBytes p.counts.bones ++ p.boneRecords
        ++ Word.toBytes p.counts.morphs ++ p.morphRecords) (p.cameraRecords ++ p.tail) ?_ ?_
    · simp only [toBytes, List.append_assoc]
    · simp only [List.length_append, p.length_header, p.length_boneRecords,
        p.length_morphRecords, Word.length_toBytes, Counts.cameraOffset, Counts.morphOffset]

theorem modelNameOf_toBytes (p : Parts) :
    Layout.modelNameOf p.toBytes = Bytes.beforeNul p.name := by
  have hlength : (signature ++ p.padding).length = signature.length + paddingSize := by
    rw [List.length_append, p.length_padding]
    rfl
  rw [Layout.modelNameOf, ← hlength, nameSize]
  simp only [toBytes, header, List.append_assoc]
  rw [← List.append_assoc signature, List.drop_left, List.take_left' p.length_name]

theorem cameraStop_le_length_toBytes (p : Parts) : p.counts.cameraStop ≤ p.toBytes.length := by
  rw [toBytes_eq, List.length_append, List.length_append, p.length_front,
    p.length_cameraRecords, Counts.cameraStop]
  omega

/-- The `i`-th record of the camera part. -/
def record (p : Parts) (i : Nat) : Bytes := (p.cameraRecords.drop (61 * i)).take 61

theorem take_drop_toBytes (p : Parts) {i : Nat} (h : i < p.counts.cameras.toNat) :
    (p.toBytes.drop (p.counts.cameraOffset + 4 + 61 * i)).take 61 = p.record i := by
  have hl := p.length_cameraRecords
  rw [toBytes_eq, ← p.length_front, List.drop_length_add_append, record,
    List.drop_append_of_le_length (by omega), List.take_append_of_le_length]
  rw [List.length_drop]
  omega

/-- The parts of a file that holds the signature and these counts. -/
def cut (data : Bytes) (c : Counts) (h : c.cameraStop ≤ data.length) : Parts where
  padding := (data.drop 25).take 5
  name := (data.drop 30).take 20
  counts := c
  boneRecords := (data.drop 54).take (111 * c.bones.toNat)
  morphRecords := (data.drop (c.morphOffset + 4)).take (23 * c.morphs.toNat)
  cameraRecords := (data.drop (c.cameraOffset + 4)).take (61 * c.cameras.toNat)
  tail := data.drop c.cameraStop
  length_padding := Bytes.length_take_drop (by have := c.header_le_cameraStop; omega)
  length_name := Bytes.length_take_drop (by have := c.header_le_cameraStop; omega)
  length_boneRecords := Bytes.length_take_drop (Nat.le_trans c.morphOffset_le_cameraStop h)
  length_morphRecords := Bytes.length_take_drop (Nat.le_trans c.cameraOffset_le_cameraStop h)
  length_cameraRecords := Bytes.length_take_drop h

theorem toBytes_cut {data : Bytes} {c : Counts} (hsig : data.take signature.length = signature)
    (hc : c.Stored data) (h : c.cameraStop ≤ data.length) : (cut data c h).toBytes = data := by
  have hbones : data.drop 50 = Word.toBytes c.bones ++ data.drop 54 :=
    Bytes.drop_eq_toBytes_append hc.bones
  simp only [toBytes, header, cut, List.append_assoc]
  rw [Counts.cameraStop, ← Bytes.drop_eq_take_append_drop,
    ← Bytes.drop_eq_toBytes_append hc.cameras, Counts.cameraOffset,
    ← Bytes.drop_eq_take_append_drop, ← Bytes.drop_eq_toBytes_append hc.morphs,
    Counts.morphOffset, ← Bytes.drop_eq_take_append_drop, ← hbones,
    ← Bytes.drop_eq_take_append_drop data 30 20, ← Bytes.drop_eq_take_append_drop data 25 5]
  conv_lhs => rw [← hsig]
  exact List.take_append_drop _ _

end Parts

/-- The keyframes are what the records of the camera part hold. -/
structure Parts.HoldTrack (p : Parts) (keyframes : List Keyframe) : Prop where
  length_eq : keyframes.length = p.counts.cameras.toNat
  read : ∀ i (h : i < keyframes.length), Keyframe.read (p.record i) = .ok (keyframes[i], [])

theorem Parts.length_record (p : Parts) {i : Nat} (h : i < p.counts.cameras.toNat) :
    (p.record i).length = 61 := by
  apply Bytes.length_take_drop
  rw [p.length_cameraRecords]
  omega

/-- No record is refused. -/
theorem Parts.exists_holdTrack (p : Parts) : ∃ keyframes, p.HoldTrack keyframes := by
  have hread (i : Fin p.counts.cameras.toNat) :
      ∃ keyframe, Keyframe.read (p.record i) = .ok (keyframe, []) := by
    have hlength := p.length_record i.isLt
    obtain ⟨keyframe, h⟩ := Keyframe.consumes_read.ok (p.record i) (Nat.le_of_eq hlength.symm)
    rw [List.drop_of_length_le (Nat.le_of_eq hlength)] at h
    exact ⟨keyframe, h⟩
  choose track htrack using hread
  refine ⟨List.ofFn track, List.length_ofFn, fun i hi => ?_⟩
  rw [List.length_ofFn] at hi
  rw [List.getElem_ofFn]
  exact htrack ⟨i, hi⟩

namespace Track

theorem result_ofBytes_toBytes {p : Parts} (hlen : p.toBytes.length < 2 ^ 63)
    {keyframes : List Keyframe} (h : p.HoldTrack keyframes) :
    (ofBytes p.toBytes).result = .ok keyframes := by
  refine (result_ofBytes_eq_ok_iff hlen).2 ⟨p.take_toBytes, p.counts, p.stored_toBytes,
    p.cameraStop_le_length_toBytes, h.length_eq, fun i hi => ?_⟩
  rw [Parts.take_drop_toBytes p (h.length_eq ▸ hi)]
  exact h.read i hi

theorem exists_parts_of_result_ofBytes {data : Bytes} (hlen : data.length < 2 ^ 63)
    {keyframes : List Keyframe} (h : (ofBytes data).result = .ok keyframes) :
    ∃ p : Parts, data = p.toBytes ∧ p.HoldTrack keyframes := by
  obtain ⟨hsig, c, hc, htrack⟩ := (result_ofBytes_eq_ok_iff hlen).1 h
  have hcut := Parts.toBytes_cut hsig hc htrack.stop_le
  refine ⟨Parts.cut data c htrack.stop_le, hcut.symm, htrack.length_eq, fun i hi => ?_⟩
  have hi' : i < c.cameras.toNat := htrack.length_eq ▸ hi
  rw [← Parts.take_drop_toBytes _ hi', hcut]
  exact htrack.read i hi

/-- **Reading a track.** A file of less than `2 ^ 63` bytes holds a track exactly where it can
be cut into parts, and the keyframes are then what the 61-byte records of the camera part
hold, whatever is in the others. -/
theorem result_ofBytes_eq_ok_iff_parts {data : Bytes} (hlen : data.length < 2 ^ 63) :
    (∀ keyframes : List Keyframe, (ofBytes data).result = .ok keyframes ↔
      ∃ p : Parts, data = p.toBytes ∧ keyframes.length = p.counts.cameras.toNat ∧
        ∀ i (h : i < keyframes.length),
          Keyframe.read (p.record i) = .ok (keyframes[i], [])) ∧
      ((∃ keyframes, (ofBytes data).result = .ok keyframes) ↔ ∃ p : Parts, data = p.toBytes) := by
  refine ⟨fun keyframes => ?_, ?_⟩
  · constructor
    · intro h
      obtain ⟨p, hp, htrack⟩ := exists_parts_of_result_ofBytes hlen h
      exact ⟨p, hp, htrack.length_eq, htrack.read⟩
    · rintro ⟨p, rfl, hlength, hread⟩
      exact result_ofBytes_toBytes hlen ⟨hlength, hread⟩
  · constructor
    · rintro ⟨keyframes, h⟩
      obtain ⟨p, hp, -⟩ := exists_parts_of_result_ofBytes hlen h
      exact ⟨p, hp⟩
    · rintro ⟨p, rfl⟩
      obtain ⟨keyframes, htrack⟩ := p.exists_holdTrack
      exact ⟨keyframes, result_ofBytes_toBytes hlen htrack⟩

/-- What a record of 61 bytes `0xff` holds. -/
def onesKeyframe : Keyframe where
  frame := 0xffffffff
  length := ⟨0x7fffffff⟩
  location := ⟨⟨0xffffffff⟩, ⟨0xffffffff⟩, ⟨0xffffffff⟩⟩
  rotation := ⟨⟨0x7fffffff⟩, ⟨0xffffffff⟩, ⟨0xffffffff⟩⟩
  curves :=
    let curve : Curve := ⟨0xff, 0xff, 0xff, 0xff⟩
    ⟨curve, curve, curve, curve, curve, curve⟩
  viewAngle := 0xffffffff
  perspective := false

/-- A file with one bone, one morph, two camera records, junk in every free place and a tail. -/
def junkParts : Parts where
  padding := [1, 2, 3, 4, 5]
  name := List.replicate 20 0x41
  counts := { bones := 1, morphs := 1, cameras := 2 }
  boneRecords := List.replicate 111 0xaa
  morphRecords := List.replicate 23 0xbb
  cameraRecords := Keyframe.toBytes { frame := 30 } ++ List.replicate 61 0xff
  tail := [0xde, 0xad]
  length_padding := rfl
  length_name := rfl
  length_boneRecords := rfl
  length_morphRecords := rfl
  length_cameraRecords := rfl

theorem result_ofBytes_junkParts :
    junkParts.toBytes.length < 2 ^ 63 ∧
      (ofBytes junkParts.toBytes).result = .ok [{ frame := 30 }, onesKeyframe] := by
  have hlen : junkParts.toBytes.length < 2 ^ 63 := by decide +kernel
  refine ⟨hlen, ((result_ofBytes_eq_ok_iff_parts hlen).1 _).2 ⟨junkParts, rfl, rfl, ?_⟩⟩
  have hfirst : Keyframe.read (junkParts.record 0) = .ok ({ frame := 30 }, []) := by
    decide +kernel
  have hsecond : Keyframe.read (junkParts.record 1) = .ok (onesKeyframe, []) := by
    decide +kernel
  intro i hi
  match i, hi with
  | 0, _ => exact hfirst
  | 1, _ => exact hsecond

end Track

end Motion

end CameraScript
