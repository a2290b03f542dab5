import CameraScript.Motion.File
import CameraScript.Proofs.Track

/-!
# Written files are read back

* `File.toBytes_parts`: a written file in parts. Its count of keyframes is a word, so of
  `2 ^ 32` keyframes or more only the first few are in the camera part, and the others are
  in the tail.
* `File.layout`: the layout of a written file.
* `File.result_ofBytes_encode`: the length of a written file, the track that is read from it
  and the layout that is found in it.
-/

namespace CameraScript.Motion.File

/-! ## The bytes of a file -/

def records (keyframes : List Keyframe) : Bytes := keyframes.flatMap Keyframe.toBytes

theorem length_records (keyframes : List Keyframe) :
    (records keyframes).length = 61 * keyframes.length := by
  induction keyframes with
  | nil => rfl
  | cons k rest ih =>
    rw [records, List.flatMap_cons, List.length_append, Keyframe.length_toBytes, ← records, ih,
      List.length_cons]
    omega

theorem flatten_fields (keyframes : List Keyframe) :
    (keyframes.flatMap Keyframe.fields).flatten = records keyframes := by
  induction keyframes with
  | nil => rfl
  | cons k rest ih =>
    rw [List.flatMap_cons, List.flatten_append, ih]
    rfl

theorem take_drop_records {keyframes : List Keyframe} {i : Nat} (h : i < keyframes.length) :
    ((records keyframes).drop (61 * i)).take 61 = keyframes[i].toBytes := by
  induction keyframes generalizing i with
  | nil => cases h
  | cons k rest ih =>
    have hk := k.length_toBytes
    cases i with
    | zero => exact List.take_left' hk
    | succ i =>
      have hdrop : (records (k :: rest)).drop (61 * (i + 1)) = (records rest).drop (61 * i) := by
        rw [records, List.flatMap_cons, Nat.mul_succ, Nat.add_comm, ← hk,
          List.drop_length_add_append]
        rfl
      rw [hdrop]
      exact ih (Nat.lt_of_succ_lt_succ h)

theorem length_nameField (name : Bytes) : (nameField name).length = 20 := by
  rw [nameField, List.length_append, List.length_take, List.length_replicate, nameSize]
  omega

/-- The number of keyframes that the count word of a file gives. -/
def storedCount (keyframes : List Keyframe) : UInt32 := UInt32.ofNat keyframes.length

theorem toNat_storedCount (keyframes : List Keyframe) :
    (storedCount keyframes).toNat = keyframes.length % 2 ^ 32 :=
  UInt32.toNat_ofNat'

/-- The bytes up to the end of the camera records. -/
def front (name : Bytes) (keyframes : List Keyframe) : Bytes :=
  signature ++ List.replicate paddingSize 0 ++ nameField name ++ Word.toBytes 0
    ++ Word.toBytes 0 ++ Word.toBytes (storedCount keyframes) ++ records keyframes

theorem length_front (name : Bytes) (keyframes : List Keyframe) :
    (front name keyframes).length = 62 + 61 * keyframes.length := by
  simp only [front, List.length_append, List.length_replicate, length_nameField,
    Word.length_toBytes, length_records, paddingSize, show signature.length = 25 from rfl]

theorem encode_eq (name : Bytes) (keyframes : List Keyframe) :
    encode name keyframes = front name keyframes ++ Word.toBytes 0 ++ Word.toBytes 0 := by
  simp only [encode, fields, headerFields, List.flatten_append, flatten_fields, front,
    storedCount]
  simp

theorem length_encode (name : Bytes) (keyframes : List Keyframe) :
    (encode name keyframes).length = 70 + 61 * keyframes.length := by
  rw [encode_eq, List.length_append, List.length_append, length_front, Word.length_toBytes]
  omega

/-! ## A file in parts -/

theorem length_take_records (keyframes : List Keyframe) :
    ((records keyframes).take (61 * (storedCount keyframes).toNat)).length =
      61 * (storedCount keyframes).toNat := by
  rw [List.length_take, length_records, toNat_storedCount]
  have := Nat.mod_le keyframes.length (2 ^ 32)
  omega

def parts (name : Bytes) (keyframes : List Keyframe) : Parts where
  padding := List.replicate paddingSize 0
  name := nameField name
  counts := { bones := 0, morphs := 0, cameras := storedCount keyframes }
  boneRecords := []
  morphRecords := []
  cameraRecords := (records keyframes).take (61 * (storedCount keyframes).toNat)
  tail := (records keyframes).drop (61 * (storedCount keyframes).toNat)
    ++ Word.toBytes 0 ++ Word.toBytes 0
  length_padding := rfl
  length_name := length_nameField name
  length_boneRecords := rfl
  length_morphRecords := rfl
  length_cameraRecords := length_take_records keyframes

theorem toBytes_parts (name : Bytes) (keyframes : List Keyframe) :
    (parts name keyframes).toBytes = encode name keyframes := by
  simp only [encode_eq, front, Parts.toBytes, Parts.header, parts, List.append_assoc,
    List.nil_append]
  rw [← List.append_assoc (List.take _ _), List.take_append_drop]

theorem holdTrack_parts (name : Bytes) (keyframes : List Keyframe) :
    (parts name keyframes).HoldTrack (keyframes.take (keyframes.length % 2 ^ 32)) := by
  have hcount := toNat_storedCount keyframes
  have hle := Nat.mod_le keyframes.length (2 ^ 32)
  have hlength : (keyframes.take (keyframes.length % 2 ^ 32)).length
      = (storedCount keyframes).toNat := by
    rw [List.length_take, hcount]
    omega
  refine ⟨hlength, fun i hi => ?_⟩
  have hi' : i < (storedCount keyframes).toNat := hlength ▸ hi
  have hrecord : (parts name keyframes).record i = keyframes[i].toBytes := by
    rw [Parts.record, parts, List.drop_take, List.take_take, Nat.min_eq_left (by omega),
      take_drop_records]
  rw [hrecord, List.getElem_take]
  have hread := Keyframe.read_toBytes keyframes[i] []
  rwa [List.append_nil] at hread

/-! ## The layout of a file -/

theorem beforeNul_nameField (name : Bytes) :
    Bytes.beforeNul (nameField name) = Bytes.beforeNul (name.take nameSize) := by
  have hpadding : (List.replicate (nameSize - name.length) (0 : UInt8)).takeWhile (· != 0)
      = [] := by
    cases nameSize - name.length with
    | zero => rfl
    | succ n => rfl
  unfold Bytes.beforeNul nameField
  rw [List.takeWhile_append, hpadding]
  split
  · next h =>
    rw [List.append_nil]
    exact ((List.takeWhile_prefix _).eq_of_length h).symm
  · rfl

theorem word?_encode_light (name : Bytes) (keyframes : List Keyframe) :
    (encode name keyframes).word? (62 + 61 * keyframes.length) = some 0 := by
  refine Bytes.word?_of_eq (front name keyframes) (Word.toBytes 0) ?_
    (length_front name keyframes).symm
  rw [encode_eq, List.append_assoc]

theorem word?_encode_shadow (name : Bytes) (keyframes : List Keyframe) :
    (encode name keyframes).word? (62 + 61 * keyframes.length + 4) = some 0 := by
  refine Bytes.word?_of_eq (front name keyframes ++ Word.toBytes 0) [] ?_ ?_
  · rw [List.append_nil, encode_eq]
  · rw [List.length_append, length_front, Word.length_toBytes]

/-- The layout of a file with `count` keyframes: no bones and no morphs, light and shadow
without records, and no IK section. -/
def layout (name : Bytes) (count : Nat) : Layout where
  modelName := Bytes.beforeNul (name.take 20)
  header := { kind := .header, count := 1, start := 0, recordSize := 50 }
  bone := { kind := .bone, count := 0, start := 54, recordSize := 111 }
  morph := { kind := .morph, count := 0, start := 58, recordSize := 23 }
  camera := { kind := .camera, count := UInt64.ofNat count, start := 62, recordSize := 61 }
  light := some
    { kind := .light, count := 0, start := UInt64.ofNat (66 + 61 * count), recordSize := 28 }
  shadow := some
    { kind := .shadow, count := 0, start := UInt64.ofNat (70 + 61 * count), recordSize := 9 }
  ik := none

theorem cameraStop_parts {name : Bytes} {keyframes : List Keyframe}
    (h : keyframes.length < 2 ^ 32) :
    (parts name keyframes).counts.cameraStop = 62 + 61 * keyframes.length := by
  have hstored : (storedCount keyframes).toNat = keyframes.length := by
    rw [toNat_storedCount, Nat.mod_eq_of_lt h]
  rw [← hstored]
  rfl

theorem toUInt64_storedCount {keyframes : List Keyframe} (h : keyframes.length < 2 ^ 32) :
    (storedCount keyframes).toUInt64 = UInt64.ofNat keyframes.length := by
  apply UInt64.toNat_inj.1
  rw [UInt32.toNat_toUInt64, toNat_storedCount, UInt64.toNat_ofNat']
  omega

theorem ofCounts_encode {name : Bytes} {keyframes : List Keyframe}
    (hlen : (encode name keyframes).length < 2 ^ 63) (hcount : keyframes.length < 2 ^ 32) :
    Layout.ofCounts (encode name keyframes) (parts name keyframes).counts
      = layout name keyframes.length := by
  have hlength := length_encode name keyframes
  have hname : Layout.modelNameOf (encode name keyframes) = Bytes.beforeNul (name.take 20) := by
    rw [← toBytes_parts, Parts.modelNameOf_toBytes]
    exact beforeNul_nameField name
  have hcamera : (Layout.ofCounts (encode name keyframes) (parts name keyframes).counts).camera
      = { kind := .camera, count := UInt64.ofNat keyframes.length, start := 62,
          recordSize := 61 } := by
    rw [← toUInt64_storedCount hcount]
    rfl
  have hlight := fitting?_of_word?_eq_zero hlen .light (word?_encode_light name keyframes)
  have hshadow := fitting?_of_word?_eq_zero hlen .shadow (word?_encode_shadow name keyframes)
  have hik : fitting? (encode name keyframes) .ik (some (62 + 61 * keyframes.length + 4 + 4))
      = none := fitting?_eq_none .ik (by omega)
  have hlightStop := Section.extent_behind_zero .light SectionKind.light.recordSize
    (show 62 + 61 * keyframes.length + 4 < 2 ^ 64 by omega)
  have hshadowStop := Section.extent_behind_zero .shadow SectionKind.shadow.recordSize
    (show 62 + 61 * keyframes.length + 4 + 4 < 2 ^ 64 by omega)
  simp only [Layout.ofCounts] at hcamera
  simp only [Layout.ofCounts, cameraStop_parts hcount, hlight, Option.map_some, hlightStop,
    hshadow, hshadowStop, hik, hname, hcamera]
  simp only [layout, Section.behind]
  rw [show 62 + 61 * keyframes.length + 4 + 4 = 70 + 61 * keyframes.length by omega,
    show 62 + 61 * keyframes.length + 4 = 66 + 61 * keyframes.length by omega]
  rfl

theorem take_length_mod_eq_self_iff (keyframes : List Keyframe) :
    keyframes.take (keyframes.length % 2 ^ 32) = keyframes ↔ keyframes.length < 2 ^ 32 := by
  constructor
  · intro h
    have hlength := congrArg List.length h
    rw [List.length_take] at hlength
    omega
  · intro h
    rw [Nat.mod_eq_of_lt h, List.take_length]

/-- A written file has 70 bytes and 61 for each keyframe. What is read back from it are the
keyframes that its count word gives, all of them exactly where their number is a word, and
its layout is then the expected one. -/
theorem result_ofBytes_encode {name : Bytes} {keyframes : List Keyframe}
    (hlen : (encode name keyframes).length < 2 ^ 63) :
    (encode name keyframes).length = 70 + 61 * keyframes.length ∧
      (Track.ofBytes (encode name keyframes)).result
        = .ok (keyframes.take (keyframes.length % 2 ^ 32)) ∧
      ((Track.ofBytes (encode name keyframes)).result = .ok keyframes ↔
        keyframes.length < 2 ^ 32) ∧
      (keyframes.length < 2 ^ 32 →
        (Layout.ofBytes (encode name keyframes)).result
          = .ok (layout name keyframes.length)) := by
  have hparts := toBytes_parts name keyframes
  have hread : (Track.ofBytes (encode name keyframes)).result
      = .ok (keyframes.take (keyframes.length % 2 ^ 32)) := by
    rw [← hparts]
    exact Track.result_ofBytes_toBytes (hparts ▸ hlen) (holdTrack_parts name keyframes)
  refine ⟨length_encode name keyframes, hread, ?_, fun hcount => ?_⟩
  · rw [hread, Except.ok.injEq]
    exact take_length_mod_eq_self_iff keyframes
  · rw [Layout.result_ofBytes_eq_ok_iff hlen]
    refine ⟨?_, (parts name keyframes).counts, ?_, (ofCounts_encode hlen hcount).symm⟩
    · rw [← hparts]
      exact (parts name keyframes).take_toBytes
    · rw [← hparts]
      exact (parts name keyframes).stored_toBytes

/-- A name with a NUL inside, a keyframe with NaNs and one without. -/
theorem result_ofBytes_encode_onesKeyframe :
    (encode [0x63, 0x61, 0, 0x6d] [{ frame := 30 }, Track.onesKeyframe]).length < 2 ^ 63 ∧
      (Track.ofBytes (encode [0x63, 0x61, 0, 0x6d] [{ frame := 30 }, Track.onesKeyframe])).result
        = .ok [{ frame := 30 }, Track.onesKeyframe] ∧
      (Layout.ofBytes (encode [0x63, 0x61, 0, 0x6d] [{ frame := 30 }, Track.onesKeyframe])).result
        = .ok (layout [0x63, 0x61, 0, 0x6d] 2) := by
  have hlen : (encode [0x63, 0x61, 0, 0x6d] [{ frame := 30 }, Track.onesKeyframe]).length
      < 2 ^ 63 := by
    rw [length_encode]
    decide
  obtain ⟨-, htrack, -, hlayout⟩ := result_ofBytes_encode hlen
  exact ⟨hlen, htrack, hlayout (by decide)⟩

end CameraScript.Motion.File
