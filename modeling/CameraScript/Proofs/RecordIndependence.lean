import CameraScript.Proofs.Refusal

/-!
# What one keyframe depends on

A keyframe of a file is decided by the signature, the three counts before the camera records and
its own record. All other bytes are free: padding, name, bones, morphs, the other keyframes and
whatever is behind the track.

* `Bytes.AgreeAt`: two files with the same bytes at some offsets. `Bytes.agreeAt_iff`: the same
  slices can be cut from them.
* `Counts.Stored.of_agreeAt`: two files that agree in their counts have the same sections.
* `AgreeOnKeyframe`: two files that agree in everything that decides one keyframe.
* `Track.exists_keyframe_of_agreeOnKeyframe`: they have the same keyframe there, and as many.
-/

namespace CameraScript

/-! ## Files that agree in part -/

namespace Bytes

/-- The files have the same `size` bytes at `offset`. -/
def AgreeAt (data data' : Bytes) (offset size : Nat) : Prop :=
  ∀ i < size, data'[offset + i]? = data[offset + i]?

variable {data data' : Bytes} {offset size : Nat}

theorem agreeAt_iff :
    AgreeAt data data' offset size ↔
      (data'.drop offset).take size = (data.drop offset).take size := by
  constructor
  · intro h
    apply List.ext_getElem?
    intro i
    rw [List.getElem?_take, List.getElem?_take, List.getElem?_drop, List.getElem?_drop]
    split
    · next hi => exact h i hi
    · rfl
  · intro h i hi
    have hget := congrArg (fun slice : Bytes => slice[i]?) h
    simpa only [List.getElem?_take_of_lt hi, List.getElem?_drop] using hget

instance : Decidable (AgreeAt data data' offset size) := decidable_of_iff _ agreeAt_iff.symm

theorem AgreeAt.word?_eq (h : AgreeAt data data' offset 4) :
    data'.word? offset = data.word? offset := by
  apply Option.ext
  intro w
  rw [word?_eq_some_iff, word?_eq_some_iff, agreeAt_iff.1 h]

end Bytes

namespace Motion

variable {data data' : Bytes} {c : Counts}

/-! ## Where the records lie -/

theorem Counts.Stored.of_agreeAt (hc : c.Stored data)
    (hbones : data.AgreeAt data' Counts.boneOffset 4)
    (hmorphs : data.AgreeAt data' c.morphOffset 4)
    (hcameras : data.AgreeAt data' c.cameraOffset 4) : c.Stored data' where
  bones := hbones.word?_eq.trans hc.bones
  morphs := hmorphs.word?_eq.trans hc.morphs
  cameras := hcameras.word?_eq.trans hc.cameras

/-- The counts of a file say where the keyframes that are read from it lie. -/
theorem Track.holdTrack_of_stored (hlen : data.length < 2 ^ 63)
    (hsig : data.take signature.length = signature) (hc : c.Stored data)
    {keyframes : List Keyframe} (h : (ofBytes data).result = .ok keyframes) :
    c.HoldTrack data keyframes := by
  have hlayout : (Layout.ofBytes data).result = .ok (Layout.ofCounts data c) :=
    (Layout.result_ofBytes_eq_ok_iff hlen).2 ⟨hsig, c, hc, rfl⟩
  rw [result_ofBytes, hlayout] at h
  exact (decode_ofCounts_eq_ok_iff hlen hc).1 h

/-! ## One keyframe -/

/-- Two files of one length agree in everything that decides the keyframe at `i`: in the
signature, in the counts before the bone, morph and camera records, and in its own record. -/
structure AgreeOnKeyframe (layout : Layout) (i : Nat) (data data' : Bytes) : Prop where
  length_eq : data'.length = data.length
  signature : data.AgreeAt data' 0 25
  boneCount : data.AgreeAt data' (layout.bone.start.toNat - 4) 4
  morphCount : data.AgreeAt data' (layout.morph.start.toNat - 4) 4
  cameraCount : data.AgreeAt data' (layout.camera.start.toNat - 4) 4
  record : data.AgreeAt data' (layout.camera.start.toNat + 61 * i) 61

/-- **Keyframes are independent.** Take a file with a track, and any file of the same length
that agrees with it in the signature, the three counts and one record of the track. It has a
track of as many keyframes, and the keyframe of this record is the same in both, whatever the
other bytes are. -/
theorem Track.exists_keyframe_of_agreeOnKeyframe (hlen : data.length < 2 ^ 63) {layout : Layout}
    (hlayout : (Layout.ofBytes data).result = .ok layout) {keyframes : List Keyframe}
    (htrack : (ofBytes data).result = .ok keyframes) {i : Nat} (hi : i < keyframes.length)
    (h : AgreeOnKeyframe layout i data data') :
    ∃ keyframes', (ofBytes data').result = .ok keyframes' ∧
      keyframes'.length = keyframes.length ∧ keyframes'[i]? = some keyframes[i] := by
  obtain ⟨hsig, c, hc, rfl⟩ := (Layout.result_ofBytes_eq_ok_iff hlen).1 hlayout
  obtain ⟨hlength, hsignature, hbones, hmorphs, hcameras, hrecord⟩ := h
  obtain ⟨hbone, hmorph, hcamera⟩ := Layout.start_ofCounts hlen hc
  rw [hbone, Nat.add_sub_cancel] at hbones
  rw [hmorph, Nat.add_sub_cancel] at hmorphs
  rw [hcamera, Nat.add_sub_cancel] at hcameras
  rw [hcamera] at hrecord
  have hold := holdTrack_of_stored hlen hsig hc htrack
  -- The other file has the same counts at the same places, and no record of it is refused.
  have hlen' : data'.length < 2 ^ 63 := hlength ▸ hlen
  have hsig' : data'.take signature.length = signature :=
    (Bytes.agreeAt_iff.1 hsignature).trans hsig
  have hc' : c.Stored data' := hc.of_agreeAt hbones hmorphs hcameras
  obtain ⟨keyframes', htrack'⟩ :=
    exists_result_ofBytes hlen' hsig' hc' (hlength ▸ hold.stop_le)
  have hold' := holdTrack_of_stored hlen' hsig' hc' htrack'
  have hcount : keyframes'.length = keyframes.length := hold'.length_eq.trans hold.length_eq.symm
  have hi' : i < keyframes'.length := hcount ▸ hi
  have hread := hold'.read i hi'
  rw [Bytes.agreeAt_iff.1 hrecord, hold.read i hi] at hread
  have hkeyframe : keyframes[i] = keyframes'[i] := congrArg Prod.fst (Except.ok.inj hread)
  exact ⟨keyframes', htrack', hcount, by rw [List.getElem?_eq_getElem hi', hkeyframe]⟩

/-- The places of the sections of `Track.junkParts`. -/
def junkPartsLayout : Layout where
  modelName := List.replicate 20 0x41
  header := Layout.headerSection
  bone := { kind := .bone, count := 1, start := 54, recordSize := 111 }
  morph := { kind := .morph, count := 1, start := 169, recordSize := 23 }
  camera := { kind := .camera, count := 2, start := 196, recordSize := 61 }
  light := none
  shadow := none
  ik := none

/-- The same counts and the same first keyframe, and other bytes in every other place. -/
def otherJunkParts : Parts where
  padding := List.replicate 5 0xff
  name := List.replicate 20 0x42
  counts := Track.junkParts.counts
  boneRecords := List.replicate 111 0xab
  morphRecords := List.replicate 23 0xbc
  cameraRecords := Keyframe.toBytes { frame := 30 } ++ List.replicate 61 0xfe
  tail := [0xad, 0xde]
  length_padding := rfl
  length_name := rfl
  length_boneRecords := rfl
  length_morphRecords := rfl
  length_cameraRecords := rfl

theorem Track.exists_keyframe_otherJunkParts :
    junkParts.toBytes.length < 2 ^ 63 ∧
      (Layout.ofBytes junkParts.toBytes).result = .ok junkPartsLayout ∧
      (ofBytes junkParts.toBytes).result = .ok [{ frame := 30 }, onesKeyframe] ∧
      AgreeOnKeyframe junkPartsLayout 0 junkParts.toBytes otherJunkParts.toBytes ∧
      ∃ keyframes, (ofBytes otherJunkParts.toBytes).result = .ok keyframes ∧
        keyframes.length = 2 ∧ keyframes[0]? = some { frame := 30 } := by
  have hlen : junkParts.toBytes.length < 2 ^ 63 := by decide +kernel
  have hlayout : (Layout.ofBytes junkParts.toBytes).result = .ok junkPartsLayout := by
    decide +kernel
  have htrack : (ofBytes junkParts.toBytes).result = .ok [{ frame := 30 }, onesKeyframe] := by
    decide +kernel
  have hagree : AgreeOnKeyframe junkPartsLayout 0 junkParts.toBytes otherJunkParts.toBytes :=
    ⟨by decide +kernel, by decide +kernel, by decide +kernel, by decide +kernel,
      by decide +kernel, by decide +kernel⟩
  exact ⟨hlen, hlayout, htrack, hagree,
    exists_keyframe_of_agreeOnKeyframe hlen hlayout htrack (Nat.succ_pos 1) hagree⟩

end Motion

end CameraScript
