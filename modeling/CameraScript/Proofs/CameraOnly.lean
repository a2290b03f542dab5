import CameraScript.Proofs.File
import CameraScript.Script
import Mathlib.Data.List.TakeWhile

/-!
# Reducing a file to its camera track

The reduced file is in a normal form: a name without NULs that fits its field, and no more
keyframes than a word counts. What is written in this form is read back as it is, so reducing
a file twice is reducing it once.

* `File.InNormalForm`: names and tracks that a file can hold. `File.inNormalForm_of_read`: those
  that are read from a file are of this kind.
* `File.result_layout_encode`, `File.result_track_encode`: they are read back.
* `File.result_cameraOnly_eq_ok_iff`: the outcome of a reduction, and
  `File.result_cameraOnly_encode`: that of a file in normal form is the file itself.
* `File.cameraOnly_keeps_track`: a reduction fails where the track cannot be read, and keeps the
  track, the name and every script that is compiled from the file.
-/

namespace CameraScript

theorem Bytes.beforeNul_beforeNul (field : Bytes) :
    Bytes.beforeNul (Bytes.beforeNul field) = Bytes.beforeNul field :=
  List.takeWhile_idem

namespace Motion.File

variable {data out name : Bytes} {keyframes : List Keyframe}

/-! ## Normal form -/

/-- The name fits its field and has no NUL, and the keyframes are counted by a word. -/
structure InNormalForm (name : Bytes) (keyframes : List Keyframe) : Prop where
  name_eq : Bytes.beforeNul (name.take nameSize) = name
  length_lt : keyframes.length < 2 ^ 32

theorem beforeNul_take_modelNameOf (data : Bytes) :
    Bytes.beforeNul ((Layout.modelNameOf data).take nameSize) = Layout.modelNameOf data := by
  have hle : (Layout.modelNameOf data).length ≤ nameSize :=
    Nat.le_trans (List.takeWhile_prefix _).length_le (List.length_take_le nameSize _)
  rw [List.take_of_length_le hle]
  exact Bytes.beforeNul_beforeNul _

/-- What is read from a file is in normal form. -/
theorem inNormalForm_of_read (hlen : data.length < 2 ^ 63) {layout : Layout}
    (hlayout : (Layout.ofBytes data).result = .ok layout)
    (htrack : (Track.ofBytes data).result = .ok keyframes) :
    InNormalForm layout.modelName keyframes where
  name_eq := by
    obtain ⟨-, c, -, rfl⟩ := (Layout.result_ofBytes_eq_ok_iff hlen).1 hlayout
    exact beforeNul_take_modelNameOf data
  length_lt := by
    obtain ⟨-, c, -, hold⟩ := (Track.result_ofBytes_eq_ok_iff hlen).1 htrack
    rw [hold.length_eq]
    exact c.cameras.toNat_lt

theorem length_encode_lt (h : keyframes.length < 2 ^ 32) (name : Bytes) :
    (encode name keyframes).length < 2 ^ 63 := by
  rw [length_encode]
  omega

theorem result_track_encode (h : keyframes.length < 2 ^ 32) (name : Bytes) :
    (Track.ofBytes (encode name keyframes)).result = .ok keyframes := by
  have hparts := toBytes_parts name keyframes
  have hhold := holdTrack_parts name keyframes
  rw [(take_length_mod_eq_self_iff keyframes).2 h] at hhold
  rw [← hparts]
  exact Track.result_ofBytes_toBytes (hparts ▸ length_encode_lt h name) hhold

theorem result_layout_encode (h : keyframes.length < 2 ^ 32) (name : Bytes) :
    (Layout.ofBytes (encode name keyframes)).result = .ok (layout name keyframes.length) := by
  have hlen := length_encode_lt h name
  rw [Layout.result_ofBytes_eq_ok_iff hlen, ← ofCounts_encode hlen h, ← toBytes_parts]
  exact ⟨(parts name keyframes).take_toBytes, (parts name keyframes).counts,
    (parts name keyframes).stored_toBytes, rfl⟩

/-! ## Reduction -/

theorem result_cameraOnly (data : Bytes) :
    (cameraOnly data).result = (Layout.ofBytes data).result >>= fun layout => do
      return encode layout.modelName (← Track.decode data layout.camera) := by
  simp only [cameraOnly, Logged.result_bind, Logged.result_ofExcept, Logged.result_pure]
  rfl

theorem result_cameraOnly_eq_ok_iff :
    (cameraOnly data).result = .ok out ↔
      ∃ layout keyframes, (Layout.ofBytes data).result = .ok layout ∧
        (Track.ofBytes data).result = .ok keyframes ∧ encode layout.modelName keyframes = out := by
  rw [result_cameraOnly, Except.bind_eq_ok_iff, Track.result_ofBytes]
  constructor
  · rintro ⟨layout, hlayout, h⟩
    obtain ⟨keyframes, hdecode, hout⟩ := Except.map_eq_ok_iff.1 h
    exact ⟨layout, keyframes, hlayout, Except.bind_eq_ok_iff.2 ⟨layout, hlayout, hdecode⟩, hout⟩
  · rintro ⟨layout, keyframes, hlayout, htrack, hout⟩
    rw [hlayout] at htrack
    exact ⟨layout, hlayout, Except.map_eq_ok_iff.2 ⟨keyframes, htrack, hout⟩⟩

/-- The reduction fails where the track cannot be read. -/
theorem result_cameraOnly_eq_error_iff {fault : Fault} :
    (cameraOnly data).result = .error fault ↔ (Track.ofBytes data).result = .error fault := by
  rw [result_cameraOnly, Track.result_ofBytes, Except.bind_eq_error_iff,
    Except.bind_eq_error_iff]
  simp only [Except.map_eq_error_iff]

/-- A file in normal form is not changed. -/
theorem result_cameraOnly_encode (h : InNormalForm name keyframes) :
    (cameraOnly (encode name keyframes)).result = .ok (encode name keyframes) := by
  refine result_cameraOnly_eq_ok_iff.2 ⟨_, _, result_layout_encode h.length_lt name,
    result_track_encode h.length_lt name, ?_⟩
  rw [show (layout name keyframes.length).modelName = name from h.name_eq]

end Motion.File

theorem Script.result_ofBytes (settings : Settings) (counter : String) (data : Bytes) :
    (Script.ofBytes settings counter data).result =
      (Motion.Track.ofBytes data).result >>= fun keyframes =>
        (Script.compile settings counter keyframes).result :=
  Logged.result_bind _ _

namespace Motion.File

/-- **Reducing a file to its camera track.** It fails as reading the track does. The reduced file
has the track and the name of the file, is not changed by another reduction, and is compiled to
the same script, or fails to be compiled for the same reason. -/
theorem cameraOnly_keeps_track {data : Bytes} (hlen : data.length < 2 ^ 63) :
    (∀ fault, (cameraOnly data).result = .error fault ↔
      (Track.ofBytes data).result = .error fault) ∧
    ∀ out, (cameraOnly data).result = .ok out →
      (Track.ofBytes out).result = (Track.ofBytes data).result ∧
      (∃ layout layout', (Layout.ofBytes data).result = .ok layout ∧
        (Layout.ofBytes out).result = .ok layout' ∧ layout'.modelName = layout.modelName) ∧
      (cameraOnly out).result = .ok out ∧
      ∀ (settings : Settings) (counter : String),
        (Script.ofBytes settings counter out).result =
          (Script.ofBytes settings counter data).result := by
  refine ⟨fun fault => result_cameraOnly_eq_error_iff, fun out h => ?_⟩
  obtain ⟨found, keyframes, hlayout, htrack, rfl⟩ := result_cameraOnly_eq_ok_iff.1 h
  have hnormal := inNormalForm_of_read hlen hlayout htrack
  have hkept : (Track.ofBytes (encode found.modelName keyframes)).result
      = (Track.ofBytes data).result := by
    rw [result_track_encode hnormal.length_lt, htrack]
  refine ⟨hkept, ⟨found, _, hlayout, result_layout_encode hnormal.length_lt _, hnormal.name_eq⟩,
    result_cameraOnly_encode hnormal, fun settings counter => ?_⟩
  rw [Script.result_ofBytes, Script.result_ofBytes, hkept]

/-- A file with junk behind the NUL of its name and in every other place. -/
def junkBehindName : Parts :=
  { Track.junkParts with
    name := [0x61, 0] ++ List.replicate 18 0x42
    length_name := rfl }

theorem cameraOnly_junkBehindName :
    junkBehindName.toBytes.length < 2 ^ 63 ∧
      (cameraOnly junkBehindName.toBytes).result =
        .ok (encode [0x61] [{ frame := 30 }, Track.onesKeyframe]) ∧
      (Track.ofBytes (encode [0x61] [{ frame := 30 }, Track.onesKeyframe])).result =
        (Track.ofBytes junkBehindName.toBytes).result ∧
      (cameraOnly (encode [0x61] [{ frame := 30 }, Track.onesKeyframe])).result =
        .ok (encode [0x61] [{ frame := 30 }, Track.onesKeyframe]) ∧
      ∀ (settings : Settings) (counter : String),
        (Script.ofBytes settings counter
          (encode [0x61] [{ frame := 30 }, Track.onesKeyframe])).result =
          (Script.ofBytes settings counter junkBehindName.toBytes).result := by
  have hlen : junkBehindName.toBytes.length < 2 ^ 63 := by decide +kernel
  have hout : (cameraOnly junkBehindName.toBytes).result =
      .ok (encode [0x61] [{ frame := 30 }, Track.onesKeyframe]) := by decide +kernel
  obtain ⟨-, hreduced⟩ := cameraOnly_keeps_track hlen
  obtain ⟨htrack, -, hsame, hscript⟩ := hreduced _ hout
  exact ⟨hlen, hout, htrack, hsame, hscript⟩

end Motion.File

end CameraScript
