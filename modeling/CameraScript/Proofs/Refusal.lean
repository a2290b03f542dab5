import CameraScript.Proofs.Track

/-!
# Which files are refused, and for what

Whether a file is refused, and for which of its sections, is decided by its signature, its
length and the three counts in it. The first section that asks for more bytes than the file
has is the one that is named.

* `Bytes.number`: the number in four bytes of a file.
* `Layout.demands`: how long a file must be for each section that it must have, and
  `Layout.cameraEnd`: how long for its camera records.
* `refusal?`: the first demand that is not met.
* `Layout.result_ofBytes_or_refusal?`: a file has a layout or is refused.
* `Track.result_ofBytes_eq_error_iff`: the failures of both readers.
-/

namespace CameraScript

/-! ## Counts as numbers -/

namespace Bytes

/-- The number in the four bytes at `offset`, least significant byte first. Bytes behind the
end count as zero. -/
def number (data : Bytes) (offset : Nat) : Nat :=
  (data.getD offset 0).toNat + 0x100 * (data.getD (offset + 1) 0).toNat
    + 0x10000 * (data.getD (offset + 2) 0).toNat + 0x1000000 * (data.getD (offset + 3) 0).toNat

theorem number_eq_toNat {data : Bytes} {offset : Nat} {w : UInt32}
    (h : data.word? offset = some w) : data.number offset = w.toNat := by
  have hget (i : Nat) : data[offset + i]? = (data.drop offset)[i]? := List.getElem?_drop.symm
  have hfirst := hget 0
  rw [Nat.add_zero] at hfirst
  unfold word? at h
  split at h
  · next b₀ b₁ b₂ b₃ rest hdrop =>
    cases h
    simp only [number, List.getD_eq_getElem?_getD, hfirst, hget, hdrop]
    exact (Word.toNat_ofBytes b₀ b₁ b₂ b₃).symm
  · cases h

theorem word?_eq_none {data : Bytes} {offset : Nat} (h : data.length < offset + 4) :
    data.word? offset = none := by
  rw [← Option.not_isSome_iff_eq_none, isSome_word?_iff]
  omega

theorem exists_word? {data : Bytes} {offset : Nat} (h : offset + 4 ≤ data.length) :
    ∃ w, data.word? offset = some w ∧ w.toNat = data.number offset := by
  obtain ⟨w, hw⟩ := Option.isSome_iff_exists.1 (isSome_word?_iff.2 h)
  exact ⟨w, hw, (number_eq_toNat hw).symm⟩

end Bytes

namespace Motion

/-! ## What a file must have -/

namespace Layout

/-- The number of bones that a file gives. -/
def boneCount (data : Bytes) : Nat := data.number 50

/-- The number of morphs that a file gives behind its bones. -/
def morphCount (data : Bytes) : Nat := data.number (54 + 111 * boneCount data)

/-- The number of camera records that a file gives behind its morphs. -/
def cameraCount (data : Bytes) : Nat :=
  data.number (58 + 111 * boneCount data + 23 * morphCount data)

/-- The sections that a file must have, in order, and the length that it needs for the count of
each. Records have to be there only so far as a later count is behind them. -/
def demands (data : Bytes) : List (SectionKind × Nat) :=
  [(.header, 50), (.bone, 54), (.morph, 58 + 111 * boneCount data),
    (.camera, 62 + 111 * boneCount data + 23 * morphCount data)]

/-- The offset behind the camera records. -/
def cameraEnd (data : Bytes) : Nat :=
  62 + 111 * boneCount data + 23 * morphCount data + 61 * cameraCount data

end Layout

/-- Why a file is refused: it lacks the signature, or else ends before the first of these
demands is met. -/
def refusal? (data : Bytes) (demands : List (SectionKind × Nat)) : Option Fault :=
  if data.take signature.length = signature then
    (demands.find? fun demand => data.length < demand.2).map fun demand => .truncated demand.1
  else
    some .invalidFormat

theorem mem_of_refusal? {data : Bytes} {demands : List (SectionKind × Nat)} {fault : Fault}
    (h : refusal? data demands = some fault) :
    fault ∈ .invalidFormat :: demands.map fun demand => .truncated demand.1 := by
  unfold refusal? at h
  split at h
  · obtain ⟨demand, hfind, rfl⟩ := Option.map_eq_some_iff.1 h
    exact List.mem_cons_of_mem _ (List.mem_map_of_mem (List.mem_of_find?_eq_some hfind))
  · cases h
    exact List.mem_cons_self

theorem refusal?_nil {data : Bytes} (hsig : data.take signature.length = signature) :
    refusal? data [] = none := by
  rw [refusal?, if_pos hsig]
  rfl

theorem refusal?_cons {data : Bytes} (hsig : data.take signature.length = signature)
    (kind : SectionKind) (length : Nat) (demands : List (SectionKind × Nat)) :
    refusal? data ((kind, length) :: demands) =
      if data.length < length then some (.truncated kind) else refusal? data demands := by
  rw [refusal?, refusal?, if_pos hsig, if_pos hsig]
  by_cases hlt : data.length < length
  · rw [if_pos hlt, List.find?_cons_of_pos (by simpa using hlt)]
    rfl
  · rw [if_neg hlt, List.find?_cons_of_neg (by simpa using hlt)]

/-! ## The sections -/

namespace Counts

variable {c : Counts} {data : Bytes}

theorem Stored.morphOffset_eq (h : c.Stored data) :
    c.morphOffset = 54 + 111 * Layout.boneCount data := by
  have hbones : data.number 50 = c.bones.toNat := Bytes.number_eq_toNat h.bones
  rw [morphOffset, Layout.boneCount, hbones]

theorem Stored.cameraOffset_eq (h : c.Stored data) :
    c.cameraOffset = 58 + 111 * Layout.boneCount data + 23 * Layout.morphCount data := by
  have hmorphs := Bytes.number_eq_toNat h.morphs
  rw [h.morphOffset_eq] at hmorphs
  rw [cameraOffset, h.morphOffset_eq, Layout.morphCount, hmorphs]
  omega

theorem Stored.cameraStop_eq (h : c.Stored data) : c.cameraStop = Layout.cameraEnd data := by
  have hcameras := Bytes.number_eq_toNat h.cameras
  rw [h.cameraOffset_eq] at hcameras
  rw [cameraStop, h.cameraOffset_eq, Layout.cameraEnd, Layout.cameraCount, hcameras]
  omega

end Counts

namespace Layout

theorem result_ofBytes_of_take_ne {data : Bytes}
    (h : data.take signature.length ≠ signature) :
    (ofBytes data).result = .error .invalidFormat := by
  rw [ofBytes, if_pos h]
  rfl

theorem result_ofBytes_header {data : Bytes} (hsig : data.take signature.length = signature)
    (h : data.length < 50) : (ofBytes data).result = .error (.truncated .header) := by
  rw [ofBytes, if_neg (not_not.2 hsig), length_header, Counts.boneOffset, if_pos h]
  rfl

theorem result_ofBytes_eq_result_walk {data : Bytes}
    (hsig : data.take signature.length = signature) (h : 50 ≤ data.length) :
    (ofBytes data).result = (walk data).result := by
  rw [ofBytes, if_neg (not_not.2 hsig), length_header, Counts.boneOffset,
    if_neg (Nat.not_lt.2 h)]

theorem result_walk_bone {data : Bytes} (hlen : data.length < 2 ^ 63) (h : data.length < 54) :
    (walk data).result = .error (.truncated .bone) := by
  have hnone : data.word? Counts.boneOffset = none := Bytes.word?_eq_none h
  rw [result_walk hlen, hnone]

theorem result_walk_morph {data : Bytes} (hlen : data.length < 2 ^ 63) {bones : UInt32}
    (hbones : data.word? Counts.boneOffset = some bones)
    (h : data.length < 58 + 111 * bones.toNat) :
    (walk data).result = .error (.truncated .morph) := by
  have hnone : data.word? (54 + 111 * bones.toNat) = none := Bytes.word?_eq_none (by omega)
  simp only [result_walk hlen, hbones, hnone]

theorem result_walk_camera {data : Bytes} (hlen : data.length < 2 ^ 63) {bones morphs : UInt32}
    (hbones : data.word? Counts.boneOffset = some bones)
    (hmorphs : data.word? (54 + 111 * bones.toNat) = some morphs)
    (h : data.length < 62 + 111 * bones.toNat + 23 * morphs.toNat) :
    (walk data).result = .error (.truncated .camera) := by
  have hnone : data.word? (54 + 111 * bones.toNat + 4 + 23 * morphs.toNat) = none :=
    Bytes.word?_eq_none (by omega)
  simp only [result_walk hlen, hbones, hmorphs, hnone]

/-- A file has a layout, or it is refused for the first demand that it does not meet. -/
theorem result_ofBytes_or_refusal? {data : Bytes} (hlen : data.length < 2 ^ 63) :
    (∃ fault, refusal? data (demands data) = some fault ∧
      (ofBytes data).result = .error fault) ∨
    (refusal? data (demands data) = none ∧ ∃ layout, (ofBytes data).result = .ok layout) := by
  by_cases hsig : data.take signature.length = signature
  · simp only [demands, refusal?_cons hsig, refusal?_nil hsig]
    by_cases hheader : data.length < 50
    · exact .inl ⟨_, if_pos hheader, result_ofBytes_header hsig hheader⟩
    rw [if_neg hheader, result_ofBytes_eq_result_walk hsig (Nat.le_of_not_lt hheader)]
    by_cases hbone : data.length < 54
    · exact .inl ⟨_, if_pos hbone, result_walk_bone hlen hbone⟩
    obtain ⟨bones, hbones, hboneCount⟩ :=
      Bytes.exists_word? (show 50 + 4 ≤ data.length from Nat.le_of_not_lt hbone)
    rw [if_neg hbone, morphCount, boneCount, ← hboneCount]
    by_cases hmorph : data.length < 58 + 111 * bones.toNat
    · exact .inl ⟨_, if_pos hmorph, result_walk_morph hlen hbones hmorph⟩
    obtain ⟨morphs, hmorphs, hmorphCount⟩ :=
      Bytes.exists_word? (show 54 + 111 * bones.toNat + 4 ≤ data.length by omega)
    rw [if_neg hmorph, ← hmorphCount]
    by_cases hcamera : data.length < 62 + 111 * bones.toNat + 23 * morphs.toNat
    · exact .inl ⟨_, if_pos hcamera, result_walk_camera hlen hbones hmorphs hcamera⟩
    obtain ⟨cameras, hcameras, -⟩ := Bytes.exists_word?
      (show 54 + 111 * bones.toNat + 4 + 23 * morphs.toNat + 4 ≤ data.length by omega)
    refine .inr ⟨if_neg hcamera, ofCounts data ⟨bones, morphs, cameras⟩, ?_⟩
    simp only [result_walk hlen, show data.word? Counts.boneOffset = some bones from hbones,
      hmorphs, hcameras]
  · exact .inl ⟨_, if_neg hsig, result_ofBytes_of_take_ne hsig⟩

end Layout

/-! ## The track -/

namespace Track

variable {data : Bytes} {c : Counts}

/-- Every file whose camera records are all there has a track. -/
theorem exists_result_ofBytes (hlen : data.length < 2 ^ 63)
    (hsig : data.take signature.length = signature) (hc : c.Stored data)
    (hstop : c.cameraStop ≤ data.length) :
    ∃ keyframes, (ofBytes data).result = .ok keyframes := by
  have hcut := Parts.toBytes_cut hsig hc hstop
  obtain ⟨keyframes, htrack⟩ := (Parts.cut data c hstop).exists_holdTrack
  exact ⟨keyframes, hcut ▸ result_ofBytes_toBytes (hcut.symm ▸ hlen) htrack⟩

theorem decode_ofCounts_of_lt (hlen : data.length < 2 ^ 63) (hc : c.Stored data)
    (h : data.length < c.cameraStop) :
    decode data (Layout.ofCounts data c).camera = .error (.truncated .camera) := by
  rw [decode_eq hlen, Layout.extent_camera_ofCounts hlen hc, if_pos h]

/-- A file with a layout has a track, unless its camera records are not all there. -/
theorem result_ofBytes_or_lt (hlen : data.length < 2 ^ 63) {layout : Layout}
    (h : (Layout.ofBytes data).result = .ok layout) :
    (data.length < Layout.cameraEnd data ∧ (ofBytes data).result = .error (.truncated .camera)) ∨
    (Layout.cameraEnd data ≤ data.length ∧ ∃ keyframes, (ofBytes data).result = .ok keyframes) := by
  obtain ⟨hsig, c, hc, rfl⟩ := (Layout.result_ofBytes_eq_ok_iff hlen).1 h
  rw [← hc.cameraStop_eq]
  rcases Nat.lt_or_ge data.length c.cameraStop with hlt | hstop
  · refine .inl ⟨hlt, ?_⟩
    rw [result_ofBytes, h]
    exact decode_ofCounts_of_lt hlen hc hlt
  · exact .inr ⟨hstop, exists_result_ofBytes hlen hsig hc hstop⟩

theorem result_ofBytes_of_layout_error {fault : Fault}
    (h : (Layout.ofBytes data).result = .error fault) : (ofBytes data).result = .error fault := by
  rw [result_ofBytes, h]
  rfl

/-- **Refused files.** The sections of a file of less than `2 ^ 63` bytes are found unless it is
refused for its signature or for the first of its four demands that it does not meet. Its
track is then read as well, unless the file ends before its last camera record does. There
are no other failures. -/
theorem result_ofBytes_eq_error_iff (hlen : data.length < 2 ^ 63) :
    (∀ fault, (Layout.ofBytes data).result = .error fault ↔
      refusal? data (Layout.demands data) = some fault) ∧
    ((∃ layout, (Layout.ofBytes data).result = .ok layout) ↔
      refusal? data (Layout.demands data) = none) ∧
    (∀ fault, (Layout.ofBytes data).result = .error fault →
      (ofBytes data).result = .error fault) ∧
    (∀ layout, (Layout.ofBytes data).result = .ok layout →
      (∀ fault, (ofBytes data).result = .error fault ↔
        data.length < Layout.cameraEnd data ∧ fault = .truncated .camera) ∧
      ((∃ keyframes, (ofBytes data).result = .ok keyframes) ↔
        Layout.cameraEnd data ≤ data.length)) ∧
    (∀ fault, (ofBytes data).result = .error fault →
      fault ∈ [.invalidFormat, .truncated .header, .truncated .bone, .truncated .morph,
        .truncated .camera]) := by
  obtain ⟨herror, hok⟩ :=
    Except.eq_error_iff_and_exists_ok_iff (Layout.result_ofBytes_or_refusal? hlen)
  refine ⟨herror, hok, fun fault => result_ofBytes_of_layout_error, fun layout h => ?_,
    fun fault h => ?_⟩
  · rcases result_ofBytes_or_lt hlen h with ⟨hlt, hresult⟩ | ⟨hle, keyframes, hresult⟩
    · simp [hresult, hlt, eq_comm]
    · simp [hresult, hle]
  · cases hlayout : (Layout.ofBytes data).result with
    | error fault' =>
      have hsame := (result_ofBytes_of_layout_error hlayout).symm.trans h
      cases hsame
      exact mem_of_refusal? ((herror fault).1 hlayout)
    | ok layout =>
      rcases result_ofBytes_or_lt hlen hlayout with ⟨-, hresult⟩ | ⟨-, keyframes, hresult⟩
      · cases hresult.symm.trans h
        decide
      · cases hresult.symm.trans h

/-- A file that ends with the largest possible count behind so many zeros. -/
def endingInCount (zeros : Nat) : Bytes :=
  signature ++ List.replicate zeros 0 ++ List.replicate 4 0xff

/-- The count of bones puts the morphs out of reach, that of the cameras only the track. -/
theorem result_ofBytes_endingInCount :
    (endingInCount 25).length < 2 ^ 63 ∧ (endingInCount 33).length < 2 ^ 63 ∧
      (ofBytes (endingInCount 25)).result = .error (.truncated .morph) ∧
      (∃ layout, (Layout.ofBytes (endingInCount 33)).result = .ok layout) ∧
      (ofBytes (endingInCount 33)).result = .error (.truncated .camera) := by
  have hlen : (endingInCount 25).length < 2 ^ 63 := by decide
  have hlen' : (endingInCount 33).length < 2 ^ 63 := by decide
  obtain ⟨herror, -, hsame, -⟩ := result_ofBytes_eq_error_iff hlen
  obtain ⟨-, hok, -, htrack, -⟩ := result_ofBytes_eq_error_iff hlen'
  obtain ⟨layout, hlayout⟩ := hok.2 (by decide)
  refine ⟨hlen, hlen', hsame _ ((herror _).2 (by decide)), ⟨layout, hlayout⟩, ?_⟩
  exact ((htrack layout hlayout).1 _).2 ⟨by decide, rfl⟩

end Track

end Motion

end CameraScript
