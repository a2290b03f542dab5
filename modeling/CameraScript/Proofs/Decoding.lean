import CameraScript.Proofs.Track

/-!
# Decoding a run of records from anywhere

The place of a run of records is three words, which may be any. Where its records would lie is
computed with clamped sums and products, but what decoding comes to is decided by the exact ones.

* `Track.obstacle?`: why a run of records is not decoded, from the length of the data and the
  place, in natural numbers.
* `Track.decodeBlock_of_length_lt`, `Track.exists_decodeBlock`: a block is a record exactly where
  it has 61 bytes.
* `Track.decode_or_obstacle?`: the records are decoded unless there is an obstacle.
* `Track.decode_outcome`: how decoding ends, and what is decoded.
-/

namespace CameraScript.Motion.Track

/-! ## One block -/

section Block

variable {block : Bytes}

theorem decodeBlock_of_length_lt (h : block.length < 61) :
    decodeBlock block = .error (.truncated .camera) := by
  obtain ⟨left, hread⟩ := Keyframe.consumes_read.error block h
  rw [decodeBlock, hread]

theorem exists_decodeBlock (h : 61 ≤ block.length) :
    ∃ keyframe, decodeBlock block = .ok keyframe := by
  obtain ⟨keyframe, hread⟩ := Keyframe.consumes_read.ok block h
  refine ⟨keyframe, ?_⟩
  rw [decodeBlock, hread]

/-- What is behind the first 61 bytes of a block plays no part. -/
theorem read_of_decodeBlock {data : Bytes} {size : Nat} {keyframe : Keyframe} (hsize : 61 ≤ size)
    (h : decodeBlock (data.take size) = .ok keyframe) :
    Keyframe.read data = .ok (keyframe, data.drop 61) := by
  rw [decodeBlock_eq_ok_iff, List.take_take, Nat.min_eq_left hsize] at h
  exact Keyframe.read_take_iff.1 h

end Block

/-! ## A run of blocks -/

section Blocks

variable {data : Bytes} {size count : Nat}

/-- Blocks that are too short for a record are refused, however many there are. -/
theorem mapM_decodeBlock_of_size_lt (hcount : count ≠ 0) (hsize : size < 61) :
    (Bytes.blocks size count data).mapM decodeBlock = .error (.truncated .camera) := by
  obtain ⟨count, rfl⟩ := Nat.exists_eq_succ_of_ne_zero hcount
  have hfirst : decodeBlock (data.take size) = .error (.truncated .camera) := by
    apply decodeBlock_of_length_lt
    exact Nat.lt_of_le_of_lt (List.length_take_le size data) hsize
  rw [Bytes.blocks, List.mapM_cons, hfirst]
  rfl

/-- No block of enough bytes is refused. -/
theorem exists_mapM_decodeBlock (hsize : 61 ≤ size) (hlength : size * count ≤ data.length) :
    ∃ keyframes, (Bytes.blocks size count data).mapM decodeBlock = .ok keyframes := by
  apply Except.exists_mapM_eq_ok
  intro block hblock
  obtain ⟨i, hi, rfl⟩ := List.getElem_of_mem hblock
  have hlt : i < count := by
    rw [Bytes.length_blocks] at hi
    exact hi
  have hstop : size * i + size ≤ data.length := by
    rw [← Nat.mul_succ]
    exact Nat.le_trans (Nat.mul_le_mul_left size hlt) hlength
  apply exists_decodeBlock
  rw [Bytes.getElem_blocks, Bytes.length_take_drop hstop]
  exact hsize

end Blocks

/-! ## A place -/

/-- Why the records at a place in data of this length are not decoded. -/
def obstacle? (length : Nat) (place : Section) : Option Fault :=
  if length < place.extent then some (.truncated .camera)
  else if place.recordSize.toNat = 0 then some .emptyBlock
  else if place.count.toNat = 0 then none
  else if place.recordSize.toNat < 61 then some (.truncated .camera)
  else none

variable {data : Bytes} {place : Section}

theorem decode_or_obstacle? (hlen : data.length < 2 ^ 63) (place : Section) :
    (∃ fault, obstacle? data.length place = some fault ∧ decode data place = .error fault) ∨
    (obstacle? data.length place = none ∧ ∃ keyframes, decode data place = .ok keyframes) := by
  rw [decode_eq hlen, obstacle?]
  by_cases hextent : data.length < place.extent
  · exact .inl ⟨_, if_pos hextent, if_pos hextent⟩
  · rw [if_neg hextent, if_neg hextent]
    by_cases hzero : place.recordSize.toNat = 0
    · exact .inl ⟨_, if_pos hzero, if_pos hzero⟩
    · rw [if_neg hzero, if_neg hzero]
      by_cases hcount : place.count.toNat = 0
      · -- Without records their size is of no account.
        refine .inr ⟨if_pos hcount, [], ?_⟩
        rw [hcount]
        rfl
      · rw [if_neg hcount]
        by_cases hsize : place.recordSize.toNat < 61
        · exact .inl ⟨_, if_pos hsize, mapM_decodeBlock_of_size_lt hcount hsize⟩
        · refine .inr ⟨if_neg hsize, exists_mapM_decodeBlock (Nat.le_of_not_lt hsize) ?_⟩
          rw [Section.extent, Nat.mul_comm] at hextent
          rw [List.length_drop]
          omega

theorem size_of_obstacle?_eq_none (h : obstacle? data.length place = none) :
    place.extent ≤ data.length ∧ place.recordSize ≠ 0 ∧
      (place.count.toNat = 0 ∨ 61 ≤ place.recordSize.toNat) := by
  unfold obstacle? at h
  split at h
  · cases h
  split at h
  · cases h
  next hextent hzero =>
  refine ⟨Nat.le_of_not_lt hextent, fun heq => hzero (by rw [heq]; rfl), ?_⟩
  split at h
  · next hcount => exact .inl hcount
  split at h
  · cases h
  · next hsize => exact .inr (Nat.le_of_not_lt hsize)

/-- **Decoding a run of records.** Whatever the three words of its place are, decoding fails for
the first obstacle that there is in exact numbers, and succeeds where there is none. It then
gives one keyframe for each record, which is read from the first 61 bytes of the record. A run
that is cut into blocks of no bytes stops the program. -/
theorem decode_outcome (hlen : data.length < 2 ^ 63) (place : Section) :
    (∀ fault, decode data place = .error fault ↔ obstacle? data.length place = some fault) ∧
      ((∃ keyframes, decode data place = .ok keyframes) ↔ obstacle? data.length place = none) ∧
      (∀ keyframes, decode data place = .ok keyframes →
        keyframes.length = place.count.toNat ∧
        ∀ i (h : i < keyframes.length),
          Keyframe.read (data.drop (place.start.toNat + i * place.recordSize.toNat)) =
            .ok (keyframes[i], data.drop (place.start.toNat + i * place.recordSize.toNat + 61))) ∧
      (data.length < place.stop.toNat ↔ data.length < place.extent) ∧
      Fault.emptyBlock.isAbort = true ∧
      Fault.emptyBlock.message = "chunk size must be non-zero" := by
  obtain ⟨herror, hok⟩ := Except.eq_error_iff_and_exists_ok_iff (decode_or_obstacle? hlen place)
  refine ⟨herror, hok, fun keyframes h => ?_, Section.lt_stop_iff (by omega), rfl, rfl⟩
  obtain ⟨-, hne, hsize⟩ := size_of_obstacle?_eq_none (hok.1 ⟨keyframes, h⟩)
  obtain ⟨-, hlength, hread⟩ := (decode_eq_ok_iff hlen hne).1 h
  refine ⟨hlength, fun i hi => ?_⟩
  have hrecord := read_of_decodeBlock (by omega : 61 ≤ place.recordSize.toNat) (hread i hi)
  rw [List.drop_drop, Nat.mul_comm] at hrecord
  exact hrecord

/-- A byte, and two records of 62 bytes. -/
def paddedRecords : Bytes :=
  0xde :: (Keyframe.toBytes { frame := 30 } ++ [0xad] ++ List.replicate 61 0xff ++ [0xbe])

/-- The records are decoded where they are. They are not if there are said to be more than any
data can hold, or if they are cut into blocks of no bytes or of 60. -/
theorem decode_paddedRecords :
    paddedRecords.length < 2 ^ 63 ∧
      (∃ keyframes, decode paddedRecords ⟨.ik, 2, 1, 62⟩ = .ok keyframes ∧
        keyframes.length = 2 ∧ keyframes[0]? = some { frame := 30 }) ∧
      decode paddedRecords ⟨.camera, 0x8000000000000000, 1, 62⟩ = .error (.truncated .camera) ∧
      decode paddedRecords ⟨.camera, 0x8000000000000000, 1, 0⟩ = .error .emptyBlock ∧
      decode paddedRecords ⟨.camera, 2, 1, 60⟩ = .error (.truncated .camera) := by
  have hlen : paddedRecords.length < 2 ^ 63 := by decide +kernel
  have houtcome (place : Section) := decode_outcome hlen place
  obtain ⟨keyframes, h⟩ := (houtcome ⟨.ik, 2, 1, 62⟩).2.1.2 (by decide +kernel)
  obtain ⟨hlength, hread⟩ := (houtcome _).2.2.1 keyframes h
  have hfirst : Keyframe.read (paddedRecords.drop 1) =
      .ok ({ frame := 30 }, paddedRecords.drop 62) := by decide +kernel
  have hpos : 0 < keyframes.length := hlength ▸ Nat.succ_pos 1
  have hkeyframe : keyframes[0] = { frame := 30 } :=
    congrArg Prod.fst (Except.ok.inj ((hread 0 hpos).symm.trans hfirst))
  refine ⟨hlen, ⟨keyframes, h, hlength, ?_⟩, ?_, ?_, ?_⟩
  · rw [List.getElem?_eq_getElem hpos, hkeyframe]
  · exact ((houtcome _).1 _).2 (by decide +kernel)
  · exact ((houtcome _).1 _).2 (by decide +kernel)
  · exact ((houtcome _).1 _).2 (by decide +kernel)

end CameraScript.Motion.Track
