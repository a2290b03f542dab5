import CameraScript.Proofs.File
import Mathlib.Order.Bounds.Basic

/-!
# Files in limited space

A file is written in separate writes. Where the space gives out, what is in it depends on what it
does with the write that does not fit: it is filled to the last byte, or holds the writes before.

* `File.store_append`: writes that fit are stored, and take their room.
* `File.exists_first_not_fitting`: the first write that does not fit.
* `File.ends`: where pieces of given sizes end when they lie one behind the other.
* `File.boundaries`: where the writes of a file end, in terms of the number of keyframes.
* `File.write_in_limited_space`: what is written, and how the writing ends.
-/

namespace CameraScript.Motion.File

/-! ## Storing writes -/

section Store

variable {space : Space} {room : Nat} {write : Bytes} {front rest writes : List Bytes}

theorem store_cons_of_le (h : write.length ≤ room) :
    store space room (write :: rest) =
      (write ++ (store space (room - write.length) rest).1,
        (store space (room - write.length) rest).2) := if_pos h

theorem store_cons_partialWrites (h : room < write.length) :
    store .partialWrites room (write :: rest) =
      (write.take room, some (.missing (write.length - room))) := if_neg (Nat.not_le_of_lt h)

theorem store_cons_wholeWrites (h : room < write.length) :
    store .wholeWrites room (write :: rest) = ([], some .refused) := if_neg (Nat.not_le_of_lt h)

theorem store_append (h : front.flatten.length ≤ room) :
    store space room (front ++ rest) =
      (front.flatten ++ (store space (room - front.flatten.length) rest).1,
        (store space (room - front.flatten.length) rest).2) := by
  induction front generalizing room with
  | nil => rfl
  | cons write front ih =>
    rw [List.flatten_cons, List.length_append] at h
    have hfits : write.length ≤ room := by omega
    have hfront : front.flatten.length ≤ room - write.length := by omega
    rw [List.cons_append, store_cons_of_le hfits, ih hfront, List.flatten_cons,
      List.length_append, List.append_assoc, Nat.sub_add_eq]

theorem store_of_le (h : writes.flatten.length ≤ room) :
    store space room writes = (writes.flatten, none) := by
  have hnil : store space (room - writes.flatten.length) [] = ([], none) := rfl
  have hstore : store space room (writes ++ []) = _ := store_append h
  rwa [List.append_nil, hnil, List.append_nil] at hstore

theorem exists_first_not_fitting (h : room < writes.flatten.length) :
    ∃ front write rest, writes = front ++ write :: rest ∧ front.flatten.length ≤ room ∧
      room < front.flatten.length + write.length := by
  induction writes generalizing room with
  | nil => cases h
  | cons write writes ih =>
    by_cases hfits : write.length ≤ room
    · rw [List.flatten_cons, List.length_append] at h
      obtain ⟨front, last, rest, rfl, hfront, hlast⟩ :=
        ih (show room - write.length < writes.flatten.length by omega)
      refine ⟨write :: front, last, rest, rfl, ?_, ?_⟩
      · rw [List.flatten_cons, List.length_append]
        omega
      · rw [List.flatten_cons, List.length_append]
        omega
    · refine ⟨[], write, writes, rfl, Nat.zero_le room, ?_⟩
      rw [List.flatten_nil, List.length_nil]
      omega

/-- A space that takes parts of writes is full in the end. -/
theorem store_partialWrites (hfront : front.flatten.length ≤ room)
    (hwrite : room < front.flatten.length + write.length) :
    store .partialWrites room (front ++ write :: rest) =
      ((front ++ write :: rest).flatten.take room,
        some (.missing (front.flatten.length + write.length - room))) := by
  have hover : room - front.flatten.length < write.length := by omega
  have htake : (write ++ rest.flatten).take (room - front.flatten.length) =
      write.take (room - front.flatten.length) := List.take_append_of_le_length (by omega)
  have hmissing : write.length - (room - front.flatten.length) =
      front.flatten.length + write.length - room := by omega
  rw [store_append hfront, store_cons_partialWrites hover, List.flatten_append, List.flatten_cons,
    List.take_append, List.take_of_length_le hfront, htake, hmissing]

/-- A space that takes whole writes only holds those before the first that does not fit. -/
theorem store_wholeWrites (hfront : front.flatten.length ≤ room)
    (hwrite : room < front.flatten.length + write.length) :
    store .wholeWrites room (front ++ write :: rest) =
      ((front ++ write :: rest).flatten.take front.flatten.length, some .refused) := by
  have hover : room - front.flatten.length < write.length := by omega
  rw [store_append hfront, store_cons_wholeWrites hover, List.flatten_append, List.take_left,
    List.append_nil]

end Store

/-! ## Boundaries -/

/-- The ends of pieces of these sizes that lie one behind the other from `offset` on. -/
def ends (offset : Nat) : (sizes : List Nat) → List Nat
  | [] => []
  | size :: sizes => (offset + size) :: ends (offset + size) sizes

section Ends

variable {offset b size room : Nat} {sizes before after : List Nat}

theorem le_foldl_add (offset : Nat) (sizes : List Nat) : offset ≤ sizes.foldl (· + ·) offset := by
  induction sizes generalizing offset with
  | nil => exact Nat.le_refl offset
  | cons size sizes ih => exact Nat.le_trans (Nat.le_add_right offset size) (ih _)

theorem foldl_add_map_length (offset : Nat) (writes : List Bytes) :
    (writes.map List.length).foldl (· + ·) offset = offset + writes.flatten.length := by
  induction writes generalizing offset with
  | nil => rfl
  | cons write writes ih =>
    rw [List.map_cons, List.foldl_cons, ih, List.flatten_cons, List.length_append, Nat.add_assoc]

theorem ends_append (offset : Nat) (before after : List Nat) :
    ends offset (before ++ after) =
      ends offset before ++ ends (before.foldl (· + ·) offset) after := by
  induction before generalizing offset with
  | nil => rfl
  | cons size before ih =>
    rw [List.cons_append, ends, ends, ih, List.foldl_cons, List.cons_append]

theorem bounds_of_mem_ends (h : b ∈ ends offset sizes) :
    offset ≤ b ∧ b ≤ sizes.foldl (· + ·) offset := by
  induction sizes generalizing offset with
  | nil => cases h
  | cons size sizes ih =>
    rw [List.foldl_cons]
    rcases List.mem_cons.1 h with rfl | h
    · exact ⟨Nat.le_add_right _ _, le_foldl_add _ _⟩
    · obtain ⟨hle, hge⟩ := ih h
      exact ⟨by omega, hge⟩

theorem foldl_add_mem_ends (h : sizes ≠ []) : sizes.foldl (· + ·) offset ∈ ends offset sizes := by
  induction sizes generalizing offset with
  | nil => exact absurd rfl h
  | cons size sizes ih =>
    rw [List.foldl_cons]
    by_cases hnil : sizes = []
    · rw [hnil]
      exact List.mem_cons_self
    · exact List.mem_cons_of_mem _ (ih hnil)

/-- The end of the piece across `room` is the first one behind `room`. -/
theorem isLeast_ends (hbefore : before.foldl (· + ·) 0 ≤ room)
    (hsize : room < before.foldl (· + ·) 0 + size) :
    IsLeast {b | b ∈ ends 0 (before ++ size :: after) ∧ room < b}
      (before.foldl (· + ·) 0 + size) := by
  rw [ends_append, ends]
  refine ⟨⟨List.mem_append_right _ List.mem_cons_self, hsize⟩, ?_⟩
  rintro b ⟨hb, hroom⟩
  rcases List.mem_append.1 hb with hb | hb
  · have hle := (bounds_of_mem_ends hb).2
    omega
  · rcases List.mem_cons.1 hb with rfl | hb
    · exact Nat.le_refl _
    · exact (bounds_of_mem_ends hb).1

/-- The end of the pieces before it is the last one that is not behind `room`. -/
theorem isGreatest_ends (hbefore : before.foldl (· + ·) 0 ≤ room)
    (hsize : room < before.foldl (· + ·) 0 + size) :
    IsGreatest {b | (b = 0 ∨ b ∈ ends 0 (before ++ size :: after)) ∧ b ≤ room}
      (before.foldl (· + ·) 0) := by
  rw [ends_append, ends]
  refine ⟨⟨?_, hbefore⟩, ?_⟩
  · by_cases hnil : before = []
    · exact .inl (by rw [hnil, List.foldl_nil])
    · exact .inr (List.mem_append_left _ (foldl_add_mem_ends hnil))
  · rintro b ⟨hb | hb, hroom⟩
    · omega
    · rcases List.mem_append.1 hb with hb | hb
      · exact (bounds_of_mem_ends hb).2
      · rcases List.mem_cons.1 hb with rfl | hb
        · omega
        · have hge := (bounds_of_mem_ends hb).1
          omega

end Ends

/-- The sizes of the separate writes of a record: frame, length, location and rotation, then the
curves byte by byte, then the view angle and the flag. -/
def recordSizes : List Nat := List.replicate 8 4 ++ List.replicate 24 1 ++ [4, 1]

/-- The sizes of the separate writes of a file: signature, padding, name and three counts, the
records, two counts. -/
def writeSizes (count : Nat) : List Nat :=
  [25, 5, 20, 4, 4, 4] ++ (List.replicate count recordSizes).flatten ++ [4, 4]

/-- Where the separate writes of a file with `count` keyframes end. -/
def boundaries (count : Nat) : List Nat := ends 0 (writeSizes count)

theorem map_length_fields_keyframe (k : Keyframe) : k.fields.map List.length = recordSizes := rfl

theorem map_length_fields (name : Bytes) (keyframes : List Keyframe) :
    (fields name keyframes).map List.length = writeSizes keyframes.length := by
  have hrecords : (keyframes.flatMap Keyframe.fields).map List.length =
      (List.replicate keyframes.length recordSizes).flatten := by
    induction keyframes with
    | nil => rfl
    | cons k rest ih =>
      rw [List.flatMap_cons, List.map_append, ih, map_length_fields_keyframe, List.length_cons,
        List.replicate_succ, List.flatten_cons]
  have hheader : (headerFields name).map List.length = [25, 5, 20] := by
    simp only [headerFields, List.map_cons, List.map_nil, length_nameField]
    rfl
  rw [fields, List.map_append, List.map_append, List.map_append, hrecords, hheader]
  rfl

/-! ## Writing a file -/

/-- **Writing a file into limited space.** A file that fits is written. Of one that does not, a
space that takes parts of writes holds as many bytes as it has room for, and the error says how
many bytes are missing to the next boundary. A space that refuses writes which do not fit holds the
file up to the last boundary that it has room for, and the error is its own. -/
theorem write_in_limited_space (name : Bytes) (keyframes : List Keyframe) (room : Nat)
    (own : WriteError) :
    ((encode name keyframes).length ≤ room → ∀ space,
      write space room own name keyframes = (encode name keyframes, .ok ())) ∧
    (room < (encode name keyframes).length →
      (∃ missing, IsLeast {b | b ∈ boundaries keyframes.length ∧ room < b} (room + missing) ∧
        write .partialWrites room own name keyframes =
          ((encode name keyframes).take room,
            .error { kind := "Other", message := "BufferTooSmall(" ++ missing.repr ++ ")" })) ∧
      ∃ b, IsGreatest {b | (b = 0 ∨ b ∈ boundaries keyframes.length) ∧ b ≤ room} b ∧
        write .wholeWrites room own name keyframes =
          ((encode name keyframes).take b, .error own)) := by
  constructor
  · intro h space
    rw [write, store_of_le h]
    rfl
  · intro h
    obtain ⟨front, last, rest, hfields, hfront, hlast⟩ := exists_first_not_fitting h
    have hfold : (front.map List.length).foldl (· + ·) 0 = front.flatten.length := by
      rw [foldl_add_map_length, Nat.zero_add]
    have hboundaries : boundaries keyframes.length =
        ends 0 (front.map List.length ++ last.length :: rest.map List.length) := by
      rw [boundaries, ← map_length_fields name, hfields, List.map_append, List.map_cons]
    have hencode : encode name keyframes = (front ++ last :: rest).flatten := by
      rw [encode, hfields]
    rw [hboundaries]
    refine ⟨⟨front.flatten.length + last.length - room, ?_, ?_⟩, front.flatten.length, ?_, ?_⟩
    · rw [Nat.add_sub_cancel' (Nat.le_of_lt hlast), ← hfold]
      exact isLeast_ends (hfold ▸ hfront) (hfold ▸ hlast)
    · rw [write, hfields, store_partialWrites hfront hlast, hencode]
      rfl
    · rw [← hfold]
      exact isGreatest_ends (hfold ▸ hfront) (hfold ▸ hlast)
    · rw [write, hfields, store_wholeWrites hfront hlast, hencode]
      rfl

/-- Room up to the middle of a view angle, which is four bytes from 118 on. -/
theorem write_in_limited_space_viewAngle :
    (encode [] [Track.onesKeyframe]).length = 131 ∧
      write .partialWrites 120 ⟨"StorageFull", "no space"⟩ [] [Track.onesKeyframe] =
        ((encode [] [Track.onesKeyframe]).take 120, .error ⟨"Other", "BufferTooSmall(2)"⟩) ∧
      write .wholeWrites 120 ⟨"StorageFull", "no space"⟩ [] [Track.onesKeyframe] =
        ((encode [] [Track.onesKeyframe]).take 118, .error ⟨"StorageFull", "no space"⟩) ∧
      ∀ space, write space 131 ⟨"StorageFull", "no space"⟩ [] [Track.onesKeyframe] =
        (encode [] [Track.onesKeyframe], .ok ()) := by
  have hlength : (encode [] [Track.onesKeyframe]).length = 131 := length_encode _ _
  obtain ⟨⟨missing, hleast, hpart⟩, b, hgreatest, hwhole⟩ :=
    (write_in_limited_space [] [Track.onesKeyframe] 120 ⟨"StorageFull", "no space"⟩).2
      (by rw [hlength]; decide)
  have hnext : ∀ b ∈ boundaries 1, 120 < b → 122 ≤ b := by decide
  have hlast : ∀ b ∈ boundaries 1, b ≤ 120 → b ≤ 118 := by decide
  have hmissing : 120 + missing = 122 :=
    hleast.unique ⟨⟨by decide, by decide⟩, fun b hb => hnext b hb.1 hb.2⟩
  have hb : b = 118 := by
    refine hgreatest.unique ⟨⟨.inr (by decide), by decide⟩, ?_⟩
    rintro b ⟨hb | hb, hroom⟩
    · omega
    · exact hlast b hb hroom
  obtain rfl : missing = 2 := by omega
  subst hb
  refine ⟨hlength, hpart, hwhole, ?_⟩
  exact (write_in_limited_space [] [Track.onesKeyframe] 131 _).1 (Nat.le_of_eq hlength)

end CameraScript.Motion.File
