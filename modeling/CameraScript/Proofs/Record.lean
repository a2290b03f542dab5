import CameraScript.Motion.Record

/-!
# Camera records, read and written

Reading and writing a record are two separate definitions. This file relates them number
by number, so that a record is known from its bytes and the bytes from the record.

* `Reader.bind_eq_ok_iff`: a sequence of readers succeeds exactly where its parts do.
* `Reader.Consumes`: a reader that takes a fixed number of bytes, whatever they are.
* `Keyframe.read_eq_ok_iff`: the bytes of which a keyframe is read. They are the bytes that
  it is written as, up to the flag byte, which may have any value but `0` for off.
* `Keyframe.read_toBytes`: a written keyframe is read back.
* `Keyframe.consumes_read`: every 61 bytes are a record.
-/

namespace CameraScript

/-! ## Sequences of readers -/

namespace Reader

variable {α β : Type}

theorem bind_of_ok {reader : Reader α} {data rest : Bytes} {a : α}
    (h : reader data = .ok (a, rest)) (next : α → Reader β) :
    (reader >>= next) data = next a rest := by
  change (reader data >>= fun p => next p.1 p.2) = _
  rw [h]
  rfl

theorem bind_of_error {reader : Reader α} {data : Bytes} {left : Nat}
    (h : reader data = .error left) (next : α → Reader β) :
    (reader >>= next) data = .error left := by
  change (reader data >>= fun p => next p.1 p.2) = _
  rw [h]
  rfl

theorem bind_eq_ok_iff {reader : Reader α} {next : α → Reader β} {data rest : Bytes}
    {b : β} :
    (reader >>= next) data = .ok (b, rest) ↔
      ∃ a middle, reader data = .ok (a, middle) ∧ next a middle = .ok (b, rest) := by
  constructor
  · intro h
    cases hr : reader data with
    | error left =>
      rw [bind_of_error hr] at h
      cases h
    | ok p => exact ⟨p.1, p.2, rfl, (bind_of_ok hr next).symm.trans h⟩
  · rintro ⟨a, middle, hr, hn⟩
    rw [bind_of_ok hr]
    exact hn

theorem pure_eq_ok_iff {a b : α} {data rest : Bytes} :
    (pure a : Reader α) data = .ok (b, rest) ↔ a = b ∧ data = rest := by
  change Except.ok (a, data) = .ok (b, rest) ↔ _
  rw [Except.ok.injEq, Prod.mk.injEq]

theorem byte_eq_ok_iff {data rest : Bytes} {b : UInt8} :
    byte data = .ok (b, rest) ↔ data = b :: rest := by
  cases data with
  | nil => simp [byte]
  | cons first others => simp [byte]

theorem word_eq_ok_iff {data rest : Bytes} {w : UInt32} :
    word data = .ok (w, rest) ↔ data = Word.toBytes w ++ rest := by
  constructor
  · intro h
    rcases data with _ | ⟨b₀, _ | ⟨b₁, _ | ⟨b₂, _ | ⟨b₃, others⟩⟩⟩⟩
    · cases h
    · cases h
    · cases h
    · cases h
    · cases h
      rw [Word.toBytes_ofBytes]
      rfl
  · rintro rfl
    exact word_toBytes w rest

/-! ## Readers of a fixed size -/

/-- The reader takes `size` bytes off the front, whatever they are, and fails where fewer
are left. -/
structure Consumes (reader : Reader α) (size : Nat) : Prop where
  ok : ∀ data : Bytes, size ≤ data.length → ∃ a, reader data = .ok (a, data.drop size)
  error : ∀ data : Bytes, data.length < size → ∃ left, reader data = .error left

theorem consumes_pure (a : α) : Consumes (pure a : Reader α) 0 where
  ok _ _ := ⟨a, rfl⟩
  error _ h := absurd h (Nat.not_lt_zero _)

theorem consumes_byte : Consumes byte 1 where
  ok data h := by
    cases data with
    | nil => simp at h
    | cons b rest => exact ⟨b, rfl⟩
  error data h := by
    cases data with
    | nil => exact ⟨0, rfl⟩
    | cons b rest => simp at h

theorem consumes_word : Consumes word 4 where
  ok data h := by
    match data, h with
    | b₀ :: b₁ :: b₂ :: b₃ :: rest, _ => exact ⟨Word.ofBytes b₀ b₁ b₂ b₃, rfl⟩
  error data h := by
    rcases data with _ | ⟨b₀, _ | ⟨b₁, _ | ⟨b₂, _ | ⟨b₃, rest⟩⟩⟩⟩
    · exact ⟨0, rfl⟩
    · exact ⟨1, rfl⟩
    · exact ⟨2, rfl⟩
    · exact ⟨3, rfl⟩
    · simp only [List.length_cons] at h
      omega

theorem Consumes.bind {reader : Reader α} {next : α → Reader β} {size more : Nat}
    (hr : Consumes reader size) (hn : ∀ a, Consumes (next a) more) :
    Consumes (reader >>= next) (size + more) where
  ok data h := by
    obtain ⟨a, ha⟩ := hr.ok data (by omega)
    have hl : more ≤ (data.drop size).length := by
      rw [List.length_drop]
      omega
    obtain ⟨b, hb⟩ := (hn a).ok _ hl
    refine ⟨b, ?_⟩
    rw [bind_of_ok ha, hb, List.drop_drop]
  error data h := by
    by_cases hs : size ≤ data.length
    · obtain ⟨a, ha⟩ := hr.ok data hs
      have hl : (data.drop size).length < more := by
        rw [List.length_drop]
        omega
      obtain ⟨left, hleft⟩ := (hn a).error _ hl
      exact ⟨left, (bind_of_ok ha next).trans hleft⟩
    · obtain ⟨left, hleft⟩ := hr.error data (by omega)
      exact ⟨left, bind_of_error hleft next⟩

theorem Consumes.map {reader : Reader α} {size : Nat} (hr : Consumes reader size)
    (f : α → β) : Consumes (reader >>= fun a => pure (f a)) size :=
  hr.bind fun a => consumes_pure (f a)

end Reader

namespace Motion

open Reader

/-! ## The parts of a record -/

theorem Single.read_eq_ok_iff {data rest : Bytes} {s : Single} :
    Single.read data = .ok (s, rest) ↔ data = s.toBytes ++ rest := by
  unfold Single.read
  simp only [bind_eq_ok_iff, pure_eq_ok_iff, word_eq_ok_iff]
  constructor
  · rintro ⟨w, middle, rfl, rfl, rfl⟩
    rfl
  · rintro rfl
    exact ⟨s.bits, rest, rfl, rfl, rfl⟩

theorem Vec3.read_eq_ok_iff {data rest : Bytes} {v : Vec3 Single} :
    Vec3.read data = .ok (v, rest) ↔ data = v.fields.flatten ++ rest := by
  unfold Vec3.read
  simp only [bind_eq_ok_iff, pure_eq_ok_iff, Single.read_eq_ok_iff]
  constructor
  · rintro ⟨x, _, rfl, y, _, rfl, z, _, rfl, rfl, rfl⟩
    simp [Vec3.fields]
  · rintro rfl
    refine ⟨v.x, _, ?_, v.y, _, rfl, v.z, rest, rfl, rfl, rfl⟩
    simp [Vec3.fields]

theorem Curve.read_eq_ok_iff {data rest : Bytes} {c : Curve} :
    Curve.read data = .ok (c, rest) ↔ data = c.fields.flatten ++ rest := by
  unfold Curve.read
  simp only [bind_eq_ok_iff, pure_eq_ok_iff, byte_eq_ok_iff]
  constructor
  · rintro ⟨x1, _, rfl, x2, _, rfl, y1, _, rfl, y2, _, rfl, rfl, rfl⟩
    rfl
  · rintro rfl
    exact ⟨c.x1, _, rfl, c.x2, _, rfl, c.y1, _, rfl, c.y2, rest, rfl, rfl, rfl⟩

theorem Curves.read_eq_ok_iff {data rest : Bytes} {c : Curves} :
    Curves.read data = .ok (c, rest) ↔ data = c.fields.flatten ++ rest := by
  unfold Curves.read
  simp only [bind_eq_ok_iff, pure_eq_ok_iff, Curve.read_eq_ok_iff]
  constructor
  · rintro ⟨x, _, rfl, y, _, rfl, z, _, rfl, r, _, rfl, l, _, rfl, v, _, rfl, rfl, rfl⟩
    simp [Curves.fields]
  · rintro rfl
    refine ⟨c.x, _, ?_, c.y, _, rfl, c.z, _, rfl, c.rotation, _, rfl, c.length, _, rfl,
      c.viewAngle, rest, rfl, rfl, rfl⟩
    simp [Curves.fields]

theorem Single.consumes_read : Consumes Single.read 4 :=
  consumes_word.map Single.mk

theorem Vec3.consumes_read : Consumes Vec3.read 12 := by
  unfold Vec3.read
  change Consumes _ (4 + (4 + 4))
  refine Single.consumes_read.bind fun x => ?_
  refine Single.consumes_read.bind fun y => ?_
  exact Single.consumes_read.map _

theorem Curve.consumes_read : Consumes Curve.read 4 := by
  unfold Curve.read
  change Consumes _ (1 + (1 + (1 + 1)))
  refine consumes_byte.bind fun x1 => ?_
  refine consumes_byte.bind fun x2 => ?_
  refine consumes_byte.bind fun y1 => ?_
  exact consumes_byte.map _

theorem Curves.consumes_read : Consumes Curves.read 24 := by
  unfold Curves.read
  change Consumes _ (4 + (4 + (4 + (4 + (4 + 4)))))
  refine Curve.consumes_read.bind fun x => ?_
  refine Curve.consumes_read.bind fun y => ?_
  refine Curve.consumes_read.bind fun z => ?_
  refine Curve.consumes_read.bind fun rotation => ?_
  refine Curve.consumes_read.bind fun length => ?_
  exact Curve.consumes_read.map _

/-! ## The record -/

theorem storedRotation_storedRotation (angles : Vec3 Single) :
    storedRotation (storedRotation angles) = angles := by
  simp [storedRotation, Single.neg_neg]

namespace Keyframe

/-- A record without its flag byte. -/
def body (k : Keyframe) : Bytes :=
  ([Word.toBytes k.frame, (-k.length).toBytes] ++ k.location.fields
    ++ (storedRotation k.rotation).fields ++ k.curves.fields
    ++ [Word.toBytes k.viewAngle]).flatten

def flagByte (k : Keyframe) : UInt8 := if k.perspective then 0 else 1

theorem toBytes_eq (k : Keyframe) : k.toBytes = k.body ++ [k.flagByte] := by
  simp [toBytes, fields, body, flagByte]

theorem length_body (k : Keyframe) : k.body.length = 60 := rfl

theorem decide_flagByte (k : Keyframe) : decide (k.flagByte = 0) = k.perspective := by
  unfold flagByte
  cases k.perspective with
  | false => rfl
  | true => rfl

theorem read_eq_ok_iff {data rest : Bytes} {k : Keyframe} :
    Keyframe.read data = .ok (k, rest) ↔
      ∃ flag : UInt8, decide (flag = 0) = k.perspective ∧
        data = k.body ++ flag :: rest := by
  unfold Keyframe.read
  simp only [bind_eq_ok_iff, pure_eq_ok_iff, word_eq_ok_iff, byte_eq_ok_iff,
    Single.read_eq_ok_iff, Vec3.read_eq_ok_iff, Curves.read_eq_ok_iff]
  constructor
  · rintro ⟨frame, _, rfl, length, _, rfl, location, _, rfl, rotation, _, rfl, curves, _,
      rfl, viewAngle, _, rfl, flag, _, rfl, rfl, rfl⟩
    refine ⟨flag, rfl, ?_⟩
    simp [body, Single.neg_neg, storedRotation_storedRotation]
  · rintro ⟨flag, hflag, rfl⟩
    refine ⟨k.frame, _, ?_, -k.length, _, rfl, k.location, _, rfl,
      storedRotation k.rotation, _, rfl, k.curves, _, rfl, k.viewAngle, _, rfl, flag, rest,
      rfl, ?_, rfl⟩
    · simp [body]
    · rw [Single.neg_neg, storedRotation_storedRotation, hflag]

theorem read_toBytes (k : Keyframe) (rest : Bytes) :
    Keyframe.read (k.toBytes ++ rest) = .ok (k, rest) := by
  rw [read_eq_ok_iff]
  exact ⟨k.flagByte, k.decide_flagByte, by simp [toBytes_eq]⟩

theorem consumes_read : Consumes Keyframe.read 61 := by
  unfold Keyframe.read
  change Consumes _ (4 + (4 + (12 + (12 + (24 + (4 + 1))))))
  refine consumes_word.bind fun frame => ?_
  refine Single.consumes_read.bind fun length => ?_
  refine Vec3.consumes_read.bind fun location => ?_
  refine Vec3.consumes_read.bind fun rotation => ?_
  refine Curves.consumes_read.bind fun curves => ?_
  refine consumes_word.bind fun viewAngle => ?_
  exact consumes_byte.map _

end Keyframe

end Motion

end CameraScript
