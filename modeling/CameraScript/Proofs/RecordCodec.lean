import CameraScript.Proofs.Track
import Mathlib.Data.Set.Function

/-!
# Records and keyframes correspond

The bytes of a record and the keyframe that is read from them determine each other, up to the
flag byte: all bytes but `0` are read as off, and off is written as `1`.

* `Single.testBit_neg`: a negated single differs in its sign bit and nowhere else, also a NaN.
* `Keyframe.exists_read_iff`: where there is a record.
* `Keyframe.toBytes_of_read`: the record that a keyframe is read from, as it is written back.
* `Keyframe.bijOn_toBytes`: keyframes correspond one to one to the records with a plain flag.
* `Keyframe.records_correspond`: all of this for records with anything behind them.
-/

namespace CameraScript.Motion

theorem Single.testBit_neg (s : Single) (i : Nat) :
    (-s).bits.toNat.testBit i = (s.bits.toNat.testBit i ^^ decide (i = 31)) := by
  have hbits : (-s).bits.toNat = s.bits.toNat ^^^ 2 ^ 31 := UInt32.toNat_xor _ _
  rw [hbits, Nat.testBit_xor, Nat.testBit_two_pow]
  simp only [eq_comm]

namespace Keyframe

variable {data rest : Bytes} {k : Keyframe}

theorem exists_read_iff : (∃ k rest, Keyframe.read data = .ok (k, rest)) ↔ 61 ≤ data.length := by
  constructor
  · rintro ⟨k, rest, h⟩
    by_contra hlt
    obtain ⟨left, hleft⟩ := consumes_read.error data (Nat.lt_of_not_le hlt)
    rw [hleft] at h
    cases h
  · intro h
    obtain ⟨k, hk⟩ := consumes_read.ok data h
    exact ⟨k, _, hk⟩

theorem getElem?_body_append (k : Keyframe) (flag : UInt8) (rest : Bytes) :
    (k.body ++ flag :: rest)[60]? = some flag := by
  rw [List.getElem?_append_right (Nat.le_of_eq k.length_body), k.length_body]
  rfl

theorem toBytes_of_read (h : Keyframe.read data = .ok (k, rest)) :
    k.toBytes = data.take 60 ++ [if data[60]? = some 0 then 0 else 1] := by
  obtain ⟨flag, hflag, rfl⟩ := read_eq_ok_iff.1 h
  have htake : (k.body ++ flag :: rest).take 60 = k.body := List.take_left' k.length_body
  rw [toBytes_eq, flagByte, htake, getElem?_body_append, ← hflag]
  simp only [decide_eq_true_eq, Option.some.injEq]

/-- The records that keyframes are written as. -/
def plainRecords : Set Bytes :=
  {record | record.length = 61 ∧ (record[60]? = some 0 ∨ record[60]? = some 1)}

theorem toBytes_mem_plainRecords (k : Keyframe) : k.toBytes ∈ plainRecords := by
  refine ⟨k.length_toBytes, ?_⟩
  rw [toBytes_eq, getElem?_body_append, flagByte]
  cases k.perspective with
  | false => exact .inr rfl
  | true => exact .inl rfl

theorem toBytes_injective : Function.Injective toBytes := by
  intro k k' h
  have hk := read_toBytes k []
  rw [h, read_toBytes] at hk
  exact (congrArg Prod.fst (Except.ok.inj hk)).symm

theorem exists_toBytes_eq (h : data ∈ plainRecords) : ∃ k : Keyframe, k.toBytes = data := by
  obtain ⟨hlength, hflag⟩ := h
  obtain ⟨k, rest, hread⟩ := exists_read_iff.2 (Nat.le_of_eq hlength.symm)
  have hlast : [if data[60]? = some 0 then (0 : UInt8) else 1] = data.drop 60 := by
    have hlt : 60 < data.length := by omega
    rw [List.drop_eq_getElem_cons hlt, List.drop_of_length_le (Nat.le_of_eq hlength)]
    rw [List.getElem?_eq_getElem hlt] at hflag ⊢
    rcases hflag with hflag | hflag
    · rw [if_pos hflag, Option.some.inj hflag]
    · rw [hflag, Option.some.inj hflag]
      rfl
  refine ⟨k, ?_⟩
  rw [toBytes_of_read hread, hlast, List.take_append_drop]

/-- Keyframes and records with a flag byte of `0` or `1` correspond one to one. -/
theorem bijOn_toBytes : Set.BijOn toBytes Set.univ plainRecords :=
  ⟨fun k _ => toBytes_mem_plainRecords k, toBytes_injective.injOn, fun _ hdata =>
    (exists_toBytes_eq hdata).imp fun _ hk => ⟨trivial, hk⟩⟩

/-- **The correspondence of records and keyframes.** A keyframe is written as 61 bytes, and is
read back from them whatever is behind them. Any 61 bytes are read, and no fewer, and what is
behind them is left. The keyframe that they are read as is written as the same bytes, except that
a flag byte that is not `0` becomes `1`. Signs are flipped on the way by the sign bit alone, so
this holds of the bit patterns of NaNs as well. -/
theorem records_correspond :
    (∀ (k : Keyframe) (rest : Bytes),
      k.toBytes.length = 61 ∧ Keyframe.read (k.toBytes ++ rest) = .ok (k, rest)) ∧
    (∀ data : Bytes,
      ((∃ k rest, Keyframe.read data = .ok (k, rest)) ↔ 61 ≤ data.length) ∧
      ∀ (k : Keyframe) (rest : Bytes), Keyframe.read data = .ok (k, rest) →
        rest = data.drop 61 ∧
        k.toBytes = data.take 60 ++ [if data[60]? = some 0 then 0 else 1]) ∧
    Set.BijOn toBytes Set.univ plainRecords ∧
    ∀ (s : Single) (i : Nat),
      (-s).bits.toNat.testBit i = (s.bits.toNat.testBit i ^^ decide (i = 31)) :=
  ⟨fun k rest => ⟨k.length_toBytes, read_toBytes k rest⟩,
    fun _ => ⟨exists_read_iff, fun _ _ h => ⟨(drop_of_read h).symm, toBytes_of_read h⟩⟩,
    bijOn_toBytes, Single.testBit_neg⟩

/-- All numbers of the record are NaNs, and its flag byte is none that is written. -/
theorem records_correspond_ones :
    Keyframe.read (List.replicate 62 0xff) = .ok (Track.onesKeyframe, [0xff]) ∧
      Track.onesKeyframe.toBytes = List.replicate 60 0xff ++ [1] ∧
      Keyframe.read (List.replicate 60 0xff ++ [1]) = .ok (Track.onesKeyframe, []) := by
  have hread : Keyframe.read (List.replicate 62 0xff) = .ok (Track.onesKeyframe, [0xff]) := by
    decide +kernel
  obtain ⟨hwritten, hrecord, -⟩ := records_correspond
  have hbytes : Track.onesKeyframe.toBytes = List.replicate 60 0xff ++ [1] :=
    ((hrecord _).2 _ _ hread).2
  refine ⟨hread, hbytes, ?_⟩
  rw [← hbytes, ← List.append_nil (toBytes _)]
  exact (hwritten Track.onesKeyframe []).2

end Keyframe

end CameraScript.Motion
