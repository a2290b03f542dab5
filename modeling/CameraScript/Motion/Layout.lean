import CameraScript.Bytes
import CameraScript.Logged

/-!
# Finding the sections of a motion file

A motion file opens with a header of 50 bytes: the signature, five bytes of padding and
the model name. The sections follow each other without a table of contents, so the place
of each one is known only from the counts of those before it.

* `locate`: reads the count word of one section.
* `Layout.ofBytes`: finds all sections in one forward pass. Bone, morph and camera must be
  there, though their records may reach past the end; light, shadow and IK are dropped,
  with all sections behind them, when they do not fit.
-/

namespace CameraScript.Motion

/-- The text `Vocaloid Motion Data 0002`. -/
def signature : Bytes :=
  [0x56, 0x6f, 0x63, 0x61, 0x6c, 0x6f, 0x69, 0x64, 0x20,
    0x4d, 0x6f, 0x74, 0x69, 0x6f, 0x6e, 0x20, 0x44, 0x61, 0x74, 0x61, 0x20,
    0x30, 0x30, 0x30, 0x32]

/-- Bytes of padding between the signature and the model name. -/
def paddingSize : Nat := 5

/-- Bytes of the model name field, padded with NULs. -/
def nameSize : Nat := 20

/-- Where every section of a motion file lies. -/
structure Layout where
  modelName : Bytes
  header : Section
  bone : Section
  morph : Section
  camera : Section
  light : Option Section
  shadow : Option Section
  ik : Option Section
  deriving DecidableEq, Repr

/-! ## One section -/

/-- The size of the records behind a count word. The records of the IK section hold a
number of keys each; the first record, if there is one, stands for all. -/
def recordSizeAt (data : Bytes) (kind : SectionKind) (offset : UInt64) (count : UInt32) :
    Except Fault UInt64 :=
  match kind with
  | .ik =>
    if count = 0 then
      .ok SectionKind.ik.recordSize
    else do
      let first ← addWide offset 4
      let keysOffset ← addWide first 5
      match data.word? keysOffset.toNat with
      | none => .error (.truncated kind)
      | some keys => addWide SectionKind.ik.recordSize (ikKeySize * keys.toUInt64)
  | _ => .ok kind.recordSize

/-- The section whose count word is at `offset`. -/
def locate (data : Bytes) (kind : SectionKind) (offset : UInt64) : Except Fault Section :=
  match data.word? offset.toNat with
  | none => .error (.truncated kind)
  | some count => do
    let recordSize ← recordSizeAt data kind offset count
    let start ← addWide offset 4
    return { kind, count := count.toUInt64, start, recordSize }

def required (data : Bytes) (kind : SectionKind) (offset : UInt64) : Logged Section :=
  match locate data kind offset with
  | .ok found => ⟨[.located found], .ok found⟩
  | .error fault => ⟨[], .error fault⟩

/-- A section that counts only when all of its records are in the file. There is none
where the section before it is missing. -/
def optional (data : Bytes) (kind : SectionKind) :
    (offset : Option UInt64) → Logged (Option Section)
  | none => ⟨[], .ok none⟩
  | some offset =>
    match locate data kind offset with
    | .ok found =>
      if data.length < found.stop.toNat then
        ⟨[.cutOff found data.length], .ok none⟩
      else
        ⟨[.located found], .ok (some found)⟩
    | .error (.truncated _) => ⟨[.absent kind offset], .ok none⟩
    | .error fault => ⟨[], .error fault⟩

/-! ## All sections -/

namespace Layout

def headerSection : Section :=
  { kind := .header, count := 1, start := 0, recordSize := SectionKind.header.recordSize }

def modelNameOf (data : Bytes) : Bytes :=
  Bytes.beforeNul ((data.drop (signature.length + paddingSize)).take nameSize)

/-- The sections behind the header. -/
def walk (data : Bytes) : Logged Layout := do
  let bone ← required data .bone headerSection.stop
  let morph ← required data .morph bone.stop
  let camera ← required data .camera morph.stop
  let light ← optional data .light (some camera.stop)
  let shadow ← optional data .shadow (light.map Section.stop)
  let ik ← optional data .ik (shadow.map Section.stop)
  return { modelName := modelNameOf data, header := headerSection,
           bone, morph, camera, light, shadow, ik }

def ofBytes (data : Bytes) : Logged Layout :=
  if data.take signature.length ≠ signature then
    .fail .invalidFormat
  else if data.length < signature.length + paddingSize + nameSize then
    .fail (.truncated .header)
  else
    walk data

end Layout

end CameraScript.Motion
