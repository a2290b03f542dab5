import CameraScript.Motion.Track

/-!
# Motion files that hold a camera track only

A file is written number by number. The sections that readers ask for besides the camera
are written with no records.

* `File.fields`: the separate writes of a file; `File.encode` is their concatenation.
* `File.store`: the same writes into a space of limited size; `File.write` is what a caller sees
  of it.
* `File.cameraOnly`: the camera track and model name of a file, as a file of their own.
-/

namespace CameraScript.Motion.File

/-- The name cut or padded with NULs to the width of its field. -/
def nameField (name : Bytes) : Bytes :=
  name.take nameSize ++ List.replicate (nameSize - name.length) 0

def headerFields (name : Bytes) : List Bytes :=
  [signature, List.replicate paddingSize 0, nameField name]

/-- The separate writes of a file: header, no bones, no morphs, the track, no lights, no
shadows. The count of keyframes is a word, so it is taken modulo `2 ^ 32`. -/
def fields (name : Bytes) (keyframes : List Keyframe) : List Bytes :=
  headerFields name
    ++ [Word.toBytes 0, Word.toBytes 0, Word.toBytes (UInt32.ofNat keyframes.length)]
    ++ keyframes.flatMap Keyframe.fields
    ++ [Word.toBytes 0, Word.toBytes 0]

def encode (name : Bytes) (keyframes : List Keyframe) : Bytes :=
  (fields name keyframes).flatten

/-! ## Limited space -/

/-- What a space does with a write that is longer than the room left in it. -/
inductive Space
  /-- It takes the bytes that fit. -/
  | partialWrites
  /-- It refuses the write and takes none of it. -/
  | wholeWrites
  deriving DecidableEq, Repr

inductive Shortage
  /-- The last write is short of this many bytes. -/
  | missing (bytes : Nat)
  | refused
  deriving DecidableEq, Repr

/-- The bytes that end up in a space of `room` bytes, and what went wrong, if anything. -/
def store (space : Space) (room : Nat) : (writes : List Bytes) → Bytes × Option Shortage
  | [] => ([], none)
  | write :: rest =>
    if write.length ≤ room then
      let (stored, shortage) := store space (room - write.length) rest
      (write ++ stored, shortage)
    else
      match space with
      | .partialWrites => (write.take room, some (.missing (write.length - room)))
      | .wholeWrites => ([], some .refused)

/-- An error that a caller of the encoder is given, by its kind and its wording. -/
structure WriteError where
  kind : String
  message : String
  deriving DecidableEq, Repr

/-- A write that is taken in part is an error of the encoder. A space that refuses a write has an
error of its own, which is passed on as it is. -/
def Shortage.report (own : WriteError) : Shortage → WriteError
  | missing bytes => { kind := "Other", message := "BufferTooSmall(" ++ bytes.repr ++ ")" }
  | refused => own

/-- Writes a file into a space of `room` bytes, which refuses writes with the error `own` if it
refuses any: the bytes that end up in the space, and how the writing ends. -/
def write (space : Space) (room : Nat) (own : WriteError) (name : Bytes)
    (keyframes : List Keyframe) : Bytes × Except WriteError Unit :=
  match store space room (fields name keyframes) with
  | (stored, none) => (stored, .ok ())
  | (stored, some shortage) => (stored, .error (shortage.report own))

/-! ## Reduction to the camera track -/

def cameraOnly (data : Bytes) : Logged Bytes := do
  let layout ← Layout.ofBytes data
  let keyframes ← Logged.ofExcept (Track.decode data layout.camera)
  return encode layout.modelName keyframes

end CameraScript.Motion.File
