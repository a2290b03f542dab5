/-!
# Sections of a motion file

A motion file is a header and a sequence of sections. A section is a count word followed
by that many records of one size.

* `SectionKind`: the sections, in file order, with the size of one record of each.
* `Section`: the place of one section's records.
* `Section.totalBytes`, `Section.stop`: the extent of the records. Counts come from the
  file, so both stop at the largest 64-bit word instead of wrapping round.
-/

namespace CameraScript.Motion

inductive SectionKind
  | header
  | bone
  | morph
  | camera
  | light
  | shadow
  | ik
  deriving DecidableEq, Repr

namespace SectionKind

def name : SectionKind → String
  | header => "Header"
  | bone => "Bone"
  | morph => "Morph"
  | camera => "Camera"
  | light => "Light"
  | shadow => "Shadow"
  | ik => "Ik"

/-- Bytes in one record. A record of the IK section grows with the keys in it; this is
its size without keys. -/
def recordSize : SectionKind → UInt64
  | header => 50
  | bone => 111
  | morph => 23
  | camera => 61
  | light => 28
  | shadow => 9
  | ik => 9

end SectionKind

/-- Bytes of one key inside a record of the IK section. -/
def ikKeySize : UInt64 := 21

/-! ## Clamped arithmetic -/

/-- The sum of two words, or the largest word if the sum is larger. -/
def clampedAdd (a b : UInt64) : UInt64 :=
  if a ≤ a + b then a + b else UInt64.ofNat (UInt64.size - 1)

/-- The product of two words, or the largest word if the product is larger. -/
def clampedMul (a b : UInt64) : UInt64 :=
  UInt64.ofNatClamp (a.toNat * b.toNat)

/-! ## Extents -/

/-- The place of a run of records: `start` is the offset of the first one, past the count
word. -/
structure Section where
  kind : SectionKind
  count : UInt64
  start : UInt64
  recordSize : UInt64
  deriving DecidableEq, Repr

namespace Section

def totalBytes (s : Section) : UInt64 :=
  clampedMul s.count s.recordSize

/-- The offset behind the last record. -/
def stop (s : Section) : UInt64 :=
  clampedAdd s.start s.totalBytes

end Section

end CameraScript.Motion
