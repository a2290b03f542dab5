/-!
# Bytes and little-endian words

A file is a list of bytes. Numbers in it are single bytes or 32-bit words, least
significant byte first.

* `Word.ofBytes_toBytes`, `Word.toBytes_ofBytes`: words and groups of four bytes
  correspond one to one.
* `Bytes.word?_eq_some_iff`: a word is read at an offset exactly where four bytes
  follow it.
* `Bytes.slice?`: the bytes between two offsets.
* `Bytes.chunks`: the whole blocks in some bytes. `Bytes.length_blocks`, `Bytes.getElem?_blocks`:
  how many blocks there are, and where they begin.
* `Reader`: takes a value off the front of the bytes; where a number does not fit, it
  reports how many bytes were left at the start of that number.
-/

namespace CameraScript

/-- The contents of a file or of a part of one. -/
abbrev Bytes := List UInt8

namespace Word

/-! ## Words -/

/-- The four bytes of a word. -/
def toBytes (w : UInt32) : Bytes :=
  [UInt8.ofNat w.toNat, UInt8.ofNat (w.toNat / 0x100), UInt8.ofNat (w.toNat / 0x10000),
    UInt8.ofNat (w.toNat / 0x1000000)]

/-- The word stored in four bytes. -/
def ofBytes (b₀ b₁ b₂ b₃ : UInt8) : UInt32 :=
  UInt32.ofNat
    (b₀.toNat + 0x100 * b₁.toNat + 0x10000 * b₂.toNat + 0x1000000 * b₃.toNat)

@[simp] theorem length_toBytes (w : UInt32) : (toBytes w).length = 4 := rfl

theorem toNat_ofBytes (b₀ b₁ b₂ b₃ : UInt8) :
    (ofBytes b₀ b₁ b₂ b₃).toNat
      = b₀.toNat + 0x100 * b₁.toNat + 0x10000 * b₂.toNat + 0x1000000 * b₃.toNat := by
  have h₀ := b₀.toNat_lt
  have h₁ := b₁.toNat_lt
  have h₂ := b₂.toNat_lt
  have h₃ := b₃.toNat_lt
  simp only [ofBytes, UInt32.toNat_ofNat']
  omega

theorem ofBytes_toBytes (w : UInt32) :
    ofBytes (UInt8.ofNat w.toNat) (UInt8.ofNat (w.toNat / 0x100))
      (UInt8.ofNat (w.toNat / 0x10000)) (UInt8.ofNat (w.toNat / 0x1000000)) = w := by
  apply UInt32.toNat_inj.1
  have h := w.toNat_lt
  rw [toNat_ofBytes]
  simp only [UInt8.toNat_ofNat']
  omega

theorem toBytes_ofBytes (b₀ b₁ b₂ b₃ : UInt8) :
    toBytes (ofBytes b₀ b₁ b₂ b₃) = [b₀, b₁, b₂, b₃] := by
  have h₀ := b₀.toNat_lt
  have h₁ := b₁.toNat_lt
  have h₂ := b₂.toNat_lt
  have h₃ := b₃.toNat_lt
  simp only [toBytes, toNat_ofBytes, List.cons.injEq, and_true]
  refine ⟨?_, ?_, ?_, ?_⟩ <;>
  · apply UInt8.toNat_inj.1
    simp only [UInt8.toNat_ofNat']
    omega

theorem toBytes_injective {v w : UInt32} (h : toBytes v = toBytes w) : v = w := by
  simp only [toBytes, List.cons.injEq, and_true] at h
  rw [← ofBytes_toBytes v, ← ofBytes_toBytes w, h.1, h.2.1, h.2.2.1, h.2.2.2]

end Word

/-! ## Readers -/

/-- Takes a value off the front of the bytes. A failure is the number of bytes that
were left where the number that did not fit begins. -/
abbrev Reader := StateT Bytes (Except Nat)

namespace Reader

def byte : Reader UInt8
  | b :: rest => .ok (b, rest)
  | [] => .error 0

def word : Reader UInt32
  | b₀ :: b₁ :: b₂ :: b₃ :: rest => .ok (Word.ofBytes b₀ b₁ b₂ b₃, rest)
  | short => .error short.length

theorem word_toBytes (w : UInt32) (rest : Bytes) :
    word (Word.toBytes w ++ rest) = .ok (w, rest) := by
  simp only [Word.toBytes, List.cons_append, List.nil_append, word, Word.ofBytes_toBytes]

end Reader

namespace Bytes

/-! ## Words at an offset -/

/-- The word at `offset`, if four bytes follow it. -/
def word? (data : Bytes) (offset : Nat) : Option UInt32 :=
  match data.drop offset with
  | b₀ :: b₁ :: b₂ :: b₃ :: _ => some (Word.ofBytes b₀ b₁ b₂ b₃)
  | _ => none

theorem word?_eq_some_iff {data : Bytes} {offset : Nat} {w : UInt32} :
    data.word? offset = some w ↔ (data.drop offset).take 4 = Word.toBytes w := by
  unfold word?
  rcases data.drop offset with _ | ⟨b₀, _ | ⟨b₁, _ | ⟨b₂, _ | ⟨b₃, rest⟩⟩⟩⟩
  · simp [Word.toBytes]
  · simp [Word.toBytes]
  · simp [Word.toBytes]
  · simp [Word.toBytes]
  · simp only [Option.some.injEq, List.take_succ_cons, List.take_zero,
      ← Word.toBytes_ofBytes]
    exact ⟨congrArg _, Word.toBytes_injective⟩

theorem isSome_word?_iff {data : Bytes} {offset : Nat} :
    (data.word? offset).isSome ↔ offset + 4 ≤ data.length := by
  have hl : (data.drop offset).length = data.length - offset := List.length_drop
  unfold word?
  generalize data.drop offset = tail at hl ⊢
  rcases tail with _ | ⟨b₀, _ | ⟨b₁, _ | ⟨b₂, _ | ⟨b₃, rest⟩⟩⟩⟩ <;>
    simp at hl ⊢ <;> omega

/-! ## Runs of records -/

/-- The bytes from `start` up to `stop`, if these are in order and in the data. -/
def slice? (data : Bytes) (start stop : Nat) : Option Bytes :=
  if start ≤ stop ∧ stop ≤ data.length then some ((data.take stop).drop start) else none

/-- The first `count` blocks of `size` bytes. -/
def blocks (size : Nat) : (count : Nat) → Bytes → List Bytes
  | 0, _ => []
  | count + 1, data => data.take size :: blocks size count (data.drop size)

@[simp] theorem length_blocks (size count : Nat) (data : Bytes) :
    (blocks size count data).length = count := by
  induction count generalizing data with
  | zero => rfl
  | succ count ih => simp only [blocks, List.length_cons, ih]

theorem getElem?_blocks {size count i : Nat} (data : Bytes) (h : i < count) :
    (blocks size count data)[i]? = some ((data.drop (size * i)).take size) := by
  induction count generalizing data i with
  | zero => omega
  | succ count ih =>
    cases i with
    | zero => simp [blocks]
    | succ i =>
      rw [blocks, List.getElem?_cons_succ, ih _ (by omega), List.drop_drop, Nat.mul_succ,
        Nat.add_comm]

/-- As many blocks of `size` bytes as the data has. What is left over is in none of them. -/
def chunks (size : Nat) (data : Bytes) : List Bytes :=
  blocks size (data.length / size) data

/-- The bytes before the first NUL, which pads text in fields of fixed width. -/
def beforeNul (field : Bytes) : Bytes :=
  field.takeWhile (· != 0)

end Bytes

end CameraScript
