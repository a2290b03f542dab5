import CameraScript.Command
import CameraScript.Proofs.Numerals
import Std.Data.String.ToNat

/-!
# The texts of camera commands

The text of a camera command is woven from pieces that are the same in all camera commands of a
template and numbers between them, and a number ends where a character comes that no number has in
it.

* `weave_inj`: the numbers that a text is woven with are determined.
* `Template.toList_cameraText`: how a camera command is woven.
* `Template.cameraText_eq_iff`: when two camera commands have the same text.
-/

namespace CameraScript

open Numeric

/-! ## Texts with numbers in them -/

/-- The numbers with fixed pieces between them: each number stands behind the piece at its
position and in front of the character that goes with the piece. -/
def weave : (pieces : List (List Char × Char)) → (numbers : List String) → List Char → List Char
  | piece :: pieces, number :: numbers, rest =>
    piece.1 ++ (number.toList ++ piece.2 :: weave pieces numbers rest)
  | _, _, rest => rest

def IsNumeric (text : String) : Prop := ∀ c ∈ text.toList, IsNumeral c

/-- Text before the first separator is determined. -/
theorem append_cons_inj {α : Type} {sep : α} {xs ys xs' ys' : List α} (hxs : sep ∉ xs)
    (hys : sep ∉ ys) (h : xs ++ sep :: xs' = ys ++ sep :: ys') : xs = ys ∧ xs' = ys' := by
  induction xs generalizing ys with
  | nil =>
    cases ys with
    | nil => exact ⟨rfl, (List.cons.inj h).2⟩
    | cons y ys => exact absurd (List.cons.inj h).1 (List.ne_of_not_mem_cons hys)
  | cons x xs ih =>
    cases ys with
    | nil => exact absurd (List.cons.inj h).1.symm (List.ne_of_not_mem_cons hxs)
    | cons y ys =>
      obtain ⟨rfl, htail⟩ := List.cons.inj h
      obtain ⟨rfl, hrest⟩ := ih (List.not_mem_of_not_mem_cons hxs)
        (List.not_mem_of_not_mem_cons hys) htail
      exact ⟨rfl, hrest⟩

theorem weave_inj {pieces : List (List Char × Char)} {numbers numbers' : List String}
    {rest rest' : List Char} (hends : ∀ piece ∈ pieces, ¬ IsNumeral piece.2)
    (hlength : numbers.length = pieces.length) (hlength' : numbers'.length = pieces.length)
    (hnumbers : ∀ number ∈ numbers, IsNumeric number)
    (hnumbers' : ∀ number ∈ numbers', IsNumeric number)
    (h : weave pieces numbers rest = weave pieces numbers' rest') :
    numbers = numbers' ∧ rest = rest' := by
  induction pieces generalizing numbers numbers' with
  | nil =>
    rw [List.length_eq_zero_iff.1 hlength, List.length_eq_zero_iff.1 hlength'] at h ⊢
    exact ⟨rfl, h⟩
  | cons piece pieces ih =>
    obtain ⟨number, numbers, rfl⟩ := List.exists_cons_of_length_eq_add_one hlength
    obtain ⟨number', numbers', rfl⟩ := List.exists_cons_of_length_eq_add_one hlength'
    rw [List.forall_mem_cons] at hends hnumbers hnumbers'
    have hfirst := List.append_cancel_left h
    obtain ⟨hnumber, htail⟩ := append_cons_inj (fun hmem => hends.1 (hnumbers.1 _ hmem))
      (fun hmem => hends.1 (hnumbers'.1 _ hmem)) hfirst
    obtain ⟨rfl, hrest⟩ := ih hends.2 (Nat.succ.inj hlength) (Nat.succ.inj hlength')
      hnumbers.2 hnumbers'.2 htail
    rw [String.toList_inj.1 hnumber]
    exact ⟨rfl, hrest⟩

/-- Whatever a text is woven with, it ends with what is behind the numbers. -/
theorem suffix_weave (pieces : List (List Char × Char)) (numbers : List String)
    (rest : List Char) : rest <:+ weave pieces numbers rest := by
  induction pieces generalizing numbers with
  | nil => exact List.suffix_rfl
  | cons piece pieces ih =>
    cases numbers with
    | nil => exact List.suffix_rfl
    | cons number numbers =>
      apply List.suffix_append_of_suffix
      apply List.suffix_append_of_suffix
      exact (ih numbers).trans (List.suffix_cons _ _)

theorem isNumeric_repr (n : Nat) : IsNumeric n.repr := by
  intro c hc
  rw [Nat.toList_repr] at hc
  exact isNumeral_of_mem_toDigits hc

/-- The numbers of a pose as commands show them: position, pitch and yaw. -/
def Pose.texts (pose : Pose) : List String :=
  [pose.position.x, pose.position.y, pose.position.z, pose.pitch, pose.yaw].map Fixed.text

theorem Pose.isNumeric_of_mem_texts {pose : Pose} {text : String} (h : text ∈ pose.texts) :
    IsNumeric text := by
  obtain ⟨x, -, rfl⟩ := List.mem_map.1 h
  exact fun c hc => Fixed.isNumeral_of_mem_text hc

/-! ## Camera commands -/

namespace Template

variable {template : Template} {counter : String} {score score' : UInt32} {pose pose' : Pose}
  {ease ease' : Bool}

/-- What stands in a camera command between its condition and its first coordinate. -/
def placement (template : Template) : String :=
  "positioned as " ++ template.anchor ++ " rotated as " ++ template.anchor
    ++ " positioned " ++ template.anchorOffset ++ " positioned " ++ template.focusOffset
    ++ " positioned ~"

/-- The pieces before the score, the three coordinates, pitch and yaw. -/
def pieces (template : Template) (counter : String) : List (List Char × Char) :=
  [(("execute as @a if score @s " ++ counter ++ " matches ").toList, ' '),
    (template.placement.toList, '~'), ([], '~'), ([], ' '), ("rotated ~".toList, ' '),
    (['~'], ' ')]

theorem not_isNumeral_of_mem_pieces :
    ∀ piece ∈ template.pieces counter, ¬ IsNumeral piece.2 := by
  unfold pieces
  simp only [List.forall_mem_cons, List.not_mem_nil, false_imp_iff, implies_true, and_true]
  decide

theorem toList_cameraText (template : Template) (counter : String) (score : UInt32) (pose : Pose)
    (ease : Bool) :
    ∃ rest, (template.cameraText counter score pose ease).toList =
      weave (template.pieces counter) (score.toNat.repr :: pose.texts)
        ("run camera @s set minecraft:free".toList ++
          ((template.easeText ease).toList ++ (" pos ^^^ rot ".toList ++ rest))) := by
  have hplacement : " positioned as ".toList = ' ' :: "positioned as ".toList := by decide
  have hy : "~".toList = ['~'] := by decide
  have hrotated : " rotated ~".toList = ' ' :: "rotated ~".toList := by decide
  have hyaw : " ~".toList = [' ', '~'] := by decide
  have hrun : " run camera @s set minecraft:free".toList =
      ' ' :: "run camera @s set minecraft:free".toList := by decide
  unfold cameraText pieces placement Pose.texts
  simp only [weave, List.map_cons, List.map_nil, String.toList_append, List.append_assoc,
    hplacement, hrotated, hyaw, hrun, hy, List.cons_append, List.nil_append]
  exact ⟨_, rfl⟩

/-- Behind the numbers a camera command goes on with `ease` or with `pos`. -/
theorem getElem?_easeText_append (template : Template) (ease : Bool) (rest : List Char) :
    ((template.easeText ease).toList ++ (" pos ^^^ rot ".toList ++ rest))[1]? =
      some (if ease then 'e' else 'p') := by
  cases ease with
  | false =>
    have hpos : " pos ^^^ rot ".toList = ' ' :: 'p' :: "os ^^^ rot ".toList := by decide
    rw [hpos]
    rfl
  | true =>
    have hease : " ease ".toList = ' ' :: 'e' :: "ase ".toList := by decide
    unfold easeText
    rw [if_pos rfl, String.toList_append, String.toList_append, String.toList_append, hease]
    rfl

theorem ease_eq_of_append_eq {rest rest' : List Char}
    (h : (template.easeText ease).toList ++ (" pos ^^^ rot ".toList ++ rest) =
      (template.easeText ease').toList ++ (" pos ^^^ rot ".toList ++ rest')) : ease = ease' := by
  have hletter := getElem?_easeText_append template ease rest
  rw [h, getElem?_easeText_append, Option.some.injEq] at hletter
  revert hletter
  cases ease <;> cases ease' <;> decide

theorem cameraText_inj
    (h : template.cameraText counter score pose ease =
      template.cameraText counter score' pose' ease') :
    score = score' ∧ ease = ease' ∧ pose.texts = pose'.texts := by
  obtain ⟨rest, hrest⟩ := toList_cameraText template counter score pose ease
  obtain ⟨rest', hrest'⟩ := toList_cameraText template counter score' pose' ease'
  rw [h] at hrest
  have hnumeric (score : UInt32) (pose : Pose) :
      ∀ number ∈ score.toNat.repr :: pose.texts, IsNumeric number :=
    List.forall_mem_cons.2 ⟨isNumeric_repr _, fun _ => Pose.isNumeric_of_mem_texts⟩
  obtain ⟨hnumbers, htail⟩ := weave_inj not_isNumeral_of_mem_pieces rfl rfl (hnumeric score pose)
    (hnumeric score' pose') (hrest.symm.trans hrest')
  obtain ⟨hscore, hpose⟩ := List.cons.inj hnumbers
  exact ⟨UInt32.toNat_inj.1 (Nat.repr_inj.1 hscore),
    ease_eq_of_append_eq (List.append_cancel_left htail), hpose⟩

theorem cameraText_congr (h : pose.texts = pose'.texts) :
    template.cameraText counter score pose ease = template.cameraText counter score pose' ease := by
  simp only [Pose.texts, List.map_cons, List.map_nil, List.cons.injEq, and_true] at h
  obtain ⟨hx, hy, hz, hpitch, hyaw⟩ := h
  unfold cameraText
  rw [hx, hy, hz, hpitch, hyaw]

theorem cameraText_eq_iff :
    template.cameraText counter score pose ease = template.cameraText counter score' pose' ease' ↔
      score = score' ∧ ease = ease' ∧ pose.texts = pose'.texts := by
  constructor
  · exact cameraText_inj
  · intro h
    rw [h.1, h.2.1, cameraText_congr h.2.2]

end Template

end CameraScript
