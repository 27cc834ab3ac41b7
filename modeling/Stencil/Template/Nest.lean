import Stencil.Tag.Piece
import Stencil.Text.Search

/-!
The two kinds of blocks that are written with more than one tag, and where their parts end.

A part goes on up to the tag that closes the block, or to a tag that begins the block's next part.
Tags that open a block of the same kind are counted, so that the tags of inner blocks are passed
over; blocks of the other kind are not looked at.
-/

namespace Stencil

open Stencil.Text Stencil.Tag

/-- A kind of block with an opening and a closing tag. -/
inductive Nest where
  | conditional
  | iteration
deriving DecidableEq, Repr

namespace Nest

/-- The word that the opening and the closing tag share. -/
def word : Nest → String
  | conditional => "if"
  | iteration => "each"

/-- The words of the tags that begin a further part. -/
def dividers : Nest → List String
  | conditional => ["elseif", "else"]
  | iteration => ["empty"]

/-- What a tag is to a block. -/
inductive Role where
  | opens
  | closes
  | divides
  | other
deriving DecidableEq, Repr

/-- Does the text start with the word, and does the word end there? -/
def isDivider (body : List Char) (word : String) : Bool :=
  match after? word.toList body with
  | some [] => true
  | some (c :: _) => isBlank c
  | none => false

/-- What a tag with this inside is to a block of the kind. -/
def role (nest : Nest) (inner : List Char) : Role :=
  let body := body inner
  if ((after? nest.word.toList body).bind List.head?) = some ' ' then .opens
  else if (after? ['/'] body).map trimStart = some nest.word.toList then .closes
  else if nest.dividers.any (isDivider body) then .divides
  else .other

/-- How a part ends. -/
inductive Boundary where
  /-- With the closing tag. -/
  | close (inner : List Char)
  /-- With a tag that begins a further part. -/
  | divide (inner : List Char)
deriving DecidableEq, Repr

/-- A part cut off from a list of pieces: the pieces inside it, the tag that ends it, and the
pieces after that tag. -/
structure Cut where
  inside : List Piece
  boundary : Boundary
  rest : List Piece

/-- The cut with one more piece at its front. -/
def Cut.cons (p : Piece) (c : Cut) : Cut := { c with inside := p :: c.inside }

/-- The part that the pieces begin with, when `depth` inner blocks of the kind are open. -/
def cut? (nest : Nest) : Nat → List Piece → Option Cut
  | _, [] => none
  | _, .loose _ :: _ => none
  | depth, .text run :: ps => (cut? nest depth ps).map (.cons (.text run))
  | depth, .tag inner :: ps =>
    match nest.role inner, depth with
    | .opens, _ => (cut? nest (depth + 1) ps).map (.cons (.tag inner))
    | .closes, 0 => some ⟨[], .close inner, ps⟩
    | .closes, depth + 1 => (cut? nest depth ps).map (.cons (.tag inner))
    | .divides, 0 => some ⟨[], .divide inner, ps⟩
    | _, _ => (cut? nest depth ps).map (.cons (.tag inner))

theorem cut?_tag (nest : Nest) (depth : Nat) (inner : List Char) (ps : List Piece) :
    cut? nest depth (.tag inner :: ps) =
      match nest.role inner, depth with
      | .opens, _ => (cut? nest (depth + 1) ps).map (.cons (.tag inner))
      | .closes, 0 => some ⟨[], .close inner, ps⟩
      | .closes, depth + 1 => (cut? nest depth ps).map (.cons (.tag inner))
      | .divides, 0 => some ⟨[], .divide inner, ps⟩
      | _, _ => (cut? nest depth ps).map (.cons (.tag inner)) := rfl

/-- The tag that ends a part. -/
def Boundary.piece : Boundary → Piece
  | close inner => .tag inner
  | divide inner => .tag inner

theorem eq_of_cut? {nest : Nest} {depth : Nat} {ps : List Piece} {c : Cut}
    (h : cut? nest depth ps = some c) : ps = c.inside ++ c.boundary.piece :: c.rest := by
  fun_induction cut? nest depth ps generalizing c with
  | case1 => simp at h
  | case2 => simp at h
  | case3 _ _ _ ih | case4 _ _ _ _ ih | case6 _ _ _ _ ih | case8 _ _ _ _ _ _ _ ih =>
    obtain ⟨c', h', rfl⟩ := Option.map_eq_some_iff.1 h
    simp only [Cut.cons, List.cons_append]
    rw [← ih h']
  | case5 => simp only [Option.some.injEq] at h; simp [← h, Boundary.piece]
  | case7 => simp only [Option.some.injEq] at h; simp [← h, Boundary.piece]

theorem length_of_cut? {nest : Nest} {depth : Nat} {ps : List Piece} {c : Cut}
    (h : cut? nest depth ps = some c) : c.inside.length + c.rest.length + 1 = ps.length := by
  rw [eq_of_cut? h]
  simp
  omega

end Nest

end Stencil
