import Stencil.Tag.Closing

/-!
A template source as a list of pieces: runs of text, and tags. Opening braces that no tag comes
of end the list.

Main statement: the pieces are the source cut up, `join_split`.
-/

namespace Stencil.Tag

open Stencil.Text

/-- One piece of a source. -/
inductive Piece where
  /-- Text without opening braces. -/
  | text (run : List Char)
  /-- A tag, by its inside. -/
  | tag (inner : List Char)
  /-- Opening braces that are never closed, by the text after them. -/
  | loose (rest : List Char)
deriving DecidableEq, Repr

namespace Piece

/-- The source text of a piece. -/
def chars : Piece → List Char
  | text run => run
  | tag inner => signature inner
  | loose rest => '{' :: '{' :: rest

/-- The source text of a list of pieces. -/
def join (ps : List Piece) : List Char := ps.flatMap chars

@[simp] theorem join_nil : join [] = [] := rfl

@[simp] theorem join_cons (p : Piece) (ps : List Piece) : join (p :: ps) = p.chars ++ join ps := rfl

@[simp] theorem join_append (ps qs : List Piece) : join (ps ++ qs) = join ps ++ join qs := by
  simp [join]

/-- The length of a piece in bytes. -/
def bytes (p : Piece) : Nat := size p.chars

/-- The length of a list of pieces in bytes. -/
def total (ps : List Piece) : Nat := size (join ps)

@[simp] theorem total_nil : total [] = 0 := rfl

@[simp] theorem total_cons (p : Piece) (ps : List Piece) : total (p :: ps) = p.bytes + total ps := by
  simp [total, bytes]

@[simp] theorem total_append (ps qs : List Piece) : total (ps ++ qs) = total ps + total qs := by
  simp [total]

/-- The text before the first opening braces, and the text from them on. -/
def run : List Char → List Char × List Char
  | [] => ([], [])
  | '{' :: '{' :: cs => ([], '{' :: '{' :: cs)
  | c :: cs => (c :: (run cs).1, (run cs).2)

@[simp] theorem run_nil : run [] = ([], []) := rfl

theorem run_braces (cs : List Char) : run ('{' :: '{' :: cs) = ([], '{' :: '{' :: cs) := rfl

theorem run_cons {c : Char} {cs : List Char} (hc : ∀ ds, c = '{' → cs = '{' :: ds → False) :
    run (c :: cs) = (c :: (run cs).1, (run cs).2) := by
  rw [run]
  exact hc

theorem run_append (cs : List Char) : (run cs).1 ++ (run cs).2 = cs := by
  fun_induction run cs with
  | case1 => rfl
  | case2 => rfl
  | case3 _ _ _ ih => simp [ih]

theorem run_length (cs : List Char) : (run cs).2.length ≤ cs.length := by
  have := congrArg List.length (run_append cs)
  simp at this
  omega

/-- The pieces of a source. -/
def split (cs : List Char) : List Piece :=
  match cs with
  | [] => []
  | '{' :: '{' :: inner =>
    match h : close? inner with
    | some (inner', rest) =>
      have : rest.length < inner.length := by
        have := congrArg List.length (eq_of_close? h)
        simp at this
        omega
      tag inner' :: split rest
    | none => [loose inner]
  | c :: cs =>
    have := run_length cs
    text (c :: (run cs).1) :: split (run cs).2
termination_by cs.length

@[simp] theorem split_nil : split [] = [] := by rw [split]

theorem split_braces (cs : List Char) : split ('{' :: '{' :: cs) =
    match close? cs with
    | some (inner, rest) => tag inner :: split rest
    | none => [loose cs] := by
  rw [split]
  split <;> rename_i h <;> simp only [h]

theorem split_cons {c : Char} {cs : List Char} (hc : ∀ ds, c = '{' → cs = '{' :: ds → False) :
    split (c :: cs) = text (c :: (run cs).1) :: split (run cs).2 := by
  rw [split]
  exact hc

theorem join_split (cs : List Char) : join (split cs) = cs := by
  fun_induction split cs with
  | case1 => rfl
  | case2 inner inner' rest h _ ih =>
    simp [ih, chars, signature, eq_of_close? h]
  | case3 inner h => simp [chars]
  | case4 c cs _ _ ih => simp [ih, chars, run_append]

end Piece

end Stencil.Tag
