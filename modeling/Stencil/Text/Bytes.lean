/-!
Texts are lists of characters, and places in them are counted in bytes of their UTF-8 form.
-/

namespace Stencil.Text

/-- The length of a text in bytes. -/
def size : List Char → Nat
  | [] => 0
  | c :: cs => c.utf8Size + size cs

@[simp] theorem size_nil : size [] = 0 := rfl

@[simp] theorem size_cons (c : Char) (cs : List Char) : size (c :: cs) = c.utf8Size + size cs := rfl

@[simp] theorem size_append (xs ys : List Char) : size (xs ++ ys) = size xs + size ys := by
  induction xs with
  | nil => simp
  | cons c cs ih => simp [ih, Nat.add_assoc]

theorem size_eq_zero_iff {cs : List Char} : size cs = 0 ↔ cs = [] := by
  cases cs with
  | nil => simp
  | cons c cs => simp [Nat.ne_of_gt c.utf8Size_pos]

/-- The UTF-8 form of a text. -/
def utf8 (cs : List Char) : List UInt8 := cs.flatMap String.utf8EncodeChar

/-- The text without its first `n` bytes. A character that the cut falls into goes with them. -/
def dropBytes : Nat → List Char → List Char
  | _, [] => []
  | n, c :: cs => if n = 0 then c :: cs else dropBytes (n - c.utf8Size) cs

/-- The first `n` bytes of the text. A character that the cut falls into is kept. -/
def takeBytes : Nat → List Char → List Char
  | _, [] => []
  | n, c :: cs => if n = 0 then [] else c :: takeBytes (n - c.utf8Size) cs

theorem dropBytes_cons (n : Nat) (c : Char) (cs : List Char) :
    dropBytes n (c :: cs) = if n = 0 then c :: cs else dropBytes (n - c.utf8Size) cs := rfl

theorem takeBytes_cons (n : Nat) (c : Char) (cs : List Char) :
    takeBytes n (c :: cs) = if n = 0 then [] else c :: takeBytes (n - c.utf8Size) cs := rfl

@[simp] theorem takeBytes_append_dropBytes (n : Nat) (cs : List Char) :
    takeBytes n cs ++ dropBytes n cs = cs := by
  induction cs generalizing n with
  | nil => rfl
  | cons c cs ih =>
    by_cases h : n = 0
    · simp [takeBytes_cons, dropBytes_cons, h]
    · simp [takeBytes_cons, dropBytes_cons, h, ih]

@[simp] theorem dropBytes_zero (cs : List Char) : dropBytes 0 cs = cs := by
  cases cs <;> rfl

@[simp] theorem takeBytes_zero (cs : List Char) : takeBytes 0 cs = [] := by
  cases cs <;> rfl

@[simp] theorem dropBytes_size_append (xs ys : List Char) : dropBytes (size xs) (xs ++ ys) = ys := by
  induction xs with
  | nil => simp
  | cons c cs ih =>
    have := c.utf8Size_pos
    rw [size_cons, List.cons_append, dropBytes_cons, if_neg (by omega), Nat.add_sub_cancel_left, ih]

@[simp] theorem takeBytes_size_append (xs ys : List Char) : takeBytes (size xs) (xs ++ ys) = xs := by
  induction xs with
  | nil => simp
  | cons c cs ih =>
    have := c.utf8Size_pos
    rw [size_cons, List.cons_append, takeBytes_cons, if_neg (by omega), Nat.add_sub_cancel_left, ih]

/-- The part of the text from byte `start` up to byte `stop`. -/
def slice (cs : List Char) (start stop : Nat) : List Char :=
  takeBytes (stop - start) (dropBytes start cs)

theorem slice_append (xs ys zs : List Char) :
    slice (xs ++ ys ++ zs) (size xs) (size xs + size ys) = ys := by
  simp [slice, List.append_assoc]

end Stencil.Text
