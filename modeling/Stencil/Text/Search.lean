import Stencil.Text.Bytes

/-!
Finding one text in another: leading texts, the first occurrence of a separator, replacement.
-/

namespace Stencil.Text

/-- What follows `lead` in a text that starts with it. -/
def after? : List Char → List Char → Option (List Char)
  | [], cs => some cs
  | l :: ls, c :: cs => if l = c then after? ls cs else none
  | _ :: _, [] => none

/-- What precedes `tail` in a text that ends with it. -/
def before? (tail cs : List Char) : Option (List Char) :=
  (after? tail.reverse cs.reverse).map List.reverse

/-- The parts of a text before and after the first occurrence of `separator`. -/
def splitOnce (separator : List Char) : List Char → Option (List Char × List Char)
  | [] => if separator.isEmpty then some ([], []) else none
  | c :: cs =>
    match after? separator (c :: cs) with
    | some rest => some ([], rest)
    | none => (splitOnce separator cs).map fun (head, rest) => (c :: head, rest)

theorem after?_eq_some {lead cs rest : List Char} (h : after? lead cs = some rest) :
    cs = lead ++ rest := by
  fun_induction after? lead cs with
  | case1 cs => simpa using h
  | case2 l ls cs ih => rw [ih h, List.cons_append]
  | case3 => simp at h
  | case4 => simp at h

@[simp] theorem after?_append (lead rest : List Char) : after? lead (lead ++ rest) = some rest := by
  induction lead with
  | nil => rfl
  | cons l ls ih => simp [after?, ih]

theorem splitOnce_eq_some {separator cs head rest : List Char}
    (h : splitOnce separator cs = some (head, rest)) : cs = head ++ separator ++ rest := by
  induction cs generalizing head with
  | nil =>
    cases separator with
    | nil => simp [splitOnce] at h; simp [h]
    | cons _ _ => simp [splitOnce] at h
  | cons c cs ih =>
    simp only [splitOnce] at h
    split at h
    · rename_i heq
      simp only [Option.some.injEq, Prod.mk.injEq] at h
      obtain ⟨rfl, rfl⟩ := h
      simpa using after?_eq_some heq
    · obtain ⟨⟨head', rest'⟩, hp, heq⟩ := Option.map_eq_some_iff.1 h
      simp only [Prod.mk.injEq] at heq
      obtain ⟨rfl, rfl⟩ := heq
      simp [ih hp]

/-- Does `needle` occur in the text? -/
def occursIn (needle cs : List Char) : Bool := (splitOnce needle cs).isSome

/-- The text with each occurrence of `find`, read from the left, replaced. The first argument
counts the characters of an occurrence that are still to be passed over. -/
def replaceFrom (find replacement : List Char) : Nat → List Char → List Char
  | _, [] => []
  | skip + 1, _ :: cs => replaceFrom find replacement skip cs
  | 0, c :: cs =>
    if find.isPrefixOf (c :: cs) then replacement ++ replaceFrom find replacement (find.length - 1) cs
    else c :: replaceFrom find replacement 0 cs

/-- The text with every occurrence of a nonempty `find` replaced. -/
def replaceAll (find replacement cs : List Char) : List Char :=
  if find.isEmpty then cs else replaceFrom find replacement 0 cs

/-- The lines of a text: it is cut after each line feed, and a carriage return before one goes
with it. A last line that is empty is dropped. -/
def lines (cs : List Char) : List (List Char) :=
  let pieces := (cs.splitOn '\n').map fun line =>
    match line.reverse with
    | '\r' :: rest => rest.reverse
    | _ => line
  match (cs.splitOn '\n').reverse with
  | last :: _ => if last.isEmpty then pieces.dropLast else pieces.dropLast ++ [last]
  | [] => []

end Stencil.Text
