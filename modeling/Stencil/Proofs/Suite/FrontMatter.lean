import Mathlib.Data.List.DropRight
import Stencil.Proofs.Text.Cutting
import Stencil.Suite.FrontMatter

/-!
Where the front matter of a test file ends. It goes up to the line that is made of three dashes,
which is looked for as a line end with three dashes after it. Main statement: a file is split into
the front matter and the template of which it is made, just if the front matter has a line, none of
its lines but the first begins with three dashes, and the last does not end in a carriage return.
-/

namespace Stencil.Suite

open Stencil.Text

/-! ### Files made of lines -/

/-- How lines end. -/
inductive LineEnd where
  | feed
  | returnAndFeed

namespace LineEnd

/-- What comes before the line feed. -/
def lead : LineEnd → List Char
  | feed => []
  | returnAndFeed => ['\r']

def chars (e : LineEnd) : List Char := e.lead ++ ['\n']

end LineEnd

/-- The line above a front matter, and the line below it. -/
def dashes : List Char := ['-', '-', '-']

/-- The lines as a text, with line ends between them. -/
def textOf (e : LineEnd) (ls : List (List Char)) : List Char := e.chars.intercalate ls

/-- A test file: the lines of the front matter between two lines of dashes, and the template. -/
def fileOf (e : LineEnd) (ls : List (List Char)) (template : List Char) : List Char :=
  (dashes :: ls ++ [dashes]).flatMap (· ++ e.chars) ++ template

variable {e : LineEnd} {l : List Char} {ls : List (List Char)} {template : List Char}

lemma dropLineEnd_chars (e : LineEnd) (cs : List Char) : dropLineEnd (e.chars ++ cs) = cs := by
  cases e <;> rfl

lemma length_dropLineEnd_le (cs : List Char) : cs.length ≤ (dropLineEnd cs).length + 2 := by
  unfold dropLineEnd
  split <;> simp

/-- Lines after a first one, each behind a line feed. -/
def behindFeeds (e : LineEnd) (ls : List (List Char)) : List Char :=
  ls.flatMap fun l => '\n' :: (l ++ e.lead)

lemma textOf_cons (e : LineEnd) (l : List Char) (ls : List (List Char)) :
    textOf e (l :: ls) ++ e.lead = l ++ e.lead ++ behindFeeds e ls := by
  induction ls generalizing l with
  | nil => simp [textOf, behindFeeds]
  | cons l' ls ih =>
    rw [textOf, List.intercalate_cons_cons, List.append_assoc, ← textOf, ih]
    simp [LineEnd.chars, behindFeeds]

/-- The lines with their ends, the last line feed apart. -/
lemma flatMap_cons (e : LineEnd) (l : List Char) (ls : List (List Char)) :
    (l :: ls).flatMap (· ++ e.chars) = textOf e (l :: ls) ++ e.lead ++ ['\n'] := by
  rw [textOf_cons]
  induction ls generalizing l with
  | nil => simp [LineEnd.chars, behindFeeds]
  | cons l' ls ih =>
    rw [List.flatMap_cons, ih]
    simp [LineEnd.chars, behindFeeds]

lemma splitFile_fileOf (e : LineEnd) (ls : List (List Char)) (template : List Char) :
    splitFile (fileOf e ls template) =
      match splitOnce ('\n' :: dashes)
        (ls.flatMap (· ++ e.chars) ++ dashes ++ (e.chars ++ template)) with
      | none => .error .noClosing
      | some (matter, rest) => .ok (matter.rdropWhile (· == '\r'), dropLineEnd rest) := by
  have hfile : fileOf e ls template = "---".toList ++
      (e.chars ++ (ls.flatMap (· ++ e.chars) ++ dashes ++ (e.chars ++ template))) := by
    simp [fileOf, dashes]
  have hmark : (fileOf e ls template).dropWhile (· == '\uFEFF') = fileOf e ls template := by
    rw [hfile]
    rfl
  rw [splitFile, hmark, hfile, after?_append]
  simp only [dropLineEnd_chars]
  rfl

/-! ### Where the end is found -/

lemma lead_prefix_iff (e : LineEnd) (l : List Char) : dashes <+: l ++ e.lead ↔ dashes <+: l := by
  cases e with
  | feed => rw [LineEnd.lead, List.append_nil]
  | returnAndFeed => exact prefix_append_cons_iff (by decide)

/-- The search passes over lines that do not begin with dashes. -/
lemma splitOnce_behindFeeds (hfeed : ∀ l ∈ ls, '\n' ∉ l) (hdashes : ∀ l ∈ ls, ¬ dashes <+: l)
    (rest : List Char) :
    splitOnce ('\n' :: dashes) (behindFeeds e ls ++ '\n' :: (dashes ++ rest)) =
      some (behindFeeds e ls, rest) := by
  induction ls with
  | nil =>
    have hfound := after?_append ('\n' :: dashes) rest
    rw [List.cons_append] at hfound
    rw [behindFeeds, List.flatMap_nil, List.nil_append, splitOnce, hfound]
  | cons l ls ih =>
    obtain ⟨cs, hcs⟩ : ∃ cs, behindFeeds e ls ++ '\n' :: (dashes ++ rest) = '\n' :: cs := by
      cases ls with
      | nil => exact ⟨_, rfl⟩
      | cons l' ls => exact ⟨_, rfl⟩
    have hcons : behindFeeds e (l :: ls) ++ '\n' :: (dashes ++ rest) =
        '\n' :: (l ++ e.lead ++ (behindFeeds e ls ++ '\n' :: (dashes ++ rest))) := by
      simp [behindFeeds]
    have hnone : after? ('\n' :: dashes)
        ('\n' :: (l ++ e.lead ++ (behindFeeds e ls ++ '\n' :: (dashes ++ rest)))) = none := by
      rw [hcs, after?_eq_none_iff, List.cons_prefix_cons, prefix_append_cons_iff (by decide),
        lead_prefix_iff]
      exact fun h => hdashes l List.mem_cons_self h.2
    have hline : '\n' ∉ l ++ e.lead := by
      rw [List.mem_append, not_or]
      exact ⟨hfeed l List.mem_cons_self, by cases e <;> decide⟩
    have ih := ih (fun l' hl => hfeed l' (List.mem_cons_of_mem _ hl))
      (fun l' hl => hdashes l' (List.mem_cons_of_mem _ hl))
    rw [hcons, splitOnce, hnone, splitOnce_append hline, ih]
    simp [behindFeeds]

/-- The text below the first line of dashes, up to the last. -/
lemma fileOf_cons (e : LineEnd) (l : List Char) (ls : List (List Char)) (rest : List Char) :
    (l :: ls).flatMap (· ++ e.chars) ++ dashes ++ rest =
      l ++ e.lead ++ (behindFeeds e ls ++ '\n' :: (dashes ++ rest)) := by
  rw [flatMap_cons, textOf_cons]
  simp

lemma rdropWhile_lead (e : LineEnd) (cs : List Char) :
    (cs ++ e.lead).rdropWhile (· == '\r') = cs.rdropWhile (· == '\r') := by
  cases e with
  | feed => rw [LineEnd.lead, List.append_nil]
  | returnAndFeed => exact List.rdropWhile_concat_pos _ _ _ (by decide)

/-- The search ends where it should, if no line but the first begins with dashes. What is taken off
the front matter are the carriage returns at its end. -/
lemma splitFile_of_no_dashes (hfeed : ∀ l' ∈ l :: ls, '\n' ∉ l')
    (hdashes : ∀ l ∈ ls, ¬ dashes <+: l) :
    splitFile (fileOf e (l :: ls) template) =
      .ok ((textOf e (l :: ls)).rdropWhile (· == '\r'), template) := by
  have hline : '\n' ∉ l ++ e.lead := by
    rw [List.mem_append, not_or]
    exact ⟨hfeed l List.mem_cons_self, by cases e <;> decide⟩
  have hrest := splitOnce_behindFeeds (e := e)
    (fun l' hl => hfeed l' (List.mem_cons_of_mem _ hl)) hdashes (e.chars ++ template)
  rw [splitFile_fileOf, fileOf_cons, splitOnce_append hline, hrest]
  simp only [Option.map_some, dropLineEnd_chars]
  rw [← textOf_cons, rdropWhile_lead]

/-- A line of dashes right after the first is not found. -/
lemma splitFile_nil_ne : splitFile (fileOf e [] template) ≠ .ok ([], template) := by
  rw [splitFile_fileOf]
  intro h
  split at h
  · cases h
  · rename_i matter rest hsplit
    injection h with h
    injection h with hmatter hrest
    have hall := List.rdropWhile_eq_nil_iff.1 hmatter
    have htext := splitOnce_eq_some hsplit
    cases matter with
    | nil => simp [dashes] at htext
    | cons c matter =>
      have hc := hall c List.mem_cons_self
      obtain ⟨rfl, -⟩ := List.cons.inj htext
      exact absurd hc (by decide)

/-- A line that begins with dashes ends the front matter too soon. -/
lemma splitFile_ne_of_dashes {l' : List Char} (hl : l' ∈ ls) (hdashes : dashes <+: l') :
    splitFile (fileOf e (l :: ls) template) ≠ .ok (textOf e (l :: ls), template) := by
  obtain ⟨ls₁, ls₂, rfl⟩ := List.append_of_mem hl
  obtain ⟨more, rfl⟩ := hdashes
  obtain ⟨before, hbefore⟩ : ∃ before, l ++ e.lead ++ behindFeeds e ls₁ = before := ⟨_, rfl⟩
  obtain ⟨after, hafter⟩ : ∃ after, more ++ e.lead ++ behindFeeds e ls₂ = after := ⟨_, rfl⟩
  have htext : textOf e (l :: (ls₁ ++ (dashes ++ more) :: ls₂)) ++ e.lead =
      before ++ '\n' :: (dashes ++ after) := by
    rw [textOf_cons, ← hbefore, ← hafter]
    simp [behindFeeds]
  obtain ⟨end', hend⟩ : ∃ end', '\n' :: (dashes ++ (e.chars ++ template)) = end' := ⟨_, rfl⟩
  have hfound : ∃ head rest, splitOnce ('\n' :: dashes)
      (before ++ '\n' :: dashes ++ (after ++ end')) = some (head, rest) ∧
        head.length ≤ before.length :=
    exists_splitOnce (List.cons_ne_nil _ _)
  obtain ⟨head, rest, hsplit, hle⟩ := hfound
  have hfile : (l :: (ls₁ ++ (dashes ++ more) :: ls₂)).flatMap (· ++ e.chars) ++ dashes ++
      (e.chars ++ template) = before ++ '\n' :: dashes ++ (after ++ end') := by
    rw [fileOf_cons, hend, ← List.append_assoc, ← textOf_cons, htext]
    simp
  rw [splitFile_fileOf, hfile, hsplit]
  intro h
  injection h with h
  injection h with hmatter hrest
  -- what is found is too short for the front matter, and leaves too much for the template
  have hmatter' := (List.rdropWhile_prefix (· == '\r') head).length_le
  have hrest' := length_dropLineEnd_le rest
  have hlead : e.lead.length ≤ 1 := by cases e <;> decide
  have hwhole := congrArg List.length (splitOnce_eq_some hsplit)
  have htext' := congrArg List.length htext
  rw [hmatter] at hmatter'
  rw [hrest] at hrest'
  simp only [← hend, LineEnd.chars, List.length_append, List.length_cons, List.length_nil] at *
  omega

/-! ### What is taken off the end -/

lemma getLast?_textOf (hne : ls ≠ []) :
    (textOf e ls).getLast? = some '\r' ↔ ∃ l ∈ ls.getLast?, l.getLast? = some '\r' := by
  induction ls with
  | nil => exact absurd rfl hne
  | cons l ls ih =>
    cases ls with
    | nil => simp [textOf]
    | cons l' ls =>
      have hlast : e.chars.getLast? = some '\n' := by cases e <;> rfl
      rw [textOf, List.intercalate_cons_cons, ← textOf, List.getLast?_cons_cons,
        ← ih (List.cons_ne_nil _ _), List.getLast?_append, List.getLast?_append, hlast]
      cases (textOf e (l' :: ls)).getLast? with
      | none => simp
      | some c => simp

/-- **Front matters**: a file that is made of the lines of a front matter, between two lines of
dashes, and a template is split into these, just if there is a line, no line but the first begins
with three dashes, and the last one does not end in a carriage return. -/
theorem splitFile_eq_ok_iff (e : LineEnd) (template : List Char) {ls : List (List Char)}
    (hfeed : ∀ l ∈ ls, '\n' ∉ l) :
    splitFile (fileOf e ls template) = .ok (textOf e ls, template) ↔
      ls ≠ [] ∧ (∀ l ∈ ls.tail, ¬ dashes <+: l) ∧ ∀ l ∈ ls.getLast?, l.getLast? ≠ some '\r' := by
  cases ls with
  | nil => exact iff_of_false splitFile_nil_ne fun h => h.1 rfl
  | cons l ls =>
    rw [List.tail_cons]
    by_cases hdashes : ∀ l ∈ ls, ¬ dashes <+: l
    · rw [splitFile_of_no_dashes hfeed hdashes]
      have hlast := getLast?_textOf (e := e) (List.cons_ne_nil l ls)
      simp only [Except.ok.injEq, Prod.mk.injEq, and_true, rdropWhile_eq_self_iff, ne_eq, hlast]
      push Not
      exact ⟨fun h => ⟨List.cons_ne_nil _ _, hdashes, h⟩, fun h => h.2.2⟩
    · refine iff_of_false ?_ fun h => hdashes h.2.1
      push Not at hdashes
      obtain ⟨l', hl, hdashes⟩ := hdashes
      exact splitFile_ne_of_dashes hl hdashes

/-- A front matter of two lines, of which the first begins with dashes. -/
theorem splitFile_eq_ok_heading :
    (∀ l ∈ ["---a = 1".toList, "b = 2".toList], '\n' ∉ l) ∧
      splitFile "---\r\n---a = 1\r\nb = 2\r\n---\r\n\nx".toList =
        .ok ("---a = 1\r\nb = 2".toList, "\nx".toList) := by
  have hfeed : ∀ l ∈ ["---a = 1".toList, "b = 2".toList], '\n' ∉ l := by decide
  exact ⟨hfeed, (splitFile_eq_ok_iff .returnAndFeed "\nx".toList hfeed).2
    ⟨by decide, by decide, by decide⟩⟩

/-- The lines of a text in quotes with a rule inside it. -/
def ruled : List (List Char) := ["d = '''".toList, "----".toList, "'''".toList]

/-- An empty front matter is not found, and one with a rule in it is cut off there, although none of
its lines is made of three dashes. -/
theorem splitFile_empty_ne :
    splitFile (fileOf .feed [] ['x']) ≠ .ok (textOf .feed [], ['x']) ∧
      dashes ∉ ruled ∧
        splitFile (fileOf .feed ruled ['x']) ≠ .ok (textOf .feed ruled, ['x']) := by
  have hrule : "----".toList ∈ ["----".toList, "'''".toList] := List.mem_cons_self
  exact ⟨splitFile_nil_ne, by decide, splitFile_ne_of_dashes hrule ⟨['-'], rfl⟩⟩

end Stencil.Suite
