import Stencil.Proofs.Outcome
import Stencil.Proofs.Template.Grammar
import Stencil.Proofs.Text.Blank

/-!
What the tags of the grammar are to the two kinds of blocks: a tag that opens, closes or divides a
block of one kind does so for the count of that kind and is nothing to the other, and a tag that is
a block of its own is nothing to either.

The last needs that the tag is no divider in disguise, as `else == 1` is: an expression where a
block may begin, and yet a text that the count takes for a divider.
-/

namespace Stencil

open Stencil.Text Stencil.Tag Stencil.Template

/-- A body that divides a block for the count although it is none of the dividers that a block can
have: a word of theirs and a blank after it, which for `elseif` is not the plain space. -/
def Tag.isDisguised (body : List Char) : Bool :=
  (["else", "empty"].any fun word => ((after? word.toList body).bind List.head?).any isBlank)
    || ((after? "elseif".toList body).bind List.head?).any fun c => isBlank c && c != ' '

namespace Nest

/-- The tag opens a block of the kind. -/
def Opens (nest : Nest) (inner : List Char) : Prop :=
  ∃ rest, Tag.body inner = nest.word.toList ++ ' ' :: rest

/-- The tag is one of those that divide a block of the kind. -/
def Divides (nest : Nest) (inner : List Char) : Prop :=
  match nest with
  | conditional =>
    Tag.body inner = "else".toList ∨ ∃ rest, Tag.body inner = "elseif ".toList ++ rest
  | iteration => Tag.body inner = "empty".toList

variable {nest owner : Nest} {inner : List Char}

lemma role_of_opens (h : Opens nest inner) : nest.role inner = .opens := by
  obtain ⟨rest, h⟩ := h
  cases nest <;> simp [role, word, h, after?]

lemma role_of_opens_other (h : Opens owner inner) (hne : nest ≠ owner) :
    nest.role inner = .other := by
  obtain ⟨rest, h⟩ := h
  cases nest <;> cases owner <;> simp_all [role, word, dividers, isDivider, after?]

lemma role_of_closes (h : Closes nest inner) : nest.role inner = .closes := by
  obtain ⟨blanks, hb, h⟩ := h
  have ht : trimStart (blanks ++ nest.word.toList) = nest.word.toList := by
    rw [trimStart_blanks_append hb]
    cases nest <;> decide
  cases nest <;> simp_all [role, word, after?]

lemma role_of_closes_other (h : Closes owner inner) (hne : nest ≠ owner) :
    nest.role inner = .other := by
  obtain ⟨blanks, hb, h⟩ := h
  have ht : trimStart (blanks ++ owner.word.toList) = owner.word.toList := by
    rw [trimStart_blanks_append hb]
    cases owner <;> decide
  cases nest <;> cases owner <;> simp_all [role, word, dividers, isDivider, after?]

lemma role_of_divides (h : Divides nest inner) : nest.role inner = .divides := by
  cases nest with
  | conditional =>
    rcases h with h | ⟨rest, h⟩ <;> simp [role, word, dividers, isDivider, h, after?]
    decide
  | iteration =>
    simp only [Divides] at h
    simp [role, word, dividers, isDivider, h, after?]

lemma role_of_divides_other (h : Divides owner inner) (hne : nest ≠ owner) :
    nest.role inner = .other := by
  cases owner with
  | conditional =>
    cases nest with
    | conditional => exact absurd rfl hne
    | iteration =>
      rcases h with h | ⟨rest, h⟩ <;> simp [role, word, dividers, isDivider, h, after?]
  | iteration =>
    cases nest with
    | conditional =>
      simp only [Divides] at h
      simp [role, word, dividers, isDivider, h, after?]
    | iteration => exact absurd rfl hne

/-! ### What the tags of the grammar are -/

/-- A tag says what its form lets it say. -/
lemma form_of_leadOf {lead : Lead} (h : leadOf inner = .ok lead) :
    isStray (Tag.body inner) = false ∧ ∃ form, Form.of? (Tag.body inner) = some form ∧
      (form = .conditional ↔ ∃ c, lead = .conditional c) ∧
      (form = .iteration ↔ ∃ header, lead = .iteration header) := by
  simp only [leadOf] at h
  split at h
  · simp at h
  · rename_i hs
    refine ⟨by simpa using hs, ?_⟩
    cases hf : Form.of? (Tag.body inner) with
    | none => simp [hf] at h
    | some form =>
      refine ⟨form, rfl, ?_⟩
      cases form <;> simp only [hf, map_eq_ok, Except.ok.injEq] at h
      case comment => simp [← h]
      all_goals
        obtain ⟨a, -, rfl⟩ := h
        simp

lemma fits_of_form {body : List Char} {form : Form} (h : Form.of? body = some form) :
    form.fits body :=
  List.find?_some h

lemma opens_of_conditional {condition : Expression}
    (h : leadOf inner = .ok (.conditional condition)) : Opens .conditional inner := by
  obtain ⟨-, form, hf, hc, -⟩ := form_of_leadOf h
  obtain rfl := hc.2 ⟨condition, rfl⟩
  obtain ⟨rest, hr⟩ := Option.isSome_iff_exists.1 (fits_of_form hf)
  exact ⟨rest, by simpa [Form.opening, word] using after?_eq_some hr⟩

lemma opens_of_iteration {header : Header} (h : leadOf inner = .ok (.iteration header)) :
    Opens .iteration inner := by
  obtain ⟨-, form, hf, -, hi⟩ := form_of_leadOf h
  obtain rfl := hi.2 ⟨header, rfl⟩
  obtain ⟨rest, hr⟩ := Option.isSome_iff_exists.1 (fits_of_form hf)
  exact ⟨rest, by simpa [Form.opening, word] using after?_eq_some hr⟩

lemma form_of_opens (h : Opens nest inner) : Form.of? (Tag.body inner) =
    some (match nest with
      | conditional => .conditional
      | iteration => .iteration) := by
  obtain ⟨rest, h⟩ := h
  cases nest <;> simp [Form.of?, Form.all, Form.fits, Form.opening, word, h, after?]

lemma opens_of_role (h : nest.role inner = .opens) : Opens nest inner := by
  simp only [role] at h
  split at h
  · rename_i ho
    obtain ⟨r, hr, hh⟩ := Option.bind_eq_some_iff.1 ho
    obtain ⟨rest, rfl⟩ := List.head?_eq_some_iff.1 hh
    exact ⟨rest, after?_eq_some hr⟩
  · split at h
    · simp at h
    · split at h <;> simp at h

lemma closes_of_role (h : nest.role inner = .closes) : Closes nest inner := by
  simp only [role] at h
  split at h
  · simp at h
  · split at h
    · rename_i hc
      obtain ⟨r, hr, ht⟩ := Option.map_eq_some_iff.1 hc
      refine ⟨r.takeWhile isBlank, List.all_eq_true.1 List.all_takeWhile, ?_⟩
      rw [after?_eq_some hr, ← ht, trimStart, List.takeWhile_append_dropWhile]
      rfl
    · split at h <;> simp at h

lemma isDivider_eq_true {body : List Char} {w : String} (h : isDivider body w) :
    body = w.toList ∨ ∃ c rest, isBlank c ∧ body = w.toList ++ c :: rest := by
  unfold isDivider at h
  split at h
  · rename_i ha
    exact .inl (by simpa using after?_eq_some ha)
  · rename_i c rest ha
    exact .inr ⟨c, rest, h, after?_eq_some ha⟩
  · simp at h

lemma isDivider_of_role (h : nest.role inner = .divides) :
    ∃ w ∈ nest.dividers, isDivider (Tag.body inner) w := by
  simp only [role] at h
  split at h
  · simp at h
  · split at h
    · simp at h
    · split at h
      · rename_i hd
        exact List.any_eq_true.1 hd
      · simp at h

/-- A tag that divides for the count is a lone divider or one in disguise. -/
lemma stray_or_disguised_of_role (h : nest.role inner = .divides) :
    isStray (Tag.body inner) ∨ isDisguised (Tag.body inner) := by
  obtain ⟨w, hw, hd⟩ := isDivider_of_role h
  rcases isDivider_eq_true hd with hb | ⟨c, rest, hc, hb⟩
  · left
    cases nest <;> simp only [dividers, List.mem_cons, List.not_mem_nil, or_false] at hw
    · rcases hw with rfl | rfl <;> simp [isStray, hb]
    · subst hw; simp [isStray, hb]
  · by_cases hs : w = "elseif" ∧ c = ' '
    · left
      simp [isStray, hb, hs, after?]
    · right
      cases nest <;> simp only [dividers, List.mem_cons, List.not_mem_nil, or_false] at hw
      · rcases hw with rfl | rfl <;> simp_all [isDisguised, after?]
      · subst hw; simp [isDisguised, hb, hc, after?]

/-- A tag that is a whole block means nothing to the count, unless it is disguised. -/
lemma role_of_simple {content : Content} (h : leadOf inner = .ok (.simple content)) :
    nest.role inner = .other ∨ nest.role inner = .divides ∧ isDisguised (Tag.body inner) := by
  obtain ⟨hs, form, hf, hc, hi⟩ := form_of_leadOf h
  cases hr : nest.role inner with
  | opens =>
    rw [form_of_opens (opens_of_role hr), Option.some.injEq] at hf
    cases nest <;> simp [← hf] at hc hi
  | closes =>
    obtain ⟨blanks, -, hb⟩ := closes_of_role hr
    simp [isStray, hb] at hs
  | divides => exact .inr ⟨rfl, (stray_or_disguised_of_role hr).resolve_left (by simp [hs])⟩
  | other => exact .inl rfl

end Nest

end Stencil
