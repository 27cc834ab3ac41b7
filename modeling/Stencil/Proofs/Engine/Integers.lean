import Stencil.Proofs.Engine.Verbatim
import Stencil.Proofs.Expression.Calls
import Stencil.Proofs.Template.Tags

/-!
Integers as literals. The text of an integer has a minus sign when it is negative, and the digits
after the sign are read as a number of their own. Main statement: the text of an integer is read as
the integer, wherever an expression has a place for one, just if it is not the least integer, whose
digits are those of a number that is too large.
-/

namespace Stencil

open Stencil.Text Stencil.Decimal Stencil.Expression

variable {n : Int64} {c : Char} {cs : List Char}

/-! ### Tags with an integer -/

namespace Template

/-- A text that begins with a digit or with a minus sign. -/
def BeginsNumber (cs : List Char) : Prop := ∃ c ∈ cs.head?, c.isDigit ∨ c = '-'

lemma ne_of_beginsNumber {d : Char} (hc : c.isDigit ∨ c = '-') (hd : d.isDigit = false)
    (hminus : d ≠ '-') : c ≠ d := by
  rintro rfl
  rcases hc with hc | hc
  · rw [hc] at hd
    cases hd
  · exact hminus hc

/-- No kind of tag but the binding begins like a number. -/
lemma form_of_beginsNumber (h : BeginsNumber cs) : Form.of? cs = some .binding := by
  obtain ⟨c, hhead, hc⟩ := h
  obtain ⟨cs, rfl⟩ := List.head?_eq_some_iff.1 hhead
  have hother {d : Char} (hd : d.isDigit = false) (hminus : d ≠ '-') (lead : List Char) :
      after? (d :: lead) (c :: cs) = none := by
    rw [after?, if_neg (ne_of_beginsNumber hc hd hminus).symm]
  have hbegins : Form.beginsBinding c := by
    rcases hc with hc | rfl
    · simp [Form.beginsBinding, isAlphanumeric_of_isDigit hc]
    · decide
  simp [Form.of?, Form.all, Form.fits, Form.opening, hother, hbegins]

lemma not_isStray_of_beginsNumber (h : BeginsNumber cs) : isStray cs = false := by
  obtain ⟨c, hhead, hc⟩ := h
  obtain ⟨cs, rfl⟩ := List.head?_eq_some_iff.1 hhead
  have hslash : c ≠ '/' := ne_of_beginsNumber hc (by decide) (by decide)
  have he : c ≠ 'e' := ne_of_beginsNumber hc (by decide) (by decide)
  simp [isStray, after?, hslash, he, he.symm]

end Template

/-! ### The text of an integer -/

/-- The text of an integer. -/
def integerText (n : Int64) : String := (Value.integer n).display

lemma toList_integerText (n : Int64) : (integerText n).toList = Decimal.write n.toInt :=
  String.toList_ofList

lemma mem_write {m : Int} (hc : c ∈ Decimal.write m) : c.isDigit ∨ c = '-' := by
  rw [Decimal.write] at hc
  split at hc
  · rcases List.mem_cons.1 hc with rfl | hc
    · exact .inr rfl
    · exact .inl (isDigit_of_mem_digits c hc)
  · exact .inl (isDigit_of_mem_digits c hc)

lemma beginsNumber_write (m : Int) : Template.BeginsNumber (Decimal.write m) := by
  have hne : Decimal.write m ≠ [] := by
    rw [Decimal.write]
    split
    · simp
    · exact Nat.toDigits_ne_nil
  obtain ⟨c, cs, hcs⟩ := List.exists_cons_of_ne_nil hne
  exact ⟨c, by rw [hcs]; rfl, mem_write (by rw [hcs]; simp)⟩

lemma not_isBlank_write {m : Int} : ∀ c ∈ Decimal.write m, isBlank c = false := by
  intro c hc
  rcases mem_write hc with hdigit | rfl
  · exact not_isBlank_of_isDigit hdigit
  · decide

lemma close?_write (m : Int) (rest : List Char) :
    Tag.close? (Decimal.write m ++ '}' :: '}' :: rest) = some (Decimal.write m, rest) := by
  have hplain : ∀ c ∈ Decimal.write m, isPlain c := by
    intro c hc
    rcases mem_write hc with hdigit | rfl
    · exact isPlain_of_isDigit hdigit
    · decide
  refine Tag.close?_of_skips (.plains hplain) ?_ rest
  rw [← head?_trim, trim_of_no_blanks not_isBlank_write]
  intro hhead
  rcases mem_write (List.mem_of_head? hhead) with h | h <;> revert h <;> decide

/-! ### Integers and their texts -/

namespace Template

lemma leadOf_integer (h : parse (Decimal.write n.toInt) = .ok (.literal (.integer n))) :
    leadOf (Decimal.write n.toInt) = .ok (.simple (.binding (.literal (.integer n)))) := by
  have hbegins := beginsNumber_write n.toInt
  have hbody : Tag.body (Decimal.write n.toInt) = Decimal.write n.toInt :=
    trim_of_no_blanks not_isBlank_write
  simp only [leadOf, hbody, not_isStray_of_beginsNumber hbegins, form_of_beginsNumber hbegins,
    bindingOf, h]
  rfl

open Rendering in
/-- A tag with a literal writes the value's text. -/
lemma render_literal {signature : String} {span : Span} (l : Literal) (e : Engine) (model : Value)
    (micros : Nat) :
    e.render ⟨[.mk signature span (.binding (.literal l))], 0⟩ model micros =
      .ok l.value.display := by
  let t : Template := ⟨[.mk signature span (.binding (.literal l))], 0⟩
  have hflags : t.flags = [] := rfl
  have hrun : t.run [] e.functions e.library model =
      (.ok (), ⟨.initial model [], "" ++ l.value.display⟩) := by
    change outcome (blocksWithin _ _ depthLimit 0 [_]) _ = _
    rw [blocksWithin_singleton]
    rfl
  change t.render e.functions e.library model micros = _
  rw [Template.render, hflags, renderWith_ok (by rw [hrun]), hrun]
  simp

end Template

/-- The text of the integer is read as the integer: alone, among the arguments of a call, on either
side of an operator, after the sign of negation, and in a tag, which writes the text. -/
structure ReadsBack (n : Int64) : Prop where
  alone : parse (integerText n).toList = .ok (.literal (.integer n))
  argument {name : String} {before after : List (List Char)} {es es' : List Expression}
    (hname : BeginsPath name) (hbefore : Parse before es) (hafter : Parse after es') :
    parse (callText name (before ++ (integerText n).toList :: after)) =
      .ok (.call name (es ++ .literal (.integer n) :: es'))
  left {op : Operator} {gap us : List Char} {e : Expression} (hgap : ∀ c ∈ gap, separates c)
    (hus : Written (op.strength + 1) us e) :
    parse ((integerText n).toList ++ (gap ++ (op.symbol.toList ++ (gap ++ us)))) =
      .ok (.binary op (.literal (.integer n)) e)
  right {op : Operator} {gap us : List Char} {e : Expression} (hgap : ∀ c ∈ gap, separates c)
    (hus : Written op.strength us e) :
    parse (us ++ (gap ++ (op.symbol.toList ++ (gap ++ (integerText n).toList)))) =
      .ok (.binary op e (.literal (.integer n)))
  negated : parse ('!' :: (integerText n).toList) = .ok (.not (.literal (.integer n)))
  rendered : ∃ t, Engine.compile (Template.tagText (integerText n)) = .ok t ∧
    ∀ (e : Engine) (model : Value) (micros : Nat), e.render t model micros = .ok (integerText n)

lemma readsBack_of_ne (hn : n ≠ Int64.minValue) : ReadsBack n := by
  have hwritten {least : Nat} :
      Written least (integerText n).toList (.literal (.integer n)) := by
    rw [toList_integerText]
    exact written_integer hn
  have halone := (@hwritten 0).parse
  constructor
  · exact halone
  · intro name before after es es' hname hbefore hafter
    exact parse_callText hname (List.rel_append hbefore (.cons halone hafter))
  · intro op gap us e hgap hus
    exact (written_binary hgap hwritten hus).parse
  · intro op gap us e hgap hus
    exact (written_binary hgap hus hwritten).parse
  · exact (@written_not _ _ 0 hwritten).parse
  · rw [toList_integerText] at halone
    have hcompile := @Template.compile_tag _ _ 0 (close?_write n.toInt [])
      (Template.leadOf_integer halone)
    have htag : Template.tagText (integerText n) =
        .ofList (Tag.signature (Decimal.write n.toInt)) := by
      rw [Template.tagText, toList_integerText]
    rw [Template.blockOf_tag] at hcompile
    rw [Engine.compile, htag]
    exact ⟨_, hcompile, Template.render_literal (.integer n)⟩

/-- The digits of the least integer are those of a number that is too large. -/
lemma parse_least :
    parse (integerText Int64.minValue).toList =
      .error (.integerTooLarge "9223372036854775808") := by
  have hlarge := @tokensFrom_tooLarge (digits (2 ^ 63)) [] false Nat.toDigits_ne_nil
    isDigit_of_mem_digits (by rw [ofDigits_digits]) endsWord_nil.endsName fun _ => rfl
  rw [List.append_nil] at hlarge
  have hwrite : Decimal.write Int64.minValue.toInt = '-' :: digits (2 ^ 63) := rfl
  rw [toList_integerText, hwrite, parse, tokens, tokensFrom_single rfl, hlarge]
  rfl

/-- **Integers are read back** from their texts, all but the least one. -/
theorem readsBack_iff (n : Int64) : ReadsBack n ↔ n ≠ Int64.minValue := by
  constructor
  · rintro hreads rfl
    have halone := hreads.alone
    rw [parse_least] at halone
    cases halone
  · exact readsBack_of_ne

/-- The least integer has a text, and the text is not read. -/
theorem least_not_readsBack :
    integerText Int64.minValue = "-9223372036854775808" ∧
    parse "-9223372036854775808".toList = .error (.integerTooLarge "9223372036854775808") ∧
    ¬ReadsBack Int64.minValue := by
  have htext : integerText Int64.minValue = "-9223372036854775808" := by decide +kernel
  have hparse := parse_least
  refine ⟨htext, htext ▸ hparse, fun hreads => ?_⟩
  have halone := hreads.alone
  rw [hparse] at halone
  cases halone

end Stencil
