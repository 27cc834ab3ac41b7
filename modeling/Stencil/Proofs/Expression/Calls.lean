import Stencil.Proofs.Expression.Paths
import Stencil.Proofs.Expression.Trimming

/-!
Calls of texts. Main statement: texts that are expressions, with commas between them and in the
parentheses of a call, are the arguments of the call, whatever blanks stand around them.
-/

namespace Stencil.Expression

open Stencil.Expression.Grammar

variable {texts : List (List Char)} {es : List Expression} {rest : List Char} {name : String}

/-- The call of a name with texts as arguments. -/
def callText (name : String) (texts : List (List Char)) : List Char :=
  name.toList ++ '(' :: ([','].intercalate texts ++ [')'])

/-- The texts are the expressions, each alone. -/
abbrev Parse (texts : List (List Char)) (es : List Expression) : Prop :=
  List.Forall₂ (fun text e => parse text = .ok e) texts es

/-- The arguments of a call after the first, and what follows them. -/
def moreTexts (texts : List (List Char)) (rest : List Char) : List Char :=
  texts.flatMap (',' :: ·) ++ ')' :: rest

lemma intercalate_append (text : List Char) (texts : List (List Char)) (rest : List Char) :
    [','].intercalate (text :: texts) ++ ')' :: rest = text ++ moreTexts texts rest := by
  induction texts generalizing text with
  | nil => simp [List.intercalate, moreTexts]
  | cons text' texts ih =>
    have h := ih text'
    simp only [List.intercalate, List.intersperse_cons_cons, List.flatten_cons, moreTexts,
      List.flatMap_cons, List.append_assoc, List.cons_append, List.nil_append] at h ⊢
    rw [h]

lemma apart_moreTexts (texts : List (List Char)) (rest : List Char) :
    Apart (moreTexts texts rest) := by
  cases texts with
  | nil =>
    rintro _ ⟨⟩
    decide
  | cons text texts =>
    rintro _ ⟨⟩
    decide

lemma tokensFrom_moreTexts (h : Parse texts es) :
    ∃ ts, MoreArguments ts es ∧ ∀ after rest, tokensFrom after (moreTexts texts rest) =
      (tokensFrom false rest).map (ts ++ .closeParen :: ·) := by
  induction h with
  | nil => exact ⟨[], .nil, fun after rest => tokensFrom_single rfl rest⟩
  | @cons text e texts es htext _ ih =>
    obtain ⟨us, hus, he⟩ := bind_eq_ok.1 htext
    obtain ⟨ts, more, hts⟩ := ih
    refine ⟨_, .cons (chain_of_ofTokens he) more, fun after rest => ?_⟩
    obtain ⟨after', hfirst⟩ := tokensFrom_append (apart_moreTexts texts rest) hus
    have hcons : moreTexts (text :: texts) rest = ',' :: (text ++ moreTexts texts rest) := by
      simp [moreTexts]
    rw [hcons, tokensFrom_single rfl, hfirst, hts, map_map, map_map]
    simp

lemma tokensFrom_texts (h : Parse texts es) :
    ∃ ts, Arguments ts es ∧ ∀ rest, tokensFrom false ([','].intercalate texts ++ ')' :: rest) =
      (tokensFrom false rest).map (ts ++ .closeParen :: ·) := by
  cases h with
  | nil => exact ⟨[], .none, fun rest => tokensFrom_single rfl rest⟩
  | @cons text e texts es htext hmore =>
    obtain ⟨us, hus, he⟩ := bind_eq_ok.1 htext
    obtain ⟨ts, more, hts⟩ := tokensFrom_moreTexts hmore
    refine ⟨_, .some (chain_of_ofTokens he) more, fun rest => ?_⟩
    obtain ⟨after, hfirst⟩ := tokensFrom_append (apart_moreTexts texts rest) hus
    rw [intercalate_append, hfirst, hts, map_map]
    simp

/-- Texts that are expressions are these expressions as the arguments of a call. -/
theorem parse_callText (hname : BeginsPath name) (h : Parse texts es) :
    parse (callText name texts) = .ok (.call name es) := by
  obtain ⟨hlexed, hword⟩ := lexed_of_beginsPath hname
  obtain ⟨ts, arguments, hts⟩ := tokensFrom_texts h
  have hparen : EndsName ('(' :: ([','].intercalate texts ++ [')'])) := by
    rintro _ ⟨⟩
    decide
  have htokens : tokens (callText name texts) =
      .ok (.name name :: .openParen :: ts ++ [.closeParen]) := by
    rw [tokens, callText, tokensFrom_name hlexed hparen, hword, tokensFrom_single rfl, hts,
      tokensFrom]
    rfl
  have stratum : Stratum 0 (.name name :: .openParen :: ts ++ [.closeParen]) (.call name es) :=
    .unary (.primary (.call arguments))
  rw [parse, htokens]
  exact ofTokens_of_chain stratum.toOr

end Stencil.Expression
