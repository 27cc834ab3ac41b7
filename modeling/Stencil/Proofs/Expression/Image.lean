import Stencil.Expression.Reading
import Stencil.Proofs.Expression.Reading
import Stencil.Proofs.Expression.Tokens

/-!
What expressions texts can be. The tokens of a text bound what its expression holds: names are names
and not words with a meaning of their own, whole numbers have no sign, and what stands after a point
is a name, a word or a whole number.
-/

namespace Stencil.Expression

open Stencil.Text Stencil.Decimal Stencil.Expression.Grammar

/-! ### Tokens of texts -/

/-- What is always so of a token that a text has. -/
def Token.Lexed : Token → Prop
  | .name s => isName s.toList ∧ wordToken s.toList = .name s
  | .literal (.integer n) => 0 ≤ n.toInt
  | _ => True

lemma lexed_wordToken {us : List Char} (h : isName us) : (wordToken us).Lexed := by
  have hlist : (String.ofList us).toList = us := String.toList_ofList
  cases hw : wordToken us with
  | name s =>
    obtain rfl : s = .ofList us := by
      unfold wordToken at hw
      dsimp only at hw
      split at hw
      · cases hw
      · split at hw
        · cases hw
        · split at hw <;> cases hw
          rfl
    exact ⟨by rwa [hlist], by rw [hlist, hw]⟩
  | literal l =>
    unfold wordToken at hw
    dsimp only at hw
    split at hw
    · cases hw
      trivial
    · split at hw
      · cases hw
        trivial
      · split at hw <;> cases hw
        trivial
  | _ => trivial

lemma lexed_of_number {whole : Bool} {cs rest : List Char} {t : Token}
    (h : number whole cs = .ok (t, rest)) : t.Lexed := by
  simp only [number] at h
  split at h
  · cases h
    trivial
  · obtain ⟨t', ht, h⟩ := map_eq_ok.1 h
    cases h
    unfold integerToken at ht
    split at ht
    · rename_i n hn
      cases ht
      have hnat := toInt_of_int64? hn
      simp only [Token.Lexed]
      omega
    · cases ht

lemma lexed_of_sign? {cs rest : List Char} {t : Token} (h : sign? cs = some (t, rest)) :
    t.Lexed := by
  unfold sign? at h
  split at h <;> cases h <;> trivial

lemma lexed_of_lexeme {afterDot : Bool} {c : Char} {cs rest : List Char} {t : Token}
    (h : lexeme afterDot c cs = .ok (t, rest)) : t.Lexed := by
  unfold lexeme at h
  split at h
  · split at h <;> cases h
    trivial
  · split at h
    · exact lexed_of_number h
    · split at h
      · rename_i hc
        cases h
        refine lexed_wordToken ?_
        simp [isName, hc]
      · split at h <;> cases h
        rename_i hs
        exact lexed_of_sign? hs

lemma lexed_of_tokensFrom {afterDot : Bool} {cs : List Char} {ts : List Token}
    (h : tokensFrom afterDot cs = .ok ts) : ∀ t ∈ ts, t.Lexed := by
  fun_induction tokensFrom afterDot cs generalizing ts with
  | case1 =>
    cases h
    simp
  | case2 afterDot c cs hc ih => exact ih h
  | case3 afterDot c cs _ t rest hl _ ts' hts ih =>
    cases h
    simpa using ⟨lexed_of_lexeme hl, ih hts⟩
  | case4 => simp at h
  | case5 => simp at h

/-! ### Expressions of texts -/

/-- The text of what stands after a point. -/
def IsSegment (s : String) : Prop := ∃ t : Token, t.Lexed ∧ Segment t s

/-- What is always so of an expression that a text is. -/
inductive Readable : Expression → Prop
  | literal {l : Literal} (bounded : l ≠ .integer Int64.minValue) : Readable (.literal l)
  | scope {s : String} {ss : List String} (name : (Token.name s).Lexed)
      (more : ∀ s ∈ ss, IsSegment s) : Readable (.path ⟨.scope, s :: ss⟩)
  | model {ss : List String} (more : ∀ s ∈ ss, IsSegment s) : Readable (.path ⟨.model, ss⟩)
  | call {s : String} {es : List Expression} (name : (Token.name s).Lexed)
      (arguments : ∀ e ∈ es, Readable e) : Readable (.call s es)
  | not {e : Expression} (operand : Readable e) : Readable (.not e)
  | binary {op : Operator} {e e' : Expression} (left : Readable e) (right : Readable e') :
      Readable (.binary op e e')

lemma readable_literal {l : Literal} (h : (Token.literal l).Lexed) : Readable (.literal l) := by
  refine .literal ?_
  rintro rfl
  simp only [Token.Lexed] at h
  revert h
  decide

/-- A number after a minus sign is not the least: its opposite would not be read. -/
lemma readable_negative {n : Int64} (h : 0 ≤ n.toInt) :
    Readable (.literal (.integer (-n))) := by
  refine .literal ?_
  intro hmin
  have hn : n = -Int64.minValue := by rw [← Literal.integer.inj hmin, Int64.neg_neg]
  rw [hn] at h
  revert h
  decide

lemma readable_grouped {first : Expression} {links : List (Operator × Expression)}
    (hfirst : Readable first) (hlinks : ∀ link ∈ links, Readable link.2) :
    Readable (grouped first links) := by
  induction links generalizing first with
  | nil => exact hfirst
  | cons link links ih =>
    exact ih (.binary hfirst (hlinks link (by simp))) fun l hl => hlinks l (by simp [hl])

lemma isSegment_of_segments {ts : List Token} {ss : List String} (h : Segments ts ss)
    (hts : ∀ t ∈ ts, t.Lexed) : ∀ s ∈ ss, IsSegment s := by
  induction h with
  | nil => simp
  | @cons t s ts ss segment more ih =>
    have hmore := ih fun t ht => hts t (by simp [ht])
    simpa using ⟨⟨t, hts t (by simp), segment⟩, hmore⟩

mutual

theorem readable_of_chain {level : Level} {ts : List Token} {e : Expression} :
    Chain level ts e → (∀ t ∈ ts, t.Lexed) → Readable e
  | .mk operand more, hts => by
    obtain ⟨hfirst, hmore⟩ := List.forall_mem_append.1 hts
    exact readable_grouped (readable_of_operand operand hfirst) (readable_of_links more hmore)

theorem readable_of_operand {level : Level} {ts : List Token} {e : Expression} :
    Operand level ts e → (∀ t ∈ ts, t.Lexed) → Readable e
  | .or chain, hts | .and chain, hts | .equality chain, hts => readable_of_chain chain hts
  | .comparison unary, hts => readable_of_unary unary hts

theorem readable_of_links {level : Level} {ts : List Token}
    {links : List (Operator × Expression)} :
    Links level ts links → (∀ t ∈ ts, t.Lexed) → ∀ link ∈ links, Readable link.2
  | .nil _, _ => by simp
  | .cons among operand more, hts => by
    obtain ⟨hop, hmore⟩ := List.forall_mem_append.1 hts
    have hfirst := readable_of_operand operand (List.forall_mem_cons.1 hop).2
    exact List.forall_mem_cons.2 ⟨hfirst, readable_of_links more hmore⟩

theorem readable_of_unary {ts : List Token} {e : Expression} :
    Unary ts e → (∀ t ∈ ts, t.Lexed) → Readable e
  | .not operand, hts => .not (readable_of_unary operand (List.forall_mem_cons.1 hts).2)
  | .primary primary, hts => readable_of_primary primary hts

theorem readable_of_primary {ts : List Token} {e : Expression} :
    Primary ts e → (∀ t ∈ ts, t.Lexed) → Readable e
  | .literal l, hts => readable_literal (hts _ (by simp))
  | .integer n, hts => readable_negative (hts (.literal (.integer n)) (by simp))
  | .float x, _ => .literal nofun
  | .group inner, hts => readable_of_chain inner fun t ht => hts t (by simp [ht])
  | .model segments, hts =>
    .model (isSegment_of_segments segments fun t ht => hts t (by simp [ht]))
  | .call arguments, hts =>
    .call (hts _ (by simp)) (readable_of_arguments arguments fun t ht => hts t (by simp [ht]))
  | .scope segments, hts =>
    .scope (hts _ (by simp)) (isSegment_of_segments segments fun t ht => hts t (by simp [ht]))

theorem readable_of_arguments {ts : List Token} {es : List Expression} :
    Arguments ts es → (∀ t ∈ ts, t.Lexed) → ∀ e ∈ es, Readable e
  | .none, _ => by simp
  | .some first more, hts => by
    obtain ⟨hfirst, hmore⟩ := List.forall_mem_append.1 hts
    exact List.forall_mem_cons.2 ⟨readable_of_chain first hfirst,
      readable_of_moreArguments more hmore⟩

theorem readable_of_moreArguments {ts : List Token} {es : List Expression} :
    MoreArguments ts es → (∀ t ∈ ts, t.Lexed) → ∀ e ∈ es, Readable e
  | .nil, _ => by simp
  | .cons next more, hts => by
    obtain ⟨hnext, hmore⟩ := List.forall_mem_append.1 hts
    have hfirst := readable_of_chain next (List.forall_mem_cons.1 hnext).2
    exact List.forall_mem_cons.2 ⟨hfirst, readable_of_moreArguments more hmore⟩

end

/-- **Image**: an expression that a text is holds only what texts can say. -/
theorem readable_of_parse {cs : List Char} {e : Expression} (h : parse cs = .ok e) :
    Readable e := by
  obtain ⟨ts, hts, he⟩ := bind_eq_ok.1 h
  exact readable_of_chain (chain_of_ofTokens he) (lexed_of_tokensFrom hts)

end Stencil.Expression
