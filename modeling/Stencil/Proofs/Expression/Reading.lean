import Stencil.Proofs.Expression.Grammar
import Stencil.Proofs.Expression.Steps

/-!
Reading by the strength of operators against the grammar with its levels. **Soundness**: what is
read derives from the level of the place it is read at, and the operator that follows it is a weaker
one. **Completeness**: what derives from a level is read at any place that asks for no more, as long
as what follows it cannot belong to it.
-/

namespace Stencil.Expression.Grammar

variable {least k : Nat} {ts us rest : List Token} {e left : Expression} {s : String}

lemma segment?_eq_some {t : Token} : segment? t = some s ↔ Segment t s := by
  constructor
  · intro h
    unfold segment? at h
    split at h
    · cases h
      exact .name s
    · unfold literalSegment? at h
      split at h <;> cases h
      · exact .integer _
      · exact .true
      · exact .false
      · exact .null
    · simp at h
  · intro h
    cases h <;> rfl

/-- No operator that binds at least as strongly as `least` begins the tokens. -/
def Weaker (least : Nat) (ts : List Token) : Prop :=
  ∀ op us, ts = .operator op :: us → op.strength < least

lemma Weaker.mono {least' : Nat} (h : Weaker least ts) (hl : least ≤ least') : Weaker least' ts :=
  fun op us hts => Nat.lt_of_lt_of_le (h op us hts) hl

lemma strength_le (op : Operator) : op.strength ≤ 7 := by
  cases op <;> decide

lemma weaker_of_lt (h : 7 < least) : Weaker least ts :=
  fun op _ _ => Nat.lt_of_le_of_lt (strength_le op) h

/-! ### Soundness -/

theorem segments_sound {ts : List Token} {ss : List String} (h : Gives (segments ts) ss rest) :
    ∃ us, ts = us ++ rest ∧ Segments us ss := by
  by_cases hd : ts.head? = some .dot
  · obtain ⟨ts', rfl⟩ := List.head?_eq_some_iff.1 hd
    by_cases hs : ∃ t us s, ts' = t :: us ∧ segment? t = some s
    · obtain ⟨t, us, s, rfl, ht⟩ := hs
      obtain ⟨ss', rfl, h'⟩ := (segments_segment ht).1 h
      obtain ⟨vs, rfl, hv⟩ := segments_sound h'
      exact ⟨.dot :: t :: vs, rfl, .cons (segment?_eq_some.1 ht) hv⟩
    · exact absurd h (segments_point fun t us s ht hts => hs ⟨t, us, s, ht, hts⟩)
  · by_cases hp : ts.head? = some .openParen
    · obtain ⟨ts', rfl⟩ := List.head?_eq_some_iff.1 hp
      exact absurd h segments_openParen
    · obtain ⟨rfl, rfl⟩ := (segments_other hd hp).1 h
      exact ⟨[], rfl, .nil⟩
termination_by ts.length

lemma negative_sound {t : Token} {l : Literal} (h : negative? t = some l) :
    Primary [.minus, t] (.literal l) := by
  unfold negative? at h
  split at h <;> cases h
  · exact .integer _
  · exact .float _

mutual

theorem read_sound {least : Nat} {ts rest : List Token} {e : Expression}
    (h : Gives (read least ts) e rest) :
    ∃ us, ts = us ++ rest ∧ Stratum least us e ∧ Weaker least rest := by
  obtain ⟨left, mid, hl, ho⟩ := read_gives.1 h
  obtain ⟨us, rfl, hu⟩ := readOperand_sound hl
  have hw : Weaker (least + 8) mid := weaker_of_lt (by omega)
  obtain ⟨vs, rfl, hv, hr⟩ := readOperators_sound ho (.unary hu) (by omega) hw
  exact ⟨us ++ vs, by simp, hv, hr⟩
termination_by 5 * ts.length + 2

theorem readOperand_sound {ts rest : List Token} {e : Expression}
    (h : Gives (readOperand ts) e rest) : ∃ us, ts = us ++ rest ∧ Unary us e := by
  match ts with
  | [] => cases readOperand_gives.1 h
  | .literal l :: ts' =>
    obtain ⟨rfl, rfl⟩ := readOperand_literal.1 h
    exact ⟨[.literal l], rfl, .primary (.literal l)⟩
  | .name s :: ts' =>
    obtain ⟨us, rfl, hu⟩ := readNamed_sound (readOperand_name.1 h)
    exact ⟨.name s :: us, rfl, .primary hu⟩
  | .dollar :: ts' =>
    obtain ⟨ss, rfl, hs⟩ := readOperand_dollar.1 h
    obtain ⟨us, rfl, hu⟩ := segments_sound hs
    exact ⟨.dollar :: us, rfl, .primary (.model hu)⟩
  | .bang :: ts' =>
    obtain ⟨operand, rfl, ho⟩ := readOperand_bang.1 h
    obtain ⟨us, rfl, hu, -⟩ := read_sound ho
    exact ⟨.bang :: us, rfl, .not (hu.toUnary (by decide))⟩
  | .minus :: ts' =>
    obtain ⟨t, l, rfl, hn, rfl⟩ := readNegative_gives.1 (readOperand_minus.1 h)
    exact ⟨[.minus, t], rfl, .primary (negative_sound hn)⟩
  | .openParen :: ts' =>
    obtain ⟨us, rfl, hu, -⟩ := read_sound (readOperand_openParen.1 h)
    exact ⟨.openParen :: us ++ [.closeParen], by simp, .primary (.group hu.toOr)⟩
  | .closeParen :: ts' | .comma :: ts' | .dot :: ts' | .operator op :: ts' =>
    cases readOperand_gives.1 h
termination_by 5 * ts.length + 1

theorem readNamed_sound {s : String} {ts rest : List Token} {e : Expression}
    (h : Gives (readNamed s ts) e rest) : ∃ us, ts = us ++ rest ∧ Primary (.name s :: us) e := by
  by_cases hp : ts.head? = some .openParen
  · obtain ⟨ts', rfl⟩ := List.head?_eq_some_iff.1 hp
    obtain ⟨es, rfl, ha⟩ := readNamed_openParen.1 h
    obtain ⟨us, rfl, hu⟩ := readArguments_sound ha
    exact ⟨.openParen :: us ++ [.closeParen], by simp, by simpa using Primary.call hu⟩
  · obtain ⟨ss, rfl, hs⟩ := (readNamed_other hp).1 h
    obtain ⟨us, rfl, hu⟩ := segments_sound hs
    exact ⟨us, rfl, .scope hu⟩
termination_by 5 * ts.length + 1

/-- The operators go on from an expression of the `k`-th stratum before an operator of at most this
strength, and so it can be the left side of that operator. -/
theorem readOperators_sound {least k : Nat} {us ts rest : List Token} {left e : Expression}
    (h : Gives (readOperators least left ts) e rest) (hl : Stratum k us left) (hk : least ≤ k)
    (hw : Weaker (k + 1) ts) :
    ∃ vs, ts = vs ++ rest ∧ Stratum least (us ++ vs) e ∧ Weaker least rest := by
  by_cases hts : ∃ op ts', ts = .operator op :: ts'
  · obtain ⟨op, ts', rfl⟩ := hts
    by_cases hop : op.strength < least
    · obtain ⟨rfl, rfl⟩ := (readOperators_weaker hop).1 h
      refine ⟨[], rfl, by simpa using hl.mono hk, ?_⟩
      rintro op' _ ⟨⟩
      exact hop
    · obtain ⟨right, mid, hr, ho⟩ := (readOperators_operator (Nat.not_lt.1 hop)).1 h
      obtain ⟨vs, rfl, hv, hmid⟩ := read_sound hr
      have hopk : op.strength ≤ k := Nat.lt_succ_iff.1 (hw op _ rfl)
      have hb := (hl.mono hopk).binary hv
      obtain ⟨ws, rfl, hws, hrest⟩ := readOperators_sound ho hb (Nat.not_lt.1 hop) hmid
      exact ⟨.operator op :: vs ++ ws, by simp, by simpa using hws, hrest⟩
  · have hne : ∀ op ts', ts ≠ .operator op :: ts' := fun op ts' h => hts ⟨op, ts', h⟩
    obtain ⟨rfl, rfl⟩ := (readOperators_other hne).1 h
    exact ⟨[], rfl, by simpa using hl.mono hk, fun op ts' h => absurd h (hne op ts')⟩
termination_by 5 * ts.length

theorem readArguments_sound {ts rest : List Token} {es : List Expression}
    (h : Gives (readArguments ts) es rest) :
    ∃ us, ts = us ++ .closeParen :: rest ∧ Arguments us es := by
  by_cases hc : ts.head? = some .closeParen
  · obtain ⟨ts', rfl⟩ := List.head?_eq_some_iff.1 hc
    obtain ⟨rfl, rfl⟩ := readArguments_closeParen.1 h
    exact ⟨[], rfl, .none⟩
  · obtain ⟨us, vs, e, es', rfl, rfl, hu, hv⟩ :=
      readMoreArguments_sound ((readArguments_other hc).1 h)
    exact ⟨us ++ vs, rfl, .some hu hv⟩
termination_by 5 * ts.length + 4

theorem readMoreArguments_sound {ts rest : List Token} {es : List Expression}
    (h : Gives (readMoreArguments ts) es rest) :
    ∃ us vs e es', ts = us ++ vs ++ .closeParen :: rest ∧ es = e :: es' ∧ Chain .or us e ∧
      MoreArguments vs es' := by
  obtain ⟨e, mid, hr, ⟨rfl, rfl⟩ | ⟨ts', es', rfl, rfl, h'⟩⟩ := readMoreArguments_gives.1 h
  · obtain ⟨us, rfl, hu, -⟩ := read_sound hr
    exact ⟨us, [], e, [], by simp, rfl, hu.toOr, .nil⟩
  · obtain ⟨us, rfl, hu, -⟩ := read_sound hr
    obtain ⟨vs, ws, e', es'', rfl, rfl, hv, hw⟩ := readMoreArguments_sound h'
    exact ⟨us, .comma :: vs ++ ws, e, _, by simp, rfl, hu.toOr, .cons hv hw⟩
termination_by 5 * ts.length + 3

end

/-! ### Completeness -/

/-- The tokens can follow an expression that is read at a place asking for `least`: they go on with
neither a path nor a call, and with no operator of the expression. -/
structure Follows (least : Nat) (ts : List Token) : Prop where
  dot : ts.head? ≠ some .dot
  openParen : ts.head? ≠ some .openParen
  weaker : Weaker least ts

lemma Follows.mono {least' : Nat} (h : Follows least ts) (hl : least ≤ least') :
    Follows least' ts :=
  ⟨h.dot, h.openParen, h.weaker.mono hl⟩

lemma follows_closeParen : Follows least (.closeParen :: ts) :=
  ⟨by simp, by simp, by rintro op us ⟨⟩⟩

lemma follows_comma : Follows least (.comma :: ts) :=
  ⟨by simp, by simp, by rintro op us ⟨⟩⟩

lemma follows_links {level : Level} {links : List (Operator × Expression)}
    (h : Links level us links) (hr : Follows (level.strength + 1) rest) :
    Follows (level.strength + 1) (us ++ rest) := by
  cases h with
  | nil => exact hr
  | cons among operand more =>
    refine ⟨by simp, by simp, ?_⟩
    rintro op' _ ⟨⟩
    rw [Level.strength_of_mem among]
    exact Nat.lt_succ_self _

lemma follows_moreArguments {es : List Expression} (h : MoreArguments us es) :
    Follows 0 (us ++ .closeParen :: rest) := by
  cases h with
  | nil => exact follows_closeParen
  | cons next more => exact follows_comma

lemma readOperators_of_weaker (h : Weaker least ts) :
    Gives (readOperators least left ts) left ts := by
  by_cases hts : ∃ op us, ts = .operator op :: us
  · obtain ⟨op, us, rfl⟩ := hts
    exact (readOperators_weaker (h op us rfl)).2 ⟨rfl, rfl⟩
  · exact (readOperators_other fun op us h => hts ⟨op, us, h⟩).2 ⟨rfl, rfl⟩

theorem segments_complete {ss : List String} (h : Segments us ss) (hr : Follows k rest) :
    Gives (segments (us ++ rest)) ss rest := by
  induction h with
  | nil => exact (segments_other hr.dot hr.openParen).2 ⟨rfl, rfl⟩
  | cons segment more ih =>
    exact (segments_segment (segment?_eq_some.2 segment)).2 ⟨_, rfl, ih⟩

lemma head?_segments_append {ss : List String} (h : Segments us ss) (hr : Follows k rest) :
    (us ++ rest).head? ≠ some .openParen := by
  cases h with
  | nil => exact hr.openParen
  | cons => simp

lemma head?_ne_closeParen (h : Gives (read least ts) e rest) : ts.head? ≠ some .closeParen := by
  intro hc
  obtain ⟨ts', rfl⟩ := List.head?_eq_some_iff.1 hc
  obtain ⟨left, mid, hl, -⟩ := read_gives.1 h
  cases readOperand_gives.1 hl

mutual

/-- What derives from a level and then goes on with weaker operators is read whole, at every place
that asks for no more than that level. -/
theorem chain_complete {level : Level} {least : Nat} {us rest rest' : List Token}
    {e e' : Expression} (h : Chain level us e) (hr : Follows (level.strength + 1) rest)
    (hl : least ≤ level.strength) (ho : Gives (readOperators least e rest) e' rest') :
    Gives (read least (us ++ rest)) e' rest' := by
  match h with
  | @Chain.mk _ ts us first links operand more =>
    have hf : Follows (level.strength + 3) (us ++ rest) := (follows_links more hr).mono (by omega)
    rw [List.append_assoc]
    exact operand_complete operand hf (by omega) (links_complete more hr hl ho)

theorem operand_complete {level : Level} {least : Nat} {us rest rest' : List Token}
    {e e' : Expression} (h : Operand level us e) (hr : Follows (level.strength + 3) rest)
    (hl : least ≤ level.strength + 2) (ho : Gives (readOperators least e rest) e' rest') :
    Gives (read least (us ++ rest)) e' rest' := by
  match h with
  | .or chain => exact chain_complete chain hr hl ho
  | .and chain => exact chain_complete chain hr hl ho
  | .equality chain => exact chain_complete chain hr hl ho
  | .comparison unary => exact read_gives.2 ⟨e, rest, unary_complete unary hr, ho⟩

theorem links_complete {level : Level} {least : Nat} {us rest rest' : List Token}
    {first e' : Expression} {links : List (Operator × Expression)} (h : Links level us links)
    (hr : Follows (level.strength + 1) rest) (hl : least ≤ level.strength)
    (ho : Gives (readOperators least (grouped first links) rest) e' rest') :
    Gives (readOperators least first (us ++ rest)) e' rest' := by
  match h with
  | .nil _ => exact ho
  | @Links.cons _ op ts us e links among operand more =>
    have hop : op.strength = level.strength := Level.strength_of_mem among
    have hf := follows_links more hr
    have hright : Gives (read (op.strength + 1) (ts ++ (us ++ rest))) e (us ++ rest) :=
      operand_complete operand (hf.mono (by omega)) (by omega)
        (readOperators_of_weaker (hop ▸ hf.weaker))
    have hmore : Gives (readOperators least (.binary op first e) (us ++ rest)) e' rest' :=
      links_complete more hr hl ho
    rw [List.cons_append, List.cons_append, List.append_assoc]
    exact (readOperators_operator (by omega)).2 ⟨e, us ++ rest, hright, hmore⟩

theorem unary_complete {k : Nat} {us rest : List Token} {e : Expression} (h : Unary us e)
    (hr : Follows k rest) : Gives (readOperand (us ++ rest)) e rest := by
  match h with
  | @Unary.not ts operand unary =>
    have hread : Gives (read notStrength (ts ++ rest)) operand rest :=
      read_gives.2 ⟨operand, rest, unary_complete unary hr,
        readOperators_of_weaker (weaker_of_lt (by decide))⟩
    exact readOperand_bang.2 ⟨operand, rfl, hread⟩
  | .primary primary => exact primary_complete primary hr

theorem primary_complete {k : Nat} {us rest : List Token} {e : Expression} (h : Primary us e)
    (hr : Follows k rest) : Gives (readOperand (us ++ rest)) e rest := by
  match h with
  | .literal l => exact readOperand_literal.2 ⟨rfl, rfl⟩
  | .integer n => exact readOperand_minus.2 (readNegative_gives.2 ⟨_, _, rfl, rfl, rfl⟩)
  | .float x => exact readOperand_minus.2 (readNegative_gives.2 ⟨_, _, rfl, rfl, rfl⟩)
  | @Primary.group ts _ inner =>
    have hread : Gives (read 0 (ts ++ .closeParen :: rest)) e (.closeParen :: rest) :=
      chain_complete inner follows_closeParen (by decide)
        (readOperators_of_weaker follows_closeParen.weaker)
    rw [List.cons_append, List.cons_append, List.append_assoc]
    exact readOperand_openParen.2 hread
  | .model segments => exact readOperand_dollar.2 ⟨_, rfl, segments_complete segments hr⟩
  | @Primary.call s ts es arguments =>
    have hread : Gives (readArguments (ts ++ .closeParen :: rest)) es rest :=
      arguments_complete arguments
    rw [List.cons_append, List.cons_append, List.cons_append, List.cons_append, List.append_assoc]
    exact readOperand_name.2 (readNamed_openParen.2 ⟨es, rfl, hread⟩)
  | .scope segments =>
    have hp := head?_segments_append segments hr
    exact readOperand_name.2 ((readNamed_other hp).2 ⟨_, rfl, segments_complete segments hr⟩)

theorem arguments_complete {us rest : List Token} {es : List Expression} (h : Arguments us es) :
    Gives (readArguments (us ++ .closeParen :: rest)) es rest := by
  match h with
  | .none => exact readArguments_closeParen.2 ⟨rfl, rfl⟩
  | @Arguments.some ts us e es first more =>
    have hf : Follows 0 (us ++ .closeParen :: rest) := follows_moreArguments more
    have hread : Gives (read 0 (ts ++ (us ++ .closeParen :: rest))) e (us ++ .closeParen :: rest) :=
      chain_complete first (hf.mono (by omega)) (by omega) (readOperators_of_weaker hf.weaker)
    rw [List.append_assoc]
    exact (readArguments_other (head?_ne_closeParen hread)).2 (moreArguments_complete more hread)

theorem moreArguments_complete {us rest ts : List Token} {e : Expression} {es : List Expression}
    (h : MoreArguments us es)
    (hread : Gives (read 0 ts) e (us ++ .closeParen :: rest)) :
    Gives (readMoreArguments ts) (e :: es) rest := by
  match h with
  | .nil => exact readMoreArguments_gives.2 ⟨e, _, hread, .inl ⟨rfl, rfl⟩⟩
  | @MoreArguments.cons ts' us e' es next more =>
    have hf : Follows 0 (us ++ .closeParen :: rest) := follows_moreArguments more
    have hread' : Gives (read 0 (ts' ++ (us ++ .closeParen :: rest))) e'
        (us ++ .closeParen :: rest) :=
      chain_complete next (hf.mono (by omega)) (by omega) (readOperators_of_weaker hf.weaker)
    exact readMoreArguments_gives.2 ⟨e, _, hread,
      .inr ⟨_, _, by simp, rfl, moreArguments_complete more hread'⟩⟩

end

/-- The grammar derives from the tokens what is read from them. -/
lemma chain_of_ofTokens {ts : List Token} {e : Expression} (h : ofTokens ts = .ok e) :
    Chain .or ts e := by
  unfold ofTokens at h
  split at h
  · simp at h
  · split at h
    · rename_i hr
      cases h
      obtain ⟨us, rfl, hu, -⟩ := read_sound ⟨_, hr⟩
      simpa using hu.toOr
    · simp at h
    · simp at h

/-- What the grammar derives from the tokens is read from them. -/
lemma ofTokens_of_chain {ts : List Token} {e : Expression} (h : Chain .or ts e) :
    ofTokens ts = .ok e := by
  have hr : Gives (read 0 (ts ++ [])) e [] :=
    chain_complete h ⟨by simp, by simp, by rintro op us ⟨⟩⟩ (by decide)
      (readOperators_of_weaker (by rintro op us ⟨⟩))
  rw [List.append_nil] at hr
  obtain ⟨hlt, hr⟩ := hr
  have hne : ts.isEmpty = false := by
    cases ts <;> simp at hlt ⊢
  simp [ofTokens, hne, hr]

/-- **Correctness**: tokens are read as an expression exactly if the grammar derives it from
them. -/
theorem ofTokens_eq_ok_iff (ts : List Token) (e : Expression) :
    ofTokens ts = .ok e ↔ Chain .or ts e :=
  ⟨chain_of_ofTokens, ofTokens_of_chain⟩

end Stencil.Expression.Grammar
