import Mathlib.Data.List.Forall2
import Stencil.Proofs.Expression.Image
import Stencil.Proofs.Expression.Spelling
import Stencil.Template.Compile

/-!
Expressions written as texts, with as few parentheses as their operators allow. What a text is read
as can be written, and what is written is read as the same expression: the text has the tokens of a
derivation, in whatever place it is written.
-/

namespace Stencil.Expression

open Stencil.Text Stencil.Decimal Stencil.Expression.Grammar

/-! ### Writing

The text `gap` stands around operators and after commas, and `decimal` writes floats. -/

section

variable (gap : List Char) (decimal : Float → List Char)

def writeLiteral : Literal → List Char
  | .null => "null".toList
  | .boolean true => "true".toList
  | .boolean false => "false".toList
  | .integer n => Decimal.write n.toInt
  | .float x => decimal x
  | .text s => '"' :: (s.toList.flatMap escape ++ ['"'])

mutual

/-- The expression as it is written where operators must bind at least as strongly as `least`. -/
def write (least : Nat) : Expression → List Char
  | .literal l => writeLiteral decimal l
  | .path p => p.display.toList
  | .call name es => name.toList ++ '(' :: (writeArguments es ++ [')'])
  | .not e => '!' :: write notStrength e
  | .binary op left right =>
    let text := write op.strength left ++
      (gap ++ (op.symbol.toList ++ (gap ++ write (op.strength + 1) right)))
    if op.strength < least then '(' :: (text ++ [')']) else text

def writeArguments : List Expression → List Char
  | [] => []
  | e :: es => write 0 e ++ writeMoreArguments es

/-- The arguments of a call after the first. -/
def writeMoreArguments : List Expression → List Char
  | [] => []
  | e :: es => ',' :: (gap ++ (write 0 e ++ writeMoreArguments es))

end

end

mutual

/-- The floats in an expression. -/
def floats : Expression → List Float
  | .literal (.float x) => [x]
  | .literal _ | .path _ => []
  | .call _ es => floatsIn es
  | .not e => floats e
  | .binary _ left right => floats left ++ floats right

def floatsIn : List Expression → List Float
  | [] => []
  | e :: es => floats e ++ floatsIn es

end

/-- Digits, a point and digits, after a minus sign or none. -/
def IsDecimal (cs : List Char) : Prop :=
  ∃ us vs, us ≠ [] ∧ (∀ c ∈ us, c.isDigit) ∧ vs ≠ [] ∧ (∀ c ∈ vs, c.isDigit) ∧
    (cs = us ++ '.' :: vs ∨ cs = '-' :: (us ++ '.' :: vs))

/-- The text is a decimal that reads as the float. -/
structure WritesFloat (cs : List Char) (x : Float) : Prop where
  isDecimal : IsDecimal cs
  parse : parse cs = .ok (.literal (.float x))

/-! ### What is written, in its place -/

variable {gap us vs : List Char} {decimal : Float → List Char} {ts ts' : List Token}
  {e : Expression} {least : Nat}

/-- The text reads as the tokens before whatever ends a word. -/
def Spells (us : List Char) (ts : List Token) : Prop :=
  ∀ rest, EndsWord rest → tokensFrom false (us ++ rest) = (tokensFrom false rest).map (ts ++ ·)

/-- The text is not empty and does not complete a sign before it. -/
def Starts (us : List Char) : Prop := ∃ c cs, us = c :: cs ∧ c ≠ '='

lemma Starts.head?_ne (h : Starts us) (rest : List Char) : (us ++ rest).head? ≠ some '=' := by
  obtain ⟨c, cs, rfl, hc⟩ := h
  simpa using hc

/-- The text reads as the expression, as it stands where operators must bind at least as strongly
as `least`. -/
structure Written (least : Nat) (us : List Char) (e : Expression) : Prop where
  starts : Starts us
  spells : ∃ ts, Stratum least ts e ∧ Spells us ts

lemma map_nil_append (r : Except Fault (List Token)) : r.map ([] ++ ·) = r := by
  cases r <;> rfl

lemma Spells.parse (h : Spells us ts) (hts : Stratum least ts e) : parse us = .ok e := by
  have htokens := h [] endsWord_nil
  rw [List.append_nil, tokensFrom] at htokens
  have hread : ofTokens ts = .ok e := ofTokens_of_chain hts.toOr
  rw [Expression.parse, tokens, htokens]
  simpa [Except.map, Except.bind] using hread

lemma Written.parse (h : Written least us e) : parse us = .ok e := by
  obtain ⟨ts, stratum, spells⟩ := h.spells
  exact spells.parse stratum

/-! ### Literals -/

lemma Starts.append (h : Starts us) (rest : List Char) : Starts (us ++ rest) := by
  obtain ⟨c, cs, rfl, hc⟩ := h
  exact ⟨c, cs ++ rest, rfl, hc⟩

lemma starts_of_isName (h : isName us) : Starts us := by
  cases us with
  | nil => cases h
  | cons c cs =>
    refine ⟨c, cs, rfl, ?_⟩
    rintro rfl
    simp only [isName, Bool.and_eq_true] at h
    exact absurd h.1 (by decide)

lemma starts_of_isDigit (hne : us ≠ []) (h : ∀ c ∈ us, c.isDigit) : Starts us := by
  cases us with
  | nil => exact absurd rfl hne
  | cons c cs =>
    refine ⟨c, cs, rfl, ?_⟩
    rintro rfl
    exact absurd (h '=' (by simp)) (by decide)

lemma Written.of_primary (starts : Starts us) (primary : Primary ts e) (spells : Spells us ts) :
    Written least us e :=
  ⟨starts, ts, .unary (.primary primary), spells⟩

lemma written_word {l : Literal} (hname : isName us) (hword : wordToken us = .literal l) :
    Written least us (.literal l) := by
  refine .of_primary (starts_of_isName hname) (.literal l) fun rest hrest => ?_
  rw [tokensFrom_name hname hrest.endsName, hword]
  rfl

lemma written_text (s : String) :
    Written least ('"' :: (s.toList.flatMap escape ++ ['"'])) (.literal (.text s)) := by
  refine .of_primary ⟨_, _, rfl, by decide⟩ (.literal (.text s)) fun rest _ => ?_
  have hquoted : '"' :: (s.toList.flatMap escape ++ ['"']) ++ rest =
      '"' :: (s.toList.flatMap escape ++ '"' :: rest) := by
    simp
  rw [hquoted, tokensFrom_quoted, String.ofList_toList]
  rfl

/-- A character that is a token, before what is read as tokens. -/
lemma Spells.single {c : Char} {t : Token} (hc : single? c = some t) (h : Spells us ts) :
    Spells (c :: us) (t :: ts) := by
  intro rest hrest
  rw [List.cons_append, tokensFrom_single hc, h rest hrest, map_map]
  rfl

/-- The digits of a whole number that is not negative. -/
lemma tokensFrom_natAbs {afterDot : Bool} {n : Int64} {rest : List Char} (hn : 0 ≤ n.toInt)
    (hrest : EndsName rest) (hpoint : afterDot = false → beginsFraction rest = false) :
    tokensFrom afterDot (digits n.toInt.natAbs ++ rest) =
      (tokensFrom false rest).map (.literal (.integer n) :: ·) := by
  have hvalue : int64? (ofDigits (digits n.toInt.natAbs)) = some n := by
    rw [ofDigits_digits, Int.natAbs_of_nonneg hn, int64?_toInt]
  exact tokensFrom_digits Nat.toDigits_ne_nil isDigit_of_mem_digits hvalue hrest hpoint

lemma spells_natAbs {n : Int64} (hn : 0 ≤ n.toInt) :
    Spells (digits n.toInt.natAbs) [.literal (.integer n)] :=
  fun _ hrest => tokensFrom_natAbs hn hrest.endsName fun _ => not_beginsFraction hrest

/-- A whole number that is not the least: that one has no opposite to put a minus sign before. -/
lemma written_integer {n : Int64} (hn : n ≠ Int64.minValue) :
    Written least (Decimal.write n.toInt) (.literal (.integer n)) := by
  by_cases hneg : n.toInt < 0
  · have hopposite := toInt_neg hn
    have hspells : Spells (digits n.toInt.natAbs) [.literal (.integer (-n))] := by
      have h := @spells_natAbs (-n) (by omega)
      rwa [hopposite, Int.natAbs_neg] at h
    have hprimary := Primary.integer (-n)
    rw [Int64.neg_neg] at hprimary
    rw [Decimal.write, if_pos hneg]
    exact .of_primary ⟨_, _, rfl, by decide⟩ hprimary (hspells.single rfl)
  · rw [Decimal.write, if_neg hneg]
    exact .of_primary (starts_of_isDigit Nat.toDigits_ne_nil isDigit_of_mem_digits)
      (.literal (.integer n)) (spells_natAbs (by omega))

/-- A decimal that reads as a float is a number, and it reads so in every place. -/
lemma written_float {x : Float} (h : WritesFloat us x) :
    Written least us (.literal (.float x)) := by
  obtain ⟨⟨ds, fs, hne, hds, hne', hfs, hus⟩, hparse⟩ := h
  have hspells : Spells (ds ++ '.' :: fs)
      [.literal (.float (nearestFloat (ofDigits (ds ++ fs)) (-fs.length)))] := by
    intro rest hrest
    rw [List.append_assoc, List.cons_append]
    exact tokensFrom_decimal hne hds hne' hfs hrest.endsName
  -- The text reads as one number, which must be the one that it is known to read as.
  have same {ts : List Token} {y : Float} (hprimary : Primary ts (.literal (.float y)))
      (h : Spells us ts) : Primary ts (.literal (.float x)) := by
    have hread := h.parse (.unary (.primary hprimary) : Stratum 0 _ _)
    rw [hparse] at hread
    cases hread
    exact hprimary
  rcases hus with rfl | rfl
  · exact .of_primary ((starts_of_isDigit hne hds).append _) (same (.literal _) hspells) hspells
  · have hminus := hspells.single (c := '-') rfl
    exact .of_primary ⟨_, _, rfl, by decide⟩ (same (.float _) hminus) hminus

lemma written_literal {l : Literal} (hl : Readable (.literal l))
    (hfloats : ∀ x ∈ floats (.literal l), WritesFloat (decimal x) x) :
    Written least (writeLiteral decimal l) (.literal l) := by
  cases l with
  | null => exact written_word (show isName "null".toList by decide) rfl
  | boolean b =>
    cases b with
    | true => exact written_word (show isName "true".toList by decide) rfl
    | false => exact written_word (show isName "false".toList by decide) rfl
  | integer n =>
    cases hl with
    | literal bounded => exact written_integer fun hn => bounded (congrArg Literal.integer hn)
  | float x => exact written_float (hfloats x (by simp [floats]))
  | text s => exact written_text s

/-! ### Paths -/

lemma endsName_point (rest : List Char) : EndsName ('.' :: rest) := by
  rintro _ ⟨⟩
  decide

/-- The segments of a path, each after a point. -/
def pointed (ss : List String) : List Char := ss.flatMap fun s => '.' :: s.toList

lemma endsName_pointed {ss : List String} {rest : List Char} (h : EndsName rest) :
    EndsName (pointed ss ++ rest) := by
  cases ss with
  | nil => exact h
  | cons s ss => exact endsName_point _

lemma toList_intercalate (s : String) (ss : List String) :
    (".".intercalate (s :: ss)).toList = s.toList ++ pointed ss := by
  induction ss generalizing s with
  | nil => simp [pointed]
  | cons s' ss ih => simp [String.intercalate_cons_cons, ih, pointed]

/-- After a point the text reads as one token, which gives the segment `s'`. -/
def ReadsAs (s s' : String) : Prop :=
  ∃ t, Segment t s' ∧ ∀ rest, EndsName rest →
    tokensFrom true (s.toList ++ rest) = (tokensFrom false rest).map (t :: ·)

lemma readsAs_segment {s : String} (h : IsSegment s) : ReadsAs s s := by
  obtain ⟨t, hlexed, segment⟩ := h
  refine ⟨t, segment, fun rest hrest => ?_⟩
  cases segment with
  | name s =>
    obtain ⟨hname, hword⟩ := hlexed
    rw [tokensFrom_name hname hrest, hword]
  | integer n =>
    have hn : 0 ≤ n.toInt := hlexed
    rw [String.toList_ofList, Decimal.write, if_neg (by omega)]
    exact tokensFrom_natAbs hn hrest nofun
  | true => exact tokensFrom_name (by decide) hrest
  | false => exact tokensFrom_name (by decide) hrest
  | null => exact tokensFrom_name (by decide) hrest

lemma readsAs_segments {ss : List String} (h : ∀ s ∈ ss, IsSegment s) :
    List.Forall₂ ReadsAs ss ss :=
  List.forall₂_same.2 fun s hs => readsAs_segment (h s hs)

lemma spells_pointed {ss ss' : List String} (h : List.Forall₂ ReadsAs ss ss') :
    ∃ ts, Segments ts ss' ∧ ∀ rest, EndsName rest →
      tokensFrom false (pointed ss ++ rest) = (tokensFrom false rest).map (ts ++ ·) := by
  induction h with
  | nil =>
    refine ⟨[], .nil, fun rest _ => ?_⟩
    exact (map_nil_append _).symm
  | @cons s s' ss ss' hs _ ih =>
    obtain ⟨t, segment, hsegment⟩ := hs
    obtain ⟨ts, segments, hmore⟩ := ih
    refine ⟨.dot :: t :: ts, .cons segment segments, fun rest hrest => ?_⟩
    have happend : pointed (s :: ss) ++ rest = '.' :: (s.toList ++ (pointed ss ++ rest)) := by
      simp [pointed]
    rw [happend, tokensFrom_dot, hsegment _ (endsName_pointed hrest), hmore rest hrest, map_map,
      map_map]
    rfl

lemma written_scope {s : String} {ss ss' : List String} (hs : (Token.name s).Lexed)
    (hss : List.Forall₂ ReadsAs ss ss') :
    Written least (Path.display ⟨.scope, s :: ss⟩).toList (.path ⟨.scope, s :: ss'⟩) := by
  obtain ⟨hname, hword⟩ := hs
  obtain ⟨ts, segments, hmore⟩ := spells_pointed hss
  have hdisplay : (Path.display ⟨.scope, s :: ss⟩).toList = s.toList ++ pointed ss :=
    toList_intercalate s ss
  rw [hdisplay]
  refine .of_primary ((starts_of_isName hname).append _) (.scope segments) fun rest hrest => ?_
  rw [List.append_assoc, tokensFrom_name hname (endsName_pointed hrest.endsName), hword,
    hmore rest hrest.endsName, map_map]
  rfl

lemma written_model {ss ss' : List String} (hss : List.Forall₂ ReadsAs ss ss') :
    Written least (Path.display ⟨.model, ss⟩).toList (.path ⟨.model, ss'⟩) := by
  obtain ⟨ts, segments, hmore⟩ := spells_pointed hss
  have hdisplay : (Path.display ⟨.model, ss⟩).toList = '$' :: pointed ss :=
    toList_intercalate "$" ss
  rw [hdisplay]
  refine .of_primary ⟨_, _, rfl, by decide⟩ (.model segments) fun rest hrest => ?_
  rw [List.cons_append, tokensFrom_single rfl, hmore rest hrest.endsName, map_map]
  rfl

/-! ### Operators -/

lemma Spells.append (h : Spells us ts) (h' : Spells vs ts')
    (hends : ∀ rest, EndsWord rest → EndsWord (vs ++ rest)) : Spells (us ++ vs) (ts ++ ts') := by
  intro rest hrest
  rw [List.append_assoc, h _ (hends rest hrest), h' rest hrest, map_map]
  simp

lemma spells_closeParen : Spells [')'] [.closeParen] :=
  fun rest _ => tokensFrom_single rfl rest

lemma endsWord_closeParen (rest : List Char) : EndsWord ([')'] ++ rest) :=
  endsWord_cons (by decide) (by decide)

/-- The parentheses around an expression make it one in any place. -/
lemma Written.group {least' : Nat} (h : Written least us e) :
    Written least' ('(' :: (us ++ [')'])) e := by
  obtain ⟨-, ts, stratum, spells⟩ := h
  have hgroup := (spells.append spells_closeParen fun rest _ => endsWord_closeParen rest).single
    (c := '(') rfl
  exact .of_primary ⟨_, _, rfl, by decide⟩ (.group stratum.toOr) hgroup

lemma written_not (h : Written notStrength us e) : Written least ('!' :: us) (.not e) := by
  obtain ⟨starts, ts, stratum, spells⟩ := h
  have unary : Unary (.bang :: ts) (.not e) := .not (stratum.toUnary (by decide))
  refine ⟨⟨_, _, rfl, by decide⟩, _, .unary unary, fun rest hrest => ?_⟩
  rw [List.cons_append, tokensFrom_bang (starts.head?_ne rest), spells rest hrest, map_map]
  rfl

lemma head?_gap_ne (hgap : ∀ c ∈ gap, separates c) (h : us.head? ≠ some '=') :
    (gap ++ us).head? ≠ some '=' := by
  cases gap with
  | nil => exact h
  | cons c gap =>
    intro hc
    have hequal : c = '=' := Option.some.inj hc
    have hsep : separates c := hgap c (by simp)
    rw [hequal] at hsep
    exact absurd hsep (by decide)

lemma endsWord_gap (hgap : ∀ c ∈ gap, separates c) (h : EndsWord us) : EndsWord (gap ++ us) := by
  cases gap with
  | nil => exact h
  | cons c gap =>
    have hsep : separates c := hgap c (by simp)
    refine endsWord_cons (not_continuesName_of_separates hsep) ?_
    rintro rfl
    exact absurd hsep (by decide)

lemma endsWord_operator (op : Operator) (cs : List Char) : EndsWord (op.symbol.toList ++ cs) := by
  cases op <;> exact endsWord_cons (by decide) (by decide)

lemma written_binary {op : Operator} {left right : Expression} (hgap : ∀ c ∈ gap, separates c)
    (hl : Written op.strength us left) (hr : Written (op.strength + 1) vs right) :
    Written op.strength (us ++ (gap ++ (op.symbol.toList ++ (gap ++ vs))))
      (.binary op left right) := by
  obtain ⟨lstarts, ts, lstratum, lspells⟩ := hl
  obtain ⟨rstarts, ts', rstratum, rspells⟩ := hr
  refine ⟨lstarts.append _, _, lstratum.binary rstratum, fun rest hrest => ?_⟩
  have hright : tokensFrom false (gap ++ (op.symbol.toList ++ (gap ++ (vs ++ rest)))) =
      (tokensFrom false rest).map (.operator op :: ts' ++ ·) := by
    rw [tokensFrom_separators hgap,
      tokensFrom_operator op (head?_gap_ne hgap (rstarts.head?_ne rest)),
      tokensFrom_separators hgap, rspells rest hrest, map_map]
    rfl
  have hends : EndsWord (gap ++ (op.symbol.toList ++ (gap ++ (vs ++ rest)))) :=
    endsWord_gap hgap (endsWord_operator op _)
  have hleft := lspells _ hends
  simp only [List.append_assoc] at hleft ⊢
  rw [hleft, hright, map_map]

/-! ### Calls -/

lemma written_call {s : String} {es : List Expression} (hs : (Token.name s).Lexed)
    (arguments : Arguments ts es) (hus : Spells us ts) :
    Written least (s.toList ++ '(' :: (us ++ [')'])) (.call s es) := by
  obtain ⟨hname, hword⟩ := hs
  have harguments := (hus.append spells_closeParen fun rest _ => endsWord_closeParen rest).single
    (c := '(') rfl
  refine .of_primary ((starts_of_isName hname).append _) (.call arguments) fun rest hrest => ?_
  have hparen : EndsName ('(' :: (us ++ [')']) ++ rest) := by
    rintro _ ⟨⟩
    decide
  rw [List.append_assoc, tokensFrom_name hname hparen, hword, harguments rest hrest, map_map]
  rfl

lemma endsWord_moreArguments {es : List Expression} {rest : List Char} (h : EndsWord rest) :
    EndsWord (writeMoreArguments gap decimal es ++ rest) := by
  cases es with
  | nil => exact h
  | cons e es =>
    rw [writeMoreArguments]
    exact endsWord_cons (by decide) (by decide)

lemma spells_moreArguments {es : List Expression} (hgap : ∀ c ∈ gap, separates c)
    (h : ∀ e ∈ es, Written 0 (write gap decimal 0 e) e) :
    ∃ ts, MoreArguments ts es ∧ Spells (writeMoreArguments gap decimal es) ts := by
  induction es with
  | nil => exact ⟨[], .nil, fun rest _ => (map_nil_append _).symm⟩
  | cons e es ih =>
    obtain ⟨hfirst, hmore⟩ := List.forall_mem_cons.1 h
    obtain ⟨-, ts, stratum, spells⟩ := hfirst
    obtain ⟨ts', more, spells'⟩ := ih hmore
    have hboth := spells.append spells' fun rest => endsWord_moreArguments
    have hgapped : Spells (gap ++ (write gap decimal 0 e ++ writeMoreArguments gap decimal es))
        (ts ++ ts') := by
      intro rest hrest
      rw [List.append_assoc, tokensFrom_separators hgap]
      exact hboth rest hrest
    refine ⟨_, .cons stratum.toOr more, ?_⟩
    rw [writeMoreArguments]
    exact hgapped.single rfl

lemma spells_arguments {es : List Expression} (hgap : ∀ c ∈ gap, separates c)
    (h : ∀ e ∈ es, Written 0 (write gap decimal 0 e) e) :
    ∃ ts, Arguments ts es ∧ Spells (writeArguments gap decimal es) ts := by
  cases es with
  | nil => exact ⟨[], .none, fun rest _ => (map_nil_append _).symm⟩
  | cons e es =>
    obtain ⟨hfirst, hmore⟩ := List.forall_mem_cons.1 h
    obtain ⟨-, ts, stratum, spells⟩ := hfirst
    obtain ⟨ts', more, spells'⟩ := spells_moreArguments hgap hmore
    refine ⟨_, .some stratum.toOr more, ?_⟩
    rw [writeArguments]
    exact spells.append spells' fun rest => endsWord_moreArguments

lemma mem_floatsIn {es : List Expression} {x : Float} (he : e ∈ es) (hx : x ∈ floats e) :
    x ∈ floatsIn es := by
  induction es with
  | nil => cases he
  | cons e' es ih =>
    rw [floatsIn, List.mem_append]
    rcases List.mem_cons.1 he with rfl | he
    · exact .inl hx
    · exact .inr (ih he)

/-! ### Written and read -/

lemma Written.mono {least' : Nat} (h : Written least' us e) (hl : least ≤ least') :
    Written least us e := by
  obtain ⟨starts, ts, stratum, spells⟩ := h
  exact ⟨starts, ts, stratum.mono hl, spells⟩

lemma strength_lt (op : Operator) : op.strength < notStrength := by
  cases op <;> decide

theorem written_write (hgap : ∀ c ∈ gap, separates c) (he : Readable e)
    (hfloats : ∀ x ∈ floats e, WritesFloat (decimal x) x) (hl : least ≤ notStrength) :
    Written least (write gap decimal least e) e := by
  induction he generalizing least with
  | literal bounded =>
    rw [write]
    exact written_literal (.literal bounded) hfloats
  | scope name more =>
    rw [write]
    exact written_scope name (readsAs_segments more)
  | model more =>
    rw [write]
    exact written_model (readsAs_segments more)
  | @call s es name arguments ih =>
    have hes : ∀ e ∈ es, Written 0 (write gap decimal 0 e) e := by
      intro e he
      refine ih e he (fun x hx => hfloats x ?_) (Nat.zero_le _)
      rw [floats]
      exact mem_floatsIn he hx
    obtain ⟨ts, harguments, hspells⟩ := spells_arguments hgap hes
    rw [write]
    exact written_call name harguments hspells
  | not operand ih =>
    rw [write]
    exact written_not (ih hfloats (Nat.le_refl _))
  | @binary op left right _ _ ihl ihr =>
    rw [floats] at hfloats
    obtain ⟨hleft, hright⟩ := List.forall_mem_append.1 hfloats
    have hop := strength_lt op
    have hboth := written_binary hgap (ihl hleft (Nat.le_of_lt hop)) (ihr hright hop)
    rw [write]
    split
    · exact hboth.group
    · exact hboth.mono (by omega)

/-- **Writing and reading**: an expression that a text is, is also the text that it is written as,
whatever separates the tokens around its operators and whatever decimals its floats are written as,
if these read as the floats; and it is so at every place of every source. -/
theorem parse_write {cs : List Char} (h : parse cs = .ok e) (hgap : ∀ c ∈ gap, separates c)
    (hfloats : ∀ x ∈ floats e, WritesFloat (decimal x) x) :
    parse (write gap decimal 0 e) = .ok e ∧
      ∀ source span, Template.located source span
        ((parse (write gap decimal 0 e)).mapError Template.Cause.expression) = .ok e := by
  obtain ⟨-, ts, stratum, spells⟩ :=
    written_write hgap (readable_of_parse h) hfloats (Nat.zero_le _)
  have hread := spells.parse stratum
  refine ⟨hread, fun source span => ?_⟩
  rw [hread]
  rfl

/-! ### A text with every kind of token -/

/-- The float that `1.5` is read as. -/
def threeHalves : Float := nearestFloat 15 (-1)

lemma writesFloat_threeHalves : WritesFloat "1.5".toList threeHalves := by
  have hone : ∀ c ∈ ['1'], c.isDigit := by simp
  have hfive : ∀ c ∈ ['5'], c.isDigit := by simp
  have hspells : Spells "1.5".toList [.literal (.float threeHalves)] := fun rest hrest =>
    @tokensFrom_decimal ['1'] ['5'] rest (by simp) hone (by simp) hfive hrest.endsName
  have stratum : Stratum 0 [.literal (.float threeHalves)] (.literal (.float threeHalves)) :=
    .unary (.primary (.literal _))
  exact ⟨⟨['1'], ['5'], by simp, hone, by simp, hfive, .inl rfl⟩, hspells.parse stratum⟩

/-- The expression `!(1.5 < a.0) && f(-2, "\"")`. -/
def sample : Expression :=
  .binary .and
    (.not (.binary .less (.literal (.float threeHalves)) (.path ⟨.scope, ["a", "0"]⟩)))
    (.call "f" [.literal (.integer (-2)), .literal (.text "\"")])

lemma writesFloat_sample : ∀ x ∈ floats sample, WritesFloat "1.5".toList x := by
  have hfloats : floats sample = [threeHalves] := rfl
  rw [hfloats]
  simpa using writesFloat_threeHalves

lemma readable_sample : Readable sample := by
  have ha : (Token.name "a").Lexed := ⟨by decide, by decide⟩
  have hf : (Token.name "f").Lexed := ⟨by decide, by decide⟩
  have hzero : IsSegment "0" :=
    ⟨.literal (.integer 0), show 0 ≤ (0 : Int64).toInt by decide, .integer 0⟩
  have hpath : Readable (.path ⟨.scope, ["a", "0"]⟩) := .scope ha (by simpa using hzero)
  have hnumber : Readable (.literal (.integer (-2))) := .literal (by decide)
  have htext : Readable (.literal (.text "\"")) := .literal nofun
  exact .binary (.not (.binary (.literal nofun) hpath)) (.call hf (by simp [hnumber, htext]))

theorem parse_write_sample :
    let decimal : Float → List Char := fun _ => "1.5".toList
    let text := "!(1.5<a.0)&&f(-2,\"\\\"\")"
    parse text.toList = .ok sample ∧ (∀ c ∈ [' '], separates c) ∧
      (∀ x ∈ floats sample, WritesFloat (decimal x) x) ∧
      parse (write [' '] decimal 0 sample) = .ok sample ∧
      ∀ source span, Template.located source span
        ((parse (write [' '] decimal 0 sample)).mapError Template.Cause.expression) =
          .ok sample := by
  intro decimal text
  have htext : text.toList = write [] decimal 0 sample := by decide
  have hparse : parse text.toList = .ok sample := by
    obtain ⟨-, ts, stratum, spells⟩ := @written_write [] decimal sample 0 (by simp) readable_sample
      writesFloat_sample (by decide)
    rw [htext]
    exact spells.parse stratum
  have hgap : ∀ c ∈ [' '], separates c := by simp [separates]
  exact ⟨hparse, hgap, writesFloat_sample, parse_write hparse hgap writesFloat_sample⟩

end Stencil.Expression
