import Stencil.Proofs.Expression.Writing
import Stencil.Proofs.Value.Coercion

/-!
What dotted paths are read as. After a point a name stands for itself, also if it is the word for a
value elsewhere; digits stand for the number that they denote, and the segment is that number as it
is written. Main statement: a path is read as it is written just if its digits are those that numbers
below `2 ^ 63` are written with.
-/

namespace Stencil.Expression

open Stencil.Decimal Stencil.Expression.Grammar

variable {s s' : String} {ss ss' : List String} {us rest : List Char} {head : Option String}
  {fault : Fault}

/-! ### Segments -/

/-- A text that can stand after a point: a name, or one digit or more. -/
inductive SegmentText (s : String) : Prop
  | name (name : isName s.toList)
  | number (nonempty : s.toList ≠ []) (digits : ∀ c ∈ s.toList, c.isDigit)

/-- What a segment is read as. -/
def readSegment (s : String) : Except Fault String :=
  match readNat? s.toList with
  | some n => if n < 2 ^ 63 then .ok (.ofList (digits n)) else .error (.integerTooLarge s)
  | none => .ok s

/-- The segment is a name, or the digits that a number is written with: no zeros stand in front. -/
def Stays (s : String) : Prop := isName s.toList ∨ ∃ n < 2 ^ 63, s.toList = digits n

lemma readNat?_of_isName (h : isName us) : readNat? us = none := by
  cases us with
  | nil => rfl
  | cons c us =>
    simp only [isName, Bool.and_eq_true] at h
    simp [readNat?, not_isDigit_of_beginsName h.1]

lemma readNat?_of_digits (hne : us ≠ []) (hus : ∀ c ∈ us, c.isDigit) :
    readNat? us = some (ofDigits us) := by
  have hall : us.all Char.isDigit := List.all_eq_true.2 hus
  simp [readNat?, hne, hall]

lemma readSegment_name (h : isName s.toList) : readSegment s = .ok s := by
  rw [readSegment, readNat?_of_isName h]

lemma readSegment_number (hne : s.toList ≠ []) (hs : ∀ c ∈ s.toList, c.isDigit) :
    readSegment s = if ofDigits s.toList < 2 ^ 63 then .ok (.ofList (digits (ofDigits s.toList)))
      else .error (.integerTooLarge s) := by
  rw [readSegment, readNat?_of_digits hne hs]

lemma readSegment_eq_self_iff (h : SegmentText s) : readSegment s = .ok s ↔ Stays s := by
  cases h with
  | name h => exact iff_of_true (readSegment_name h) (.inl h)
  | number hne hs =>
    rw [readSegment_number hne hs]
    constructor
    · intro h
      split at h
      · rename_i hlt
        have hdigits : String.ofList (digits (ofDigits s.toList)) = s := Except.ok.inj h
        refine .inr ⟨_, hlt, ?_⟩
        conv_lhs => rw [← hdigits, String.toList_ofList]
      · cases h
    · rintro (hname | ⟨n, hlt, hn⟩)
      · have hnone := readNat?_of_isName hname
        rw [readNat?_of_digits hne hs] at hnone
        cases hnone
      · rw [hn, ofDigits_digits, if_pos hlt, ← hn, String.ofList_toList]

lemma readSegments_eq_self_iff (h : ∀ s ∈ ss, SegmentText s) :
    ss.mapM readSegment = .ok ss ↔ ∀ s ∈ ss, Stays s := by
  induction ss with
  | nil => simp [pure, Except.pure]
  | cons s ss ih =>
    obtain ⟨hs, hss⟩ := List.forall_mem_cons.1 h
    rw [List.mapM_cons, List.forall_mem_cons, ← readSegment_eq_self_iff hs, ← ih hss, bind_eq_ok]
    constructor
    · rintro ⟨s', hs', hmore⟩
      obtain ⟨ss', hss', heq⟩ := bind_eq_ok.1 hmore
      cases heq
      exact ⟨hs', hss'⟩
    · rintro ⟨hs', hss'⟩
      exact ⟨s, hs', bind_eq_ok.2 ⟨ss, hss', rfl⟩⟩

/-! ### Segments in a text -/

/-- Digits of a number that no word holds are refused. -/
lemma tokensFrom_tooLarge {afterDot : Bool} (hne : us ≠ []) (hus : ∀ c ∈ us, c.isDigit)
    (hlarge : 2 ^ 63 ≤ ofDigits us) (hrest : EndsName rest)
    (hpoint : afterDot = false → beginsFraction rest = false) :
    tokensFrom afterDot (us ++ rest) = .error (.integerTooLarge (.ofList us)) := by
  have hnone : int64? (ofDigits us) = none := int64?_eq_none_iff.2 (.inr (by exact_mod_cast hlarge))
  obtain ⟨c, us, rfl⟩ := List.exists_cons_of_ne_nil hne
  have hlexeme : lexeme afterDot c (us ++ rest) =
      .error (.integerTooLarge (.ofList (c :: us))) := by
    rw [lexeme_digits hus hrest hpoint, integerToken, hnone]
    rfl
  exact tokensFrom_of_error (not_separates_of_isDigit (hus c List.mem_cons_self)) hlexeme

lemma segment_wordToken (us : List Char) : Segment (wordToken us) (.ofList us) := by
  unfold wordToken
  dsimp only
  split
  · rename_i h
    rw [beq_iff_eq.1 h]
    exact .true
  · split
    · rename_i h
      rw [beq_iff_eq.1 h]
      exact .false
    · split
      · rename_i h
        rw [beq_iff_eq.1 h]
        exact .null
      · exact .name _

lemma readsAs_of_readSegment (h : SegmentText s) (hr : readSegment s = .ok s') :
    ReadsAs s s' := by
  cases h with
  | name h =>
    rw [readSegment_name h] at hr
    cases hr
    have segment := segment_wordToken s.toList
    rw [String.ofList_toList] at segment
    exact ⟨_, segment, fun rest hrest => tokensFrom_name h hrest⟩
  | number hne hs =>
    rw [readSegment_number hne hs] at hr
    split at hr
    · rename_i hlt
      cases hr
      obtain ⟨w, hw⟩ : ∃ w, int64? (ofDigits s.toList) = some w := by
        rw [← Option.ne_none_iff_exists', Ne, int64?_eq_none_iff]
        omega
      have hvalue : w.toInt = ofDigits s.toList := int64?_eq_some_iff.1 hw
      have segment := Segment.integer w
      rw [hvalue, Decimal.write, if_neg (by omega), Int.natAbs_natCast] at segment
      exact ⟨_, segment, fun rest hrest =>
        tokensFrom_digits hne hs hw hrest fun hfalse => Bool.noConfusion hfalse⟩
    · cases hr

lemma tokensFrom_of_readSegment_eq_error (h : SegmentText s) (hr : readSegment s = .error fault)
    (hrest : EndsName rest) : tokensFrom true (s.toList ++ rest) = .error fault := by
  cases h with
  | name h =>
    rw [readSegment_name h] at hr
    cases hr
  | number hne hs =>
    rw [readSegment_number hne hs] at hr
    split at hr
    · cases hr
    · rename_i hlarge
      cases hr
      have htooLarge := @tokensFrom_tooLarge _ rest true hne hs (by omega) hrest nofun
      rwa [String.ofList_toList] at htooLarge

lemma readsAs_of_readSegments (h : ∀ s ∈ ss, SegmentText s)
    (hr : ss.mapM readSegment = .ok ss') : List.Forall₂ ReadsAs ss ss' := by
  induction ss generalizing ss' with
  | nil =>
    cases hr
    exact .nil
  | cons s ss ih =>
    obtain ⟨hs, hss⟩ := List.forall_mem_cons.1 h
    rw [List.mapM_cons] at hr
    obtain ⟨s', hs', hmore⟩ := bind_eq_ok.1 hr
    obtain ⟨ss', hss', heq⟩ := bind_eq_ok.1 hmore
    cases heq
    exact .cons (readsAs_of_readSegment hs hs') (ih hss hss')

lemma tokensFrom_of_readSegments_eq_error (h : ∀ s ∈ ss, SegmentText s)
    (hr : ss.mapM readSegment = .error fault) (hrest : EndsName rest) :
    tokensFrom false (pointed ss ++ rest) = .error fault := by
  induction ss with
  | nil => cases hr
  | cons s ss ih =>
    obtain ⟨hs, hss⟩ := List.forall_mem_cons.1 h
    have happend : pointed (s :: ss) ++ rest = '.' :: (s.toList ++ (pointed ss ++ rest)) := by
      simp [pointed]
    rw [List.mapM_cons] at hr
    rw [happend, tokensFrom_dot]
    rcases bind_eq_error.1 hr with hfirst | ⟨s', hs', hmore⟩
    · rw [tokensFrom_of_readSegment_eq_error hs hfirst (endsName_pointed hrest)]
      rfl
    · obtain ⟨t, -, htoken⟩ := readsAs_of_readSegment hs hs'
      rcases bind_eq_error.1 hmore with hmore | ⟨ss', -, heq⟩
      · rw [htoken _ (endsName_pointed hrest), ih hss hmore]
        rfl
      · cases heq

/-! ### Paths -/

/-- The path that begins with a name, or at the model when there is none. -/
def pathOf (head : Option String) (ss : List String) : Path :=
  match head with
  | some name => ⟨.scope, name :: ss⟩
  | none => ⟨.model, ss⟩

/-- The name, or the sign for the model, and the segments, with points between them. -/
def dotted (head : Option String) (ss : List String) : String :=
  ".".intercalate (head.getD "$" :: ss)

lemma display_pathOf (head : Option String) (ss : List String) :
    (pathOf head ss).display = dotted head ss := by
  cases head <;> rfl

/-- The text is read as the path, and the path is written as the text. -/
structure Says (text : String) (p : Path) : Prop where
  parse : Expression.parse text.toList = .ok (.path p)
  display : p.display = text

/-- A name that a path can begin with. -/
def BeginsPath (name : String) : Prop :=
  isName name.toList ∧ name ∉ ["true", "false", "null"]

lemma lexed_of_beginsPath {name : String} (h : BeginsPath name) : (Token.name name).Lexed := by
  obtain ⟨hname, hword⟩ := h
  exact ⟨hname, by simp_all [wordToken]⟩

lemma parse_of_readsAs (hhead : ∀ name ∈ head, BeginsPath name)
    (h : List.Forall₂ ReadsAs ss ss') :
    parse (dotted head ss).toList = .ok (.path (pathOf head ss')) := by
  rw [← display_pathOf]
  cases head with
  | some name => exact (@written_scope 0 _ _ _ (lexed_of_beginsPath (hhead name rfl)) h).parse
  | none => exact (@written_model 0 _ _ h).parse

lemma parse_of_readSegments_eq_error (hhead : ∀ name ∈ head, BeginsPath name)
    (hss : ∀ s ∈ ss, SegmentText s) (hr : ss.mapM readSegment = .error fault) :
    parse (dotted head ss).toList = .error fault := by
  have hmore : tokensFrom false (pointed ss) = .error fault := by
    have h := tokensFrom_of_readSegments_eq_error hss hr endsWord_nil.endsName
    rwa [List.append_nil] at h
  have htokens : tokens (dotted head ss).toList = .error fault := by
    rw [dotted, toList_intercalate, tokens]
    cases head with
    | some name =>
      have hends := @endsName_pointed ss _ endsWord_nil.endsName
      rw [List.append_nil] at hends
      rw [Option.getD_some, tokensFrom_name (hhead name rfl).1 hends, hmore]
      rfl
    | none =>
      have hdollar := @tokensFrom_single false '$' _ rfl (pointed ss)
      rw [hmore] at hdollar
      exact hdollar
  rw [parse, htokens]
  rfl

/-- The path that a text is read as: that of its head and of what its segments are read as. -/
theorem parse_dotted (hhead : ∀ name ∈ head, BeginsPath name) (hss : ∀ s ∈ ss, SegmentText s) :
    parse (dotted head ss).toList =
      (ss.mapM readSegment).map fun ss' => .path (pathOf head ss') := by
  cases hr : ss.mapM readSegment with
  | ok ss' => exact parse_of_readsAs hhead (readsAs_of_readSegments hss hr)
  | error fault => exact parse_of_readSegments_eq_error hhead hss hr

lemma pathOf_inj : pathOf head ss = pathOf head ss' ↔ ss = ss' := by
  cases head <;> simp [pathOf]

/-- **Paths say what they are read as**, segment for segment, just if all segments stay: names, and
digits without zeros in front, of numbers below `2 ^ 63`. All other digits are read as those of the
number, or refused. -/
theorem says_iff_stays (hhead : ∀ name ∈ head, BeginsPath name)
    (hss : ∀ s ∈ ss, SegmentText s) :
    (Says (dotted head ss) (pathOf head ss) ↔ ∀ s ∈ ss, Stays s) ∧
      parse (dotted head ss).toList =
        (ss.mapM readSegment).map fun ss' => .path (pathOf head ss') := by
  have hparse := parse_dotted hhead hss
  refine ⟨?_, hparse⟩
  rw [← readSegments_eq_self_iff hss]
  constructor
  · rintro ⟨hsaid, -⟩
    rw [hparse] at hsaid
    obtain ⟨ss', hss', heq⟩ := map_eq_ok.1 hsaid
    rwa [pathOf_inj.1 (Expression.path.inj heq)] at hss'
  · intro hsame
    rw [hsame] at hparse
    exact ⟨hparse, display_pathOf head ss⟩

/-- A word for a value stands for itself after a point, and the largest number is a segment too. -/
theorem says_iff_stays_word :
    BeginsPath "größe" ∧ (∀ s ∈ ["true", "9223372036854775807"], SegmentText s) ∧
      Says "größe.true.9223372036854775807"
        ⟨.scope, ["größe", "true", "9223372036854775807"]⟩ := by
  have hhead : BeginsPath "größe" := ⟨by decide +kernel, by decide⟩
  have hss : ∀ s ∈ ["true", "9223372036854775807"], SegmentText s := by
    simpa using ⟨SegmentText.name (by decide), SegmentText.number (by decide) (List.all_eq_true.1 (by decide))⟩
  have hstays : ∀ s ∈ ["true", "9223372036854775807"], Stays s := by
    have hlargest : Stays "9223372036854775807" :=
      .inr ⟨9223372036854775807, by decide, by decide⟩
    simpa using ⟨.inl (by decide), hlargest⟩
  have hsaid := (@says_iff_stays _ (some "größe") (by simpa using hhead) hss).1.2 hstays
  exact ⟨hhead, hss, hsaid⟩

/-- A zero in front of another digit is lost, and a number of more than 63 bits is refused. -/
theorem zero_not_said :
    BeginsPath "a" ∧ SegmentText "01" ∧ SegmentText "9223372036854775808" ∧
      parse "a.01".toList = .ok (.path ⟨.scope, ["a", "1"]⟩) ∧
      parse "a.9223372036854775808".toList = .error (.integerTooLarge "9223372036854775808") ∧
      ¬ Says "a.01" ⟨.scope, ["a", "01"]⟩ ∧
      ¬ Says "a.9223372036854775808" ⟨.scope, ["a", "9223372036854775808"]⟩ := by
  have hhead : BeginsPath "a" := ⟨by decide, by decide⟩
  have hzero : SegmentText "01" := .number (by decide) (List.all_eq_true.1 (by decide))
  have hlarge : SegmentText "9223372036854775808" :=
    .number (by decide) (List.all_eq_true.1 (by decide))
  have hlost : parse "a.01".toList = .ok (.path ⟨.scope, ["a", "1"]⟩) :=
    @parse_dotted ["01"] (some "a") (by simpa using hhead) (by simpa using hzero)
  have hrefused : parse "a.9223372036854775808".toList =
      .error (.integerTooLarge "9223372036854775808") :=
    @parse_dotted ["9223372036854775808"] (some "a") (by simpa using hhead)
      (by simpa using hlarge)
  refine ⟨hhead, hzero, hlarge, hlost, hrefused, ?_, ?_⟩
  · rintro ⟨hparse, -⟩
    rw [hlost] at hparse
    simp at hparse
  · rintro ⟨hparse, -⟩
    rw [hrefused] at hparse
    cases hparse

end Stencil.Expression
