import Stencil.Expression.Reading
import Stencil.Proofs.Outcome

/-!
What each reader of expressions does with the tokens before it, as one equivalence for each form of
its input. A result is stated without the proof that fewer tokens are left, which the readers carry
along for the sake of termination.
-/

namespace Stencil.Expression

/-- The reader succeeds with this result and leaves these tokens. -/
def Gives {α : Type} {p : List Token → Prop} (x : Except Fault (α × Subtype p)) (a : α)
    (rest : List Token) : Prop :=
  ∃ h, x = .ok (a, ⟨rest, h⟩)

namespace Gives

variable {α β : Type} {p q : List Token → Prop} {x : Except Fault (α × Subtype p)} {a : α}
  {rest : List Token}

lemma ok_iff {b : α} {s : Subtype p} :
    Gives (.ok (b, s)) a rest ↔ a = b ∧ rest = s.1 := by
  constructor
  · rintro ⟨h, heq⟩
    cases heq
    exact ⟨rfl, rfl⟩
  · rintro ⟨rfl, rfl⟩
    exact ⟨s.2, rfl⟩

lemma pure_iff {b : α} {s : Subtype p} : Gives (pure (b, s)) a rest ↔ a = b ∧ rest = s.1 :=
  ok_iff

lemma not_error {fault : Fault} : ¬ Gives (p := p) (.error fault) a rest := by
  rintro ⟨_, heq⟩
  cases heq

lemma bind_iff {k : α × Subtype p → Except Fault (β × Subtype q)} {b : β} :
    Gives (x >>= k) b rest ↔ ∃ a mid h, x = .ok (a, ⟨mid, h⟩) ∧ Gives (k (a, ⟨mid, h⟩)) b rest := by
  constructor
  · rintro ⟨h, heq⟩
    obtain ⟨⟨a, mid, hm⟩, hx, heq⟩ := bind_eq_ok.1 heq
    exact ⟨a, mid, hm, hx, h, heq⟩
  · rintro ⟨a, mid, hm, hx, h, heq⟩
    exact ⟨h, bind_eq_ok.2 ⟨_, hx, heq⟩⟩

/-- Reading something, and then making the result of it. -/
lemma exists_iff {f : α → β} {b : β} :
    (∃ a mid h, x = .ok (a, ⟨mid, h⟩) ∧ b = f a ∧ rest = mid) ↔ ∃ a, b = f a ∧ Gives x a rest := by
  constructor
  · rintro ⟨a, mid, h, hx, rfl, rfl⟩
    exact ⟨a, rfl, h, hx⟩
  · rintro ⟨a, rfl, h, hx⟩
    exact ⟨a, rest, h, hx, rfl, rfl⟩

end Gives

variable {least : Nat} {ts rest : List Token} {e left : Expression} {ss : List String}
  {es : List Expression} {s : String}

/-! ### Paths and numbers -/

/-- What stands after a point is a segment. -/
lemma segments_dot {t : Token} : Gives (segments (.dot :: t :: ts)) ss rest ↔
    ∃ s ss', segment? t = some s ∧ ss = s :: ss' ∧ Gives (segments ts) ss' rest := by
  rw [segments]
  cases segment? t with
  | none => simp [Gives.not_error]
  | some s =>
    cases segments ts with
    | error fault => simp [Gives.not_error]
    | ok r =>
      obtain ⟨ss', rest', hr⟩ := r
      simp only [Gives.ok_iff]
      constructor
      · rintro ⟨rfl, rfl⟩
        exact ⟨s, ss', rfl, rfl, rfl, rfl⟩
      · rintro ⟨_, _, ⟨⟩, rfl, rfl, rfl⟩
        exact ⟨rfl, rfl⟩

lemma segments_segment {t : Token} (h : segment? t = some s) :
    Gives (segments (.dot :: t :: ts)) ss rest ↔
      ∃ ss', ss = s :: ss' ∧ Gives (segments ts) ss' rest := by
  simp [segments_dot, h]

lemma segments_point (h : ∀ t us s, ts = t :: us → segment? t ≠ some s) :
    ¬ Gives (segments (.dot :: ts)) ss rest := by
  cases ts with
  | nil => exact Gives.not_error
  | cons t us =>
    rw [segments_dot]
    rintro ⟨s, _, hs, -⟩
    exact h t us s rfl hs

lemma segments_openParen : ¬ Gives (segments (.openParen :: ts)) ss rest :=
  Gives.not_error

lemma segments_other (hd : ts.head? ≠ some .dot) (hp : ts.head? ≠ some .openParen) :
    Gives (segments ts) ss rest ↔ ss = [] ∧ rest = ts := by
  cases ts with
  | nil => exact Gives.ok_iff
  | cons t us =>
    cases t with
    | dot => exact absurd rfl hd
    | openParen => exact absurd rfl hp
    | _ => exact Gives.ok_iff

lemma readNegative_gives : Gives (readNegative ts) e rest ↔
    ∃ t l, ts = t :: rest ∧ negative? t = some l ∧ e = .literal l := by
  cases ts with
  | nil => simp [readNegative, Gives.not_error]
  | cons t us =>
    rw [readNegative]
    cases hn : negative? t with
    | none => simp [Gives.not_error, hn]
    | some l =>
      simp only [Gives.ok_iff]
      constructor
      · rintro ⟨rfl, rfl⟩
        exact ⟨t, l, rfl, hn, rfl⟩
      · rintro ⟨t', l', ht, hl, rfl⟩
        cases ht
        rw [hn] at hl
        cases hl
        exact ⟨rfl, rfl⟩

lemma closeParen_eq_ok {h : rest.length < ts.length} :
    closeParen ts = .ok ⟨rest, h⟩ ↔ ts = .closeParen :: rest := by
  cases ts with
  | nil => simp [closeParen]
  | cons t us =>
    rw [closeParen]
    split <;> simp_all [eq_comm]

/-! ### Operands -/

/-- What the tokens of an operand are read as, by the first of them. -/
lemma readOperand_gives : Gives (readOperand ts) e rest ↔
    match ts with
    | .literal l :: us => e = .literal l ∧ rest = us
    | .name s :: us => Gives (readNamed s us) e rest
    | .dollar :: us => ∃ ss, e = .path ⟨.model, ss⟩ ∧ Gives (segments us) ss rest
    | .bang :: us => ∃ operand, e = .not operand ∧ Gives (read notStrength us) operand rest
    | .minus :: us => Gives (readNegative us) e rest
    | .openParen :: us => Gives (read 0 us) e (.closeParen :: rest)
    | _ => False := by
  cases ts with
  | nil => simp [readOperand, Gives.not_error]
  | cons t us =>
    cases t with
    | literal l =>
      rw [readOperand]
      exact Gives.ok_iff
    | name _ | minus =>
      rw [readOperand]
      simp only [Gives.bind_iff, Gives.pure_iff]
      simp [Gives]
    | dollar | bang =>
      rw [readOperand]
      simp only [Gives.bind_iff, Gives.pure_iff]
      exact Gives.exists_iff
    | openParen =>
      rw [readOperand]
      simp only [Gives.bind_iff]
      constructor
      · rintro ⟨e', mid, hm, hr, h, heq⟩
        obtain ⟨⟨rest', hr'⟩, hc, heq⟩ := bind_eq_ok.1 heq
        cases heq
        rw [closeParen_eq_ok] at hc
        subst hc
        exact ⟨hm, hr⟩
      · rintro ⟨hm, hr⟩
        have hc : closeParen (.closeParen :: rest) = .ok ⟨rest, by simp⟩ := closeParen_eq_ok.2 rfl
        exact ⟨e, _, hm, hr, by simp at hm ⊢; omega, bind_eq_ok.2 ⟨_, hc, rfl⟩⟩
    | closeParen | comma | dot | operator _ => simp [readOperand, Gives.not_error]

lemma readOperand_literal {l : Literal} :
    Gives (readOperand (.literal l :: ts)) e rest ↔ e = .literal l ∧ rest = ts :=
  readOperand_gives

lemma readOperand_name :
    Gives (readOperand (.name s :: ts)) e rest ↔ Gives (readNamed s ts) e rest :=
  readOperand_gives

lemma readOperand_dollar : Gives (readOperand (.dollar :: ts)) e rest ↔
    ∃ ss, e = .path ⟨.model, ss⟩ ∧ Gives (segments ts) ss rest :=
  readOperand_gives

lemma readOperand_bang : Gives (readOperand (.bang :: ts)) e rest ↔
    ∃ operand, e = .not operand ∧ Gives (read notStrength ts) operand rest :=
  readOperand_gives

lemma readOperand_minus : Gives (readOperand (.minus :: ts)) e rest ↔
    Gives (readNegative ts) e rest :=
  readOperand_gives

lemma readOperand_openParen : Gives (readOperand (.openParen :: ts)) e rest ↔
    Gives (read 0 ts) e (.closeParen :: rest) :=
  readOperand_gives

lemma readNamed_openParen : Gives (readNamed s (.openParen :: ts)) e rest ↔
    ∃ es, e = .call s es ∧ Gives (readArguments ts) es rest := by
  rw [readNamed]
  simp only [Gives.bind_iff, Gives.pure_iff]
  exact Gives.exists_iff

lemma readNamed_other (h : ts.head? ≠ some .openParen) :
    Gives (readNamed s ts) e rest ↔
      ∃ ss, e = .path ⟨.scope, s :: ss⟩ ∧ Gives (segments ts) ss rest := by
  rw [readNamed]
  · simp only [Gives.bind_iff, Gives.pure_iff]
    exact Gives.exists_iff
  · rintro us rfl
    simp at h

/-! ### Operators and arguments -/

lemma read_gives : Gives (read least ts) e rest ↔
    ∃ left mid, Gives (readOperand ts) left mid ∧ Gives (readOperators least left mid) e rest := by
  rw [read]
  simp only [Gives.bind_iff, Gives.pure_iff]
  constructor
  · rintro ⟨left, mid, hm, hl, e', rest', hr, ho, rfl, rfl⟩
    exact ⟨left, mid, ⟨hm, hl⟩, hr, ho⟩
  · rintro ⟨left, mid, ⟨hm, hl⟩, hr, ho⟩
    exact ⟨left, mid, hm, hl, e, rest, hr, ho, rfl, rfl⟩

/-- An operator is read if it binds strongly enough, and otherwise it is left. -/
lemma readOperators_gives {op : Operator} :
    Gives (readOperators least left (.operator op :: ts)) e rest ↔
      if op.strength < least then e = left ∧ rest = .operator op :: ts
      else ∃ right mid, Gives (read (op.strength + 1) ts) right mid ∧
        Gives (readOperators least (.binary op left right) mid) e rest := by
  rw [readOperators]
  split
  · exact Gives.ok_iff
  · simp only [Gives.bind_iff, Gives.pure_iff]
    constructor
    · rintro ⟨right, mid, hm, hr, e', rest', h, ho, rfl, rfl⟩
      exact ⟨right, mid, ⟨hm, hr⟩, h, ho⟩
    · rintro ⟨right, mid, ⟨hm, hr⟩, h, ho⟩
      exact ⟨right, mid, hm, hr, e, rest, h, ho, rfl, rfl⟩

lemma readOperators_weaker {op : Operator} (h : op.strength < least) :
    Gives (readOperators least left (.operator op :: ts)) e rest ↔
      e = left ∧ rest = .operator op :: ts := by
  rw [readOperators_gives, if_pos h]

lemma readOperators_operator {op : Operator} (h : least ≤ op.strength) :
    Gives (readOperators least left (.operator op :: ts)) e rest ↔
      ∃ right mid, Gives (read (op.strength + 1) ts) right mid ∧
        Gives (readOperators least (.binary op left right) mid) e rest := by
  rw [readOperators_gives, if_neg (Nat.not_lt.2 h)]

lemma readOperators_other (h : ∀ op us, ts ≠ .operator op :: us) :
    Gives (readOperators least left ts) e rest ↔ e = left ∧ rest = ts := by
  rw [readOperators]
  · exact Gives.ok_iff
  · exact h

lemma readArguments_closeParen :
    Gives (readArguments (.closeParen :: ts)) es rest ↔ es = [] ∧ rest = ts := by
  rw [readArguments]
  exact Gives.ok_iff

lemma readArguments_other (h : ts.head? ≠ some .closeParen) :
    Gives (readArguments ts) es rest ↔ Gives (readMoreArguments ts) es rest := by
  rw [readArguments]
  rintro us rfl
  simp at h

lemma readMoreArguments_gives : Gives (readMoreArguments ts) es rest ↔
    ∃ e mid, Gives (read 0 ts) e mid ∧
      ((mid = .closeParen :: rest ∧ es = [e]) ∨
        ∃ us es', mid = .comma :: us ∧ es = e :: es' ∧ Gives (readMoreArguments us) es' rest) := by
  rw [readMoreArguments]
  simp only [Gives.bind_iff]
  constructor
  · rintro ⟨e, mid, hm, hr, h⟩
    refine ⟨e, mid, ⟨hm, hr⟩, ?_⟩
    rcases mid with _ | ⟨t, us⟩
    · exact absurd h Gives.not_error
    · cases t with
      | closeParen =>
        obtain ⟨rfl, rfl⟩ := Gives.pure_iff.1 h
        exact .inl ⟨rfl, rfl⟩
      | comma =>
        obtain ⟨es', mid, h', hr', h⟩ := Gives.bind_iff.1 h
        obtain ⟨rfl, rfl⟩ := Gives.pure_iff.1 h
        exact .inr ⟨us, es', rfl, rfl, h', hr'⟩
      | _ => exact absurd h Gives.not_error
  · rintro ⟨e, mid, ⟨hm, hr⟩, ⟨rfl, rfl⟩ | ⟨us, es', rfl, rfl, h', hr'⟩⟩
    · exact ⟨e, _, hm, hr, Gives.pure_iff.2 ⟨rfl, rfl⟩⟩
    · exact ⟨e, _, hm, hr, Gives.bind_iff.2 ⟨es', rest, h', hr', Gives.pure_iff.2 ⟨rfl, rfl⟩⟩⟩

end Stencil.Expression
