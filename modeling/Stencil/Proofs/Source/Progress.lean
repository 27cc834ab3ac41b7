import Stencil.Proofs.Outcome
import Stencil.Proofs.Source.Readers
import Stencil.Proofs.Tag.Pieces

/-!
How far the readers of a view come. The search for the end of a part moves on by a whole tag in each
round; a tag that is read takes the cursor on by its own length at least; and a round over the parts
of a conditional that is not the last takes it over a tag that divides. No reader leaves the view.
-/

namespace Stencil

open Stencil.Text Stencil.Tag Stencil.Template

variable {nest : Nest} {n : Nat}

lemma Bounded.of_eq_ok {α : Type} {x : Except Fault α} {a : α} :
    Bounded.of x = .ok a ↔ x = .ok a :=
  mapError_eq_ok

@[simp] lemma Tag.insideOf_signature (inner : List Char) : insideOf (signature inner) = inner := by
  simp [insideOf, signature, List.dropLast_append_of_ne_nil]

/-! ### Places of tags -/

namespace Tag

variable {quotes : Bool} {quote : Option UInt8} {i k : Nat} {bs : List UInt8} {cs : List Char}

lemma length_utf8 (cs : List Char) : (utf8 cs).length = size cs := by
  induction cs with
  | nil => rfl
  | cons c cs ih => rw [utf8_cons, List.length_append, String.length_utf8EncodeChar, ih, size_cons]

/-- The closing braces that are found are two of the bytes that are searched. -/
lemma closingFrom_bounds (h : closingFrom quotes quote i bs = some k) :
    i ≤ k ∧ k + 2 ≤ i + bs.length := by
  fun_induction closingFrom quotes quote i bs with
  | case1 | case2 => cases h
  | case3 _ _ _ _ ih | case4 _ _ _ _ _ ih | case5 _ _ _ _ ih | case7 _ _ _ _ _ ih =>
    have hbounds := ih h
    simp only [List.length_cons]
    omega
  | case6 i b bs hquote hfound =>
    obtain ⟨bs', rfl⟩ := List.head?_eq_some_iff.1 hfound.2
    cases h
    simp only [List.length_cons]
    omega

lemma closing?_bounds (h : closing? cs = some k) : 2 ≤ k ∧ k + 2 ≤ size cs := by
  obtain ⟨hle, hlt⟩ := closingFrom_bounds h
  rw [List.length_drop, length_utf8] at hlt
  omega

lemma le_size_takeBytes {n : Nat} (h : n ≤ size cs) : n ≤ size (takeBytes n cs) := by
  induction cs generalizing n with
  | nil =>
    rw [size_nil] at h
    omega
  | cons c cs ih =>
    rw [takeBytes_cons]
    split
    · omega
    · rw [size_cons] at h ⊢
      have hn : n - c.utf8Size ≤ size (takeBytes (n - c.utf8Size) cs) := ih (by omega)
      omega

end Tag

/-! ### The search for the end of a part -/

namespace Search

variable {us cs inner rest : List Char} {s s' : Search} {e : Ending}

/-- The next round, in the words of the text that is still to be searched. -/
lemma next_eq (nest : Nest) (cs : List Char) (hpos : s.position = size us) :
    s.next nest (us ++ cs) =
      match splitOnce ['{', '{'] cs with
      | none => .never
      | some (run, rest) =>
        match close? rest with
        | none => .never
        | some (inner, _) =>
          s.meets (size (us ++ run)) (size (us ++ run ++ signature inner)) (nest.role inner) := by
  rw [next, hpos, dropBytes_size_append]
  cases hsplit : splitOnce ['{', '{'] cs with
  | none => rfl
  | some p =>
    obtain ⟨run, rest⟩ := p
    have hcs : us ++ cs = (us ++ run) ++ '{' :: '{' :: rest := by
      rw [splitOnce_eq_some hsplit]
      simp
    have hstart : size us + size run = size (us ++ run) := (size_append us run).symm
    simp only [hstart, hcs, dropBytes_size_append, closing?_braces]
    cases hclose : close? rest with
    | none => rfl
    | some p =>
      obtain ⟨inner, rest'⟩ := p
      have htag : '{' :: '{' :: rest = signature inner ++ rest' := by
        simp [signature, eq_of_close? hclose]
      have hstop : size (us ++ run) + (2 + size inner) + 2 =
          size (us ++ run) + size (signature inner) := by
        rw [size_signature]
        omega
      have hslice : slice ((us ++ run) ++ '{' :: '{' :: rest) (size (us ++ run))
          (size (us ++ run) + size (signature inner)) = signature inner := by
        rw [htag, ← List.append_assoc, slice_append]
      simp only [Option.map_some, hstop, hslice, insideOf_signature,
        size_append _ (signature inner)]

/-- A round that does not fail to find a tag meets one. -/
lemma next_cases (nest : Nest) (cs : List Char) (hpos : s.position = size us) :
    s.next nest (us ++ cs) = .never ∨
      ∃ run inner rest, cs = run ++ signature inner ++ rest ∧
        close? (inner ++ '}' :: '}' :: rest) = some (inner, rest) ∧
        s.next nest (us ++ cs) =
          s.meets (size (us ++ run)) (size (us ++ run ++ signature inner)) (nest.role inner) := by
  rw [next_eq nest cs hpos]
  cases hsplit : splitOnce ['{', '{'] cs with
  | none => exact .inl rfl
  | some p =>
    obtain ⟨run, rest⟩ := p
    cases hclose : close? rest with
    | none => exact .inl (by simp only [hclose])
    | some p =>
      obtain ⟨inner, rest'⟩ := p
      have hrest := eq_of_close? hclose
      refine .inr ⟨run, inner, rest', ?_, hrest ▸ hclose, by simp only [hclose]⟩
      rw [splitOnce_eq_some hsplit, hrest]
      simp [signature]

lemma position_of_meets {start stop : Nat} {role : Nest.Role}
    (h : s.meets start stop role = .further s') : s'.position = stop := by
  cases role with
  | opens =>
    cases h
    rfl
  | closes =>
    rw [meets] at h
    split at h <;> cases h
    rfl
  | divides =>
    rw [meets] at h
    split at h <;> cases h
    rfl
  | other =>
    cases h
    rfl

lemma ending_of_meets {start stop : Nat} {role : Nest.Role}
    (h : s.meets start stop role = .ends e) :
    e.start = start ∧ e.stop = stop ∧ role = if e.closes then .closes else .divides := by
  cases role with
  | opens => cases h
  | closes =>
    rw [meets] at h
    split at h <;> cases h
    exact ⟨rfl, rfl, rfl⟩
  | divides =>
    rw [meets] at h
    split at h <;> cases h
    exact ⟨rfl, rfl, rfl⟩
  | other => cases h

/-- The rounds of a search lead to this state of it. -/
inductive Comes (nest : Nest) (text : List Char) : Search → Prop
  | first : Comes nest text first
  | further {s s' : Search} (before : Comes nest text s) (round : s.next nest text = .further s') :
      Comes nest text s'

/-- A round moves the search on by a text that is a tag at least. -/
lemma next_further (hpos : s.position = size us) (h : s.next nest (us ++ cs) = .further s') :
    ∃ vs rest, cs = vs ++ rest ∧ s'.position = size (us ++ vs) ∧ 4 ≤ size vs := by
  rcases next_cases nest cs hpos with hnever | ⟨run, inner, rest, hcs, -, hmeets⟩
  · rw [hnever] at h
    cases h
  · rw [hmeets] at h
    refine ⟨run ++ signature inner, rest, hcs, ?_, ?_⟩
    · rw [position_of_meets h, List.append_assoc]
    · rw [size_append, size_signature]
      omega

/-- The search stands before a part of the text. -/
lemma Comes.exists_rest {text : List Char} (h : Comes nest text s) :
    ∃ us cs, text = us ++ cs ∧ s.position = size us := by
  induction h with
  | first => exact ⟨[], text, rfl, rfl⟩
  | further before round ih =>
    obtain ⟨us, cs, rfl, hpos⟩ := ih
    obtain ⟨vs, rest, rfl, hpos', -⟩ := next_further hpos round
    exact ⟨us ++ vs, rest, (List.append_assoc us vs rest).symm, hpos'⟩

/-- **Searches move on**: by four bytes or more in each round, and not beyond the text. -/
lemma Comes.next_position {text : List Char} (h : Comes nest text s)
    (hnext : s.next nest text = .further s') :
    s.position + 4 ≤ s'.position ∧ s'.position ≤ size text := by
  obtain ⟨us, cs, rfl, hpos⟩ := h.exists_rest
  obtain ⟨vs, rest, rfl, hpos', hsize⟩ := next_further hpos hnext
  simp only [size_append] at hpos' ⊢
  omega

end Search

/-- The part of the text up to a tag, at which the part ends. -/
structure Ending.Marks (e : Ending) (nest : Nest) (text us inner rest : List Char) : Prop where
  eq : text = us ++ signature inner ++ rest
  closing : close? (inner ++ '}' :: '}' :: rest) = some (inner, rest)
  role : nest.role inner = if e.closes then .closes else .divides
  start : e.start = size us
  stop : e.stop = size us + size (signature inner)

lemma Search.Comes.marks {text : List Char} {s : Search} {e : Ending} (h : s.Comes nest text)
    (hnext : s.next nest text = .ends e) : ∃ us inner rest, e.Marks nest text us inner rest := by
  obtain ⟨us, cs, rfl, hpos⟩ := h.exists_rest
  rcases next_cases nest cs hpos with hnever | ⟨run, inner, rest, rfl, hclose, hmeets⟩
  · rw [hnever] at hnext
    cases hnext
  · rw [hmeets] at hnext
    obtain ⟨hstart, hstop, hrole⟩ := ending_of_meets hnext
    refine ⟨us ++ run, inner, rest, ?_, hclose, hrole, hstart, ?_⟩
    · simp only [List.append_assoc]
    · rw [hstop, size_append _ (signature inner)]

namespace Cursor

variable {c c' : Cursor} {us cs : List Char}

/-! ### Views -/

/-- The cursor is at the beginning of the text, in a view that ends where the text does. -/
def Views (c : Cursor) (cs : List Char) : Prop :=
  ∃ before after, c.source = before ++ cs ++ after ∧ c.offset = size before ∧
    c.stop = size before + size cs

namespace Views

lemma remaining (h : c.Views cs) : c.remaining = cs := by
  obtain ⟨before, after, hsource, hoffset, hstop⟩ := h
  rw [Cursor.remaining, hsource, hoffset, hstop, slice_append]

lemma stop (h : c.Views cs) : c.stop = c.offset + size cs := by
  obtain ⟨before, after, -, hoffset, hstop⟩ := h
  rw [hoffset, hstop]

lemma isExhausted (h : c.Views cs) : c.isExhausted = decide (cs = []) := by
  have hstop := h.stop
  rw [Cursor.isExhausted, decide_eq_decide, ← size_eq_zero_iff]
  omega

/-- The cursor moves over the first part of the text. -/
lemma advanceTo (h : c.Views (us ++ cs)) :
    (c.advanceTo (c.offset + size us)).offset = c.offset + size us ∧
      (c.advanceTo (c.offset + size us)).Views cs := by
  have hstop := h.stop
  have hoffset' : (c.advanceTo (c.offset + size us)).offset = c.offset + size us := by
    rw [size_append] at hstop
    change min _ _ = _
    omega
  obtain ⟨before, after, hsource, hoffset, -⟩ := h
  refine ⟨hoffset', before ++ us, after, ?_, ?_, ?_⟩
  · change c.source = _
    simp [hsource]
  · rw [hoffset', hoffset, size_append]
  · change c.stop = _
    rw [hstop, hoffset, size_append, size_append, Nat.add_assoc]

lemma sliceOf (h : c.Views (us ++ cs)) : c.sliceOf ⟨c.offset, c.offset + size us⟩ = us := by
  obtain ⟨before, after, hsource, hoffset, -⟩ := h
  have hslice := slice_append before us (cs ++ after)
  rw [Cursor.sliceOf, hsource, hoffset]
  simpa using hslice

lemma window (h : c.Views (us ++ cs)) : (c.window ⟨c.offset, c.offset + size us⟩).Views us := by
  obtain ⟨before, after, hsource, hoffset, -⟩ := h
  refine ⟨before, cs ++ after, ?_, hoffset, ?_⟩
  · change c.source = _
    simp [hsource]
  · change c.offset + size us = _
    rw [hoffset]

end Views

/-- A whole tag at the cursor. -/
lemma Views.signature?_eq {inner rest : List Char} (h : c.Views (signature inner ++ rest))
    (hclose : close? (inner ++ '}' :: '}' :: rest) = some (inner, rest)) :
    c.signature? = .ok (signature inner) := by
  have hremaining : c.remaining = '{' :: '{' :: (inner ++ '}' :: '}' :: rest) := by
    rw [h.remaining]
    simp [signature]
  have htag : '{' :: '{' :: (inner ++ '}' :: '}' :: rest) = signature inner ++ rest := by
    simp [signature]
  have hstop : 2 + size inner + 2 = size (signature inner) := (size_signature inner).symm
  rw [signature?, hremaining, closing?_braces, hclose]
  simp only [Option.map_some, hstop, htag, takeBytes_size_append]

/-- What is taken for a tag at the cursor is a text of four bytes or more. -/
lemma Views.signature?_cases {signature : List Char} (h : c.Views cs)
    (hsignature : c.signature? = .ok signature) :
    4 ≤ size signature ∧ ∃ rest, cs = signature ++ rest := by
  rw [signature?, h.remaining] at hsignature
  cases hclose : closing? cs with
  | none =>
    rw [hclose] at hsignature
    cases hsignature
  | some close =>
    rw [hclose] at hsignature
    cases hsignature
    obtain ⟨hle, hlt⟩ := closing?_bounds hclose
    have htake := le_size_takeBytes hlt
    exact ⟨by omega, _, (takeBytes_append_dropBytes (close + 2) cs).symm⟩

/-- The cursor `c'` is further on in the same view, before the rest of the text. -/
structure Ahead (c : Cursor) (cs : List Char) (c' : Cursor) (rest : List Char) : Prop where
  source : c'.source = c.source
  views : c'.Views rest
  passed : ∃ us, cs = us ++ rest ∧ c'.offset = c.offset + size us

namespace Ahead

variable {c₁ c₂ : Cursor} {rest rest₁ rest₂ : List Char}

lemma refl (hc : c.Views cs) : c.Ahead cs c cs := ⟨rfl, hc, [], rfl, rfl⟩

lemma trans (h : c.Ahead cs c₁ rest₁) (h' : c₁.Ahead rest₁ c₂ rest₂) : c.Ahead cs c₂ rest₂ := by
  obtain ⟨us, rfl, hoffset⟩ := h.passed
  obtain ⟨vs, rfl, hoffset'⟩ := h'.passed
  refine ⟨h'.source.trans h.source, h'.views, us ++ vs, (List.append_assoc _ _ _).symm, ?_⟩
  rw [hoffset', hoffset, size_append, Nat.add_assoc]

lemma advance (hc : c.Views (us ++ rest)) : c.Ahead (us ++ rest) (c.advance (size us)) rest :=
  ⟨rfl, hc.advanceTo.2, us, rfl, hc.advanceTo.1⟩

/-- The cursor is still within the view. -/
lemma le_stop (h : c.Ahead cs c' rest) (hc : c.Views cs) : c'.offset ≤ c.stop := by
  obtain ⟨us, rfl, hoffset⟩ := h.passed
  rw [hoffset, hc.stop, size_append]
  omega

end Ahead

/-! ### What the readers do with the cursor -/

variable {condition : Option Expression} {part : Part} {closes : Bool} {e : Ending}

lemma findEnd_cases {s : Search} (hs : s.Comes nest c.remaining) (h : c.findEnd nest n s = .ok e) :
    ∃ s' : Search, s'.Comes nest c.remaining ∧ s'.next nest c.remaining = .ends e := by
  induction n generalizing s with
  | zero => cases h
  | succ n ih =>
    rw [findEnd] at h
    cases hnext : s.next nest c.remaining with
    | further s' =>
      rw [hnext] at h
      exact ih (hs.further hnext) h
    | ends e' =>
      rw [hnext] at h
      cases h
      exact ⟨s, hs, hnext⟩
    | never =>
      rw [hnext] at h
      cases h

/-- Where the search ends, a tag stands that is no other part's. -/
lemma Views.marks (hc : c.Views cs) (h : c.findEnd nest n .first = .ok e) :
    ∃ us inner rest, e.Marks nest cs us inner rest := by
  obtain ⟨s, hs, hends⟩ := findEnd_cases .first h
  rw [hc.remaining] at hs hends
  exact hs.marks hends

/-- **Parts are shorter than what they are cut from**, by the tag at which they end. -/
lemma Views.part_lt (hc : c.Views cs) (h : c.findEnd nest n .first = .ok e) :
    ∃ us, (c.window (c.partSpan e)).Views us ∧ size us + 4 ≤ size cs := by
  obtain ⟨us, inner, rest, rfl, -, -, hstart, -⟩ := hc.marks h
  rw [List.append_assoc] at hc
  refine ⟨us, ?_, ?_⟩
  · rw [partSpan, hstart]
    exact hc.window
  · simp only [size_append, size_signature]
    omega

lemma readPart_cases (h : c.readPart n nest = .ok (part, closes, c')) :
    ∃ n' e, c.findEnd nest n' .first = .ok e ∧ part.span = c.partSpan e ∧ closes = e.closes ∧
      c' = c.afterPart e := by
  cases n with
  | zero => cases h
  | succ n =>
    rw [readPart] at h
    obtain ⟨e, hends, h⟩ := bind_eq_ok.1 h
    obtain ⟨children, -, h⟩ := bind_eq_ok.1 h
    cases h
    exact ⟨n + 1, e, hends, rfl, rfl, rfl⟩

lemma ahead_readPart (hc : c.Views cs) (h : c.readPart n nest = .ok (part, closes, c')) :
    ∃ rest, c.Ahead cs c' rest := by
  obtain ⟨n', e, hends, -, -, rfl⟩ := readPart_cases h
  obtain ⟨us, inner, rest, rfl, -, -, hstart, hstop⟩ := hc.marks hends
  cases hcloses : e.closes with
  | true =>
    have hafter : c.afterPart e = c.advance (size (us ++ signature inner)) := by
      rw [afterPart, hcloses, hstop, size_append]
      rfl
    rw [hafter]
    exact ⟨rest, .advance hc⟩
  | false =>
    have hafter : c.afterPart e = c.advance (size us) := by
      rw [afterPart, hcloses, hstart]
      rfl
    rw [List.append_assoc] at hc ⊢
    rw [hafter]
    exact ⟨signature inner ++ rest, .advance hc⟩

/-- The cursor goes over what is taken for a tag. -/
lemma ahead_signature {signature : List Char} (hc : c.Views cs)
    (h : c.signature? = .ok signature) : ∃ rest, c.Ahead cs (c.advance (size signature)) rest := by
  obtain ⟨-, rest, rfl⟩ := hc.signature?_cases h
  exact ⟨rest, .advance hc⟩

lemma readRound_cases {round : BranchRound} (h : c.readRound n condition = .ok (round, c')) :
    ∃ n' part closes c₁, c.readPart n' .conditional = .ok (part, closes, c₁) ∧
      ((closes = true ∧ c' = c₁ ∧ ∃ branches otherwise, round = .last branches otherwise) ∨
        (closes = false ∧ ∃ signature condition next, c₁.signature? = .ok signature ∧
          c' = c₁.advance (size signature) ∧ round = .further (.mk condition part) next)) := by
  cases n with
  | zero => cases h
  | succ n =>
    rw [readRound] at h
    obtain ⟨⟨part, closes, c₁⟩, hpart, h⟩ := bind_eq_ok.1 h
    refine ⟨n, part, closes, c₁, hpart, ?_⟩
    match closes, condition with
    | true, some condition =>
      cases h
      exact .inl ⟨rfl, rfl, _, _, rfl⟩
    | true, none =>
      cases h
      exact .inl ⟨rfl, rfl, _, _, rfl⟩
    | false, none =>
      obtain ⟨signature, -, h⟩ := bind_eq_ok.1 h
      cases h
    | false, some condition =>
      obtain ⟨signature, hsignature, h⟩ := bind_eq_ok.1 h
      obtain ⟨next, -, h⟩ := bind_eq_ok.1 h
      cases h
      exact .inr ⟨rfl, signature, condition, next, Bounded.of_eq_ok.1 hsignature, rfl, rfl⟩

lemma ahead_readRound {round : BranchRound} (hc : c.Views cs)
    (h : c.readRound n condition = .ok (round, c')) : ∃ rest, c.Ahead cs c' rest := by
  obtain ⟨n', part, closes, c₁, hpart, hcases⟩ := readRound_cases h
  obtain ⟨rest₁, hahead⟩ := ahead_readPart hc hpart
  rcases hcases with ⟨-, rfl, -⟩ | ⟨-, signature, condition, next, hsignature, rfl, -⟩
  · exact ⟨rest₁, hahead⟩
  · obtain ⟨rest, hahead'⟩ := ahead_signature hahead.views hsignature
    exact ⟨rest, hahead.trans hahead'⟩

lemma ahead_readBranches {branches : List Branch} {otherwise : Option Part} (hc : c.Views cs)
    (h : c.readBranches n condition = .ok (branches, otherwise, c')) :
    ∃ rest, c.Ahead cs c' rest := by
  induction n generalizing c cs condition branches with
  | zero => cases h
  | succ n ih =>
    rw [readBranches] at h
    obtain ⟨⟨round, c₁⟩, hround, h⟩ := bind_eq_ok.1 h
    obtain ⟨rest₁, hahead⟩ := ahead_readRound hc hround
    cases round with
    | last branches' otherwise' =>
      cases h
      exact ⟨rest₁, hahead⟩
    | further branch next =>
      obtain ⟨⟨branches', otherwise', c₂⟩, hrest, h⟩ := bind_eq_ok.1 h
      cases h
      obtain ⟨rest, hahead'⟩ := ih hahead.views hrest
      exact ⟨rest, hahead.trans hahead'⟩

lemma ahead_readLoop {body : Part} {empty : Option Part} (hc : c.Views cs)
    (h : c.readLoop n = .ok (body, empty, c')) : ∃ rest, c.Ahead cs c' rest := by
  cases n with
  | zero => cases h
  | succ n =>
    rw [readLoop] at h
    obtain ⟨⟨body', closes, c₁⟩, hbody, h⟩ := bind_eq_ok.1 h
    obtain ⟨rest₁, hahead⟩ := ahead_readPart hc hbody
    cases closes with
    | true =>
      cases h
      exact ⟨rest₁, hahead⟩
    | false =>
      obtain ⟨signature, hsignature, h⟩ := bind_eq_ok.1 h
      obtain ⟨rest₂, hahead₂⟩ := ahead_signature hahead.views (Bounded.of_eq_ok.1 hsignature)
      split at h
      · obtain ⟨⟨empty', closes', c₂⟩, hempty, h⟩ := bind_eq_ok.1 h
        obtain ⟨rest₃, hahead₃⟩ := ahead_readPart hahead₂.views hempty
        cases closes' with
        | true =>
          cases h
          exact ⟨rest₃, hahead.trans (hahead₂.trans hahead₃)⟩
        | false => cases h
      · cases h

/-- **Tags**: a tag that is read takes the cursor over four bytes or more, and not out of the
view. -/
lemma readTag_ahead {b : Block} (hc : c.Views cs) (h : c.readTag n = .ok (b, c')) :
    c.offset + 4 ≤ c'.offset ∧ ∃ rest, c.Ahead cs c' rest := by
  cases n with
  | zero => cases h
  | succ n =>
    rw [readTag] at h
    obtain ⟨signature, hsignature, h⟩ := bind_eq_ok.1 h
    obtain ⟨lead, -, h⟩ := bind_eq_ok.1 h
    obtain ⟨hfour, rest, rfl⟩ := hc.signature?_cases (Bounded.of_eq_ok.1 hsignature)
    have hahead : c.Ahead _ (c.advance (size signature)) rest := .advance hc
    have hmore : ∃ rest', (c.advance (size signature)).Ahead rest c' rest' := by
      cases lead with
      | simple content =>
        cases h
        exact ⟨rest, .refl hahead.views⟩
      | conditional condition =>
        obtain ⟨⟨branches, otherwise, c₁⟩, hbranches, h⟩ := bind_eq_ok.1 h
        cases h
        exact ahead_readBranches hahead.views hbranches
      | iteration header =>
        obtain ⟨⟨body, empty, c₁⟩, hloop, h⟩ := bind_eq_ok.1 h
        cases h
        exact ahead_readLoop hahead.views hloop
    obtain ⟨rest', hahead'⟩ := hmore
    obtain ⟨us, -, hoffset⟩ := hahead'.passed
    have hsignature' := hc.advanceTo.1
    refine ⟨?_, rest', hahead.trans hahead'⟩
    rw [hoffset]
    change c.offset + 4 ≤ (c.advanceTo _).offset + _
    omega

/-- **Rounds**: a round that is not the last takes the cursor over a part and over the tag behind
it, which divides the conditional. -/
lemma Views.readRound_further {branch : Branch} {next : Option Expression} (hc : c.Views cs)
    (h : c.readRound n condition = .ok (.further branch next, c')) :
    ∃ us inner rest, cs = us ++ signature inner ++ rest ∧
      Nest.conditional.role inner = .divides ∧
      branch.part.span = ⟨c.offset, c.offset + size us⟩ ∧
      c'.offset = c.offset + size us + size (signature inner) ∧ c'.Views rest := by
  obtain ⟨n', part, closes, c₁, hpart, hcases⟩ := readRound_cases h
  rcases hcases with ⟨-, -, branches, otherwise, hlast⟩ |
    ⟨rfl, signature', condition, next', hsignature, rfl, hfurther⟩
  · cases hlast
  · cases hfurther
    obtain ⟨n'', e, hends, hspan, hcloses, rfl⟩ := readPart_cases hpart
    obtain ⟨us, inner, rest, rfl, hclosing, hrole, hstart, -⟩ := hc.marks hends
    rw [← hcloses] at hrole
    rw [List.append_assoc] at hc
    obtain ⟨hoffset, hviews⟩ := hc.advanceTo
    have hafter : c.afterPart e = c.advanceTo (c.offset + size us) := by
      rw [afterPart, ← hcloses, hstart]
      rfl
    rw [hafter] at hsignature ⊢
    rw [hviews.signature?_eq hclosing] at hsignature
    cases hsignature
    obtain ⟨hoffset', hviews'⟩ := hviews.advanceTo
    refine ⟨us, inner, rest, rfl, hrole, ?_, ?_, hviews'⟩
    · rw [partSpan, hstart] at hspan
      exact hspan
    · exact hoffset'.trans (by rw [hoffset])

end Cursor

end Stencil
