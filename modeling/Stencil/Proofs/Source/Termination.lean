import Stencil.Proofs.Source.Progress
import Stencil.Proofs.Tag.Windows
import Stencil.Proofs.Template.Compiles
import Stencil.Proofs.Text.Cutting

/-!
The readers of a view come to an end, and to what compiling makes of the view. They are followed
piece by piece: the search for the end of a part stops where `Nest.cut?` cuts the pieces, so a part
is a view of fewer pieces than are left, and its blocks are read by the induction on the bytes of
the view. Hence the blocks of a view are read if calls and rounds may nest one deeper than the view
has bytes. `Cursor.readers_end` says so, with what each reader leaves behind it.
-/

namespace Stencil

open Stencil.Text Stencil.Tag Stencil.Template

variable {nest : Nest} {n : Nat} {ps us vs rest : List Piece}

/-! ### Outcomes of reading and of compiling -/

namespace Bounded

variable {α β γ : Type} {x : Except Fault α} {k : α → Except Fault γ}

/-- Reading goes on as compiling does, if it makes the same of what came out. -/
lemma of_bind {k' : α → Bounded γ} (h : ∀ a, x = .ok a → k' a = .of (k a)) :
    Bounded.of x >>= k' = .of (x >>= k) := by
  cases x with
  | ok a => exact h a rfl
  | error fault => rfl

lemma of_map_bind {f : α → β} {k' : β → Bounded γ} (h : ∀ a, x = .ok a → k' (f a) = .of (k a)) :
    Bounded.of (x.map f) >>= k' = .of (x >>= k) := by
  cases x with
  | ok a => exact h a rfl
  | error fault => rfl

lemma map_bind (g : γ → β) : (x >>= k).map g = x >>= fun a => (k a).map g := by
  cases x with
  | ok a => rfl
  | error fault => rfl

lemma of_match_cut? {depth : Nat} {x : Bounded β} {f : α → β}
    {missing : nest.cut? depth ps = none → Except Fault α}
    {found : ∀ us b rest, nest.cut? depth ps = some ⟨us, b, rest⟩ → Except Fault α}
    (hmissing : ∀ h, x = .of ((missing h).map f))
    (hfound : ∀ us b rest h, x = .of ((found us b rest h).map f)) :
    x = .of ((match h : nest.cut? depth ps with
      | none => missing h
      | some ⟨us, b, rest⟩ => found us b rest h).map f) := by
  split
  · exact hmissing _
  · exact hfound _ _ _ _

end Bounded

namespace Tag.Piece

/-! ### Pieces in words of their text -/

lemma splitOnce_braces (ds : List Char) :
    splitOnce ['{', '{'] ('{' :: '{' :: ds) = some ([], ds) := by
  simp [splitOnce, after?]

lemma after?_braces_eq_none {c : Char} {cs : List Char}
    (hc : ∀ ds, c = '{' → cs = '{' :: ds → False) : after? ['{', '{'] (c :: cs) = none := by
  rw [after?_eq_none_iff]
  rintro ⟨ds, hds⟩
  obtain ⟨rfl, hcs⟩ := List.cons.inj hds
  exact hc ds rfl hcs.symm

/-- Opening braces are found where the run of text before them ends. -/
lemma splitOnce_of_run {cs us ds : List Char} (h : run cs = (us, '{' :: '{' :: ds)) :
    splitOnce ['{', '{'] cs = some (us, ds) := by
  fun_induction run cs generalizing us with
  | case1 => cases h
  | case2 =>
    cases h
    exact splitOnce_braces ds
  | case3 c cs hc ih =>
    obtain ⟨rfl, hd⟩ := Prod.mk.inj h
    rw [splitOnce, after?_braces_eq_none hc, ih (Prod.ext rfl hd)]
    rfl

lemma splitOnce_eq_none_of_run {cs us : List Char} (h : run cs = (us, [])) :
    splitOnce ['{', '{'] cs = none := by
  fun_induction run cs generalizing us with
  | case1 => rfl
  | case2 => cases h
  | case3 c cs hc ih =>
    obtain ⟨rfl, hd⟩ := Prod.mk.inj h
    rw [splitOnce, after?_braces_eq_none hc, ih (Prod.ext rfl hd)]
    rfl

/-- A run of text goes up to the pieces after it. -/
lemma run_of_split {cs r : List Char} (h : split cs = text r :: ps) :
    run cs = (r, join ps) ∧ (join ps = [] ∨ ∃ ds, join ps = '{' :: '{' :: ds) := by
  fun_cases split cs with
  | case1 => simp at h
  | case2 inner inner' rest hclose => simp [split_braces, hclose] at h
  | case3 inner hclose => simp [split_braces, hclose] at h
  | case4 c cs hc =>
    rw [split_cons hc] at h
    obtain ⟨hr, rfl⟩ := List.cons.inj h
    cases hr
    rw [join_split, run_cons hc]
    exact ⟨rfl, run_snd cs⟩

/-- Braces that are no tag's are not closed. -/
lemma close?_of_split_loose {cs inner : List Char}
    (h : split ('{' :: '{' :: cs) = loose inner :: ps) : close? cs = none := by
  rw [split_braces] at h
  cases hclose : close? cs with
  | none => rfl
  | some pair => simp [hclose] at h

lemma two_le_bytes_loose (inner : List Char) : 2 ≤ bytes (loose inner) := by
  have hbrace : Char.utf8Size '{' = 1 := rfl
  simp only [bytes, chars, size_cons, hbrace]
  omega

lemma length_le_total (h : Tidy ps) : ps.length ≤ total ps := by
  induction ps with
  | nil => exact Nat.zero_le _
  | cons p ps ih =>
    have hbytes : bytes p ≠ 0 := by
      rw [bytes, ne_eq, size_eq_zero_iff]
      cases p with
      | text run => exact h.nonempty run List.mem_cons_self
      | tag inner => exact List.cons_ne_nil _ _
      | loose inner => exact List.cons_ne_nil _ _
    have hlength := ih h.of_cons
    rw [List.length_cons, total_cons]
    omega

end Tag.Piece

/-! ### The search for the end of a part, by pieces -/

def Nest.Boundary.closes : Nest.Boundary → Bool
  | close _ => true
  | divide _ => false

namespace Search

variable {s s' : Search} {fs inner : List Char} {depth start stop : Nat}

/-- What the search comes to where the pieces are cut. -/
def endingOf (start : Nat) (cut : Nest.Cut) : Ending :=
  ⟨cut.boundary.closes, start + Piece.total cut.inside,
    start + Piece.total cut.inside + cut.boundary.piece.bytes⟩

lemma endingOf_cons (start : Nat) (p : Piece) (cut : Nest.Cut) :
    endingOf start (cut.cons p) = endingOf (start + p.bytes) cut := by
  simp [endingOf, Nest.Cut.cons, Nat.add_assoc]

lemma next_nil (hpos : s.position = size fs) : s.next nest (fs ++ []) = .never := by
  rw [next_eq nest [] hpos]
  rfl

/-- The search finds a tag behind a run of text as it finds it from the end of the run. -/
lemma next_text (nest : Nest) {r : List Char} (hpos : s.position = size fs)
    (hsplit : Piece.split (Piece.join (.text r :: ps)) = .text r :: ps) :
    s.next nest (fs ++ Piece.join (.text r :: ps)) =
      { s with position := size (fs ++ r) }.next nest (fs ++ r ++ Piece.join ps) := by
  obtain ⟨hrun, hnil | ⟨ds, hds⟩⟩ := Piece.run_of_split hsplit
  · rw [next_eq nest _ hpos, next_eq nest _ rfl, hnil, Piece.splitOnce_eq_none_of_run (hnil ▸ hrun)]
    rfl
  · rw [next_eq nest _ hpos, next_eq nest _ rfl, Piece.splitOnce_of_run (hds ▸ hrun), hds,
      Piece.splitOnce_braces]
    simp only [List.append_nil]
    rfl

lemma next_tag (hpos : s.position = size fs)
    (hsplit : Piece.split (Piece.join (.tag inner :: ps)) = .tag inner :: ps) :
    s.next nest (fs ++ Piece.join (.tag inner :: ps)) =
      s.meets (size fs) (size fs + Piece.bytes (.tag inner)) (nest.role inner) := by
  have hclose := @Piece.close?_of_split _ inner [] ps hsplit
  have hjoin : Piece.join (.tag inner :: ps) =
      '{' :: '{' :: (inner ++ '}' :: '}' :: Piece.join ps) := by
    simp [Piece.chars, signature]
  rw [next_eq nest _ hpos, hjoin, Piece.splitOnce_braces]
  simp only [hclose, List.append_nil, size_append]
  rfl

lemma next_loose (hpos : s.position = size fs)
    (hsplit : Piece.split (Piece.join (.loose inner :: ps)) = .loose inner :: ps) :
    s.next nest (fs ++ Piece.join (.loose inner :: ps)) = .never := by
  have hjoin : Piece.join (.loose inner :: ps) = '{' :: '{' :: (inner ++ Piece.join ps) := rfl
  rw [hjoin] at hsplit
  have hclose := Piece.close?_of_split_loose hsplit
  rw [next_eq nest _ hpos, hjoin, Piece.splitOnce_braces]
  simp only [hclose]

/-- A tag that the search meets ends the part where the pieces are cut, or is passed by as in the
cut. -/
lemma meets_cases (hdepth : s.opened = s.closed + depth + 1) (start stop : Nat) :
    (∃ b : Nest.Boundary, b.piece = .tag inner ∧
      s.meets start stop (nest.role inner) = .ends ⟨b.closes, start, stop⟩ ∧
      ∀ ps, nest.cut? depth (.tag inner :: ps) = some ⟨[], b, ps⟩) ∨
    ∃ d s', s.meets start stop (nest.role inner) = .further s' ∧ s'.position = stop ∧
      s'.opened = s'.closed + d + 1 ∧
      ∀ ps, nest.cut? depth (.tag inner :: ps) = (nest.cut? d ps).map (.cons (.tag inner)) := by
  cases hrole : nest.role inner with
  | opens =>
    refine .inr ⟨depth + 1, ⟨stop, s.opened + 1, s.closed⟩, rfl, rfl, ?_, fun ps => ?_⟩
    · change s.opened + 1 = s.closed + (depth + 1) + 1
      omega
    · simp only [Nest.cut?_tag, hrole]
  | other =>
    exact .inr ⟨depth, ⟨stop, s.opened, s.closed⟩, rfl, rfl, hdepth,
      fun ps => by simp only [Nest.cut?_tag, hrole]⟩
  | closes =>
    cases depth with
    | zero =>
      exact .inl ⟨.close inner, rfl, if_pos hdepth, fun ps => by simp only [Nest.cut?_tag, hrole]⟩
    | succ depth =>
      have hdeep : ¬ s.opened = s.closed + 1 := by omega
      refine .inr ⟨depth, ⟨stop, s.opened, s.closed + 1⟩, if_neg hdeep, rfl, ?_, fun ps => ?_⟩
      · change s.opened = s.closed + 1 + depth + 1
        omega
      · simp only [Nest.cut?_tag, hrole]
  | divides =>
    cases depth with
    | zero =>
      exact .inl ⟨.divide inner, rfl, if_pos hdepth, fun ps => by simp only [Nest.cut?_tag, hrole]⟩
    | succ depth =>
      have hdeep : ¬ s.opened = s.closed + 1 := by omega
      exact .inr ⟨depth + 1, ⟨stop, s.opened, s.closed⟩, if_neg hdeep, rfl, hdepth,
        fun ps => by simp only [Nest.cut?_tag, hrole]⟩

end Search

namespace Cursor

variable {c : Cursor}

/-- What the search for the end of a part comes to. -/
def endingFrom (c : Cursor) (nest : Nest) (start : Nat) : Option Nest.Cut → Bounded Ending
  | none => .error (some (.atEnd (.unclosedBlock nest c.offset) c.stop c.file))
  | some cut => .ok (Search.endingOf start cut)

lemma endingFrom_map_cons (start : Nat) (p : Piece) (cut : Option Nest.Cut) :
    c.endingFrom nest start (cut.map (.cons p)) = c.endingFrom nest (start + p.bytes) cut := by
  cases cut with
  | none => rfl
  | some cut => rw [Option.map_some, endingFrom, endingFrom, Search.endingOf_cons]

lemma findEnd_congr {s s' : Search} (h : s.next nest c.remaining = s'.next nest c.remaining) :
    c.findEnd nest n s = c.findEnd nest n s' := by
  cases n with
  | zero => rfl
  | succ n => rw [findEnd, findEnd, h]

/-- The search through a text finds the end of a part where the pieces of the text are cut. -/
lemma findEnd_eq {s : Search} (nest : Nest) (fs : List Char) (depth : Nat)
    (hremaining : c.remaining = fs ++ Piece.join ps) (hsplit : Piece.split (Piece.join ps) = ps)
    (hpos : s.position = size fs) (hdepth : s.opened = s.closed + depth + 1) (hn : ps.length < n) :
    c.findEnd nest n s = c.endingFrom nest (size fs) (nest.cut? depth ps) := by
  induction ps generalizing s fs depth n with
  | nil =>
    obtain ⟨n, rfl⟩ := Nat.exists_eq_succ_of_ne_zero (Nat.ne_zero_of_lt hn)
    rw [Piece.join_nil] at hremaining
    rw [findEnd, hremaining, Search.next_nil hpos]
    rfl
  | cons p ps ih =>
    have hrest : Piece.split (Piece.join ps) = ps := @Piece.split_join_right _ [p] ps hsplit
    rw [List.length_cons] at hn
    cases p with
    | text r =>
      have hremaining' : c.remaining = fs ++ r ++ Piece.join ps := by
        rw [hremaining]
        simp [Piece.chars]
      have hnext := Search.next_text nest hpos hsplit
      rw [← hremaining, ← hremaining'] at hnext
      have htail : c.findEnd nest n { s with position := size (fs ++ r) } =
          c.endingFrom nest (size (fs ++ r)) (nest.cut? depth ps) :=
        ih _ depth hremaining' hrest rfl hdepth (by omega)
      rw [findEnd_congr hnext, htail, Nest.cut?, endingFrom_map_cons, size_append]
      rfl
    | tag inner =>
      obtain ⟨n, rfl⟩ := Nat.exists_eq_succ_of_ne_zero (Nat.ne_zero_of_lt hn)
      have hremaining' : c.remaining = fs ++ signature inner ++ Piece.join ps := by
        rw [hremaining]
        simp [Piece.chars]
      rw [findEnd, hremaining, Search.next_tag hpos hsplit]
      rcases Search.meets_cases hdepth (size fs) (size fs + Piece.bytes (.tag inner)) with
        ⟨b, hb, hmeets, hcut⟩ | ⟨d, s', hmeets, hpos', hdepth', hcut⟩
      · rw [hmeets, hcut]
        simp [endingFrom, Search.endingOf, hb]
      · rw [hmeets, hcut]
        have hpos'' : s'.position = size (fs ++ signature inner) := by
          rw [hpos', size_append]
          rfl
        change c.findEnd nest n s' = _
        rw [ih _ d hremaining' hrest hpos'' hdepth' (by omega), endingFrom_map_cons, size_append]
        rfl
    | loose inner =>
      obtain ⟨n, rfl⟩ := Nat.exists_eq_succ_of_ne_zero (Nat.ne_zero_of_lt hn)
      rw [findEnd, hremaining, Search.next_loose hpos hsplit]
      rfl

/-! ### What the readers come to -/

/-- The cursor is before the pieces, in a view that ends where they do. -/
structure Before (c : Cursor) (ps : List Piece) : Prop where
  views : c.Views (Piece.join ps)
  split : Piece.split (Piece.join ps) = ps

namespace Before

/-- The cursor moves over the first pieces. -/
lemma advanceTo (hc : c.Before (us ++ vs)) :
    (c.advanceTo (c.offset + Piece.total us)).offset = c.offset + Piece.total us ∧
      (c.advanceTo (c.offset + Piece.total us)).Before vs := by
  have hviews := hc.views
  rw [Piece.join_append] at hviews
  obtain ⟨hoffset, hviews'⟩ := hviews.advanceTo
  exact ⟨hoffset, hviews', Piece.split_join_right hc.split⟩

lemma advance {p : Piece} (hc : c.Before (p :: ps)) :
    (c.advance p.bytes).offset = c.offset + p.bytes ∧ (c.advance p.bytes).Before ps := by
  have hviews : c.Views (p.chars ++ Piece.join ps) := hc.views
  obtain ⟨hoffset, hviews'⟩ := hviews.advanceTo
  exact ⟨hoffset, hviews', @Piece.split_join_right _ [p] ps hc.split⟩

/-- The view of the first pieces. -/
lemma window (hc : c.Before (us ++ vs)) :
    (c.window ⟨c.offset, c.offset + Piece.total us⟩).Before us := by
  have hviews := hc.views
  rw [Piece.join_append] at hviews
  exact ⟨hviews.window, Piece.split_join_left hc.split⟩

lemma sliceOf (hc : c.Before (us ++ vs)) :
    c.sliceOf ⟨c.offset, c.offset + Piece.total us⟩ = Piece.join us := by
  have hviews := hc.views
  rw [Piece.join_append] at hviews
  exact hviews.sliceOf

lemma signature?_eq {inner : List Char} (hc : c.Before (.tag inner :: ps)) :
    c.signature? = .ok (signature inner) := by
  have hviews : c.Views (signature inner ++ Piece.join ps) := hc.views
  exact hviews.signature?_eq (@Piece.close?_of_split _ inner [] ps hc.split)

end Before

/-- Calls and rounds that nest `n` deep are enough for the blocks of a view with fewer bytes. -/
def ReadsBlocks (n : Nat) : Prop :=
  ∀ (c : Cursor) (ps : List Piece), c.Before ps → Piece.total ps < n →
    c.readBlocks n = .of (Template.compileBlocks c.file c.offset ps)

/-- The cursor behind a part that is cut off, and behind the tag that closes the block. -/
def afterCut (c : Cursor) (us : List Piece) (b : Nest.Boundary) : Cursor :=
  c.advanceTo (c.offset + Piece.total us + if b.closes then b.piece.bytes else 0)

variable {b : Nest.Boundary} {condition : Option Expression}

lemma total_of_cut? {depth : Nat} (hcut : nest.cut? depth ps = some ⟨us, b, rest⟩) :
    Piece.total us + Piece.total rest + 4 ≤ Piece.total ps := by
  have hps := Nest.eq_of_cut? hcut
  have hbytes : 4 ≤ b.piece.bytes := by
    cases b with
    | close inner => exact Piece.four_le_bytes_tag inner
    | divide inner => exact Piece.four_le_bytes_tag inner
  rw [hps, Piece.total_append, Piece.total_cons]
  change _ ≤ Piece.total us + (b.piece.bytes + Piece.total rest)
  omega

lemma Before.findEnd_first (nest : Nest) (hc : c.Before ps) (hn : Piece.total ps ≤ n) :
    c.findEnd nest (n + 1) .first = c.endingFrom nest 0 (nest.cut? 0 ps) := by
  have hlength := Piece.length_le_total (hc.split ▸ Piece.tidy_split (Piece.join ps))
  exact findEnd_eq nest [] 0 hc.views.remaining hc.split rfl rfl (by omega)

lemma Before.readPart_of_cut? (hc : c.Before ps) (hreads : ReadsBlocks n)
    (hn : Piece.total ps ≤ n) (hcut : nest.cut? 0 ps = some ⟨us, b, rest⟩) :
    c.readPart (n + 1) nest =
      .of ((Template.compileBlocks c.file c.offset us).map fun children =>
        (Template.partOf c.offset us children, b.closes, c.afterCut us b)) := by
  have hend := hc.findEnd_first nest hn
  have hless := total_of_cut? hcut
  rw [Nest.eq_of_cut? hcut] at hc
  have hspan : c.partSpan (Search.endingOf 0 ⟨us, b, rest⟩) =
      ⟨c.offset, c.offset + Piece.total us⟩ := by
    simp [partSpan, Search.endingOf]
  have hchildren := hreads _ us hc.window (by omega)
  have hafter : c.afterPart (Search.endingOf 0 ⟨us, b, rest⟩) = c.afterCut us b := by
    cases b <;> simp [afterPart, afterCut, Search.endingOf, Nest.Boundary.closes, Nat.add_assoc]
  rw [readPart, hend, hcut]
  change (c.window (c.partSpan _)).readBlocks n >>= _ = _
  rw [hspan, hchildren, hc.sliceOf, hafter]
  change Bounded.of (Template.compileBlocks c.file c.offset us) >>= _ = _
  cases Template.compileBlocks c.file c.offset us with
  | ok children => rfl
  | error fault => rfl

lemma Before.readPart_of_cut?_eq_none (hc : c.Before ps) (hn : Piece.total ps ≤ n)
    (hcut : nest.cut? 0 ps = none) :
    c.readPart (n + 1) nest =
      .error (some (.atEnd (.unclosedBlock nest c.offset) c.stop c.file)) := by
  rw [readPart, hc.findEnd_first nest hn, hcut]
  rfl

/-- Where a part ends at a tag that divides the block, the cursor is at that tag. -/
lemma Before.afterCut_divide {inner : List Char} (hc : c.Before ps)
    (hcut : nest.cut? 0 ps = some ⟨us, .divide inner, rest⟩) :
    let c₁ := c.afterCut us (.divide inner)
    let c₂ := c₁.advance (size (signature inner))
    c₁.signature? = .ok (signature inner) ∧ c₁.offset = c.offset + Piece.total us ∧
      c₂.offset = c.offset + Piece.total us + Piece.bytes (.tag inner) ∧ c₂.Before rest := by
  intro c₁ c₂
  have hps : ps = us ++ .tag inner :: rest := Nest.eq_of_cut? hcut
  rw [hps] at hc
  obtain ⟨hoffset, hbefore⟩ := hc.advanceTo
  have hbefore₁ : c₁.Before (.tag inner :: rest) := hbefore
  obtain ⟨hoffset₂, hbefore₂⟩ := hbefore₁.advance
  exact ⟨hbefore₁.signature?_eq, hoffset, hoffset₂.trans (congrArg (· + _) hoffset), hbefore₂⟩

lemma Before.readBranches_eq (hc : c.Before ps) (hreads : ∀ k < n, ReadsBlocks k)
    (hn : Piece.total ps + 3 ≤ n) :
    c.readBranches n condition =
      .of ((Template.compileBranches c.file c.offset condition ps).map fun p =>
        (p.branches, p.otherwise, c.advanceTo p.stop)) := by
  induction n generalizing c condition ps with
  | zero => omega
  | succ n ih =>
    obtain ⟨m, rfl⟩ : ∃ m, n = m + 2 := ⟨n - 2, by omega⟩
    rw [Template.compileBranches]
    refine Bounded.of_match_cut? (fun hcut => ?_) fun us b rest hcut => ?_
    · rw [readBranches, readRound, hc.readPart_of_cut?_eq_none (by omega) hcut, hc.views.stop]
      rfl
    · rw [readBranches, readRound, hc.readPart_of_cut? (hreads m (by omega)) (by omega) hcut,
        bind_assoc, Bounded.map_bind]
      refine Bounded.of_map_bind fun children _ => ?_
      cases b with
      | close closing => cases condition <;> rfl
      | divide inner =>
        obtain ⟨hsignature, hoffset, hoffset', hbefore⟩ := hc.afterCut_divide hcut
        have hless := total_of_cut? hcut
        cases condition with
        | none =>
          change (Bounded.of (c.afterCut us (.divide inner)).signature? >>= _) >>= _ = _
          rw [hsignature, hoffset]
          rfl
        | some condition =>
          change (Bounded.of (c.afterCut us (.divide inner)).signature? >>= _) >>= _ = _
          rw [hsignature, hoffset]
          change (Bounded.of (Template.located c.file _
            (Template.dividerOf (insideOf (signature inner)))) >>= _) >>= _ = _
          rw [insideOf_signature, bind_assoc, Bounded.map_bind]
          refine Bounded.of_bind fun next _ => ?_
          change readBranches (m + 2) ((c.afterCut us (.divide inner)).advance _) next >>= _ = _
          rw [ih hbefore (fun k hk => hreads k (by omega)) (by omega), hoffset', Bounded.map_bind]
          exact Bounded.of_map_bind fun p _ => rfl

/-- The part behind the tag that divides an iteration is its last. -/
lemma Before.readPart_eq_empty (hc : c.Before ps) (hreads : ReadsBlocks n)
    (hn : Piece.total ps ≤ n) (body : Part) :
    (do
      let (empty, closes, c') ← c.readPart (n + 1) .iteration
      if closes then return (body, some empty, c')
      else
        let plainest := Piece.bytes (.tag "empty".toList)
        throw (some ⟨.secondEmpty, ⟨c'.offset, c'.offset + plainest⟩, c.file⟩)) =
      Bounded.of ((Template.compileEmpty c.file c.offset ps).map fun l =>
        (body, some l.1, c.advanceTo l.2.1)) := by
  rw [Template.compileEmpty]
  refine Bounded.of_match_cut? (fun hcut => ?_) fun us b rest hcut => ?_
  · rw [hc.readPart_of_cut?_eq_none hn hcut, hc.views.stop]
    rfl
  · rw [hc.readPart_of_cut? hreads hn hcut, Bounded.map_bind]
    refine Bounded.of_map_bind fun children _ => ?_
    cases b with
    | close closing => rfl
    | divide inner =>
      obtain ⟨-, hoffset, -, -⟩ := hc.afterCut_divide hcut
      change Except.error (some (Template.Fault.mk _ ⟨Cursor.offset _, Cursor.offset _ + _⟩ _)) = _
      rw [hoffset]
      rfl

lemma Before.readLoop_eq (hc : c.Before ps) (hreads : ∀ k < n, ReadsBlocks k)
    (hn : Piece.total ps + 2 ≤ n) :
    c.readLoop n =
      .of ((Template.compileLoop c.file c.offset ps).map fun l =>
        (l.body, l.empty, c.advanceTo l.stop)) := by
  obtain ⟨m, rfl⟩ : ∃ m, n = m + 2 := ⟨n - 2, by omega⟩
  rw [Template.compileLoop]
  refine Bounded.of_match_cut? (fun hcut => ?_) fun us b rest hcut => ?_
  · rw [readLoop, hc.readPart_of_cut?_eq_none (by omega) hcut, hc.views.stop]
    rfl
  · rw [readLoop, hc.readPart_of_cut? (hreads m (by omega)) (by omega) hcut, Bounded.map_bind]
    refine Bounded.of_map_bind fun children _ => ?_
    cases b with
    | close closing => rfl
    | divide inner =>
      obtain ⟨hsignature, hoffset, hoffset', hbefore⟩ := hc.afterCut_divide hcut
      have hless := total_of_cut? hcut
      change Bounded.of (c.afterCut us (.divide inner)).signature? >>= _ = _
      rw [hsignature, hoffset]
      change (if Tag.body (insideOf (signature inner)) = "empty".toList then _ else _) = _
      rw [insideOf_signature]
      by_cases hempty : Tag.body inner = "empty".toList
      · rw [if_pos hempty]
        have hlast := hbefore.readPart_eq_empty (hreads m (by omega)) (by omega)
          (Template.partOf c.offset us children)
        refine hlast.trans ?_
        rw [hoffset', ← bind_pure (Bounded.of _)]
        simp only [hempty, if_true]
        rw [Bounded.map_bind]
        exact Bounded.of_map_bind fun l _ => rfl
      · rw [if_neg hempty]
        simp only [hempty, if_false]
        rfl

/-- A block that goes on to a closing tag, and the blocks behind it. -/
lemma Before.readBlocks_behind {inner closing : List Char} {stop n : Nat} (hreads : ReadsBlocks n)
    (hc : c.Before (.tag inner :: ps)) (hps : ps = us ++ .tag closing :: rest)
    (hstop : stop = c.offset + Piece.bytes (.tag inner) + Piece.total us +
      Piece.bytes (.tag closing))
    (hn : Piece.total ps < n) (content : Content) :
    (do
      let whole : Span := ⟨c.offset, (c.advanceTo stop).offset⟩
      let bs ← readBlocks n (c.advanceTo stop)
      return .mk (.ofList (c.sliceOf whole)) whole content :: bs) =
      Bounded.of (do
        let whole : Span := ⟨c.offset, stop⟩
        let tail ← Template.compileBlocks c.file stop rest
        return .mk (Template.covered (.tag inner :: ps) rest) whole content :: tail) := by
  have hwhole : Piece.tag inner :: ps = (Piece.tag inner :: us ++ [.tag closing]) ++ rest := by
    rw [hps, Template.nest_append]
  have hstop' : stop = c.offset + Piece.total (Piece.tag inner :: us ++ [.tag closing]) := by
    rw [Template.total_nest, hstop]
    omega
  have hless : Piece.total rest < n := by
    rw [hps, Piece.total_append, Piece.total_cons] at hn
    omega
  rw [hwhole] at hc ⊢
  obtain ⟨hoffset, hbefore⟩ := hc.advanceTo
  rw [← hstop'] at hoffset hbefore
  have hcovered : .ofList (c.sliceOf ⟨c.offset, stop⟩) =
      Template.covered (Piece.tag inner :: us ++ [.tag closing] ++ rest) rest := by
    rw [Template.covered_append, hstop', hc.sliceOf]
  change readBlocks n (c.advanceTo stop) >>= _ = _
  rw [hreads _ rest hbefore hless, hoffset]
  refine Bounded.of_bind fun tail _ => ?_
  change Except.ok (Block.mk (.ofList (c.sliceOf ⟨c.offset, stop⟩)) ⟨c.offset, stop⟩ _ :: _) = _
  rw [hcovered]
  rfl

/-- The tag at the cursor, with what belongs to it, and the blocks behind it. -/
lemma Before.readTag_bind {inner : List Char} {n' : Nat} (hc : c.Before (.tag inner :: ps))
    (hreads : ∀ k < n, ReadsBlocks k) (hreads' : ReadsBlocks n')
    (hn : Piece.total (.tag inner :: ps) ≤ n) (hn' : Piece.total ps < n') :
    (do
      let (b, c') ← c.readTag n
      let bs ← readBlocks n' c'
      return b :: bs) =
      Bounded.of (Template.compileBlocks c.file c.offset (.tag inner :: ps)) := by
  have hfour := Piece.four_le_bytes_tag inner
  rw [Piece.total_cons] at hn
  obtain ⟨m, rfl⟩ : ∃ m, n = m + 1 := ⟨n - 1, by omega⟩
  obtain ⟨hoffset, hbefore⟩ := hc.advance
  rw [readTag, hc.signature?_eq, Template.compileBlocks]
  change (Bounded.of (Template.located c.file _
    (Template.leadOf (insideOf (signature inner)))) >>= _) >>= _ = _
  rw [insideOf_signature, bind_assoc]
  refine Bounded.of_bind fun lead _ => ?_
  cases lead with
  | simple content =>
    change readBlocks n' (c.advance (Piece.bytes (.tag inner))) >>= _ = _
    rw [hreads' _ ps hbefore hn', hoffset]
    exact Bounded.of_bind fun tail _ => rfl
  | conditional condition =>
    change (readBranches m (c.advance (Piece.bytes (.tag inner))) (some condition) >>= _) >>= _ = _
    rw [hbefore.readBranches_eq (fun k hk => hreads k (by omega)) (by omega), hoffset, bind_assoc]
    refine Bounded.of_map_bind fun parts hparts => ?_
    obtain ⟨branches, otherwise, stop, rest, hlt⟩ := parts
    obtain ⟨us, closing, -, hps, hstop⟩ := Template.CompilesBranches.of_eq_ok hparts
    exact hc.readBlocks_behind hreads' hps hstop hn' _
  | iteration header =>
    change (readLoop m (c.advance (Piece.bytes (.tag inner))) >>= _) >>= _ = _
    rw [hbefore.readLoop_eq (fun k hk => hreads k (by omega)) (by omega), hoffset, bind_assoc]
    refine Bounded.of_map_bind fun loop hloop => ?_
    obtain ⟨body, empty, stop, rest, hlt⟩ := loop
    obtain ⟨us, closing, -, hps, hstop⟩ := Template.CompilesLoop.of_eq_ok hloop
    exact hc.readBlocks_behind hreads' hps hstop hn' _

lemma runLength_of_braces {ds : List Char} (h : c.remaining = '{' :: '{' :: ds) :
    c.runLength = 0 := by
  rw [runLength, h, Piece.splitOnce_braces]
  rfl

/-- The text before the next tag is the run that the pieces begin with. -/
lemma Before.runLength_of_text {r : List Char} (hc : c.Before (.text r :: ps)) :
    c.runLength = Piece.bytes (.text r) := by
  obtain ⟨hrun, hnil | ⟨ds, hds⟩⟩ := Piece.run_of_split hc.split
  · have hstop := hc.views.stop
    rw [Piece.join_cons, hnil, List.append_nil] at hstop
    rw [runLength, hc.views.remaining, Piece.splitOnce_eq_none_of_run (hnil ▸ hrun)]
    change c.stop - c.offset = size (Piece.chars (.text r))
    omega
  · rw [runLength, hc.views.remaining, Piece.splitOnce_of_run (hds ▸ hrun)]
    rfl

lemma Before.runLength_of_tag {inner : List Char} (hc : c.Before (.tag inner :: ps)) :
    c.runLength = 0 := by
  have hremaining : c.remaining = '{' :: '{' :: (inner ++ ['}', '}'] ++ Piece.join ps) :=
    hc.views.remaining
  exact runLength_of_braces hremaining

/-- Braces that are no tag's are a fault. -/
lemma Before.readTag_loose {inner : List Char} (hc : c.Before (.loose inner :: ps)) :
    c.runLength = 0 ∧
      c.readTag (n + 1) = .error (some (.atEnd (.unclosedTag c.offset) c.stop c.file)) := by
  have hremaining : c.remaining = '{' :: '{' :: (inner ++ Piece.join ps) := hc.views.remaining
  have hclose : close? (inner ++ Piece.join ps) = none := Piece.close?_of_split_loose hc.split
  have hsignature : c.signature? = .error (.atEnd (.unclosedTag c.offset) c.stop c.file) := by
    rw [signature?, hremaining, closing?_braces, hclose]
    rfl
  refine ⟨runLength_of_braces hremaining, ?_⟩
  rw [readTag, hsignature]
  rfl

lemma Before.isExhausted_cons {p : Piece} (hc : c.Before (p :: ps)) : c.isExhausted = false := by
  have hjoin : Piece.join (p :: ps) ≠ [] := by
    intro hnil
    have hsplit := hc.split
    rw [hnil, Piece.split_nil] at hsplit
    cases hsplit
  rw [hc.views.isExhausted, decide_eq_false hjoin]

/-- **Reading ends**: calls and rounds nest no deeper than the view has bytes, and one more. -/
lemma readsBlocks (n : Nat) : ReadsBlocks n := by
  induction n using Nat.strong_induction_on with
  | _ n ih =>
    intro c ps hc hn
    obtain ⟨m, rfl⟩ : ∃ m, n = m + 1 := ⟨n - 1, by omega⟩
    cases ps with
    | nil =>
      rw [readBlocks, hc.views.isExhausted, Template.compileBlocks]
      rfl
    | cons p ps =>
      rw [readBlocks, hc.isExhausted_cons]
      rw [Piece.total_cons] at hn
      cases p with
      | text r =>
        have hr : Piece.bytes (.text r) ≠ 0 := by
          have htidy : Piece.Tidy (.text r :: ps) := hc.split ▸ Piece.tidy_split _
          rw [Piece.bytes, ne_eq, size_eq_zero_iff]
          exact htidy.nonempty r List.mem_cons_self
        obtain ⟨hoffset, hbefore⟩ := hc.advance
        have hslice : c.sliceOf ⟨c.offset, c.offset + Piece.bytes (.text r)⟩ = r := by
          have hviews : c.Views (r ++ Piece.join ps) := hc.views
          exact hviews.sliceOf
        have htail : readBlocks m (c.advance (Piece.bytes (.text r))) =
            .of (Template.compileBlocks c.file (c.advance (Piece.bytes (.text r))).offset ps) :=
          ih m (by omega) _ ps hbefore (by omega)
        rw [hc.runLength_of_text, Template.compileBlocks]
        change (if 0 < Piece.bytes (.text r) then _ else _) = _
        rw [if_pos (Nat.pos_of_ne_zero hr), htail, hoffset, hslice]
        exact Bounded.of_bind fun tail _ => rfl
      | tag inner =>
        have hfour := Piece.four_le_bytes_tag inner
        rw [hc.runLength_of_tag]
        exact hc.readTag_bind (fun k hk => ih k (by omega)) (ih m (by omega))
          (by rw [Piece.total_cons]; omega) (by omega)
      | loose inner =>
        have htwo := Piece.two_le_bytes_loose inner
        obtain ⟨k, rfl⟩ : ∃ k, m = k + 1 := ⟨m - 1, by omega⟩
        obtain ⟨hrun, htag⟩ := hc.readTag_loose (n := k)
        rw [hrun, Template.compileBlocks]
        change readTag (k + 1) c >>= _ = _
        rw [htag, hc.views.stop]
        rfl

variable {cs : List Char}

/-- **Termination**: where calls and rounds may nest deeper than the view has bytes, its blocks are
read, or the fault is found that compiling finds; and each reader comes nearer to the end. A tag
that is read takes the cursor on by four bytes or more within the view. So does each round of the
search for the end of a part take the search on within the text. A round over the parts of a
conditional that is not the last takes the cursor over a part and the tag behind it, which divides
the conditional. And the view of a part, whose blocks are read, is shorter than what is left of the
view that the part is cut from. -/
theorem readers_end (hc : c.Views cs) :
    (∀ n, size cs < n → c.readBlocks n = .of c.blocks) ∧
    (∀ (n : Nat) (b : Block) (c' : Cursor), c.readTag n = .ok (b, c') →
      c.offset + 4 ≤ c'.offset ∧ c'.offset ≤ c.stop ∧ ∃ rest, c.Ahead cs c' rest) ∧
    (∀ (nest : Nest) (s s' : Search), s.Comes nest cs → s.next nest cs = .further s' →
      s.position + 4 ≤ s'.position ∧ s'.position ≤ size cs) ∧
    (∀ (n : Nat) (condition next : Option Expression) (branch : Branch) (c' : Cursor),
      c.readRound n condition = .ok (.further branch next, c') →
        ∃ us inner rest, cs = us ++ signature inner ++ rest ∧
          Nest.conditional.role inner = .divides ∧
          branch.part.span = ⟨c.offset, c.offset + size us⟩ ∧
          c'.offset = c.offset + size us + size (signature inner) ∧ c'.Views rest) ∧
    ∀ (nest : Nest) (n : Nat) (e : Ending), c.findEnd nest n .first = .ok e →
      ∃ us, (c.window (c.partSpan e)).Views us ∧ size us < size cs := by
  refine ⟨fun n hn => ?_, fun n b c' htag => ?_, fun nest s s' hs hnext => hs.next_position hnext,
    fun n condition next branch c' hround => hc.readRound_further hround, fun nest n e hend => ?_⟩
  · have hjoin : Piece.join (Piece.split cs) = cs := Piece.join_split cs
    have hblocks : c.blocks = Template.compileBlocks c.file c.offset (Piece.split cs) := by
      rw [blocks, hc.remaining]
    rw [hblocks]
    refine readsBlocks n c _ ⟨hjoin.symm ▸ hc, hjoin.symm ▸ rfl⟩ ?_
    rwa [Piece.total, hjoin]
  · obtain ⟨hfour, rest, hahead⟩ := readTag_ahead hc htag
    exact ⟨hfour, hahead.le_stop hc, rest, hahead⟩
  · obtain ⟨us, hviews, hle⟩ := hc.part_lt hend
    exact ⟨us, hviews, by omega⟩

/-- A conditional with two parts. -/
def ifElse : List Char := "\x7b\x7bif a\x7d\x7db\x7b\x7belse\x7d\x7dc\x7b\x7b/if\x7d\x7d".toList

/-- The view of the conditional, between two other characters. -/
def ifElseView : Cursor := ⟨['é'] ++ ifElse ++ ['z'], 2, 27, 0⟩

theorem readers_end_ifElse :
    ifElseView.Views ifElse ∧ ifElseView.readBlocks 26 = .of ifElseView.blocks ∧
      (∃ b c', ifElseView.readTag 26 = .ok (b, c') ∧ 6 ≤ c'.offset ∧ c'.offset ≤ 27) ∧
      ∃ s, Search.first.next .iteration ifElse = .further s ∧ 4 ≤ s.position ∧ s.position ≤ 25 := by
  have hc : ifElseView.Views ifElse := ⟨['é'], ['z'], rfl, rfl, rfl⟩
  obtain ⟨hblocks, htag, hsearch, -, -⟩ := readers_end hc
  refine ⟨hc, hblocks 26 (by decide), ?_, ⟨8, 1, 0⟩, rfl, hsearch .iteration _ _ .first rfl⟩
  have hok : (ifElseView.readTag 26).isOk = true := by decide +kernel
  cases h : ifElseView.readTag 26 with
  | ok p =>
    obtain ⟨b, c'⟩ := p
    obtain ⟨hfour, hle, -⟩ := htag 26 b c' h
    exact ⟨b, c', rfl, hfour, hle⟩
  | error fault =>
    rw [h] at hok
    cases hok

end Cursor

end Stencil
