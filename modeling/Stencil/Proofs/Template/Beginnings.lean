import Stencil.Proofs.Tag.Beginnings
import Stencil.Proofs.Template.Completeness

/-!
What becomes of a source that compiles when its end is missing. Whatever is whole in the beginning
that is left compiles as before, since no tag before the cut has become another and every part that
is cut off is the same. So the beginning compiles too, or else compiling stops at its last byte for
want of a closing tag or of closing braces.
-/

namespace Stencil.Template

open Stencil.Text Stencil.Tag Stencil.Tag.Piece

variable {source start : Nat}

/-- Compiling stopped at byte `stop` because something was not closed there. -/
def Unfinished {α : Type} (source stop : Nat) (r : Except Fault α) : Prop :=
  ∃ cause, cause.kind = .unterminatedBlock ∧ r = .error (.atEnd cause stop source)

namespace Unfinished

variable {α β : Type} {stop : Nat} {x : Except Fault α}

lemma of_eq {y : Except Fault α} (hx : x = y) (h : Unfinished source stop y) :
    Unfinished source stop x := by
  subst hx
  exact h

lemma bind {f : α → Except Fault β} (h : Unfinished source stop x) :
    Unfinished source stop (x >>= f) := by
  obtain ⟨cause, hk, rfl⟩ := h
  exact ⟨cause, hk, rfl⟩

lemma bind_ok {a : α} {f : α → Except Fault β} (hx : x = .ok a)
    (h : Unfinished source stop (f a)) : Unfinished source stop (x >>= f) := by
  subst hx
  exact h

end Unfinished

/-- A computation that goes by what is cut off, where nothing is. -/
lemma match_cut?_none {β : Type} {nest : Nest} {depth : Nat} {ps : List Piece}
    {missing : nest.cut? depth ps = none → β}
    {found : ∀ us b rest, nest.cut? depth ps = some ⟨us, b, rest⟩ → β}
    (hcut : nest.cut? depth ps = none) :
    (match h : nest.cut? depth ps with
      | none => missing h
      | some ⟨us, b, rest⟩ => found us b rest h) = missing hcut := by
  split
  · rfl
  · rename_i h
    rw [hcut] at h
    cases h

/-- A part, the tag that ends it and what follows go up to where the pieces end. -/
lemma total_of_cut? (start : Nat) {nest : Nest} {ps us rest : List Piece} {b : Nest.Boundary}
    (h : nest.cut? 0 ps = some ⟨us, b, rest⟩) :
    start + Piece.total us + b.piece.bytes + Piece.total rest = start + Piece.total ps := by
  rw [Nest.eq_of_cut? h]
  simp [Nat.add_assoc]

/-! ### The parts of a block -/

lemma compileEmpty_of_begins {qs ps rest : List Piece} {part : Part} {stop : Nat}
    {hlt : rest.length < ps.length} (hb : Begins qs ps)
    (h : compileEmpty source start ps = .ok (part, stop, ⟨rest, hlt⟩)) :
    Unfinished source (start + Piece.total qs) (compileEmpty source start qs) ∨
      ∃ rest' hlt', Begins rest' rest ∧ stop + Piece.total rest' = start + Piece.total qs ∧
        compileEmpty source start qs = .ok (part, stop, ⟨rest', hlt'⟩) := by
  rw [compileEmpty] at h
  split at h
  · simp at h
  · rename_i inside boundary rest₀ hcut
    obtain ⟨children, hc, h⟩ := bind_eq_ok.1 h
    rcases Nest.cut?_of_begins hb hcut with hnone | ⟨rest₁, hb₁, hcut₁⟩
    · left
      rw [compileEmpty]
      exact ⟨_, rfl, match_cut?_none hnone⟩
    · right
      have htotal := total_of_cut? start hcut₁
      have hlen : inside.length + rest₁.length + 1 = qs.length := Nest.length_of_cut? hcut₁
      cases boundary with
      | divide divider => simp at h
      | close closing =>
        cases h
        refine ⟨rest₁, by omega, hb₁, htotal, ?_⟩
        rw [compileEmpty]
        exact (Nest.match_cut? hcut₁).trans (bind_eq_ok.2 ⟨children, hc, rfl⟩)

lemma compileLoop_of_begins {qs ps rest : List Piece} {body : Part} {empty : Option Part}
    {stop : Nat} {hlt : rest.length < ps.length} (hb : Begins qs ps)
    (h : compileLoop source start ps = .ok ⟨body, empty, stop, rest, hlt⟩) :
    Unfinished source (start + Piece.total qs) (compileLoop source start qs) ∨
      ∃ rest' hlt', Begins rest' rest ∧ stop + Piece.total rest' = start + Piece.total qs ∧
        compileLoop source start qs = .ok ⟨body, empty, stop, rest', hlt'⟩ := by
  rw [compileLoop] at h
  split at h
  · simp at h
  · rename_i inside boundary rest₀ hcut
    obtain ⟨children, hc, h⟩ := bind_eq_ok.1 h
    rcases Nest.cut?_of_begins hb hcut with hnone | ⟨rest₁, hb₁, hcut₁⟩
    · left
      rw [compileLoop]
      exact ⟨_, rfl, match_cut?_none hnone⟩
    · have htotal := total_of_cut? start hcut₁
      have hlen : inside.length + rest₁.length + 1 = qs.length := Nest.length_of_cut? hcut₁
      cases boundary with
      | close closing =>
        right
        cases h
        refine ⟨rest₁, by omega, hb₁, htotal, ?_⟩
        rw [compileLoop]
        exact (Nest.match_cut? hcut₁).trans (bind_eq_ok.2 ⟨children, hc, rfl⟩)
      | divide divider =>
        simp only at h
        split at h
        · rename_i hdiv
          obtain ⟨⟨empty', stop', rest'', hlt'⟩, he, h⟩ := bind_eq_ok.1 h
          cases h
          rcases compileEmpty_of_begins hb₁ he with hu | ⟨rest₂, hlt₂, hb₂, hstop, he₂⟩
          · left
            rw [compileLoop, ← htotal]
            refine .of_eq (Nest.match_cut? hcut₁) (.bind_ok hc ?_)
            simp only [hdiv, if_true]
            exact .bind hu
          · right
            refine ⟨rest₂, by omega, hb₂, hstop.trans htotal, ?_⟩
            rw [compileLoop]
            refine (Nest.match_cut? hcut₁).trans (bind_eq_ok.2 ⟨children, hc, ?_⟩)
            simp only [hdiv, if_true]
            exact bind_eq_ok.2 ⟨_, he₂, rfl⟩
        · obtain ⟨_, ht, _⟩ := bind_eq_ok.1 h
          cases ht

lemma compileBranches_of_begins {start : Nat} {condition : Option Expression}
    {qs ps rest : List Piece} {branches : List Branch} {otherwise : Option Part} {stop : Nat}
    {hlt : rest.length < ps.length} (hb : Begins qs ps)
    (h : compileBranches source start condition ps = .ok ⟨branches, otherwise, stop, rest, hlt⟩) :
    Unfinished source (start + Piece.total qs) (compileBranches source start condition qs) ∨
      ∃ rest' hlt', Begins rest' rest ∧ stop + Piece.total rest' = start + Piece.total qs ∧
        compileBranches source start condition qs =
          .ok ⟨branches, otherwise, stop, rest', hlt'⟩ := by
  rw [compileBranches] at h
  split at h
  · simp at h
  · rename_i inside boundary rest₀ hcut
    have hlt₀ : inside.length + rest₀.length + 1 = ps.length := Nest.length_of_cut? hcut
    obtain ⟨children, hc, h⟩ := bind_eq_ok.1 h
    rcases Nest.cut?_of_begins hb hcut with hnone | ⟨rest₁, hb₁, hcut₁⟩
    · left
      rw [compileBranches]
      exact ⟨_, rfl, match_cut?_none hnone⟩
    · have htotal := total_of_cut? start hcut₁
      have hlen : inside.length + rest₁.length + 1 = qs.length := Nest.length_of_cut? hcut₁
      cases boundary with
      | close closing =>
        right
        cases condition with
        | none | some _ =>
          cases h
          refine ⟨rest₁, by omega, hb₁, htotal, ?_⟩
          rw [compileBranches]
          exact (Nest.match_cut? hcut₁).trans (bind_eq_ok.2 ⟨children, hc, rfl⟩)
      | divide divider =>
        cases condition with
        | none => simp at h
        | some condition =>
          obtain ⟨next, hn, h⟩ := bind_eq_ok.1 h
          obtain ⟨⟨branches', otherwise', stop', rest'', hlt'⟩, hr, h⟩ := bind_eq_ok.1 h
          cases h
          rcases compileBranches_of_begins hb₁ hr with hu | ⟨rest₂, hlt₂, hb₂, hstop, hr₂⟩
          · left
            rw [compileBranches, ← htotal]
            exact .of_eq (Nest.match_cut? hcut₁) (.bind_ok hc (.bind_ok hn (.bind hu)))
          · right
            refine ⟨rest₂, by omega, hb₂, hstop.trans htotal, ?_⟩
            rw [compileBranches]
            exact (Nest.match_cut? hcut₁).trans (bind_eq_ok.2 ⟨children, hc, bind_eq_ok.2 ⟨next, hn,
              bind_eq_ok.2 ⟨_, hr₂, rfl⟩⟩⟩)
termination_by ps.length

/-! ### Blocks -/

/-- Pieces that compile, cut short: they compile, or lack an end where they end. -/
theorem compileBlocks_of_begins {start : Nat} {qs ps : List Piece} {bs : List Block}
    (hb : Begins qs ps) (h : compileBlocks source start ps = .ok bs) :
    Unfinished source (start + Piece.total qs) (compileBlocks source start qs) ∨
      ∃ bs', compileBlocks source start qs = .ok bs' := by
  match hb with
  | .nil ps => exact .inr ⟨[], by rw [compileBlocks]⟩
  | .text run ps => exact .inr ⟨_, compileBlocks_text (by rw [compileBlocks])⟩
  | .loose rest ps =>
    left
    rw [compileBlocks]
    exact ⟨_, rfl, rfl⟩
  | .cons (.loose rest) hb => simp [compileBlocks] at h
  | @Begins.cons qs ps (.text run) hb =>
    rw [compileBlocks] at h
    obtain ⟨tail, ht, -⟩ := bind_eq_ok.1 h
    have hend : start + Piece.total (.text run :: qs) = start + size run + Piece.total qs := by
      simp [Piece.bytes, Piece.chars, Nat.add_assoc]
    rw [hend, compileBlocks]
    rcases compileBlocks_of_begins hb ht with hu | ⟨tail', ht'⟩
    · exact .inl hu.bind
    · exact .inr ⟨_, bind_eq_ok.2 ⟨tail', ht', rfl⟩⟩
  | @Begins.cons qs ps (.tag inner) hb =>
    rw [compileBlocks] at h
    obtain ⟨lead, hl, h⟩ := bind_eq_ok.1 h
    have hend : start + Piece.total (.tag inner :: qs) =
        start + Piece.bytes (.tag inner) + Piece.total qs := by
      simp [Nat.add_assoc]
    rw [hend, compileBlocks]
    cases lead with
    | simple content =>
      obtain ⟨tail, ht, -⟩ := bind_eq_ok.1 h
      rcases compileBlocks_of_begins hb ht with hu | ⟨tail', ht'⟩
      · exact .inl (.bind_ok hl hu.bind)
      · exact .inr ⟨_, bind_eq_ok.2 ⟨_, hl, bind_eq_ok.2 ⟨tail', ht', rfl⟩⟩⟩
    | conditional condition =>
      obtain ⟨⟨branches, otherwise, stop, rest, hlt⟩, hp, h⟩ := bind_eq_ok.1 h
      obtain ⟨tail, ht, -⟩ := bind_eq_ok.1 h
      rcases compileBranches_of_begins hb hp with hu | ⟨rest', hlt', hb', hstop, hp'⟩
      · exact .inl (.bind_ok hl hu.bind)
      · rcases compileBlocks_of_begins hb' ht with hu | ⟨tail', ht'⟩
        · rw [← hstop]
          exact .inl (.bind_ok hl (.bind_ok hp' hu.bind))
        · exact .inr ⟨_, bind_eq_ok.2 ⟨_, hl, bind_eq_ok.2 ⟨_, hp',
            bind_eq_ok.2 ⟨tail', ht', rfl⟩⟩⟩⟩
    | iteration header =>
      obtain ⟨⟨body, empty, stop, rest, hlt⟩, hp, h⟩ := bind_eq_ok.1 h
      obtain ⟨tail, ht, -⟩ := bind_eq_ok.1 h
      rcases compileLoop_of_begins hb hp with hu | ⟨rest', hlt', hb', hstop, hp'⟩
      · exact .inl (.bind_ok hl hu.bind)
      · rcases compileBlocks_of_begins hb' ht with hu | ⟨tail', ht'⟩
        · rw [← hstop]
          exact .inl (.bind_ok hl (.bind_ok hp' hu.bind))
        · exact .inr ⟨_, bind_eq_ok.2 ⟨_, hl, bind_eq_ok.2 ⟨_, hp',
            bind_eq_ok.2 ⟨tail', ht', rfl⟩⟩⟩⟩
termination_by ps.length

/-- **Beginnings of sources**: what a source that compiles begins with compiles, or it ends where
something is not closed; no other fault is possible. -/
theorem compile_beginning {text : String} {source : Nat} {t : Template}
    (h : compile text source = .ok t) (front back : List Char)
    (hcut : text.toList = front ++ back) :
    (∃ t', compile (.ofList front) source = .ok t') ∨
      ∃ fault, compile (.ofList front) source = .error fault ∧ fault.kind = .unterminatedBlock ∧
        fault.span = ⟨size front, size front⟩ ∧ fault.source = source := by
  obtain ⟨bs, hbs, -⟩ := map_eq_ok.1 h
  rw [hcut] at hbs
  have hend : 0 + Piece.total (Piece.split front) = size front := by
    simp [Piece.total, Piece.join_split]
  rcases compileBlocks_of_begins (begins_split front back) hbs with ⟨cause, hk, he⟩ | ⟨bs', hb⟩
  · right
    rw [hend] at he
    exact ⟨.atEnd cause (size front) source, by simp [compile, he, Except.map], hk, rfl, rfl⟩
  · left
    exact ⟨⟨bs', source⟩, by simp [compile, hb, Except.map]⟩

/-- A conditional cut off inside the text literal of its condition. -/
theorem compile_ifElse_beginning :
    let text := String.ofList (Piece.join ifElse)
    let front := (Piece.join ifElse).take 6
    (∃ t, compile text 0 = .ok t) ∧ text.toList = front ++ (Piece.join ifElse).drop 6 ∧
      ((∃ t', compile (.ofList front) 0 = .ok t') ∨
        ∃ fault, compile (.ofList front) 0 = .error fault ∧ fault.kind = .unterminatedBlock ∧
          fault.span = ⟨size front, size front⟩ ∧ fault.source = 0) := by
  intro text front
  obtain ⟨b, hb⟩ := derives_ifElse
  have hd := undisguised_ifElse
  rw [← split_ifElse] at hb hd
  have hc : compile text 0 = .ok ⟨[b], 0⟩ := compile_of_derives hd hb
  have hcut : text.toList = front ++ (Piece.join ifElse).drop 6 := by simp [text, front]
  exact ⟨⟨_, hc⟩, hcut, compile_beginning hc front _ hcut⟩

end Stencil.Template
