import Stencil.Proofs.Template.Compiles
import Stencil.Proofs.Template.Shifts

/-!
Where compiling fails. A source is compiled by views: all of it, and inside a view each part that is
cut off for a block. A fault is raised in one of the views, in one of five ways, and its place is
told from the pieces before it.

Main statement: every fault of compiling is one of these, `raises_of_compile`.
-/

namespace Stencil.Template

open Stencil.Text Stencil.Tag

/-! ### Views -/

/-- The tag opens a block of the kind and says what it should. -/
def Introduces : Nest → List Char → Prop
  | .conditional, opening => ∃ condition, leadOf opening = .ok (.conditional condition)
  | .iteration, opening => ∃ header, leadOf opening = .ok (.iteration header)

/-- The pieces go up to where a part of a block of the kind begins: to the tag that opens the block,
and from there on to tags that divide it. -/
inductive Begun (nest : Nest) : List Piece → Prop
  | opened {opening : List Char} (ps : List Piece) (introduces : Introduces nest opening) :
      Begun nest (ps ++ [.tag opening])
  | divided {ps us : List Piece} {divider : List Char} (begun : Begun nest ps)
      (ends : nest.Ends us (.divide divider)) : Begun nest (ps ++ us ++ [.tag divider])

/-- After the pieces `before` of the source, the pieces `ps` are compiled as a unit: those of all of
the source, or those of a part of a block inside a view. The part ends at a tag of its block. -/
inductive View (whole : List Piece) :
    List Piece → List Piece → Option (Nest × Nest.Boundary) → Prop
  | whole : View whole [] whole none
  | part {before front us rest : List Piece} {nest : Nest} {b : Nest.Boundary}
      {outer : Option (Nest × Nest.Boundary)}
      (outside : View whole before (front ++ us ++ b.piece :: rest) outer)
      (begun : Begun nest front) (ends : nest.Ends us b) :
      View whole (before ++ front) us (some (nest, b))

/-! ### Faults in a view -/

/-- The bytes of a tag that comes after the pieces. -/
def spanAfter (ps : List Piece) (inner : List Char) : Span :=
  ⟨Piece.total ps, Piece.total ps + Piece.bytes (.tag inner)⟩

/-- Compiling the pieces raises the fault. -/
inductive Raises (whole : List Piece) (source : Nat) : Fault → Prop
  /-- Braces that no tag comes of. -/
  | loose {before front rest : List Piece} {inner : List Char}
      {outer : Option (Nest × Nest.Boundary)}
      (view : View whole before (front ++ .loose inner :: rest) outer) :
      Raises whole source (.atEnd (.unclosedTag (Piece.total (before ++ front)))
        (Piece.total (before ++ (front ++ .loose inner :: rest))) source)
  /-- A tag that begins no block. -/
  | lead {before front rest : List Piece} {inner : List Char} {cause : Cause}
      {outer : Option (Nest × Nest.Boundary)}
      (view : View whole before (front ++ .tag inner :: rest) outer)
      (refused : leadOf inner = .error cause) :
      Raises whole source ⟨cause, spanAfter (before ++ front) inner, source⟩
  /-- A part without a tag that ends it. -/
  | unclosed {before front ps : List Piece} {nest : Nest} {outer : Option (Nest × Nest.Boundary)}
      (view : View whole before (front ++ ps) outer) (begun : Begun nest front)
      (missing : nest.cut? 0 ps = none) :
      Raises whole source (.atEnd (.unclosedBlock nest (Piece.total (before ++ front)))
        (Piece.total (before ++ (front ++ ps))) source)
  /-- A tag that ends a part and begins no other. -/
  | divider {before front us rest : List Piece} {nest : Nest} {inner : List Char} {cause : Cause}
      {outer : Option (Nest × Nest.Boundary)}
      (view : View whole before (front ++ us ++ .tag inner :: rest) outer)
      (begun : Begun nest front) (ends : nest.Ends us (.divide inner))
      (kind : cause.kind ≠ .unterminatedBlock) :
      Raises whole source ⟨cause, spanAfter (before ++ (front ++ us)) inner, source⟩
  /-- A tag that would begin a third part of an iteration. -/
  | third {before front us rest : List Piece} {inner : List Char}
      {outer : Option (Nest × Nest.Boundary)}
      (view : View whole before (front ++ us ++ .tag inner :: rest) outer)
      (begun : Begun .iteration front) (ends : Nest.iteration.Ends us (.divide inner)) :
      Raises whole source
        ⟨.secondEmpty, spanAfter (before ++ (front ++ us)) "empty".toList, source⟩

/-! ### From compiling to the relation -/

variable {whole : List Piece} {source : Nat} {fault : Fault}

lemma located_eq_error {α : Type} {span : Span} {r : Except Cause α}
    (h : located source span r = .error fault) :
    ∃ cause, r = .error cause ∧ fault = ⟨cause, span, source⟩ := by
  cases r with
  | ok a => cases h
  | error cause =>
    cases h
    exact ⟨cause, rfl, rfl⟩

/-- A part that is cut off inside a view is a view, which ends where the tag of its block begins. -/
lemma View.cut {before front window ps us rest : List Piece} {start : Nat} {nest : Nest}
    {b : Nest.Boundary} {outer : Option (Nest × Nest.Boundary)}
    (view : View whole before window outer) (hw : window = front ++ ps)
    (hs : start = Piece.total (before ++ front)) (begun : Begun nest front)
    (hcut : nest.cut? 0 ps = some ⟨us, b, rest⟩) :
    View whole before (front ++ us ++ b.piece :: rest) outer ∧ nest.Ends us b ∧
      View whole (before ++ front) us (some (nest, b)) ∧
      start + Piece.total us = Piece.total (before ++ (front ++ us)) ∧
      us.length + rest.length + 1 = ps.length := by
  have ends := Nest.Ends.of_cut? hcut
  have hwindow : window = front ++ us ++ b.piece :: rest := by
    rw [hw, Nest.eq_of_cut? hcut, List.append_assoc]
  subst hwindow
  exact ⟨view, ends, .part view begun ends, by simp [hs, Nat.add_assoc], Nest.length_of_cut? hcut⟩

lemma raises_unclosed {before front window ps : List Piece} {start : Nat} {nest : Nest}
    {outer : Option (Nest × Nest.Boundary)} (view : View whole before window outer)
    (hw : window = front ++ ps) (hs : start = Piece.total (before ++ front))
    (begun : Begun nest front) (missing : nest.cut? 0 ps = none) :
    Raises whole source (.atEnd (.unclosedBlock nest start) (start + Piece.total ps) source) := by
  subst hw hs
  have raised : Raises whole source _ := .unclosed view begun missing
  simpa [Nat.add_assoc] using raised

mutual

theorem raises_of_compileBlocks {before front window ps : List Piece} {start : Nat}
    {outer : Option (Nest × Nest.Boundary)} (view : View whole before window outer)
    (hw : window = front ++ ps) (hs : start = Piece.total (before ++ front))
    (h : compileBlocks source start ps = .error fault) : Raises whole source fault := by
  match ps with
  | [] => simp [compileBlocks] at h
  | .text run :: rest =>
    rw [compileBlocks] at h
    rcases bind_eq_error.1 h with h | ⟨tail, -, h⟩
    · have hrest : window = front ++ [.text run] ++ rest := by simp [hw]
      have hstart : start + size run = Piece.total (before ++ (front ++ [.text run])) := by
        simp [hs, Piece.bytes, Piece.chars, Nat.add_assoc]
      exact raises_of_compileBlocks view hrest hstart h
    · cases h
  | .loose inner :: rest =>
    rw [compileBlocks] at h
    subst hw hs
    cases h
    have raised : Raises whole source _ := .loose view
    simpa [Nat.add_assoc] using raised
  | .tag inner :: rest =>
    rw [compileBlocks] at h
    have hrest : window = front ++ [.tag inner] ++ rest := by simp [hw]
    have hstart : start + Piece.bytes (.tag inner) =
        Piece.total (before ++ (front ++ [.tag inner])) := by
      simp [hs, Nat.add_assoc]
    rcases bind_eq_error.1 h with h | ⟨lead, hl, h⟩
    · obtain ⟨cause, refused, rfl⟩ := located_eq_error h
      subst hw hs
      exact .lead view refused
    · have reads := located_eq_ok.1 hl
      cases lead with
      | simple content =>
        rcases bind_eq_error.1 h with h | ⟨tail, -, h⟩
        · exact raises_of_compileBlocks view hrest hstart h
        · cases h
      | conditional condition =>
        have begun : Begun .conditional (front ++ [.tag inner]) := .opened front ⟨condition, reads⟩
        rcases bind_eq_error.1 h with h | ⟨⟨branches, otherwise, stop, rest', hlt⟩, hb, h⟩
        · exact raises_of_compileBranches view hrest hstart begun h
        · obtain ⟨us, closing, -, rfl, rfl⟩ := CompilesBranches.of_eq_ok hb
          rcases bind_eq_error.1 h with h | ⟨tail, -, h⟩
          · have hafter : window = front ++ Piece.tag inner :: us ++ [.tag closing] ++ rest' := by
              simp [hw]
            exact raises_of_compileBlocks view hafter (by simp [hs, Nat.add_assoc]) h
          · cases h
      | iteration header =>
        have begun : Begun .iteration (front ++ [.tag inner]) := .opened front ⟨header, reads⟩
        rcases bind_eq_error.1 h with h | ⟨⟨body, empty, stop, rest', hlt⟩, hb, h⟩
        · exact raises_of_compileLoop view hrest hstart begun h
        · obtain ⟨us, closing, -, rfl, rfl⟩ := CompilesLoop.of_eq_ok hb
          rcases bind_eq_error.1 h with h | ⟨tail, -, h⟩
          · have hafter : window = front ++ Piece.tag inner :: us ++ [.tag closing] ++ rest' := by
              simp [hw]
            exact raises_of_compileBlocks view hafter (by simp [hs, Nat.add_assoc]) h
          · cases h
termination_by (ps.length, 0)

theorem raises_of_compileBranches {before front window ps : List Piece} {start : Nat}
    {outer : Option (Nest × Nest.Boundary)} {condition : Option Expression}
    (view : View whole before window outer) (hw : window = front ++ ps)
    (hs : start = Piece.total (before ++ front)) (begun : Begun .conditional front)
    (h : compileBranches source start condition ps = .error fault) : Raises whole source fault := by
  rw [compileBranches] at h
  split at h
  · rename_i hcut
    cases h
    exact raises_unclosed view hw hs begun hcut
  · rename_i inside boundary rest hcut
    obtain ⟨view', ends, part, hstop, hlen⟩ := view.cut hw hs begun hcut
    rcases bind_eq_error.1 h with h | ⟨children, -, h⟩
    · exact raises_of_compileBlocks part (List.nil_append inside).symm (by simp [hs]) h
    · match boundary, condition with
      | .close _, some _ => cases h
      | .close _, none => cases h
      | .divide divider, none =>
        cases h
        rw [hstop]
        exact .divider view' begun ends nofun
      | .divide divider, some condition =>
        rcases bind_eq_error.1 h with h | ⟨next, -, h⟩
        · obtain ⟨cause, refused, rfl⟩ := located_eq_error h
          rw [hstop]
          exact .divider view' begun ends (settles_dividerOf divider cause refused)
        · rcases bind_eq_error.1 h with h | ⟨_, -, h⟩
          · exact raises_of_compileBranches view' (by simp [Nest.Boundary.piece])
              (by simp [hs, Nest.Boundary.piece, Nat.add_assoc]) (.divided begun ends) h
          · cases h
termination_by (ps.length, 1)

theorem raises_of_compileLoop {before front window ps : List Piece} {start : Nat}
    {outer : Option (Nest × Nest.Boundary)} (view : View whole before window outer)
    (hw : window = front ++ ps) (hs : start = Piece.total (before ++ front))
    (begun : Begun .iteration front)
    (h : compileLoop source start ps = .error fault) : Raises whole source fault := by
  rw [compileLoop] at h
  split at h
  · rename_i hcut
    cases h
    exact raises_unclosed view hw hs begun hcut
  · rename_i inside boundary rest hcut
    obtain ⟨view', ends, part, hstop, hlen⟩ := view.cut hw hs begun hcut
    rcases bind_eq_error.1 h with h | ⟨children, -, h⟩
    · exact raises_of_compileBlocks part (List.nil_append inside).symm (by simp [hs]) h
    · match boundary with
      | .close _ => cases h
      | .divide divider =>
        simp only at h
        split at h
        · rcases bind_eq_error.1 h with h | ⟨_, -, h⟩
          · exact raises_of_compileEmpty view' (by simp [Nest.Boundary.piece])
              (by simp [hs, Nest.Boundary.piece, Nat.add_assoc]) (.divided begun ends) h
          · cases h
        · cases h
          rw [hstop]
          exact .divider view' begun ends nofun
termination_by (ps.length, 1)

theorem raises_of_compileEmpty {before front window ps : List Piece} {start : Nat}
    {outer : Option (Nest × Nest.Boundary)} (view : View whole before window outer)
    (hw : window = front ++ ps) (hs : start = Piece.total (before ++ front))
    (begun : Begun .iteration front)
    (h : compileEmpty source start ps = .error fault) : Raises whole source fault := by
  rw [compileEmpty] at h
  split at h
  · rename_i hcut
    cases h
    exact raises_unclosed view hw hs begun hcut
  · rename_i inside boundary rest hcut
    obtain ⟨view', ends, part, hstop, hlen⟩ := view.cut hw hs begun hcut
    rcases bind_eq_error.1 h with h | ⟨children, -, h⟩
    · exact raises_of_compileBlocks part (List.nil_append inside).symm (by simp [hs]) h
    · match boundary with
      | .close _ => cases h
      | .divide divider =>
        cases h
        rw [hstop]
        exact .third view' begun ends
termination_by (ps.length, 1)

end

/-- **Faults**: every fault of compiling a source is raised in one of its views. -/
theorem raises_of_compile {text : String} (h : compile text source = .error fault) :
    Raises (Piece.split text.toList) source fault := by
  have hblocks : compileBlocks source 0 (Piece.split text.toList) = .error fault := by
    unfold compile at h
    cases hb : compileBlocks source 0 (Piece.split text.toList) with
    | ok bs => simp [hb, Except.map] at h
    | error e => simpa [hb, Except.map] using h
  exact raises_of_compileBlocks .whole (List.nil_append _).symm rfl hblocks

end Stencil.Template
