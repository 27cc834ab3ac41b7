import Stencil.Proofs.Template.Cuts
import Stencil.Proofs.Template.Roles

/-!
Compiling, as a relation. A block takes the pieces that are cut off for its parts, and neither the
number of the source nor what comes after the block has a say in it. The relation keeps every
condition that compiling checks and holds exactly where compiling succeeds,
`compileBlocks_eq_ok_iff`; the grammar has the same rules without the cuts.
-/

namespace Stencil.Nest

open Stencil.Tag

/-- A computation that goes by what is cut off, where the cut is known. -/
lemma match_cut? {β : Type} {nest : Nest} {depth : Nat} {ps : List Piece} {c : Cut}
    {missing : nest.cut? depth ps = none → β}
    {found : ∀ us b rest, nest.cut? depth ps = some ⟨us, b, rest⟩ → β}
    (hcut : nest.cut? depth ps = some c) :
    (match h : nest.cut? depth ps with
      | none => missing h
      | some ⟨us, b, rest⟩ => found us b rest h) = found c.inside c.boundary c.rest hcut := by
  split
  · rename_i h
    rw [hcut] at h
    cases h
  · rename_i h
    rw [hcut] at h
    cases h
    rfl

end Stencil.Nest

namespace Stencil.Template

open Stencil.Text Stencil.Tag

variable {source start : Nat} {us vs ps rest : List Piece}
  {inner opening closing divider : List Char} {children bs : List Block} {condition : Expression}
  {branches : List Branch} {otherwise : Option Part}

lemma Closes.of_ends {nest : Nest} (h : nest.Ends us (.close closing)) : Closes nest closing :=
  Nest.closes_of_role (Nest.role_of_cut? (h []))

mutual

/-- The pieces, which begin at byte `start`, compile to the blocks. -/
inductive Compiles : Nat → List Piece → List Block → Prop
  | nil (start : Nat) : Compiles start [] []
  | text {start : Nat} {run : List Char} {ps : List Piece} {bs : List Block}
      (rest : Compiles (start + Piece.bytes (.text run)) ps bs) :
      Compiles start (.text run :: ps) (blockOf start [.text run] .literal :: bs)
  | simple {start : Nat} {inner : List Char} {content : Content} {ps : List Piece}
      {bs : List Block} (reads : leadOf inner = .ok (.simple content))
      (rest : Compiles (start + Piece.bytes (.tag inner)) ps bs) :
      Compiles start (.tag inner :: ps) (blockOf start [.tag inner] content :: bs)
  | conditional {start : Nat} {opening closing : List Char} {condition : Expression}
      {us ps : List Piece} {branches : List Branch} {otherwise : Option Part} {bs : List Block}
      (reads : leadOf opening = .ok (.conditional condition))
      (parts : CompilesBranches (start + Piece.bytes (.tag opening)) (some condition) us closing
        branches otherwise)
      (rest : Compiles (start + Piece.total (.tag opening :: us ++ [.tag closing])) ps bs) :
      Compiles start (.tag opening :: us ++ [.tag closing] ++ ps)
        (blockOf start (.tag opening :: us ++ [.tag closing]) (.conditional branches otherwise) ::
          bs)
  | iteration {start : Nat} {opening closing : List Char} {header : Header}
      {us ps : List Piece} {body : Part} {empty : Option Part} {bs : List Block}
      (reads : leadOf opening = .ok (.iteration header))
      (parts : CompilesLoop (start + Piece.bytes (.tag opening)) us closing body empty)
      (rest : Compiles (start + Piece.total (.tag opening :: us ++ [.tag closing])) ps bs) :
      Compiles start (.tag opening :: us ++ [.tag closing] ++ ps)
        (blockOf start (.tag opening :: us ++ [.tag closing])
          (.iteration header.item header.index header.collection body empty) :: bs)

/-- The pieces up to the closing tag compile to the parts of a conditional, from the part that
begins with them on. -/
inductive CompilesBranches : Nat → Option Expression → List Piece → List Char → List Branch →
    Option Part → Prop
  | close {start : Nat} {condition : Expression} {us : List Piece} {closing : List Char}
      {children : List Block} (ends : Nest.conditional.Ends us (.close closing))
      (part : Compiles start us children) :
      CompilesBranches start (some condition) us closing
        [.mk condition (partOf start us children)] none
  | last {start : Nat} {us : List Piece} {closing : List Char} {children : List Block}
      (ends : Nest.conditional.Ends us (.close closing)) (part : Compiles start us children) :
      CompilesBranches start none us closing [] (some (partOf start us children))
  | divide {start : Nat} {condition : Expression} {next : Option Expression} {us vs : List Piece}
      {divider closing : List Char} {children : List Block} {branches : List Branch}
      {otherwise : Option Part} (ends : Nest.conditional.Ends us (.divide divider))
      (part : Compiles start us children) (divides : dividerOf divider = .ok next)
      (more : CompilesBranches (start + Piece.total us + Piece.bytes (.tag divider)) next vs closing
        branches otherwise) :
      CompilesBranches start (some condition) (us ++ .tag divider :: vs) closing
        (.mk condition (partOf start us children) :: branches) otherwise

/-- The pieces up to the closing tag compile to the parts of an iteration. -/
inductive CompilesLoop : Nat → List Piece → List Char → Part → Option Part → Prop
  | close {start : Nat} {us : List Piece} {closing : List Char} {children : List Block}
      (ends : Nest.iteration.Ends us (.close closing)) (part : Compiles start us children) :
      CompilesLoop start us closing (partOf start us children) none
  | divide {start : Nat} {us vs : List Piece} {divider closing : List Char}
      {children others : List Block} (ends : Nest.iteration.Ends us (.divide divider))
      (part : Compiles start us children) (divides : Tag.body divider = "empty".toList)
      (ends' : Nest.iteration.Ends vs (.close closing))
      (empty : Compiles (start + Piece.total us + Piece.bytes (.tag divider)) vs others) :
      CompilesLoop start (us ++ .tag divider :: vs) closing (partOf start us children)
        (some (partOf (start + Piece.total us + Piece.bytes (.tag divider)) vs others))

end

/-! ### Blocks and the pieces they cover -/

lemma located_eq_ok {α : Type} {span : Span} {r : Except Cause α} {a : α} :
    located source span r = .ok a ↔ r = .ok a :=
  mapError_eq_ok

lemma covered_append (us rest : List Piece) :
    covered (us ++ rest) rest = .ofList (Piece.join us) := by
  simp [covered]

@[simp] lemma content_blockOf (start : Nat) (ps : List Piece) (content : Content) :
    (blockOf start ps content).content = content := rfl

lemma blockOf_text (run : List Char) (content : Content) :
    blockOf start [.text run] content = .mk (.ofList run) ⟨start, start + size run⟩ content := by
  simp [blockOf, Piece.chars, Piece.bytes]

lemma blockOf_tag (inner : List Char) (content : Content) :
    blockOf start [.tag inner] content =
      .mk (.ofList (signature inner)) ⟨start, start + Piece.bytes (.tag inner)⟩ content := by
  simp [blockOf, Piece.chars]

lemma nest_append {opening closing : List Char} {us rest : List Piece} :
    .tag opening :: us ++ [.tag closing] ++ rest =
      .tag opening :: (us ++ .tag closing :: rest) := by
  simp

/-- A block that goes from its opening tag to its closing tag covers the pieces from one to the
other. -/
lemma blockOf_nest {start : Nat} {opening closing : List Char} {us rest : List Piece}
    {content : Content} :
    .mk (covered (.tag opening :: (us ++ .tag closing :: rest)) rest)
      ⟨start, start + Piece.bytes (.tag opening) + Piece.total us + Piece.bytes (.tag closing)⟩
      content = blockOf start (.tag opening :: us ++ [.tag closing]) content := by
  rw [← nest_append, covered_append]
  simp [blockOf, Nat.add_assoc]

lemma total_nest {opening closing : List Char} {us : List Piece} :
    Piece.total (.tag opening :: us ++ [.tag closing]) =
      Piece.bytes (.tag opening) + (Piece.total us + Piece.bytes (.tag closing)) := by
  simp

/-! ### From compiling to the relation -/

mutual

theorem Compiles.of_eq_ok {start : Nat} {ps : List Piece} {bs : List Block}
    (h : compileBlocks source start ps = .ok bs) : Compiles start ps bs := by
  match ps with
  | [] =>
    rw [compileBlocks] at h
    cases h
    exact .nil start
  | .text run :: rest =>
    rw [compileBlocks] at h
    obtain ⟨tail, ht, h⟩ := bind_eq_ok.1 h
    cases h
    rw [← blockOf_text]
    exact .text (.of_eq_ok ht)
  | .loose inner :: rest => simp [compileBlocks] at h
  | .tag inner :: rest =>
    rw [compileBlocks] at h
    obtain ⟨lead, hl, h⟩ := bind_eq_ok.1 h
    have reads := located_eq_ok.1 hl
    cases lead with
    | simple content =>
      obtain ⟨tail, ht, h⟩ := bind_eq_ok.1 h
      cases h
      rw [← blockOf_tag]
      exact .simple reads (.of_eq_ok ht)
    | conditional condition =>
      obtain ⟨⟨branches, otherwise, stop, rest', hlt⟩, hb, h⟩ := bind_eq_ok.1 h
      obtain ⟨tail, ht, h⟩ := bind_eq_ok.1 h
      cases h
      have tail' := Compiles.of_eq_ok ht
      obtain ⟨us, closing, parts, rfl, rfl⟩ := CompilesBranches.of_eq_ok hb
      rw [blockOf_nest, ← nest_append]
      exact .conditional reads parts (by simpa [total_nest, ← Nat.add_assoc] using tail')
    | iteration header =>
      obtain ⟨⟨body, empty, stop, rest', hlt⟩, hb, h⟩ := bind_eq_ok.1 h
      obtain ⟨tail, ht, h⟩ := bind_eq_ok.1 h
      cases h
      have tail' := Compiles.of_eq_ok ht
      obtain ⟨us, closing, parts, rfl, rfl⟩ := CompilesLoop.of_eq_ok hb
      rw [blockOf_nest, ← nest_append]
      exact .iteration reads parts (by simpa [total_nest, ← Nat.add_assoc] using tail')
termination_by (ps.length, 0)

theorem CompilesBranches.of_eq_ok {start : Nat} {condition : Option Expression}
    {ps rest : List Piece} {branches : List Branch} {otherwise : Option Part} {stop : Nat}
    {hlt : rest.length < ps.length}
    (h : compileBranches source start condition ps = .ok ⟨branches, otherwise, stop, rest, hlt⟩) :
    ∃ us closing, CompilesBranches start condition us closing branches otherwise ∧
      ps = us ++ .tag closing :: rest ∧
      stop = start + Piece.total us + Piece.bytes (.tag closing) := by
  rw [compileBranches] at h
  split at h
  · simp at h
  · rename_i inside boundary rest' hcut
    have hps := Nest.eq_of_cut? hcut
    have ends := Nest.Ends.of_cut? hcut
    obtain ⟨children, hc, h⟩ := bind_eq_ok.1 h
    have part : Compiles start inside children := .of_eq_ok hc
    match boundary, condition with
    | .close closing, some condition =>
      cases h
      exact ⟨inside, closing, .close ends part, hps, rfl⟩
    | .close closing, none =>
      cases h
      exact ⟨inside, closing, .last ends part, hps, rfl⟩
    | .divide divider, none => simp at h
    | .divide divider, some condition =>
      obtain ⟨next, hn, h⟩ := bind_eq_ok.1 h
      obtain ⟨⟨branches', otherwise', stop', rest'', hlt'⟩, hb, h⟩ := bind_eq_ok.1 h
      cases h
      obtain ⟨us, closing, more, rfl, rfl⟩ := CompilesBranches.of_eq_ok hb
      refine ⟨inside ++ .tag divider :: us, closing, .divide ends part (located_eq_ok.1 hn) more,
        ?_, ?_⟩
      · rw [hps]
        simp [Nest.Boundary.piece]
      · simp [Nest.Boundary.piece, Nat.add_assoc]
termination_by (ps.length, 1)

theorem CompilesLoop.of_eq_ok {start : Nat} {ps rest : List Piece} {body : Part}
    {empty : Option Part} {stop : Nat} {hlt : rest.length < ps.length}
    (h : compileLoop source start ps = .ok ⟨body, empty, stop, rest, hlt⟩) :
    ∃ us closing, CompilesLoop start us closing body empty ∧ ps = us ++ .tag closing :: rest ∧
      stop = start + Piece.total us + Piece.bytes (.tag closing) := by
  rw [compileLoop] at h
  split at h
  · simp at h
  · rename_i inside boundary rest' hcut
    have hps := Nest.eq_of_cut? hcut
    have ends := Nest.Ends.of_cut? hcut
    obtain ⟨children, hc, h⟩ := bind_eq_ok.1 h
    have part : Compiles start inside children := .of_eq_ok hc
    match boundary with
    | .close closing =>
      cases h
      exact ⟨inside, closing, .close ends part, hps, rfl⟩
    | .divide divider =>
      simp only at h
      split at h
      · rename_i hdiv
        obtain ⟨⟨empty', stop', rest'', hlt'⟩, he, h⟩ := bind_eq_ok.1 h
        cases h
        obtain ⟨us, closing, others, rfl, ends', part', rfl, rfl⟩ := CompilesLoop.empty_of_eq_ok he
        refine ⟨inside ++ .tag divider :: us, closing, .divide ends part hdiv ends' part', ?_, ?_⟩
        · rw [hps]
          simp [Nest.Boundary.piece]
        · simp [Nest.Boundary.piece, Nat.add_assoc]
      · obtain ⟨_, ht, _⟩ := bind_eq_ok.1 h
        cases ht
termination_by (ps.length, 1)

theorem CompilesLoop.empty_of_eq_ok {start : Nat} {ps rest : List Piece} {part : Part} {stop : Nat}
    {hlt : rest.length < ps.length}
    (h : compileEmpty source start ps = .ok (part, stop, ⟨rest, hlt⟩)) :
    ∃ us closing children, part = partOf start us children ∧
      Nest.iteration.Ends us (.close closing) ∧ Compiles start us children ∧
      ps = us ++ .tag closing :: rest ∧
      stop = start + Piece.total us + Piece.bytes (.tag closing) := by
  rw [compileEmpty] at h
  split at h
  · simp at h
  · rename_i inside boundary rest' hcut
    have hps := Nest.eq_of_cut? hcut
    have ends := Nest.Ends.of_cut? hcut
    obtain ⟨children, hc, h⟩ := bind_eq_ok.1 h
    match boundary with
    | .close closing =>
      cases h
      exact ⟨inside, closing, children, rfl, ends, .of_eq_ok hc, hps, rfl⟩
    | .divide divider => simp at h
termination_by (ps.length, 1)

end

/-! ### One step of compiling, by the tag at which a part ends -/

lemma compileBlocks_text {run : List Char}
    (h : compileBlocks source (start + Piece.bytes (.text run)) ps = .ok bs) :
    compileBlocks source start (.text run :: ps) =
      .ok (blockOf start [.text run] .literal :: bs) := by
  rw [compileBlocks, blockOf_text]
  exact bind_eq_ok.2 ⟨bs, h, rfl⟩

lemma compileBlocks_simple {content : Content} (reads : leadOf inner = .ok (.simple content))
    (h : compileBlocks source (start + Piece.bytes (.tag inner)) ps = .ok bs) :
    compileBlocks source start (.tag inner :: ps) =
      .ok (blockOf start [.tag inner] content :: bs) := by
  rw [compileBlocks, blockOf_tag]
  exact bind_eq_ok.2 ⟨_, located_eq_ok.2 reads, bind_eq_ok.2 ⟨bs, h, rfl⟩⟩

lemma compileBlocks_conditional {hlt : rest.length < (us ++ .tag closing :: rest).length}
    (reads : leadOf inner = .ok (.conditional condition))
    (parts : compileBranches source (start + Piece.bytes (.tag inner)) (some condition)
      (us ++ .tag closing :: rest) = .ok ⟨branches, otherwise,
        start + Piece.bytes (.tag inner) + Piece.total us + Piece.bytes (.tag closing), rest, hlt⟩)
    (h : compileBlocks source (start + Piece.total (.tag inner :: us ++ [.tag closing])) rest =
      .ok bs) :
    compileBlocks source start (.tag inner :: us ++ [.tag closing] ++ rest) =
      .ok (blockOf start (.tag inner :: us ++ [.tag closing])
        (.conditional branches otherwise) :: bs) := by
  rw [total_nest, ← Nat.add_assoc, ← Nat.add_assoc] at h
  rw [nest_append, compileBlocks, ← blockOf_nest]
  exact bind_eq_ok.2 ⟨_, located_eq_ok.2 reads, bind_eq_ok.2 ⟨_, parts, bind_eq_ok.2 ⟨bs, h, rfl⟩⟩⟩

lemma compileBlocks_iteration {header : Header} {body : Part} {empty : Option Part}
    {hlt : rest.length < (us ++ .tag closing :: rest).length}
    (reads : leadOf inner = .ok (.iteration header))
    (parts : compileLoop source (start + Piece.bytes (.tag inner))
      (us ++ .tag closing :: rest) = .ok ⟨body, empty,
        start + Piece.bytes (.tag inner) + Piece.total us + Piece.bytes (.tag closing), rest, hlt⟩)
    (h : compileBlocks source (start + Piece.total (.tag inner :: us ++ [.tag closing])) rest =
      .ok bs) :
    compileBlocks source start (.tag inner :: us ++ [.tag closing] ++ rest) =
      .ok (blockOf start (.tag inner :: us ++ [.tag closing])
        (.iteration header.item header.index header.collection body empty) :: bs) := by
  rw [total_nest, ← Nat.add_assoc, ← Nat.add_assoc] at h
  rw [nest_append, compileBlocks, ← blockOf_nest]
  exact bind_eq_ok.2 ⟨_, located_eq_ok.2 reads, bind_eq_ok.2 ⟨_, parts, bind_eq_ok.2 ⟨bs, h, rfl⟩⟩⟩

lemma compileBranches_close (ends : Nest.conditional.Ends us (.close closing))
    (hc : compileBlocks source start us = .ok children) :
    ∃ hlt, compileBranches source start (some condition) (us ++ .tag closing :: rest) =
      .ok ⟨[.mk condition (partOf start us children)], none,
        start + Piece.total us + Piece.bytes (.tag closing), rest, hlt⟩ := by
  refine ⟨by simp; omega, ?_⟩
  rw [compileBranches]
  refine (Nest.match_cut? (ends rest)).trans ?_
  exact bind_eq_ok.2 ⟨children, hc, rfl⟩

lemma compileBranches_last (ends : Nest.conditional.Ends us (.close closing))
    (hc : compileBlocks source start us = .ok children) :
    ∃ hlt, compileBranches source start none (us ++ .tag closing :: rest) =
      .ok ⟨[], some (partOf start us children),
        start + Piece.total us + Piece.bytes (.tag closing), rest, hlt⟩ := by
  refine ⟨by simp; omega, ?_⟩
  rw [compileBranches]
  refine (Nest.match_cut? (ends rest)).trans ?_
  exact bind_eq_ok.2 ⟨children, hc, rfl⟩

lemma compileBranches_divide {next : Option Expression} {stop : Nat}
    {hlt : rest.length < vs.length} (ends : Nest.conditional.Ends us (.divide divider))
    (hc : compileBlocks source start us = .ok children) (reads : dividerOf divider = .ok next)
    (more : compileBranches source (start + Piece.total us + Piece.bytes (.tag divider)) next vs =
      .ok ⟨branches, otherwise, stop, rest, hlt⟩) :
    ∃ hlt, compileBranches source start (some condition) (us ++ .tag divider :: vs) =
      .ok ⟨.mk condition (partOf start us children) :: branches, otherwise, stop, rest, hlt⟩ := by
  refine ⟨by simp; omega, ?_⟩
  rw [compileBranches]
  refine (Nest.match_cut? (ends vs)).trans ?_
  exact bind_eq_ok.2 ⟨children, hc, bind_eq_ok.2 ⟨next, located_eq_ok.2 reads,
    bind_eq_ok.2 ⟨_, more, rfl⟩⟩⟩

lemma compileEmpty_close (ends : Nest.iteration.Ends us (.close closing))
    (hc : compileBlocks source start us = .ok children) :
    ∃ hlt, compileEmpty source start (us ++ .tag closing :: rest) =
      .ok (partOf start us children, start + Piece.total us + Piece.bytes (.tag closing),
        ⟨rest, hlt⟩) := by
  refine ⟨by simp; omega, ?_⟩
  rw [compileEmpty]
  refine (Nest.match_cut? (ends rest)).trans ?_
  exact bind_eq_ok.2 ⟨children, hc, rfl⟩

lemma compileLoop_close (ends : Nest.iteration.Ends us (.close closing))
    (hc : compileBlocks source start us = .ok children) :
    ∃ hlt, compileLoop source start (us ++ .tag closing :: rest) =
      .ok ⟨partOf start us children, none,
        start + Piece.total us + Piece.bytes (.tag closing), rest, hlt⟩ := by
  refine ⟨by simp; omega, ?_⟩
  rw [compileLoop]
  refine (Nest.match_cut? (ends rest)).trans ?_
  exact bind_eq_ok.2 ⟨children, hc, rfl⟩

lemma compileLoop_divide {empty : Part} {stop : Nat} {hlt : rest.length < vs.length}
    (ends : Nest.iteration.Ends us (.divide divider))
    (hc : compileBlocks source start us = .ok children)
    (divides : Tag.body divider = "empty".toList)
    (more : compileEmpty source (start + Piece.total us + Piece.bytes (.tag divider)) vs =
      .ok (empty, stop, ⟨rest, hlt⟩)) :
    ∃ hlt, compileLoop source start (us ++ .tag divider :: vs) =
      .ok ⟨partOf start us children, some empty, stop, rest, hlt⟩ := by
  refine ⟨by simp; omega, ?_⟩
  rw [compileLoop]
  refine (Nest.match_cut? (ends vs)).trans (bind_eq_ok.2 ⟨children, hc, ?_⟩)
  simp only [divides, if_true]
  exact bind_eq_ok.2 ⟨_, more, rfl⟩

/-! ### From the relation to compiling -/

mutual

theorem Compiles.eq_ok {start : Nat} {ps : List Piece} {bs : List Block}
    (h : Compiles start ps bs) : compileBlocks source start ps = .ok bs := by
  cases h with
  | nil => rw [compileBlocks]
  | text rest => exact compileBlocks_text rest.eq_ok
  | simple reads rest => exact compileBlocks_simple reads rest.eq_ok
  | conditional reads parts rest =>
    obtain ⟨hlt, hp⟩ := parts.eq_ok rfl
    exact compileBlocks_conditional reads hp rest.eq_ok
  | iteration reads parts rest =>
    obtain ⟨hlt, hp⟩ := parts.eq_ok rfl
    exact compileBlocks_iteration reads hp rest.eq_ok
termination_by 2 * ps.length

theorem CompilesBranches.eq_ok {start : Nat} {condition : Option Expression}
    {us ps rest : List Piece} {closing : List Char} {branches : List Branch}
    {otherwise : Option Part} (h : CompilesBranches start condition us closing branches otherwise)
    (hps : ps = us ++ .tag closing :: rest) :
    ∃ hlt, compileBranches source start condition ps =
      .ok ⟨branches, otherwise, start + Piece.total us + Piece.bytes (.tag closing), rest,
        hlt⟩ := by
  cases h with
  | close ends part =>
    subst hps
    exact compileBranches_close ends part.eq_ok
  | last ends part =>
    subst hps
    exact compileBranches_last ends part.eq_ok
  | @divide _ _ _ us vs divider _ _ _ _ ends part divides more =>
    obtain rfl : ps = us ++ .tag divider :: (vs ++ .tag closing :: rest) := by simpa using hps
    obtain ⟨_, hm⟩ := more.eq_ok rfl
    obtain ⟨hlt, hp⟩ := compileBranches_divide ends part.eq_ok divides hm
    exact ⟨hlt, by simpa [Nat.add_assoc] using hp⟩
termination_by 2 * us.length + 1

theorem CompilesLoop.eq_ok {start : Nat} {us ps rest : List Piece} {closing : List Char}
    {body : Part} {empty : Option Part} (h : CompilesLoop start us closing body empty)
    (hps : ps = us ++ .tag closing :: rest) :
    ∃ hlt, compileLoop source start ps =
      .ok ⟨body, empty, start + Piece.total us + Piece.bytes (.tag closing), rest, hlt⟩ := by
  cases h with
  | close ends part =>
    subst hps
    exact compileLoop_close ends part.eq_ok
  | @divide _ us vs divider _ _ _ ends part divides ends' empty =>
    obtain rfl : ps = us ++ .tag divider :: (vs ++ .tag closing :: rest) := by simpa using hps
    obtain ⟨_, hm⟩ := compileEmpty_close ends' empty.eq_ok
    obtain ⟨hlt, hp⟩ := compileLoop_divide ends part.eq_ok divides hm
    exact ⟨hlt, by simpa [Nat.add_assoc] using hp⟩
termination_by 2 * us.length + 1

end

/-- The relation holds exactly where compiling succeeds. -/
theorem compileBlocks_eq_ok_iff : compileBlocks source start ps = .ok bs ↔ Compiles start ps bs :=
  ⟨Compiles.of_eq_ok, Compiles.eq_ok⟩

lemma compile_eq_ok {text : String} {source : Nat} {t : Template} :
    compile text source = .ok t ↔
      Compiles 0 (Piece.split text.toList) t.blocks ∧ t.source = source := by
  constructor
  · intro h
    obtain ⟨bs, hbs, rfl⟩ := map_eq_ok.1 h
    exact ⟨compileBlocks_eq_ok_iff.1 hbs, rfl⟩
  · rintro ⟨h, rfl⟩
    exact map_eq_ok.2 ⟨t.blocks, compileBlocks_eq_ok_iff.2 h, rfl⟩

end Stencil.Template
