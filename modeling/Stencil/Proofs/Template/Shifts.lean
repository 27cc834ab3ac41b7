import Stencil.Proofs.Template.Beginnings
import Stencil.Proofs.Template.Tiling

/-!
Compiling does not depend on where in a source the pieces begin: pieces that begin `n` bytes further
on compile to the same blocks `n` bytes further on, or fail with the same fault there. All places
that compiling reports are counted from the byte that it is told, and what a tag itself says is
wrong quotes none.
-/

namespace Stencil

open Stencil.Text Stencil.Tag

/-! ### Blocks further on -/

mutual

/-- The block `n` bytes further on. -/
def Block.shift (n : Nat) : Block → Block
  | .mk signature span content => .mk signature (span.shift n) (content.shift n)

def Content.shift (n : Nat) : Content → Content
  | .conditional branches otherwise =>
    .conditional (shiftBranches n branches) (shiftPart? n otherwise)
  | .iteration item index collection body empty =>
    .iteration item index collection (body.shift n) (shiftPart? n empty)
  | content => content

def Branch.shift (n : Nat) : Branch → Branch
  | .mk condition part => .mk condition (part.shift n)

def Part.shift (n : Nat) : Part → Part
  | .mk body children span => .mk body (shiftBlocks n children) (span.shift n)

def shiftPart? (n : Nat) : Option Part → Option Part
  | none => none
  | some part => some (part.shift n)

def shiftBranches (n : Nat) : List Branch → List Branch
  | [] => []
  | b :: bs => b.shift n :: shiftBranches n bs

def shiftBlocks (n : Nat) : List Block → List Block
  | [] => []
  | b :: bs => b.shift n :: shiftBlocks n bs

end

section

variable (n : Nat)

@[simp] lemma shiftBlocks_eq_map (bs : List Block) : shiftBlocks n bs = bs.map (Block.shift n) := by
  induction bs with
  | nil => rfl
  | cons b bs ih => rw [shiftBlocks, ih, List.map_cons]

@[simp] lemma shiftBranches_eq_map (bs : List Branch) :
    shiftBranches n bs = bs.map (Branch.shift n) := by
  induction bs with
  | nil => rfl
  | cons b bs ih => rw [shiftBranches, ih, List.map_cons]

@[simp] lemma shiftPart?_eq_map (part : Option Part) :
    shiftPart? n part = part.map (Part.shift n) := by
  cases part <;> rfl

@[simp] lemma Block.shift_mk (signature : String) (span : Span) (content : Content) :
    (Block.mk signature span content).shift n = .mk signature (span.shift n) (content.shift n) :=
  rfl

@[simp] lemma Branch.shift_mk (condition : Expression) (part : Part) :
    (Branch.mk condition part).shift n = .mk condition (part.shift n) :=
  rfl

@[simp] lemma Content.shift_literal : Content.literal.shift n = .literal := rfl

@[simp] lemma Content.shift_conditional (branches : List Branch) (otherwise : Option Part) :
    (Content.conditional branches otherwise).shift n =
      .conditional (branches.map (Branch.shift n)) (otherwise.map (Part.shift n)) := by
  simp [Content.shift]

@[simp] lemma Content.shift_iteration (item : String) (index : Option String)
    (collection : Expression) (body : Part) (empty : Option Part) :
    (Content.iteration item index collection body empty).shift n =
      .iteration item index collection (body.shift n) (empty.map (Part.shift n)) := by
  simp [Content.shift]

/-- What has no parts quotes no places. -/
lemma Content.shift_of_parts {content : Content} (h : content.parts = []) :
    content.shift n = content := by
  cases content with
  | conditional branches otherwise =>
    obtain ⟨hb, ho⟩ := List.append_eq_nil_iff.1 h
    obtain rfl := List.map_eq_nil_iff.1 hb
    cases otherwise with
    | none => rfl
    | some part => cases ho
  | iteration item index collection body empty => cases h
  | _ => rfl

end

namespace Template

variable {source start n : Nat} {α β : Type}

lemma shift_partOf (start : Nat) (ps : List Piece) (children : List Block) :
    (partOf start ps children).shift n = partOf (n + start) ps (children.map (Block.shift n)) := by
  simp [partOf, Part.shift, Span.shift, Nat.add_assoc]

/-! ### Outcomes further on -/

/-- The outcome of compiling `n` bytes further on: what came out is shifted by `f`, and a fault is
told of a place `n` bytes further on. -/
def shiftOutcome (n : Nat) (f : α → β) : Except Fault α → Except Fault β
  | .ok a => .ok (f a)
  | .error fault => .error (fault.shift n)

@[simp] lemma shiftOutcome_ok (f : α → β) (a : α) :
    shiftOutcome n f (.ok a) = .ok (f a) := rfl

@[simp] lemma shiftOutcome_error (f : α → β) (fault : Fault) :
    shiftOutcome n f (.error fault) = .error (fault.shift n) := rfl

lemma shiftOutcome_bind {f : α → α} {g : β → β} {x : Except Fault α} {k k' : α → Except Fault β}
    (h : ∀ a, x = .ok a → k' (f a) = shiftOutcome n g (k a)) :
    shiftOutcome n f x >>= k' = shiftOutcome n g (x >>= k) := by
  cases x with
  | ok a => exact h a rfl
  | error fault => rfl

/-- A computation that goes by what is cut off is shifted when both its ways are. -/
lemma shiftOutcome_match_cut? {nest : Nest} {depth : Nat} {ps : List Piece} {f : α → β}
    {missing : nest.cut? depth ps = none → Except Fault α}
    {missing' : nest.cut? depth ps = none → Except Fault β}
    {found : ∀ us b rest, nest.cut? depth ps = some ⟨us, b, rest⟩ → Except Fault α}
    {found' : ∀ us b rest, nest.cut? depth ps = some ⟨us, b, rest⟩ → Except Fault β}
    (hmissing : ∀ h, missing' h = shiftOutcome n f (missing h))
    (hfound : ∀ us b rest h, found' us b rest h = shiftOutcome n f (found us b rest h)) :
    (match h : nest.cut? depth ps with
      | none => missing' h
      | some ⟨us, b, rest⟩ => found' us b rest h) =
      shiftOutcome n f (match h : nest.cut? depth ps with
        | none => missing h
        | some ⟨us, b, rest⟩ => found us b rest h) := by
  split
  · exact hmissing _
  · exact hfound _ _ _ _

/-! ### What a tag says is wrong -/

/-- Only the causes of missing ends quote places. -/
lemma Cause.shift_of_kind {cause : Cause} (h : cause.kind ≠ .unterminatedBlock) :
    cause.shift n = cause := by
  cases cause with
  | unclosedTag => exact absurd rfl h
  | unclosedBlock => exact absurd rfl h
  | _ => rfl

/-- The reading of a tag never fails for want of an end. -/
def Settles (r : Except Cause α) : Prop :=
  ∀ cause, r = .error cause → cause.kind ≠ .unterminatedBlock

namespace Settles

lemma ok (a : α) : Settles (.ok a) := by
  intro cause h
  cases h

lemma error {cause : Cause} (h : cause.kind ≠ .unterminatedBlock) :
    Settles (.error cause : Except Cause α) := by
  rintro _ ⟨⟩
  exact h

lemma map {r : Except Cause α} (f : α → β) (h : Settles r) : Settles (r.map f) := by
  intro cause he
  cases r with
  | ok a => cases he
  | error cause' =>
    cases he
    exact h cause rfl

lemma bind {r : Except Cause α} {k : α → Except Cause β} (h : Settles r)
    (hk : ∀ a, r = .ok a → Settles (k a)) : Settles (r >>= k) := by
  cases r with
  | ok a => exact hk a rfl
  | error cause => exact error (h cause rfl)

lemma mapError {ε : Type} {r : Except ε α} {f : ε → Cause}
    (h : ∀ e, (f e).kind ≠ .unterminatedBlock) : Settles (r.mapError f) := by
  cases r with
  | ok a => exact ok a
  | error e => exact error (h e)

end Settles

lemma settles_readValue (cs : List Char) : Settles (readValue cs) :=
  .mapError fun _ => by rintro ⟨⟩

lemma settles_directiveOf (body : List Char) : Settles (directiveOf body) := by
  simp only [directiveOf]
  split
  · exact .ok _
  · exact .error (by rintro ⟨⟩)

lemma settles_inclusionOf (body : List Char) : Settles (inclusionOf body) := by
  simp only [inclusionOf]
  split
  · exact .error (by rintro ⟨⟩)
  · exact .ok _

lemma settles_assignmentOf (keyword : String) (body : List Char) :
    Settles (assignmentOf keyword body) := by
  simp only [assignmentOf]
  split
  · exact .error (by rintro ⟨⟩)
  · split
    · exact (settles_readValue _).map _
    · exact .error (by rintro ⟨⟩)

lemma settles_bindingOf (body : List Char) : Settles (bindingOf body) :=
  .map _ (.mapError fun _ => by rintro ⟨⟩)

lemma settles_headerOf (body : List Char) : Settles (headerOf body) := by
  unfold headerOf
  simp only
  split
  · rename_i names collection _
    have value (f : Expression → Header) : Settles (readValue collection >>= fun e => pure (f e)) :=
      (settles_readValue collection).bind fun e _ => .ok (f e)
    cases splitOnce [','] names with
    | none =>
      simp only [reduceCtorEq, if_false]
      split
      · exact value _
      · exact .error (by rintro ⟨⟩)
    | some pair =>
      simp only
      split
      · split
        · split
          · exact .error (by rintro ⟨⟩)
          · exact value _
        · exact .error (by rintro ⟨⟩)
      · exact .error (by rintro ⟨⟩)
  · exact .error (by rintro ⟨⟩)

lemma settles_dividerOf (inner : List Char) : Settles (dividerOf inner) := by
  simp only [dividerOf]
  split
  · exact (settles_readValue _).map _
  · split
    · exact .ok _
    · exact .error (by rintro ⟨⟩)

lemma settles_leadOf (inner : List Char) : Settles (leadOf inner) := by
  simp only [leadOf]
  split
  · exact .error (by rintro ⟨⟩)
  · split
    · exact .error (by rintro ⟨⟩)
    · exact .ok _
    · exact (settles_directiveOf _).map _
    · exact (settles_inclusionOf _).map _
    · exact (settles_assignmentOf _ _).map _
    · exact (settles_assignmentOf _ _).map _
    · exact (settles_headerOf _).map _
    · exact (settles_readValue _).map _
    · exact (settles_bindingOf _).map _

/-- A fault in a tag is told of the tag's place. -/
lemma located_shift {r : Except Cause α} (h : Settles r) (start stop : Nat) :
    located source ⟨n + start, n + stop⟩ r =
      shiftOutcome n id (located source ⟨start, stop⟩ r) := by
  cases r with
  | ok a => rfl
  | error cause =>
    change Except.error _ = Except.error _
    rw [Fault.shift, Cause.shift_of_kind (h cause rfl)]
    rfl

/-! ### Compiling further on -/

/-- The parts of a conditional `n` bytes further on. -/
def Parts.shift (n : Nat) {ps : List Piece} (p : Parts ps) : Parts ps where
  branches := p.branches.map (Branch.shift n)
  otherwise := p.otherwise.map (Part.shift n)
  stop := n + p.stop
  rest := p.rest

/-- The parts of an iteration `n` bytes further on. -/
def Loop.shift (n : Nat) {ps : List Piece} (l : Loop ps) : Loop ps where
  body := l.body.shift n
  empty := l.empty.map (Part.shift n)
  stop := n + l.stop
  rest := l.rest

/-- The last part of an iteration `n` bytes further on. -/
def shiftLast (n : Nat) {ps : List Piece} (l : Part × Nat × Remaining ps) :
    Part × Nat × Remaining ps :=
  (l.1.shift n, n + l.2.1, l.2.2)

mutual

/-- **Compiling does not depend on the place**: what pieces compile to `n` bytes further on is what
they compile to, `n` bytes further on. -/
theorem compileBlocks_shift (source n start : Nat) (ps : List Piece) :
    compileBlocks source (n + start) ps =
      shiftOutcome n (List.map (Block.shift n)) (compileBlocks source start ps) := by
  match ps with
  | [] =>
    rw [compileBlocks, compileBlocks]
    rfl
  | .loose inner :: rest =>
    rw [compileBlocks, compileBlocks, Nat.add_assoc]
    rfl
  | .text run :: rest =>
    rw [compileBlocks, compileBlocks, Nat.add_assoc, compileBlocks_shift]
    exact shiftOutcome_bind fun tail _ => rfl
  | .tag inner :: rest =>
    rw [compileBlocks, compileBlocks, Nat.add_assoc, located_shift (settles_leadOf inner)]
    refine shiftOutcome_bind fun lead hl => ?_
    rw [id_eq]
    cases lead with
    | simple content =>
      have hparts := (simple_of_leadOf (located_eq_ok.1 hl)).2
      simp only
      rw [compileBlocks_shift]
      refine shiftOutcome_bind fun tail _ => ?_
      simp [pure, Except.pure, Content.shift_of_parts n hparts, Span.shift]
    | conditional condition =>
      simp only
      rw [compileBranches_shift]
      refine shiftOutcome_bind fun ⟨branches, otherwise, stop, rest', hlt⟩ _ => ?_
      simp only [Parts.shift]
      rw [compileBlocks_shift]
      refine shiftOutcome_bind fun tail _ => ?_
      simp [pure, Except.pure, Span.shift]
    | iteration header =>
      simp only
      rw [compileLoop_shift]
      refine shiftOutcome_bind fun ⟨body, empty, stop, rest', hlt⟩ _ => ?_
      simp only [Loop.shift]
      rw [compileBlocks_shift]
      refine shiftOutcome_bind fun tail _ => ?_
      simp [pure, Except.pure, Span.shift]
termination_by (ps.length, 0)

theorem compileBranches_shift (source n start : Nat) (condition : Option Expression)
    (ps : List Piece) : compileBranches source (n + start) condition ps =
      shiftOutcome n (Parts.shift n) (compileBranches source start condition ps) := by
  rw [compileBranches, compileBranches]
  refine shiftOutcome_match_cut? (fun _ => ?_) fun inside boundary rest hcut => ?_
  · rw [Nat.add_assoc]
    rfl
  · have hlt : inside.length + rest.length + 1 = ps.length := Nest.length_of_cut? hcut
    rw [compileBlocks_shift]
    refine shiftOutcome_bind fun children _ => ?_
    match boundary, condition with
    | .close _, some condition =>
      simp [pure, Except.pure, Parts.shift, shift_partOf, Nat.add_assoc]
    | .close _, none =>
      simp [pure, Except.pure, Parts.shift, shift_partOf, Nat.add_assoc]
    | .divide inner, none =>
      simp only [Nat.add_assoc]
      rfl
    | .divide inner, some condition =>
      simp only [Nat.add_assoc]
      rw [located_shift (settles_dividerOf inner)]
      refine shiftOutcome_bind fun next _ => ?_
      rw [id_eq, compileBranches_shift]
      refine shiftOutcome_bind fun ⟨branches, otherwise, stop, rest', hlt⟩ _ => ?_
      simp [pure, Except.pure, Parts.shift, shift_partOf]
termination_by (ps.length, 1)

theorem compileLoop_shift (source n start : Nat) (ps : List Piece) :
    compileLoop source (n + start) ps =
      shiftOutcome n (Loop.shift n) (compileLoop source start ps) := by
  rw [compileLoop, compileLoop]
  refine shiftOutcome_match_cut? (fun _ => ?_) fun inside boundary rest hcut => ?_
  · rw [Nat.add_assoc]
    rfl
  · have hlt : inside.length + rest.length + 1 = ps.length := Nest.length_of_cut? hcut
    rw [compileBlocks_shift]
    refine shiftOutcome_bind fun children _ => ?_
    match boundary with
    | .close _ =>
      simp [pure, Except.pure, Loop.shift, shift_partOf, Nat.add_assoc]
    | .divide inner =>
      simp only [Nat.add_assoc]
      by_cases hdiv : Tag.body inner = "empty".toList
      · simp only [hdiv, if_true]
        rw [compileEmpty_shift]
        refine shiftOutcome_bind fun ⟨empty, stop, rest', hlt⟩ _ => ?_
        simp [pure, Except.pure, Loop.shift, shiftLast, shift_partOf]
      · simp only [hdiv, if_false]
        rfl
termination_by (ps.length, 1)

theorem compileEmpty_shift (source n start : Nat) (ps : List Piece) :
    compileEmpty source (n + start) ps =
      shiftOutcome n (shiftLast n) (compileEmpty source start ps) := by
  rw [compileEmpty, compileEmpty]
  refine shiftOutcome_match_cut? (fun _ => ?_) fun inside boundary rest hcut => ?_
  · rw [Nat.add_assoc]
    rfl
  · have hlt : inside.length + rest.length + 1 = ps.length := Nest.length_of_cut? hcut
    rw [compileBlocks_shift]
    refine shiftOutcome_bind fun children _ => ?_
    match boundary with
    | .close _ => simp [pure, Except.pure, shiftLast, shift_partOf, Nat.add_assoc]
    | .divide inner =>
      simp only [Nat.add_assoc]
      rfl
termination_by (ps.length, 1)

end

end Template

end Stencil
