import Stencil.Proofs.Render.Confined
import Stencil.Proofs.Render.Reach

/-!
What a rendering leaves of the variables and the output, and where it fails. A block is followed in
terms of the blocks that it enters; a whole rendering, by induction over the trees and over how deep
partials may lie.
-/

namespace Stencil

namespace Content

/-- The error is one that a block raises itself, not by what it renders. -/
def Raises (error : EvaluationError) : Content → Prop
  | literal | comment _ | directive _ => False
  | inclusion name => error = .unknownPartial name ∨ error = .tooDeep Rendering.depthLimit
  | binding _ | call _ _ | conditional _ _ => error.OfExpression
  | declaration name _ => error.OfExpression ∨ error = .duplicateVariable name
  | reassignment name _ => error.OfExpression ∨ error = .undefinedVariable name
  | iteration _ _ _ _ _ => error.OfExpression ∨ ∃ given, error = .notIterable given

end Content

namespace Rendering

open Render Evaluation Context

/-! ### Blocks -/

variable {functions : Registry} {library : Library} {changed : String → Prop}
  {possible : Fault → Prop}

section Blocks

variable {x : Site} {signature : String} {span : Span}

lemma confined_conditional {branches : List Branch} {otherwise : Option Part}
    (raises : ∀ error, error.OfExpression → possible ⟨error, span, x.source⟩)
    (inner : ∀ y children,
      Enters functions library x (.mk signature span (.conditional branches otherwise)) y children →
      Confined changed possible (blocksWithin functions library y.remaining y.source children)
        y.progress) :
    Confined changed possible
      (blockWithin functions library x.remaining x.source
        (.mk signature span (.conditional branches otherwise))) x.progress := by
  rw [blockWithin_conditional]
  refine .bind (.locate (confined_chooseBranch raises functions otherwise branches)) ?_
  intro chosen s' h
  obtain ⟨c, chooses, rfl⟩ := of_outcome_locate h
  cases chosen with
  | none => exact .pure ()
  | some part => exact inner _ _ (.chosen chooses)

lemma confined_iteration {item : String} {index : Option String} {collection : Expression}
    {body : Part} {empty : Option Part}
    (raises : ∀ error, (error.OfExpression ∨ ∃ given, error = .notIterable given) →
      possible ⟨error, span, x.source⟩)
    (clashes : index = some item → possible ⟨.duplicateVariable item, span, x.source⟩)
    (inner : ∀ y children,
      Enters functions library x
        (.mk signature span (.iteration item index collection body empty)) y children →
      Confined changed possible (blocksWithin functions library y.remaining y.source children)
        y.progress) :
    Confined changed possible
      (blockWithin functions library x.remaining x.source
        (.mk signature span (.iteration item index collection body empty))) x.progress := by
  rw [blockWithin_iteration]
  refine .bind (.locate (confined_items raises functions collection)) ?_
  intro vs s' h
  obtain ⟨c, finds, rfl⟩ := of_outcome_locate h
  cases vs with
  | nil =>
    cases empty with
    | none => exact .pure ()
    | some part => exact inner _ _ (.empty finds)
  | cons w ws =>
    refine .eachItem fun done v later s' hvs before => .inScope ?_
    rw [hvs] at finds
    have binds : Confined changed possible
        (locate ⟨functions, library, x.source⟩ span (bindItem item index v done.length))
        { s' with context := s'.context.push } := by
      refine .located (keeps_bindItem item index v done.length _) ?_
      refine (fails_bindItem item index v done.length s'.context).mono ?_
      rintro error ⟨hindex, rfl⟩
      exact clashes hindex
    refine binds.bind fun u s'' h => ?_
    obtain ⟨c', hbind, rfl⟩ := of_outcome_locate h
    exact inner _ _ (.item finds before hbind)

lemma confined_inclusion {name : String}
    (raises : ∀ error, (error = .unknownPartial name ∨ error = .tooDeep depthLimit) →
      possible ⟨error, span, x.source⟩)
    (inner : ∀ y children,
      Enters functions library x (.mk signature span (.inclusion name)) y children →
      Confined changed possible (blocksWithin functions library y.remaining y.source children)
        y.progress) :
    Confined changed possible
      (blockWithin functions library x.remaining x.source (.mk signature span (.inclusion name)))
      x.progress := by
  obtain ⟨remaining, source, s⟩ := x
  cases hp : library.find? name with
  | none =>
    rw [blockWithin_unknown hp]
    exact .throw (raises _ (.inl rfl))
  | some p =>
    cases remaining with
    | zero =>
      rw [blockWithin_tooDeep hp]
      exact .throw (raises _ (.inr rfl))
    | succ remaining =>
      rw [blockWithin_inclusion hp]
      refine .bind (.record _) fun u s' h => .inScope ?_
      cases h
      exact inner _ _ (.inclusion hp)

end Blocks

/-- A block is confined when the blocks that it enters are. It changes a variable only by being a
reassignment of it. -/
theorem confined_block {x : Site} {b : Block}
    (own : ∀ name e, b.content = .reassignment name e → changed name)
    (raises : ∀ error, (b.content.BindsApart → b.content.Raises error) →
      possible ⟨error, b.span, x.source⟩)
    (inner : ∀ y children, Enters functions library x b y children →
      Confined changed possible (blocksWithin functions library y.remaining y.source children)
        y.progress) :
    Confined changed possible (blockWithin functions library x.remaining x.source b)
      x.progress := by
  obtain ⟨signature, span, content⟩ := b
  have raises' (error : EvaluationError) (h : content.Raises error) :
      possible ⟨error, span, x.source⟩ :=
    raises error fun _ => h
  cases content with
  | inclusion name => exact confined_inclusion raises' inner
  | conditional branches otherwise => exact confined_conditional raises' inner
  | iteration item index collection body empty =>
    refine confined_iteration raises' (fun hindex => ?_) inner
    exact raises _ fun apart => absurd hindex apart
  | literal =>
    rw [blockWithin_literal]
    exact .write signature
  | comment text =>
    rw [blockWithin_comment]
    exact .pure ()
  | directive flag =>
    rw [blockWithin_directive]
    exact .pure ()
  | binding e =>
    rw [blockWithin_binding]
    exact .bind (.locate (.evaluate raises' functions e)) fun v s' _ => .write v.display
  | call name arguments =>
    rw [blockWithin_call, blockWithin_binding]
    exact .bind (.locate (.evaluate raises' functions (.call name arguments))) fun v s' _ =>
      .write v.display
  | declaration name e =>
    rw [blockWithin_declaration]
    refine .locate ?_
    refine (Confined.evaluate (fun error h => raises' error (.inl h)) functions e).bind fun v => ?_
    refine (Evaluation.Confined.record _).bind fun _ => ?_
    exact confined_changing (fun _ _ => .declare) fun _ error h =>
      raises' error (.inr (error_of_declare h))
  | reassignment name e =>
    rw [blockWithin_reassignment]
    refine .locate ?_
    refine (Confined.evaluate (fun error h => raises' error (.inl h)) functions e).bind fun v => ?_
    refine (Evaluation.Confined.record _).bind fun _ => ?_
    exact confined_changing (fun _ _ => .reassign (own name e rfl)) fun _ error h =>
      raises' error (.inr (error_of_reassign h))

/-! ### Trees -/

variable (functions library)

/-- The rendering gets to a reassignment of the variable. -/
def Reassigned (x : Site) (bs : List Block) (name : String) : Prop :=
  Meets functions library x bs fun _ b => ∃ e, b.content = .reassignment name e

/-- The rendering gets to a block that raises the error, and the fault has its place. -/
def Raised (x : Site) (bs : List Block) (f : Fault) : Prop :=
  Meets functions library x bs fun z b =>
    f.source = z.source ∧ f.span = b.span ∧ (b.content.BindsApart → b.content.Raises f.error)

/-- A rendering changes what it gets to a reassignment of, and fails at a block that it gets to. -/
theorem confined_blocks (x : Site) (bs : List Block) :
    Confined (Reassigned functions library x bs) (Raised functions library x bs)
      (blocksWithin functions library x.remaining x.source bs) x.progress := by
  induction x, bs using run_induction functions library with
  | nil x =>
    rw [blocksWithin_nil]
    exact .pure ()
  | cons x b bs inner rest =>
    rw [blocksWithin_cons]
    refine .bind ?_ fun u s' before => ?_
    · exact confined_block (fun name e h => .here ⟨e, h⟩) (fun error h => .here ⟨rfl, rfl, h⟩)
        fun y children enters => (inner y children enters).mono
          (fun name h => .inside enters h) fun f h => .inside enters h
    · exact (rest s' before).mono (fun name h => .later before h) fun f h => .later before h

/-- **What a rendering leaves alone**, whether it goes well or not: the scopes are as many as
before; those around the innermost one have the same names, and the innermost one has at least its
names; of the variables that were there, only those have another value that the rendering got to a
reassignment of; the model and the flags are the same; entries of the trace and text of the output
are only added. -/
theorem blocksAt_preserves (depth source : Nat) (bs : List Block) (s : Progress) :
    let s' := (outcome (blocksAt functions library depth source bs) s).2
    s'.context.depth = s.context.depth ∧
      s.context.Preserves (Reassigned functions library ⟨depthLimit - depth, source, s⟩ bs)
        s'.context ∧
      ∃ text, s'.output = s.output ++ text := by
  have h := (confined_blocks functions library ⟨depthLimit - depth, source, s⟩ bs).grows
  exact ⟨h.context.depth, h.context, h.output⟩

end Rendering

end Stencil
