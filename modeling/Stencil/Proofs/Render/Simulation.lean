import Stencil.Proofs.Evaluation.Simulation
import Stencil.Proofs.Render.Chains
import Stencil.Proofs.Render.Reach

/-!
Two renderings of the same blocks, from states that differ. When expressions do not notice the
difference, and the changes of variables keep it, the renderings go the same way: they come to the
same and append the same text, and their states differ as before.

The difference may depend on how many scopes have been opened since the renderings began. Blocks
that are come to with no scope opened then may be the ones that it does not stand.
-/

namespace Stencil.Rendering

open Evaluation

/-- The contexts are related, and the same text was added to the one output and to the other. -/
def Parallel (A : Context → Context → Prop) (o o' : String) (s s' : Progress) : Prop :=
  A s.context s'.context ∧ ∃ text, s.output = o ++ text ∧ s'.output = o' ++ text

/-- How contexts differ where `n` scopes have been opened. Expressions do not notice it, it is the
same again when a scope is closed, and variables may be declared in a scope that has been opened. -/
structure Simulation (functions : Registry) (A : Nat → Context → Context → Prop) : Prop where
  unnoticed (n : Nat) : Unnoticed functions (A n)
  push {n : Nat} {c c' : Context} (h : A n c c') : A (n + 1) c.push c'.push
  pop {n : Nat} {c c' : Context} (h : A (n + 1) c c') : A n c.pop c'.pop
  declare (n : Nat) (name : String) (v : Value) : Agrees (A (n + 1)) (changing (·.declare name v))

/-- What the block does to the variables itself keeps the difference. -/
def Admits (A : Context → Context → Prop) : Content → Prop
  | .declaration name _ => ∀ v, Agrees A (changing (·.declare name v))
  | .reassignment name _ => ∀ v, Agrees A (changing (·.reassign name v))
  | _ => True

/-! ### Steps -/

section Steps

variable {A B : Context → Context → Prop} {o o' : String} {α : Type} {setting : Setting}
  {span : Span}

lemma agrees_write (text : String) : Agrees (Parallel A o o') (write text) := by
  rintro s s' ⟨h, t, hs, hs'⟩
  refine ⟨rfl, h, t ++ text, ?_, ?_⟩
  · rw [outcome_write, hs, String.append_assoc]
  · rw [outcome_write, hs', String.append_assoc]

lemma agrees_locate {e : Evaluation α} (he : Agrees A e) :
    Agrees (Parallel A o o') (locate setting span e) := by
  intro s s' h
  obtain ⟨hr, hc⟩ := he _ _ h.1
  rw [outcome_locate, outcome_locate, hr]
  exact ⟨rfl, hc, h.2⟩

lemma agrees_inScope (push : ∀ c c', A c c' → B c.push c'.push)
    (pop : ∀ c c', B c c' → A c.pop c'.pop) {r : Rendering Unit}
    (hr : Agrees (Parallel B o o') r) : Agrees (Parallel A o o') (inScope r) := by
  intro s s' h
  have pushed : Parallel B o o' { s with context := s.context.push }
      { s' with context := s'.context.push } := ⟨push _ _ h.1, h.2⟩
  obtain ⟨he, hs⟩ := hr _ _ pushed
  rw [outcome_inScope, outcome_inScope]
  exact ⟨he, pop _ _ hs.1, hs.2⟩

lemma agrees_eachItem {step : Value → Nat → Rendering Unit}
    (hstep : ∀ v place, Agrees (Parallel A o o') (step v place)) (place : Nat) (vs : List Value) :
    Agrees (Parallel A o o') (eachItem step place vs) := by
  induction vs generalizing place with
  | nil => exact .pure ()
  | cons v vs ih => exact (hstep v place).bind fun _ _ _ _ => ih (place + 1)

/-- A change goes the same way when it is refused with one error, or leaves a difference as
before. -/
lemma agrees_changing {f : Context → Except EvaluationError Context}
    (hf : ∀ c c', A c c' → (∃ error, f c = .error error ∧ f c' = .error error) ∨
      ∃ d d', f c = .ok d ∧ f c' = .ok d' ∧ A d d') : Agrees A (changing f) := by
  intro c c' h
  rw [outcome_changing, outcome_changing]
  rcases hf c c' h with ⟨error, he, he'⟩ | ⟨d, d', hd, hd', hA⟩
  · rw [he, he']
    exact ⟨rfl, h⟩
  · rw [hd, hd']
    exact ⟨rfl, hA⟩

lemma agrees_chooseBranch {functions : Registry} (unnoticed : Unnoticed functions A)
    (otherwise : Option Part) (branches : List Branch) :
    Agrees A (chooseBranch functions otherwise branches) := by
  induction branches with
  | nil => exact .pure otherwise
  | cons b bs ih =>
    rw [chooseBranch]
    refine (unnoticed.evaluate b.condition).bind fun v _ _ _ => ?_
    split
    · exact .pure _
    · exact ih

lemma agrees_items {functions : Registry} (unnoticed : Unnoticed functions A)
    (collection : Expression) : Agrees A (items functions collection) :=
  (unnoticed.evaluate collection).bind fun _ _ _ _ => agrees_ofExcept _

end Steps

/-! ### Blocks -/

namespace Simulation

variable {functions : Registry} {library : Library} {A : Nat → Context → Context → Prop}
  {o o' : String} (sim : Simulation functions A)
include sim

lemma agrees_record (n : Nat) (entry : String) :
    Agrees (Parallel (A n) o o') (mapContext (·.record entry)) :=
  fun _ _ h => ⟨rfl, (sim.unnoticed n).record h.1 entry, h.2⟩

lemma agrees_inScope {n : Nat} {r : Rendering Unit} (hr : Agrees (Parallel (A (n + 1)) o o') r) :
    Agrees (Parallel (A n) o o') (inScope r) :=
  Rendering.agrees_inScope (fun _ _ => sim.push) (fun _ _ => sim.pop) hr

lemma agrees_bindItem (n : Nat) (item : String) (index : Option String) (v : Value) (place : Nat) :
    Agrees (A (n + 1)) (bindItem item index v place) := by
  refine (sim.declare n item v).bind fun _ _ _ _ => ?_
  cases index with
  | none => exact .pure ()
  | some name => exact sim.declare n name _

/-- The rounds of an iteration go the same way when its body does. -/
lemma agrees_itemWithin {n remaining source : Nat} {span : Span} {item : String}
    {index : Option String} {body : Part}
    (hbody : Agrees (Parallel (A (n + 1)) o o')
      (blocksWithin functions library remaining source body.children)) (v : Value) (place : Nat) :
    Agrees (Parallel (A n) o o')
      (itemWithin functions library remaining source span item index body v place) := by
  refine sim.agrees_inScope ?_
  exact (agrees_locate (sim.agrees_bindItem n item index v place)).bind fun _ _ _ _ => hbody

/-- Blocks go the same way when the blocks that they render do. -/
lemma agrees_block {n remaining source : Nat} {b : Block} (own : Admits (A n) b.content)
    (parts : ∀ part ∈ b.content.openParts,
      Agrees (Parallel (A n) o o') (blocksWithin functions library remaining source part.children))
    (body : ∀ part, b.content.body? = some part → Agrees (Parallel (A (n + 1)) o o')
      (blocksWithin functions library remaining source part.children))
    (deeper : ∀ remaining' < remaining, ∀ name p, b.content = .inclusion name →
      library.find? name = some p → Agrees (Parallel (A (n + 1)) o o')
        (blocksWithin functions library remaining' p.template.source p.template.blocks)) :
    Agrees (Parallel (A n) o o') (blockWithin functions library remaining source b) := by
  obtain ⟨signature, span, content⟩ := b
  have unnoticed := sim.unnoticed n
  have part (p : Option Part) (hp : ∀ q ∈ p, q ∈ content.openParts) :
      Agrees (Parallel (A n) o o') (partWithin functions library remaining source p) := by
    cases p with
    | none => exact .pure ()
    | some q => exact parts q (hp q rfl)
  cases content with
  | inclusion name =>
    cases hp : library.find? name with
    | none =>
      rw [blockWithin_unknown hp]
      exact .throw _
    | some p =>
      cases remaining with
      | zero =>
        rw [blockWithin_tooDeep hp]
        exact .throw _
      | succ remaining =>
        rw [blockWithin_inclusion hp]
        refine (sim.agrees_record n _).bind fun _ _ _ _ => sim.agrees_inScope ?_
        exact deeper remaining (Nat.lt_succ_self remaining) name p rfl hp
  | conditional branches otherwise =>
    rw [blockWithin_conditional]
    refine (agrees_locate (agrees_chooseBranch unnoticed otherwise branches)).bind ?_
    intro chosen s s' h
    obtain ⟨c, chooses, -⟩ := of_outcome_locate h
    refine part chosen fun q hq => ?_
    rw [hq] at chooses
    exact mem_of_chooseBranch chooses
  | iteration item index collection body' empty =>
    rw [blockWithin_iteration]
    refine (agrees_locate (agrees_items unnoticed collection)).bind fun vs _ _ _ => ?_
    split
    · exact part empty fun q hq => Option.mem_toList.2 hq
    · exact agrees_eachItem (sim.agrees_itemWithin (body body' rfl)) 0 vs
  | literal =>
    rw [blockWithin_literal]
    exact agrees_write signature
  | comment text =>
    rw [blockWithin_comment]
    exact .pure ()
  | directive flag =>
    rw [blockWithin_directive]
    exact .pure ()
  | binding e =>
    rw [blockWithin_binding]
    exact (agrees_locate (unnoticed.evaluate e)).bind fun v _ _ _ => agrees_write v.display
  | call name arguments =>
    rw [blockWithin_call, blockWithin_binding]
    exact (agrees_locate (unnoticed.evaluate (.call name arguments))).bind fun v _ _ _ =>
      agrees_write v.display
  | declaration name e =>
    rw [blockWithin_declaration]
    refine agrees_locate ((unnoticed.evaluate e).bind fun v _ _ _ => ?_)
    exact Agrees.bind (fun c c' h => ⟨rfl, unnoticed.record h _⟩) fun _ _ _ _ => own v
  | reassignment name e =>
    rw [blockWithin_reassignment]
    refine agrees_locate ((unnoticed.evaluate e).bind fun v _ _ _ => ?_)
    exact Agrees.bind (fun c c' h => ⟨rfl, unnoticed.record h _⟩) fun _ _ _ _ => own v

/-- Blocks go the same way when all that their rendering can come to keeps the difference, as it is
where so many scopes are open. -/
theorem agrees_blocks {n : Nat} {bs : List Block}
    (admits : ∀ m b, library.Leads b m n bs → Admits (A m) b.content) (remaining source : Nat) :
    Agrees (Parallel (A n) o o') (blocksWithin functions library remaining source bs) := by
  -- Partials lie less deep; within one source the trees get smaller.
  induction remaining using Nat.strongRecOn generalizing n source bs with
  | ind remaining deeper =>
    induction bs using Block.tree_induction generalizing n with
    | nil =>
      rw [blocksWithin_nil]
      exact .pure ()
    | cons b bs parts rest =>
      rw [blocksWithin_cons]
      have first : Agrees (Parallel (A n) o o')
          (blockWithin functions library remaining source b) := by
        refine sim.agrees_block (admits n b (.here (.head bs))) ?_ ?_ ?_
        · intro part hpart
          exact parts part (Content.mem_parts_of_openParts hpart) fun m d hd =>
            admits m d (.part (.head bs) hpart hd)
        · intro part hpart
          exact parts part (Content.mem_parts_of_body? hpart) fun m d hd =>
            admits m d (.body (.head bs) hpart hd)
        · intro remaining' hlt name p names found
          exact deeper remaining' hlt (fun m d hd =>
            admits m d (.inclusion (.head bs) names found hd)) p.template.source
      refine first.bind fun _ _ _ _ => rest fun m d hd => ?_
      exact admits m d (hd.mono (List.subset_cons_self b bs))

end Simulation

end Stencil.Rendering
