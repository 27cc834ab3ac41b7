import Stencil.Proofs.Render.Chains
import Stencil.Proofs.Render.Faults
import Stencil.Proofs.Render.Machine

/-!
How deep partials lie within each other. With each place that a rendering comes to, the partials are
kept that are in progress there. They are a chain in the trees, and as many as the depth that has
been used up; so the place where partials lie too deep is one where as many are in progress as there
may be.
-/

namespace Stencil

/-- The partial whose tag the block is. -/
def Block.partial? (library : Library) (b : Block) : Option Partial :=
  match b.content with
  | .inclusion name => library.find? name
  | _ => none

lemma Block.partial?_eq_some {library : Library} {b : Block} {p : Partial} :
    b.partial? library = some p ↔
      ∃ name, b.content = .inclusion name ∧ library.find? name = some p := by
  unfold partial?
  cases b.content <;> simp

namespace Rendering

open Render

variable (functions : Registry) (library : Library)

/-- The rendering of the blocks at the first site comes to render those at the second one, while the
partials are in progress, the outermost first. -/
inductive ComesTo : Site → List Block → List Partial → Site → List Block → Prop
  | start {x : Site} {bs : List Block} : ComesTo x bs [] x bs
  | inside {x y z : Site} {b : Block} {bs cs ds : List Block} {ps : List Partial}
      (enters : Enters functions library x b y cs) (comes : ComesTo y cs ps z ds) :
      ComesTo x (b :: bs) ((b.partial? library).toList ++ ps) z ds
  | later {x z : Site} {b : Block} {bs ds : List Block} {ps : List Partial} {s : Progress}
      (before : outcome (blockWithin functions library x.remaining x.source b) x.progress =
        (.ok (), s))
      (comes : ComesTo ⟨x.remaining, x.source, s⟩ bs ps z ds) : ComesTo x (b :: bs) ps z ds

variable {functions library}

section Places

variable {x y z : Site} {b : Block} {bs cs : List Block} {ps : List Partial}

/-- The tag of a partial uses up one of the depth, other blocks none. -/
lemma Enters.remaining_add (h : Enters functions library x b y cs) :
    y.remaining + (b.partial? library).toList.length = x.remaining := by
  cases h with
  | inclusion found =>
    rw [Block.partial?_eq_some.2 ⟨_, rfl, found⟩]
    rfl
  | _ => rfl

/-- A chain in what a block renders goes on from the partial whose tag the block is. -/
lemma Enters.chain (h : Enters functions library x b y cs) (hps : library.Chain cs ps) :
    library.Chain (b :: bs) ((b.partial? library).toList ++ ps) := by
  cases h with
  | inclusion found =>
    rw [Block.partial?_eq_some.2 ⟨_, rfl, found⟩]
    exact .cons (.top (.head bs)) rfl found hps
  | chosen chooses => exact hps.of_part (.head bs) (mem_of_chooseBranch chooses)
  | empty finds => exact hps.of_part (.head bs) (.tail _ (.head _))
  | item finds before binds => exact hps.of_part (.head bs) (.head _)

namespace ComesTo

lemma remaining_add (h : ComesTo functions library x bs ps z cs) :
    z.remaining + ps.length = x.remaining := by
  induction h with
  | start => rfl
  | later _ _ ih => exact ih
  | inside enters _ ih =>
    rw [← enters.remaining_add, ← ih, List.length_append]
    omega

/-- The partials in progress are a chain, which a tag that is come to goes on with. -/
lemma chain (h : ComesTo functions library x bs ps z (b :: cs)) {p : Partial}
    (hp : b.partial? library = some p) : library.Chain bs (ps ++ [p]) := by
  obtain ⟨name, names, found⟩ := Block.partial?_eq_some.1 hp
  generalize hds : b :: cs = ds at h
  induction h with
  | start =>
    subst hds
    exact .cons (.top (.head cs)) names found (.nil _)
  | inside enters _ ih =>
    rw [List.append_assoc]
    exact enters.chain (ih hds)
  | later _ _ ih => exact (ih hds).tail

end ComesTo

/-- With a block that is reached, there are partials in progress. -/
lemma Reaches.comesTo (h : Reaches functions library x bs z b) :
    ∃ ps cs, ComesTo functions library x bs ps z (b :: cs) := by
  induction h with
  | here => exact ⟨_, _, .start⟩
  | inside enters _ ih =>
    obtain ⟨ps, cs, comes⟩ := ih
    exact ⟨_, cs, .inside enters comes⟩
  | later before _ ih =>
    obtain ⟨ps, cs, comes⟩ := ih
    exact ⟨ps, cs, .later before comes⟩

end Places

/-! ### Faults on the way -/

lemma error_bind {α β : Type} {m : Rendering α} {k : α → Rendering β} {s : Progress} {f : Fault}
    (h : (outcome m s).1 = .error f) : (outcome (m >>= k) s).1 = .error f := by
  obtain ⟨a, s', hm⟩ | ⟨f', s', hm⟩ := outcome_cases m s
  · rw [hm] at h
    cases h
  · rw [hm] at h
    cases h
    rw [outcome_bind_error hm]

/-- A block fails when blocks fail that it enters. -/
lemma Enters.error {x y : Site} {b : Block} {cs : List Block} {f : Fault}
    (h : Enters functions library x b y cs)
    (hf : (outcome (blocksWithin functions library y.remaining y.source cs) y.progress).1 =
      .error f) :
    (outcome (blockWithin functions library x.remaining x.source b) x.progress).1 = .error f := by
  cases h with
  | chosen chooses =>
    rw [blockWithin_conditional, outcome_bind_ok (outcome_locate_ok chooses)]
    exact hf
  | empty finds =>
    rw [blockWithin_iteration, outcome_bind_ok (outcome_locate_ok finds)]
    exact hf
  | item finds before binds =>
    rw [blockWithin_iteration, outcome_bind_ok (outcome_locate_ok finds), if_neg (by simp)]
    refine (congrArg Prod.fst (eachItem_append before)).trans ?_
    rw [eachItem_cons, Nat.zero_add]
    refine error_bind ?_
    rw [itemWithin, outcome_inScope, outcome_bind_ok (outcome_locate_ok binds)]
    exact hf
  | inclusion found =>
    rw [blockWithin_inclusion found]
    exact hf

/-- A fault where a rendering comes to is the fault of the rendering. -/
lemma ComesTo.error {x z : Site} {bs cs : List Block} {ps : List Partial} {f : Fault}
    (h : ComesTo functions library x bs ps z cs)
    (hf : (outcome (blocksWithin functions library z.remaining z.source cs) z.progress).1 =
      .error f) :
    (outcome (blocksWithin functions library x.remaining x.source bs) x.progress).1 = .error f := by
  induction h with
  | start => exact hf
  | inside enters _ ih =>
    rw [blocksWithin_cons]
    exact error_bind (enters.error (ih hf))
  | later before _ ih =>
    rw [blocksWithin_cons, outcome_bind_ok before]
    exact ih hf

/-! ### Partials that lie too deep -/

lemma not_ofExpression_tooDeep {limit : Nat} : ¬ (EvaluationError.tooDeep limit).OfExpression := by
  intro h
  cases h

/-- The block is the tag of a partial, where partials may lie no deeper. -/
def AtLimit (library : Library) (z : Site) (b : Block) : Prop :=
  z.remaining = 0 ∧ ∃ p, b.partial? library = some p

/-- A block does not fail because partials lie too deep, unless blocks that it enters do, or it is
the tag of a partial where partials may lie no deeper. -/
lemma fails_tooDeep_block {x : Site} {b : Block} {bs : List Block}
    (inner : ∀ y cs, Enters functions library x b y cs →
      Confined (fun _ => True)
        (fun f => ∀ limit, f.error = .tooDeep limit →
          Meets functions library x (b :: bs) (AtLimit library))
        (blocksWithin functions library y.remaining y.source cs) y.progress) :
    Confined (fun _ => True)
      (fun f => ∀ limit, f.error = .tooDeep limit →
        Meets functions library x (b :: bs) (AtLimit library))
      (blockWithin functions library x.remaining x.source b) x.progress := by
  obtain ⟨signature, span, content⟩ := b
  cases content with
  | inclusion name =>
    obtain ⟨remaining, source, s⟩ := x
    cases hp : library.find? name with
    | none =>
      rw [blockWithin_unknown hp]
      exact .throw nofun
    | some p =>
      cases remaining with
      | zero =>
        rw [blockWithin_tooDeep hp]
        exact .throw fun _ _ => .here ⟨rfl, p, hp⟩
      | succ remaining =>
        rw [blockWithin_inclusion hp]
        refine .bind (.record _) fun u s' h => .inScope ?_
        cases h
        exact inner _ _ (.inclusion hp)
  | iteration item index collection body empty =>
    refine confined_iteration ?_ nofun inner
    rintro error (h | ⟨given, rfl⟩) limit hlimit
    · cases hlimit
      exact absurd h not_ofExpression_tooDeep
    · cases hlimit
  | _ =>
    refine confined_block (fun _ _ _ => trivial) (fun error h limit hlimit => ?_) inner
    subst hlimit
    obtain ⟨-, name, hname⟩ := (h trivial).inclusion_of_tooDeep
    cases hname

/-- Renderings fail because partials lie too deep only where they come to the tag of a partial and
partials may lie no deeper. -/
lemma fails_tooDeep (functions : Registry) (library : Library) (x : Site) (bs : List Block) :
    Confined (fun _ => True)
      (fun f => ∀ limit, f.error = .tooDeep limit → Meets functions library x bs (AtLimit library))
      (blocksWithin functions library x.remaining x.source bs) x.progress := by
  induction x, bs using run_induction functions library with
  | nil x =>
    rw [blocksWithin_nil]
    exact .pure ()
  | cons x b bs inner rest =>
    rw [blocksWithin_cons]
    refine .bind (fails_tooDeep_block fun y cs enters => ?_) fun u s' before => ?_
    · refine (inner y cs enters).mono (fun _ h => h) ?_
      exact fun f h limit hf => .inside enters (h limit hf)
    · refine (rest s' before).mono (fun _ h => h) ?_
      exact fun f h limit hf => .later before (h limit hf)

/-- Where partials may lie no deeper, the tag of a partial fails. -/
lemma error_of_atLimit {z : Site} {b : Block} (h : AtLimit library z b) (bs : List Block) :
    (outcome (blocksWithin functions library z.remaining z.source (b :: bs)) z.progress).1 =
      .error ⟨.tooDeep depthLimit, b.span, z.source⟩ := by
  obtain ⟨hz, p, hp⟩ := h
  obtain ⟨signature, span, content⟩ := b
  obtain ⟨name, names, found⟩ := Block.partial?_eq_some.1 hp
  obtain rfl : content = .inclusion name := names
  rw [blocksWithin_cons, hz, blockWithin_tooDeep found]
  exact error_bind rfl

end Rendering

namespace Engine

open Rendering

/-- **The depth of partials.** For any engine, template and model: rendering comes to an end, which
is to say that the machine, which does not know of any bound but the depth, is done after finitely
many steps with what the engine returns; partials never lie within each other more than
`depthLimit` deep, neither among what the machine is left with nor where the rendering comes to;
rendering fails because they would, just when it comes to the tag of a partial that there is while
as many are in progress; and it never does when no chain of tags through the partials is longer. -/
theorem render_depth (e : Engine) (t : Template) (model : Value) (micros : Nat) :
    let start : Progress := ⟨.initial model t.flags, ""⟩
    let site : Site := ⟨depthLimit, t.source, start⟩
    (∃ k r s, (∀ n, k ≤ n →
        runFor e.functions e.library n (blockTasks 0 t.source t.blocks) start = some (r, s)) ∧
      e.render t model micros = r.map fun _ =>
        if t.flags.contains .debug then s.output ++ "\n\n" ++ s.context.debugInfo micros
        else s.output) ∧
    (∀ tasks s, Advances e.functions e.library (blockTasks 0 t.source t.blocks) start tasks s →
      ∀ task ∈ tasks, task.Within depthLimit) ∧
    (∀ ps z bs, ComesTo e.functions e.library site t.blocks ps z bs → ps.length ≤ depthLimit) ∧
    ((∃ f limit, e.render t model micros = .error f ∧ f.error = .tooDeep limit) ↔
      ∃ ps z b bs p, ComesTo e.functions e.library site t.blocks ps z (b :: bs) ∧
        b.partial? e.library = some p ∧ ps.length = depthLimit) ∧
    ((∀ ps, e.library.Chain t.blocks ps → ps.length ≤ depthLimit) →
      ∀ f limit, e.render t model micros = .error f → f.error ≠ .tooDeep limit) := by
  intro start site
  have reached {f : Render.Fault} {limit : Nat} (hf : e.render t model micros = .error f)
      (deep : f.error = .tooDeep limit) :
      ∃ ps z b bs p, ComesTo e.functions e.library site t.blocks ps z (b :: bs) ∧
        b.partial? e.library = some p ∧ ps.length = depthLimit := by
    have hrun := Template.renderWith_error.1 hf
    obtain ⟨z, b, reaches, hz, p, hp⟩ :=
      (fails_tooDeep e.functions e.library site t.blocks).fails f hrun limit deep
    obtain ⟨ps, bs, comes⟩ := reaches.comesTo
    have hlength := comes.remaining_add
    exact ⟨ps, z, b, bs, p, comes, hp, by rw [hz, Nat.zero_add] at hlength; exact hlength⟩
  refine ⟨?_, ?_, fun ps z bs comes => ?_, ⟨fun ⟨f, limit, hf, deep⟩ => reached hf deep, ?_⟩, ?_⟩
  · obtain ⟨k, hk⟩ := runFor_blockTasks e.functions e.library 0 t.source t.blocks start
    exact ⟨k, _, _, hk, rfl⟩
  · intro tasks s advances
    exact advances.within (within_blockTasks (Nat.zero_le _) t.blocks)
  · have hlength : z.remaining + ps.length = depthLimit := comes.remaining_add
    omega
  · rintro ⟨ps, z, b, bs, p, comes, hp, hlength⟩
    have hz : z.remaining = 0 := by
      have hadd : z.remaining + ps.length = depthLimit := comes.remaining_add
      omega
    have hrun := comes.error (error_of_atLimit ⟨hz, p, hp⟩ bs)
    exact ⟨_, depthLimit, Template.renderWith_error.2 hrun, rfl⟩
  · intro bounded f limit hf deep
    obtain ⟨ps, z, b, bs, p, comes, hp, hlength⟩ := reached hf deep
    have hchain := bounded _ (comes.chain hp)
    rw [List.length_append, List.length_singleton] at hchain
    omega

/-- A partial that includes itself. -/
def again : Partial where
  name := "again"
  text := "{{> Again}}"
  template := ⟨[.mk "{{> Again}}" ⟨0, 11⟩ (.inclusion "Again")], 1⟩

theorem render_depth_again :
    let e : Engine := ⟨.empty, ⟨[again]⟩⟩
    let t : Template := ⟨[.mk "{{> AGAIN}}" ⟨0, 11⟩ (.inclusion "AGAIN")], 0⟩
    let site : Site := ⟨depthLimit, t.source, ⟨.initial .null t.flags, ""⟩⟩
    e.render t .null 0 = .error ⟨.tooDeep 64, ⟨0, 11⟩, 1⟩ ∧
      ∃ ps z b bs p, ComesTo e.functions e.library site t.blocks ps z (b :: bs) ∧
        b.partial? e.library = some p ∧ ps.length = depthLimit := by
  intro e t site
  have hf : e.render t .null 0 = .error ⟨.tooDeep 64, ⟨0, 11⟩, 1⟩ := by
    decide +kernel
  exact ⟨hf, (render_depth e t .null 0).2.2.2.1.1 ⟨_, 64, hf, rfl⟩⟩

end Engine

end Stencil
