import Stencil.Proofs.Evaluation.Steps
import Stencil.Render.Output

/-!
What renderings are made of. The rendering of a block is a sequence of few steps: text is written,
an expression is evaluated, a variable is changed, and blocks that lie deeper are rendered. Here
each kind of block is written as such a sequence, so that a property of renderings needs to be shown
for the steps only.
-/

namespace Stencil.Rendering

/-! ### Steps -/

section Steps

variable {setting : Setting} {span : Span} {α β : Type}

@[simp] lemma outcome_write (text : String) (s : Progress) :
    outcome (write text) s = (.ok (), { s with output := s.output ++ text }) := rfl

lemma outcome_locate (e : Evaluation α) (s : Progress) :
    outcome (locate setting span e) s =
      ((outcome e s.context).1.mapError fun error => ⟨error, span, setting.source⟩,
        { s with context := (outcome e s.context).2 }) := rfl

lemma outcome_locate_ok {e : Evaluation α} {s : Progress} {a : α} {c : Context}
    (h : outcome e s.context = (.ok a, c)) :
    outcome (locate setting span e) s = (.ok a, { s with context := c }) := by
  rw [outcome_locate, h]
  rfl

lemma outcome_locate_error {e : Evaluation α} {s : Progress} {error : EvaluationError} {c : Context}
    (h : outcome e s.context = (.error error, c)) :
    outcome (locate setting span e) s =
      (.error ⟨error, span, setting.source⟩, { s with context := c }) := by
  rw [outcome_locate, h]
  rfl

/-- A located step has a value when the evaluation does. -/
lemma of_outcome_locate {e : Evaluation α} {s s' : Progress} {a : α}
    (h : outcome (locate setting span e) s = (.ok a, s')) :
    ∃ c, outcome e s.context = (.ok a, c) ∧ s' = { s with context := c } := by
  rcases outcome_cases e s.context with ⟨b, c, he⟩ | ⟨error, c, he⟩
  · rw [outcome_locate_ok he] at h
    cases h
    exact ⟨c, he, rfl⟩
  · rw [outcome_locate_error he] at h
    cases h

/-- Evaluations one after the other may be located one after the other. -/
lemma locate_bind (e : Evaluation α) (k : α → Evaluation β) :
    locate setting span (e >>= k) =
      locate setting span e >>= fun a => locate setting span (k a) := by
  refine outcome_ext fun s => ?_
  rcases outcome_cases e s.context with ⟨a, c, he⟩ | ⟨error, c, he⟩
  · rw [outcome_bind_ok (outcome_locate_ok he), outcome_locate, outcome_locate,
      outcome_bind_ok he]
  · rw [outcome_bind_error (outcome_locate_error he), outcome_locate_error]
    exact outcome_bind_error he

lemma locate_pure (a : α) : locate setting span (pure a) = pure a := rfl

lemma outcome_changing (f : Context → Except EvaluationError Context) (c : Context) :
    outcome (changing f) c = match f c with
      | .ok c' => (.ok (), c')
      | .error error => (.error error, c) := by
  rw [show changing f = (Evaluation.reading f >>= fun c' => set c') from rfl, outcome_bind,
    Evaluation.outcome_reading]
  cases f c <;> rfl

lemma outcome_inScope (r : Rendering Unit) (s : Progress) :
    outcome (inScope r) s =
      ((outcome r { s with context := s.context.push }).1,
        { (outcome r { s with context := s.context.push }).2 with
          context := (outcome r { s with context := s.context.push }).2.context.pop }) := rfl

@[simp] lemma eachItem_nil (step : Value → Nat → Rendering Unit) (place : Nat) :
    eachItem step place [] = pure () := rfl

lemma eachItem_cons (step : Value → Nat → Rendering Unit) (place : Nat) (v : Value)
    (vs : List Value) :
    eachItem step place (v :: vs) = step v place >>= fun _ => eachItem step (place + 1) vs := rfl

/-- After the first items the others go on from the place that is reached. -/
lemma eachItem_append {step : Value → Nat → Rendering Unit} {place : Nat} {vs ws : List Value}
    {s s' : Progress} (h : outcome (eachItem step place vs) s = (.ok (), s')) :
    outcome (eachItem step place (vs ++ ws)) s =
      outcome (eachItem step (place + vs.length) ws) s' := by
  induction vs generalizing place s with
  | nil =>
    cases h
    rfl
  | cons v vs ih =>
    rw [List.cons_append, eachItem_cons] at *
    rcases outcome_cases (step v place) s with ⟨u, t, hv⟩ | ⟨f, t, hv⟩
    · rw [outcome_bind_ok hv] at h ⊢
      rw [ih h, List.length_cons, Nat.add_right_comm]
      rfl
    · rw [outcome_bind_error hv] at h
      cases h

/-- Induction on the items that are left of a loop: each is looked at with the state that the items
before it leave. -/
lemma eachItem_induction (step : Value → Nat → Rendering Unit) {vs : List Value} {s : Progress}
    {P : Nat → List Value → Progress → Prop} (nil : ∀ place s', P place [] s')
    (cons : ∀ done v later s', vs = done ++ v :: later →
      outcome (eachItem step 0 done) s = (.ok (), s') →
      (∀ s'', outcome (step v done.length) s' = (.ok (), s'') → P (done.length + 1) later s'') →
      P done.length (v :: later) s') :
    P 0 vs s := by
  suffices h : ∀ later done s', vs = done ++ later →
      outcome (eachItem step 0 done) s = (.ok (), s') → P done.length later s' from
    h vs [] s rfl rfl
  intro later
  induction later with
  | nil => exact fun done s' _ _ => nil done.length s'
  | cons v later ih =>
    refine fun done s' hvs before => cons done v later s' hvs before fun s'' hv => ?_
    have before' : outcome (eachItem step 0 (done ++ [v])) s = (.ok (), s'') := by
      rw [eachItem_append before, Nat.zero_add]
      exact outcome_bind_ok hv
    simpa using ih (done ++ [v]) s'' (by simp [hvs]) before'

/-- When one of the first items fails, the others are not come to. -/
lemma eachItem_append_error {step : Value → Nat → Rendering Unit} {place : Nat}
    {vs ws : List Value} {s s' : Progress} {f : Render.Fault}
    (h : outcome (eachItem step place vs) s = (.error f, s')) :
    outcome (eachItem step place (vs ++ ws)) s = (.error f, s') := by
  induction vs generalizing place s with
  | nil => cases h
  | cons v vs ih =>
    rw [List.cons_append, eachItem_cons] at *
    rcases outcome_cases (step v place) s with ⟨u, t, hv⟩ | ⟨f', t, hv⟩
    · rw [outcome_bind_ok hv] at h ⊢
      exact ih h
    · rw [outcome_bind_error hv] at h ⊢
      exact h

/-- Rounds that do not depend on the place may begin at any place. -/
lemma eachItem_of_const {step : Value → Nat → Rendering Unit}
    (hstep : ∀ v place place', step v place = step v place') (place place' : Nat)
    (vs : List Value) : eachItem step place vs = eachItem step place' vs := by
  induction vs generalizing place place' with
  | nil => rfl
  | cons v vs ih => rw [eachItem_cons, eachItem_cons, hstep v place place', ih]

end Steps

/-! ### Blocks -/

/-- The part of a conditional that its conditions choose. -/
def chooseBranch (functions : Registry) (otherwise : Option Part) :
    List Branch → Evaluation (Option Part)
  | [] => pure otherwise
  | b :: bs => do
    let v ← b.condition.evaluate functions
    if v.isTruthy then pure (some b.part) else chooseBranch functions otherwise bs

/-- The items that an iteration goes through. -/
def items (functions : Registry) (collection : Expression) : Evaluation (List Value) := do
  Evaluation.ofExcept (itemsOf (← collection.evaluate functions))

section Blocks

variable (functions : Registry) (library : Library)

/-- The rendering of partials, when they may lie so much deeper within each other. -/
def inclusionWithin : Nat → Inclusion
  | 0 => none
  | remaining + 1 =>
    some fun p => blocksWithin functions library remaining p.template.source p.template.blocks

/-- Renders a block in which partials may lie so much deeper within each other. -/
def blockWithin (remaining source : Nat) (b : Block) : Rendering Unit :=
  block ⟨functions, library, source⟩ (inclusionWithin functions library remaining) b

/-- Renders a part, if there is one. -/
def partWithin (remaining source : Nat) : Option Part → Rendering Unit
  | none => pure ()
  | some p => blocksWithin functions library remaining source p.children

/-- Renders the body of an iteration for an item at a place. -/
def itemWithin (remaining source : Nat) (span : Span) (item : String) (index : Option String)
    (body : Part) (v : Value) (place : Nat) : Rendering Unit :=
  inScope do
    locate ⟨functions, library, source⟩ span (bindItem item index v place)
    partWithin functions library remaining source (some body)

variable {functions library} {remaining source : Nat} {signature : String} {span : Span}

lemma blocksWithin_eq (remaining source : Nat) (bs : List Block) :
    blocksWithin functions library remaining source bs =
      blocks ⟨functions, library, source⟩ (inclusionWithin functions library remaining) bs := by
  cases remaining <;> rfl

@[simp] lemma blocksWithin_nil (remaining source : Nat) :
    blocksWithin functions library remaining source [] = pure () := by
  rw [blocksWithin_eq]
  rfl

lemma blocksWithin_cons (remaining source : Nat) (b : Block) (bs : List Block) :
    blocksWithin functions library remaining source (b :: bs) =
      blockWithin functions library remaining source b >>= fun _ =>
        blocksWithin functions library remaining source bs := by
  rw [blocksWithin_eq, blocksWithin_eq]
  rfl

@[simp] lemma blocksWithin_singleton (remaining source : Nat) (b : Block) :
    blocksWithin functions library remaining source [b] =
      blockWithin functions library remaining source b := by
  rw [blocksWithin_cons, blocksWithin_nil]
  exact bind_pure_unit

lemma part_eq (remaining source : Nat) (p : Part) :
    part ⟨functions, library, source⟩ (inclusionWithin functions library remaining) p =
      partWithin functions library remaining source (some p) := by
  obtain ⟨body, children, span⟩ := p
  rw [partWithin, blocksWithin_eq]
  rfl

lemma optionalPart_eq (remaining source : Nat) (p : Option Part) :
    optionalPart ⟨functions, library, source⟩ (inclusionWithin functions library remaining) p =
      partWithin functions library remaining source p := by
  cases p with
  | none => rfl
  | some p => exact part_eq remaining source p

lemma blockWithin_literal :
    blockWithin functions library remaining source (.mk signature span .literal) =
      write signature := rfl

lemma blockWithin_comment (text : String) :
    blockWithin functions library remaining source (.mk signature span (.comment text)) =
      pure () := rfl

lemma blockWithin_directive (flag : Flag) :
    blockWithin functions library remaining source (.mk signature span (.directive flag)) =
      pure () := rfl

lemma blockWithin_binding (e : Expression) :
    blockWithin functions library remaining source (.mk signature span (.binding e)) =
      locate ⟨functions, library, source⟩ span (e.evaluate functions) >>= fun v =>
        write v.display := rfl

lemma blockWithin_call (name : String) (arguments : List Expression) :
    blockWithin functions library remaining source (.mk signature span (.call name arguments)) =
      blockWithin functions library remaining source
        (.mk signature span (.binding (.call name arguments))) := rfl

lemma blockWithin_declaration (name : String) (e : Expression) :
    blockWithin functions library remaining source (.mk signature span (.declaration name e)) =
      locate ⟨functions, library, source⟩ span (e.evaluate functions >>= fun v =>
        modify (·.record s!"declared {name} = '{v.display}'") >>= fun _ =>
          changing (·.declare name v)) := rfl

lemma blockWithin_reassignment (name : String) (e : Expression) :
    blockWithin functions library remaining source (.mk signature span (.reassignment name e)) =
      locate ⟨functions, library, source⟩ span (e.evaluate functions >>= fun v =>
        modify (·.record s!"reassigned {name} = '{v.display}'") >>= fun _ =>
          changing (·.reassign name v)) := rfl

/-- A conditional first chooses a part, and then renders it. -/
lemma blockWithin_conditional (branches : List Branch) (otherwise : Option Part) :
    blockWithin functions library remaining source
        (.mk signature span (.conditional branches otherwise)) =
      locate ⟨functions, library, source⟩ span (chooseBranch functions otherwise branches) >>=
        partWithin functions library remaining source := by
  rw [blockWithin, block, contentOf, optionalPart_eq]
  induction branches with
  | nil =>
    rw [branchesOf, chooseBranch, locate_pure]
    rfl
  | cons b bs ih =>
    obtain ⟨condition, p⟩ := b
    rw [branchesOf, branch, ih, chooseBranch, locate_bind, part_eq, bind_assoc]
    refine bind_congr fun v => ?_
    split
    · rw [locate_pure, pure_bind]
      rfl
    · rfl

/-- An iteration first finds its items. -/
lemma blockWithin_iteration (item : String) (index : Option String) (collection : Expression)
    (body : Part) (empty : Option Part) :
    blockWithin functions library remaining source
        (.mk signature span (.iteration item index collection body empty)) =
      locate ⟨functions, library, source⟩ span (items functions collection) >>= fun vs =>
        if vs.isEmpty then partWithin functions library remaining source empty
        else eachItem (itemWithin functions library remaining source span item index body) 0
          vs := by
  rw [blockWithin, block, contentOf, optionalPart_eq]
  simp only [part_eq]
  rfl

/-- The place of a partial is taken by the blocks of the one that is found, if it may lie there. -/
lemma blockWithin_partial (name : String) :
    blockWithin functions library remaining source (.mk signature span (.inclusion name)) =
      match library.find? name, remaining with
      | none, _ => throw ⟨.unknownPartial name, span, source⟩
      | some _, 0 => throw ⟨.tooDeep depthLimit, span, source⟩
      | some p, remaining + 1 =>
        mapContext (·.record s!"rendered partial '{p.name}'") >>= fun _ =>
          inScope (blocksWithin functions library remaining p.template.source
            p.template.blocks) := by
  change includePartial ⟨functions, library, source⟩ (inclusionWithin functions library remaining)
    span name = _
  cases h : library.find? name with
  | none => simp only [includePartial, h]
  | some p => cases remaining <;> simp only [includePartial, h, inclusionWithin]

lemma blockWithin_unknown {name : String} (h : library.find? name = none) :
    blockWithin functions library remaining source (.mk signature span (.inclusion name)) =
      throw ⟨.unknownPartial name, span, source⟩ := by
  rw [blockWithin_partial, h]

lemma blockWithin_tooDeep {name : String} {p : Partial} (h : library.find? name = some p) :
    blockWithin functions library 0 source (.mk signature span (.inclusion name)) =
      throw ⟨.tooDeep depthLimit, span, source⟩ := by
  rw [blockWithin_partial, h]

/-- A partial is rendered in a scope of its own. -/
lemma blockWithin_inclusion {name : String} {p : Partial} (h : library.find? name = some p) :
    blockWithin functions library (remaining + 1) source (.mk signature span (.inclusion name)) =
      mapContext (·.record s!"rendered partial '{p.name}'") >>= fun _ =>
        inScope (blocksWithin functions library remaining p.template.source p.template.blocks) := by
  rw [blockWithin_partial, h]

end Blocks

end Stencil.Rendering

namespace Stencil.Template

/-- What the rendering of the blocks of a template comes to, and what it has made. -/
def run (t : Template) (flags : List Flag) (functions : Registry) (library : Library)
    (model : Value) : Except Render.Fault Unit × Progress :=
  outcome (Rendering.blocksAt functions library 0 t.source t.blocks) ⟨.initial model flags, ""⟩

variable {t : Template} {flags : List Flag} {functions : Registry} {library : Library}
  {model : Value} {micros : Nat}

lemma renderWith_ok (h : (t.run flags functions library model).1 = .ok ()) :
    t.renderWith flags functions library model micros =
      let s := (t.run flags functions library model).2
      .ok (if flags.contains .debug then s.output ++ "\n\n" ++ s.context.debugInfo micros
        else s.output) := by
  change Except.map _ (t.run flags functions library model).1 = _
  rw [h]
  rfl

lemma renderWith_error {f : Render.Fault} :
    t.renderWith flags functions library model micros = .error f ↔
      (t.run flags functions library model).1 = .error f := by
  change Except.map _ (t.run flags functions library model).1 = _ ↔ _
  cases (t.run flags functions library model).1 <;> simp [Except.map]

end Stencil.Template
