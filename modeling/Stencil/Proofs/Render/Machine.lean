import Stencil.Proofs.Render.Reach

/-!
Renderings come to an end. A machine renders step by step: it takes the first of the tasks that are
left, does what can be done at once, and puts what remains of it in its place. It counts how many
partials lie around a block, upwards from none, and looks at the number before it goes into a
partial; nothing else bounds what it does. After finitely many steps it is done, however partials
include each other, and it has come to what the rendering comes to.
-/

namespace Stencil.Rendering

open Render

/-- What the machine can be left with. -/
inductive Task where
  /-- Renders a block of a source that lies within so many partials. -/
  | block (depth source : Nat) (b : Block)
  /-- Declares the variables of an iteration for an item. -/
  | bind (source : Nat) (span : Span) (item : String) (index : Option String) (v : Value)
      (place : Nat)
  | openScope
  | closeScope

def blockTasks (depth source : Nat) (bs : List Block) : List Task := bs.map (.block depth source)

def partTasks (depth source : Nat) (part : Option Part) : List Task :=
  blockTasks depth source (part.elim [] Part.children)

/-- The rounds of an iteration, from a place on. -/
def itemTasks (depth source : Nat) (span : Span) (item : String) (index : Option String)
    (body : Part) : Nat → List Value → List Task
  | _, [] => []
  | place, v :: vs =>
    .openScope :: .bind source span item index v place :: blockTasks depth source body.children ++
      .closeScope :: itemTasks depth source span item index body (place + 1) vs

/-- Begins a task, and returns the tasks that remain of it. -/
def Task.begin (functions : Registry) (library : Library) : Task → Rendering (List Task)
  | .block depth source (.mk signature span content) =>
    match content with
    | .inclusion name =>
      match library.find? name with
      | none => throw ⟨.unknownPartial name, span, source⟩
      | some p =>
        if depthLimit ≤ depth then throw ⟨.tooDeep depthLimit, span, source⟩
        else do
          mapContext (·.record s!"rendered partial '{p.name}'")
          pure (.openScope :: blockTasks (depth + 1) p.template.source p.template.blocks ++
            [.closeScope])
    | .conditional branches otherwise => do
      let chosen ← locate ⟨functions, library, source⟩ span
        (chooseBranch functions otherwise branches)
      pure (partTasks depth source chosen)
    | .iteration item index collection body empty => do
      let vs ← locate ⟨functions, library, source⟩ span (items functions collection)
      pure (if vs.isEmpty then partTasks depth source empty
        else itemTasks depth source span item index body 0 vs)
    | content => do
      contentOf ⟨functions, library, source⟩ none signature span content
      pure []
  | .bind source span item index v place => do
    locate ⟨functions, library, source⟩ span (bindItem item index v place)
    pure []
  | .openScope => do
    mapContext Context.push
    pure []
  | .closeScope => do
    mapContext Context.pop
    pure []

/-- What is left of the tasks after a fault: scopes that were opened are closed. -/
def unwind : List Task → Progress → Progress
  | [], s => s
  | .openScope :: ts, s => unwind ts { s with context := s.context.push }
  | .closeScope :: ts, s => unwind ts { s with context := s.context.pop }
  | .block _ _ _ :: ts, s | .bind _ _ _ _ _ _ :: ts, s => unwind ts s

/-- What the machine comes to, if it is done within so many steps. -/
def runFor (functions : Registry) (library : Library) :
    Nat → List Task → Progress → Option (Except Fault Unit × Progress)
  | 0, _, _ => none
  | _ + 1, [], s => some (.ok (), s)
  | n + 1, t :: ts, s =>
    match outcome (t.begin functions library) s with
    | (.ok more, s') => runFor functions library n (more ++ ts) s'
    | (.error f, s') => some (.error f, unwind ts s')

/-- What the machine comes to after tasks that have come to this. -/
def continueFor (functions : Registry) (library : Library) (n : Nat) (rest : List Task) :
    Except Fault Unit × Progress → Option (Except Fault Unit × Progress)
  | (.ok (), s) => runFor functions library n rest s
  | (.error f, s) => some (.error f, unwind rest s)

lemma continueFor_nil (functions : Registry) (library : Library) (n : Nat)
    (r : Except Fault Unit × Progress) : continueFor functions library (n + 1) [] r = some r := by
  obtain ⟨(f | u), s⟩ := r <;> rfl

/-- In finitely many steps, the tasks come to `r`, whatever tasks follow them. -/
def Performs (functions : Registry) (library : Library) (ts : List Task) (s : Progress)
    (r : Except Fault Unit × Progress) : Prop :=
  ∀ rest, ∃ k, ∀ n,
    runFor functions library (n + k) (ts ++ rest) s = continueFor functions library n rest r

/-- The machine gets from the tasks and the progress on the left to those on the right. -/
inductive Advances (functions : Registry) (library : Library) :
    List Task → Progress → List Task → Progress → Prop
  | refl (ts : List Task) (s : Progress) : Advances functions library ts s ts s
  | step {t : Task} {ts more us : List Task} {s s' s'' : Progress}
      (begins : outcome (t.begin functions library) s = (.ok more, s'))
      (rest : Advances functions library (more ++ ts) s' us s'') :
      Advances functions library (t :: ts) s us s''

/-! ### How deep the blocks lie -/

/-- A block that is left to render lies within at most so many partials. -/
def Task.Within (limit : Nat) : Task → Prop
  | .block depth _ _ => depth ≤ limit
  | _ => True

section Within

variable {functions : Registry} {library : Library} {limit depth source : Nat}

lemma within_blockTasks (h : depth ≤ limit) (bs : List Block) :
    ∀ t ∈ blockTasks depth source bs, t.Within limit := by
  intro t ht
  obtain ⟨b, -, rfl⟩ := List.mem_map.1 ht
  exact h

lemma within_itemTasks (h : depth ≤ limit) {span : Span} {item : String} {index : Option String}
    {body : Part} (place : Nat) (vs : List Value) :
    ∀ t ∈ itemTasks depth source span item index body place vs, t.Within limit := by
  induction vs generalizing place with
  | nil => exact nofun
  | cons v vs ih =>
    intro t ht
    simp only [itemTasks, List.cons_append, List.mem_cons, List.mem_append] at ht
    rcases ht with rfl | rfl | ht | rfl | ht
    · trivial
    · trivial
    · exact within_blockTasks h body.children t ht
    · trivial
    · exact ih (place + 1) t ht

/-- What remains of a task lies no deeper than the limit: a partial is gone into only where it is
not reached yet. -/
lemma within_begin {t : Task} {more : List Task} {s s' : Progress} (ht : t.Within depthLimit)
    (begins : outcome (t.begin functions library) s = (.ok more, s')) :
    ∀ u ∈ more, u.Within depthLimit := by
  cases t with
  | block depth source b =>
    obtain ⟨signature, span, content⟩ := b
    cases content with
    | inclusion name =>
      simp only [Task.begin] at begins
      split at begins
      · cases begins
      · split at begins
        · cases begins
        · rename_i p _ shallow
          obtain ⟨-, t, -, rest⟩ := of_outcome_bind begins
          cases rest
          intro u hu
          simp only [List.cons_append, List.mem_cons, List.mem_append, List.not_mem_nil,
            or_false] at hu
          rcases hu with rfl | hu | rfl
          · trivial
          · exact within_blockTasks (Nat.not_le.1 shallow) p.template.blocks u hu
          · trivial
    | conditional branches otherwise =>
      obtain ⟨chosen, t, -, rest⟩ := of_outcome_bind begins
      cases rest
      exact within_blockTasks ht _
    | iteration item index collection body empty =>
      obtain ⟨vs, t, -, rest⟩ := of_outcome_bind begins
      cases rest
      split
      · exact within_blockTasks ht _
      · exact within_itemTasks ht 0 vs
    | _ =>
      obtain ⟨-, t, -, rest⟩ := of_outcome_bind begins
      cases rest
      exact nofun
  | _ =>
    obtain ⟨-, t, -, rest⟩ := of_outcome_bind begins
    cases rest
    exact nofun

/-- Wherever the machine gets to, no block that is left lies deeper than the limit. -/
theorem Advances.within {ts us : List Task} {s s' : Progress}
    (h : Advances functions library ts s us s') (hts : ∀ t ∈ ts, t.Within depthLimit) :
    ∀ u ∈ us, u.Within depthLimit := by
  induction h with
  | refl => exact hts
  | step begins rest ih =>
    refine ih fun u hu => ?_
    rcases List.mem_append.1 hu with hu | hu
    · exact within_begin (hts _ (.head _)) begins u hu
    · exact hts u (.tail _ hu)

end Within

/-! ### Faults -/

lemma unwind_append (ts us : List Task) (s : Progress) :
    unwind (ts ++ us) s = unwind us (unwind ts s) := by
  induction ts generalizing s with
  | nil => rfl
  | cons t ts ih => cases t <;> exact ih _

@[simp] lemma unwind_blockTasks (depth source : Nat) (bs : List Block) (s : Progress) :
    unwind (blockTasks depth source bs) s = s := by
  induction bs with
  | nil => rfl
  | cons b bs ih => exact ih

@[simp] lemma unwind_itemTasks (depth source : Nat) (span : Span) (item : String)
    (index : Option String) (body : Part) (place : Nat) (vs : List Value) (s : Progress) :
    unwind (itemTasks depth source span item index body place vs) s = s := by
  induction vs generalizing place with
  | nil => rfl
  | cons v vs ih =>
    simp only [itemTasks, List.cons_append, unwind, unwind_append, unwind_blockTasks,
      Context.pop_push, ih]

/-! ### Steps -/

section Steps

variable {functions : Registry} {library : Library} {t : Task} {ts us : List Task}
  {s s' : Progress} {f : Fault} {r : Except Fault Unit × Progress}

namespace Performs

lemma nil (s : Progress) : Performs functions library [] s (.ok (), s) :=
  fun _ => ⟨0, fun _ => rfl⟩

lemma append (h : Performs functions library ts s (.ok (), s'))
    (h' : Performs functions library us s' r) : Performs functions library (ts ++ us) s r := by
  intro rest
  obtain ⟨k, hk⟩ := h (us ++ rest)
  obtain ⟨k', hk'⟩ := h' rest
  refine ⟨k' + k, fun n => ?_⟩
  rw [List.append_assoc, ← Nat.add_assoc, hk, ← hk']
  rfl

/-- After a fault no other task is begun. -/
lemma append_error (h : Performs functions library ts s (.error f, s')) (us : List Task) :
    Performs functions library (ts ++ us) s (.error f, unwind us s') := by
  intro rest
  obtain ⟨k, hk⟩ := h (us ++ rest)
  refine ⟨k, fun n => ?_⟩
  rw [List.append_assoc, hk, continueFor, continueFor, unwind_append]

lemma of_begin (begins : outcome (t.begin functions library) s = (.ok us, s'))
    (h : Performs functions library us s' r) : Performs functions library [t] s r := by
  intro rest
  obtain ⟨k, hk⟩ := h rest
  refine ⟨k + 1, fun n => ?_⟩
  rw [← hk n, ← Nat.add_assoc, List.cons_append, runFor, begins]
  rfl

lemma of_begin_error (fails : outcome (t.begin functions library) s = (.error f, s')) :
    Performs functions library [t] s (.error f, s') := by
  intro rest
  refine ⟨1, fun n => ?_⟩
  rw [List.cons_append, runFor, fails]
  rfl

/-- A scope is closed after what was done in it, also after a fault. -/
lemma inScope {m : Rendering Unit}
    (h : Performs functions library ts { s with context := s.context.push }
      (outcome m { s with context := s.context.push })) :
    Performs functions library (.openScope :: ts ++ [.closeScope]) s
      (outcome (Rendering.inScope m) s) := by
  have opens : Performs functions library [.openScope] s
      (.ok (), { s with context := s.context.push }) :=
    .of_begin rfl (.nil _)
  have inner := opens.append h
  rw [outcome_inScope]
  rcases outcome_cases m { s with context := s.context.push } with ⟨u, s', hm⟩ | ⟨f, s', hm⟩
  · rw [hm] at inner ⊢
    exact inner.append (.of_begin rfl (.nil _))
  · rw [hm] at inner ⊢
    exact inner.append_error [.closeScope]

/-- A task of which nothing remains does what it does at once. -/
lemma of_once {m : Rendering Unit} (once : t.begin functions library = m >>= fun _ => pure [])
    (s : Progress) : Performs functions library [t] s (outcome m s) := by
  rcases outcome_cases m s with ⟨u, s', h⟩ | ⟨f, s', h⟩
  · have begins : outcome (t.begin functions library) s = (.ok [], s') := by
      rw [once, outcome_bind_ok h]
      rfl
    rw [h]
    exact .of_begin begins (.nil s')
  · have fails : outcome (t.begin functions library) s = (.error f, s') := by
      rw [once, outcome_bind_error h]
    rw [h]
    exact .of_begin_error fails

/-- Tasks after each other come to what renderings after each other come to. -/
lemma append_bind {m m' : Rendering Unit} (h : Performs functions library ts s (outcome m s))
    (h' : ∀ s', outcome m s = (.ok (), s') → Performs functions library us s' (outcome m' s'))
    (hus : ∀ s, unwind us s = s) :
    Performs functions library (ts ++ us) s (outcome (m >>= fun _ => m') s) := by
  rcases outcome_cases m s with ⟨u, s', hm⟩ | ⟨f, s', hm⟩
  · rw [outcome_bind_ok hm]
    rw [hm] at h
    exact h.append (h' s' hm)
  · rw [outcome_bind_error hm]
    rw [hm] at h
    rw [← hus s']
    exact h.append_error us

end Performs

end Steps

/-! ### Blocks -/

section Blocks

variable {functions : Registry} {library : Library} {x : Site} {depth : Nat} {signature : String}
  {span : Span}

/-- The machine performs the blocks at the site, where as many partials may lie within each other as
the number around the blocks leaves. -/
def PerformsAt (functions : Registry) (library : Library) (x : Site) (bs : List Block) : Prop :=
  ∀ depth, x.remaining = depthLimit - depth →
    Performs functions library (blockTasks depth x.source bs) x.progress
      (outcome (blocksWithin functions library x.remaining x.source bs) x.progress)

lemma performs_conditional {branches : List Branch} {otherwise : Option Part}
    (hx : x.remaining = depthLimit - depth)
    (inner : ∀ y cs, Enters functions library x
      (.mk signature span (.conditional branches otherwise)) y cs →
      PerformsAt functions library y cs) :
    Performs functions library
      [.block depth x.source (.mk signature span (.conditional branches otherwise))] x.progress
      (outcome (blockWithin functions library x.remaining x.source
        (.mk signature span (.conditional branches otherwise))) x.progress) := by
  rw [blockWithin_conditional]
  rcases outcome_cases (locate ⟨functions, library, x.source⟩ span
    (chooseBranch functions otherwise branches)) x.progress with ⟨chosen, s', h⟩ | ⟨f, s', h⟩
  · rw [outcome_bind_ok h]
    refine .of_begin (outcome_bind_ok h) ?_
    obtain ⟨c, chooses, rfl⟩ := of_outcome_locate h
    cases chosen with
    | none => exact .nil _
    | some part => exact inner _ _ (.chosen chooses) depth hx
  · rw [outcome_bind_error h]
    exact .of_begin_error (outcome_bind_error h)

/-- The rounds of an iteration are performed, when the blocks of its body are where a round comes to
them. -/
lemma performs_items {remaining source : Nat} {item : String} {index : Option String} {body : Part}
    {vs : List Value} {s : Progress}
    (inner : ∀ done v later s' s'', vs = done ++ v :: later →
      outcome (eachItem (itemWithin functions library remaining source span item index body) 0 done)
        s = (.ok (), s') →
      outcome (locate ⟨functions, library, source⟩ span (bindItem item index v done.length))
        { s' with context := s'.context.push } = (.ok (), s'') →
      Performs functions library (blockTasks depth source body.children) s''
        (outcome (blocksWithin functions library remaining source body.children) s'')) :
    Performs functions library (itemTasks depth source span item index body 0 vs) s
      (outcome (eachItem (itemWithin functions library remaining source span item index body) 0 vs)
        s) := by
  let step := itemWithin functions library remaining source span item index body
  refine eachItem_induction step
    (P := fun place later s' => Performs functions library
      (itemTasks depth source span item index body place later) s'
      (outcome (eachItem step place later) s'))
    (fun _ s' => .nil s') fun done v later s' hvs before ih => ?_
  let bind := Task.bind source span item index v done.length
  have round : Performs functions library
      (.openScope :: ([bind] ++ blockTasks depth source body.children) ++ [.closeScope]) s'
      (outcome (step v done.length) s') := by
    refine .inScope (.append_bind (.of_once rfl _) (fun s'' hbind => ?_)
      (unwind_blockTasks _ _ _))
    exact inner done v later s' s'' hvs before hbind
  have split : itemTasks depth source span item index body done.length (v :: later) =
      (.openScope :: ([bind] ++ blockTasks depth source body.children) ++ [.closeScope]) ++
        itemTasks depth source span item index body (done.length + 1) later := by
    simp [itemTasks, bind]
  rw [split]
  exact round.append_bind ih (unwind_itemTasks _ _ _ _ _ _ _ _)

lemma performs_iteration {item : String} {index : Option String} {collection : Expression}
    {body : Part} {empty : Option Part} (hx : x.remaining = depthLimit - depth)
    (inner : ∀ y cs, Enters functions library x
      (.mk signature span (.iteration item index collection body empty)) y cs →
      PerformsAt functions library y cs) :
    Performs functions library
      [.block depth x.source (.mk signature span (.iteration item index collection body empty))]
      x.progress
      (outcome (blockWithin functions library x.remaining x.source
        (.mk signature span (.iteration item index collection body empty))) x.progress) := by
  rw [blockWithin_iteration]
  rcases outcome_cases (locate ⟨functions, library, x.source⟩ span (items functions collection))
    x.progress with ⟨vs, s', h⟩ | ⟨f, s', h⟩
  · rw [outcome_bind_ok h]
    refine .of_begin (outcome_bind_ok h) ?_
    obtain ⟨c, finds, rfl⟩ := of_outcome_locate h
    cases vs with
    | nil =>
      cases empty with
      | none => exact .nil _
      | some part => exact inner _ _ (.empty finds) depth hx
    | cons w ws =>
      refine performs_items fun done v later s' s'' hvs before hbind => ?_
      obtain ⟨c', binds, rfl⟩ := of_outcome_locate hbind
      exact inner _ _ (.item (hvs ▸ finds) before binds) depth hx
  · rw [outcome_bind_error h]
    exact .of_begin_error (outcome_bind_error h)

lemma performs_inclusion {name : String} (hx : x.remaining = depthLimit - depth)
    (inner : ∀ y cs, Enters functions library x (.mk signature span (.inclusion name)) y cs →
      PerformsAt functions library y cs) :
    Performs functions library [.block depth x.source (.mk signature span (.inclusion name))]
      x.progress
      (outcome (blockWithin functions library x.remaining x.source
        (.mk signature span (.inclusion name))) x.progress) := by
  obtain ⟨remaining, source, s⟩ := x
  simp only at hx
  cases found : library.find? name with
  | none =>
    rw [blockWithin_unknown found]
    exact .of_begin_error (by simp only [Task.begin, found]; rfl)
  | some p =>
    cases remaining with
    | zero =>
      have deep : depthLimit ≤ depth := by omega
      rw [blockWithin_tooDeep found]
      exact .of_begin_error (by simp only [Task.begin, found, if_pos deep]; rfl)
    | succ remaining =>
      have shallow : ¬ depthLimit ≤ depth := by omega
      rw [blockWithin_inclusion found]
      refine .of_begin (by simp only [Task.begin, found, if_neg shallow]; rfl) ?_
      exact .inScope (inner _ _ (.inclusion found) (depth + 1) (by simp only; omega))

lemma performs_block {b : Block} (hx : x.remaining = depthLimit - depth)
    (inner : ∀ y cs, Enters functions library x b y cs → PerformsAt functions library y cs) :
    Performs functions library [.block depth x.source b] x.progress
      (outcome (blockWithin functions library x.remaining x.source b) x.progress) := by
  obtain ⟨signature, span, content⟩ := b
  cases content with
  | inclusion name => exact performs_inclusion hx inner
  | conditional branches otherwise => exact performs_conditional hx inner
  | iteration item index collection body empty => exact performs_iteration hx inner
  | _ => exact .of_once rfl x.progress

lemma performs_blocks (functions : Registry) (library : Library) (x : Site) (bs : List Block) :
    PerformsAt functions library x bs := by
  induction x, bs using run_induction functions library with
  | nil x =>
    intro depth hx
    rw [blocksWithin_nil]
    exact .nil x.progress
  | cons x b bs inner rest =>
    intro depth hx
    rw [blocksWithin_cons]
    refine .append_bind (performs_block hx inner) (fun s' before => ?_) (unwind_blockTasks _ _ _)
    exact rest s' before depth hx

/-- The machine is done with blocks after finitely many steps, and has come to what rendering them
comes to. -/
theorem runFor_blockTasks (functions : Registry) (library : Library) (depth source : Nat)
    (bs : List Block) (s : Progress) :
    ∃ k, ∀ n, k ≤ n → runFor functions library n (blockTasks depth source bs) s =
      some (outcome (blocksAt functions library depth source bs) s) := by
  obtain ⟨k, hk⟩ :=
    performs_blocks functions library ⟨depthLimit - depth, source, s⟩ bs depth rfl []
  refine ⟨k + 1, fun n hn => ?_⟩
  obtain ⟨m, rfl⟩ : ∃ m, n = m + 1 + k := ⟨n - 1 - k, by omega⟩
  have h := hk (m + 1)
  rw [List.append_nil] at h
  exact h.trans (continueFor_nil functions library m _)

end Blocks

end Stencil.Rendering
