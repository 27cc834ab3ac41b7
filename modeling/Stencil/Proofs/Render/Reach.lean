import Stencil.Proofs.Render.Steps
import Stencil.Proofs.Template.Trees

/-!
Which blocks a rendering gets to. It gets to a block when those before it went well, and from a
block to the blocks that it has rendered: those of the part that is chosen, of the body of an
iteration once for each item, and of a partial.
-/

namespace Stencil.Rendering

/-- A place in a rendering, where blocks are to be rendered. -/
structure Site where
  /-- Partials may lie so much deeper within each other. -/
  remaining : Nat
  /-- The number of the source that the blocks are in. -/
  source : Nat
  /-- What has been made so far. -/
  progress : Progress

/-- The site with another state of the variables and the trace. -/
def Site.setContext (x : Site) (c : Context) : Site :=
  { x with progress := { x.progress with context := c } }

variable (functions : Registry) (library : Library)

/-- At the first site the block begins to render the blocks at the second one. -/
inductive Enters : Site → Block → Site → List Block → Prop
  /-- A conditional has chosen a part. -/
  | chosen {x : Site} {signature : String} {span : Span} {branches : List Branch}
      {otherwise : Option Part} {part : Part} {c : Context}
      (chooses : outcome (chooseBranch functions otherwise branches) x.progress.context =
        (.ok (some part), c)) :
      Enters x (.mk signature span (.conditional branches otherwise)) (x.setContext c) part.children
  /-- An iteration has no items. -/
  | empty {x : Site} {signature : String} {span : Span} {item : String} {index : Option String}
      {collection : Expression} {body part : Part} {c : Context}
      (finds : outcome (items functions collection) x.progress.context = (.ok [], c)) :
      Enters x (.mk signature span (.iteration item index collection body (some part)))
        (x.setContext c) part.children
  /-- An iteration has rendered the items before this one, and has declared its variables in a
  scope of their own. -/
  | item {x : Site} {signature : String} {span : Span} {item : String} {index : Option String}
      {collection : Expression} {body : Part} {empty : Option Part} {done later : List Value}
      {v : Value} {c c' : Context} {s : Progress}
      (finds : outcome (items functions collection) x.progress.context =
        (.ok (done ++ v :: later), c))
      (before : outcome
        (eachItem (itemWithin functions library x.remaining x.source span item index body) 0 done)
        (x.setContext c).progress = (.ok (), s))
      (binds : outcome (bindItem item index v done.length) s.context.push = (.ok (), c')) :
      Enters x (.mk signature span (.iteration item index collection body empty))
        ⟨x.remaining, x.source, { s with context := c' }⟩ body.children
  /-- The place of a partial is reached, which gets a scope of its own. -/
  | inclusion {remaining source : Nat} {s : Progress} {signature : String} {span : Span}
      {name : String} {p : Partial} (found : library.find? name = some p) :
      Enters ⟨remaining + 1, source, s⟩ (.mk signature span (.inclusion name))
        ⟨remaining, p.template.source,
          { s with context := (s.context.record s!"rendered partial '{p.name}'").push }⟩
        p.template.blocks

/-- The rendering of the blocks at the first site gets to the block at the second one. -/
inductive Reaches : Site → List Block → Site → Block → Prop
  | here {x : Site} {b : Block} {bs : List Block} : Reaches x (b :: bs) x b
  | inside {x y z : Site} {b d : Block} {bs children : List Block}
      (enters : Enters functions library x b y children) (reaches : Reaches y children z d) :
      Reaches x (b :: bs) z d
  | later {x z : Site} {b d : Block} {bs : List Block} {s : Progress}
      (before : outcome (blockWithin functions library x.remaining x.source b) x.progress =
        (.ok (), s))
      (reaches : Reaches ⟨x.remaining, x.source, s⟩ bs z d) : Reaches x (b :: bs) z d

/-- The rendering gets to a block with the property, at a site with which it has it. -/
def Meets (x : Site) (bs : List Block) (property : Site → Block → Prop) : Prop :=
  ∃ z d, Reaches functions library x bs z d ∧ property z d

variable {functions library}

namespace Meets

variable {x y : Site} {b : Block} {bs children : List Block} {property : Site → Block → Prop}

lemma here (h : property x b) : Meets functions library x (b :: bs) property :=
  ⟨x, b, .here, h⟩

lemma inside (enters : Enters functions library x b y children)
    (h : Meets functions library y children property) :
    Meets functions library x (b :: bs) property := by
  obtain ⟨z, d, reaches, hd⟩ := h
  exact ⟨z, d, .inside enters reaches, hd⟩

lemma later {s : Progress}
    (before : outcome (blockWithin functions library x.remaining x.source b) x.progress =
      (.ok (), s))
    (h : Meets functions library ⟨x.remaining, x.source, s⟩ bs property) :
    Meets functions library x (b :: bs) property := by
  obtain ⟨z, d, reaches, hd⟩ := h
  exact ⟨z, d, .later before reaches, hd⟩

end Meets

/-! ### What is entered lies in the trees -/

/-- The part that is chosen is one of the conditional. -/
lemma mem_of_chooseBranch {otherwise : Option Part} {part : Part} {branches : List Branch}
    {c c' : Context}
    (h : outcome (chooseBranch functions otherwise branches) c = (.ok (some part), c')) :
    part ∈ branches.map Branch.part ++ otherwise.toList := by
  induction branches generalizing c with
  | nil =>
    cases h
    exact .head []
  | cons b bs ih =>
    rw [chooseBranch] at h
    obtain ⟨v, t, -, h⟩ := of_outcome_bind h
    split at h
    · cases h
      exact .head _
    · exact .tail _ (ih h)

/-- A block renders the children of its parts, or those of a partial, in which partials may lie one
less deep. -/
lemma Enters.cases {x y : Site} {b : Block} {children : List Block}
    (h : Enters functions library x b y children) :
    (y.remaining = x.remaining ∧ y.source = x.source ∧ ∃ part ∈ b.parts, children = part.children) ∨
    (y.remaining < x.remaining ∧ ∃ p ∈ library.partials, y.source = p.template.source ∧
      children = p.template.blocks) := by
  cases h with
  | chosen chooses => exact .inl ⟨rfl, rfl, _, mem_of_chooseBranch chooses, rfl⟩
  | empty finds => exact .inl ⟨rfl, rfl, _, .tail _ (.head _), rfl⟩
  | item finds before binds => exact .inl ⟨rfl, rfl, _, .head _, rfl⟩
  | inclusion found =>
    exact .inr ⟨Nat.lt_succ_self _, _, List.mem_of_find?_eq_some found, rfl, rfl⟩

/-! ### Induction on runs -/

/-- What the blocks at a site have, when those have it that the first block enters and those after
it once it went well, all blocks have at all sites. -/
@[elab_as_elim]
theorem run_induction (functions : Registry) (library : Library)
    {P : Site → List Block → Prop} (nil : ∀ x, P x [])
    (cons : ∀ x b bs,
      (∀ y children, Enters functions library x b y children → P y children) →
      (∀ s, outcome (blockWithin functions library x.remaining x.source b) x.progress =
        (.ok (), s) → P ⟨x.remaining, x.source, s⟩ bs) → P x (b :: bs))
    (x : Site) (bs : List Block) : P x bs := by
  obtain ⟨remaining, source, s⟩ := x
  -- Partials lie less deep; within one source the trees get smaller.
  induction remaining using Nat.strongRecOn generalizing source s bs with
  | ind remaining deeper =>
    induction bs using Block.tree_induction generalizing s with
    | nil => exact nil _
    | cons b bs parts rest =>
      refine cons _ b bs (fun y children enters => ?_) fun s' _ => rest s'
      obtain ⟨remaining', source', s'⟩ := y
      rcases enters.cases with ⟨hr, hs, part, hpart, rfl⟩ | ⟨hlt, -⟩
      · cases hr
        cases hs
        exact parts part hpart s'
      · exact deeper remaining' hlt children source' s'

/-! ### What is reached -/

/-- What is reached is in the tree where the rendering began, or in that of a partial. -/
theorem Reaches.inside_tree {x z : Site} {bs : List Block} {d : Block}
    (h : Reaches functions library x bs z d) :
    (z.source = x.source ∧ d.Inside bs) ∨
    ∃ p ∈ library.partials, z.source = p.template.source ∧ d.Inside p.template.blocks := by
  induction h with
  | here => exact .inl ⟨rfl, .top (.head _)⟩
  | later _ _ ih =>
    exact ih.imp_left fun ⟨hsource, hd⟩ => ⟨hsource, Block.inside_cons.2 (.inr (.inr hd))⟩
  | inside enters _ ih =>
    rcases ih with ⟨hsource, hd⟩ | hp
    · rcases enters.cases with ⟨-, hsame, part, hpart, rfl⟩ | ⟨-, p, hp, hother, rfl⟩
      · exact .inl ⟨hsource.trans hsame, .within (.head _) hpart hd⟩
      · exact .inr ⟨p, hp, hsource.trans hother, hd⟩
    · exact .inr hp

end Stencil.Rendering
