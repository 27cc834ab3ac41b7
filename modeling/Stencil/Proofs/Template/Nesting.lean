import Stencil.Proofs.Template.Roles

/-!
Counting the tags of one kind of block agrees with proper nesting: the search for the end of a part
passes over whatever the grammar derives, at any depth of blocks of its kind, and comes out of it at
the same depth.
-/

namespace Stencil

open Stencil.Text Stencil.Tag Stencil.Template

/-- No tag among the pieces is a divider in disguise. -/
def Tag.Undisguised (ps : List Piece) : Prop :=
  ∀ inner, .tag inner ∈ ps → isDisguised (Tag.body inner) = false

lemma Tag.Undisguised.of_append {us vs : List Piece} (h : Undisguised (us ++ vs)) :
    Undisguised us ∧ Undisguised vs :=
  ⟨fun inner hi => h inner (List.mem_append_left _ hi),
    fun inner hi => h inner (List.mem_append_right _ hi)⟩

lemma Tag.Undisguised.of_cons {p : Piece} {ps : List Piece} (h : Undisguised (p :: ps)) :
    Undisguised ps :=
  fun inner hi => h inner (List.mem_cons_of_mem _ hi)

namespace Nest

variable {nest : Nest} {inner : List Char}

/-- The cut with more pieces at its front. -/
def Cut.prepend (us : List Piece) (c : Cut) : Cut := { c with inside := us ++ c.inside }

/-- In the search for the end of a part with at least `least` blocks of the kind open inside it,
the pieces `us` are passed over, and after them as many blocks are open as before. -/
def Passes (nest : Nest) (least : Nat) (us : List Piece) : Prop :=
  ∀ depth ps, least ≤ depth →
    cut? nest depth (us ++ ps) = (cut? nest depth ps).map (Cut.prepend us)

/-- How many blocks have to be open for the dividers of a block of kind `owner` to be passed
over. -/
def leastAmong (nest owner : Nest) : Nat := if nest = owner then 1 else 0

namespace Passes

variable {least : Nat} {us vs : List Piece}

lemma nil : Passes nest least [] := by
  intro depth ps _
  change cut? nest depth ps = _
  cases cut? nest depth ps <;> rfl

lemma append (hu : Passes nest least us) (hv : Passes nest least vs) :
    Passes nest least (us ++ vs) := by
  intro depth ps hl
  rw [List.append_assoc, hu depth _ hl, hv depth _ hl, Option.map_map]
  congr 1
  funext c
  simp [Cut.prepend]

lemma mono {least' : Nat} (h : Passes nest least us) (hl : least ≤ least') :
    Passes nest least' us :=
  fun depth ps hd => h depth ps (Nat.le_trans hl hd)

lemma text (run : List Char) : Passes nest least [.text run] := by
  intro depth ps _
  rw [List.singleton_append]
  rfl

lemma of_other (h : nest.role inner = .other) : Passes nest least [.tag inner] := by
  intro depth ps _
  rw [List.singleton_append, cut?_tag, h]
  rfl

lemma of_divides (h : nest.role inner = .divides) : Passes nest 1 [.tag inner] := by
  intro depth ps hl
  obtain ⟨d, rfl⟩ : ∃ d, depth = d + 1 := ⟨depth - 1, by omega⟩
  rw [List.singleton_append, cut?_tag, h]
  rfl

/-- A divider is passed over inside a block of its kind, and anywhere by the other count. -/
lemma divider {owner : Nest} (h : Divides owner inner) :
    Passes nest (leastAmong nest owner) [.tag inner] := by
  by_cases hn : nest = owner
  · subst hn
    simpa [leastAmong] using of_divides (role_of_divides h)
  · exact of_other (role_of_divides_other h hn)

/-- A block is passed over when what stands between its tags is passed over inside it. -/
lemma block {owner : Nest} {opening closing : List Char} (ho : Opens owner opening)
    (hc : Closes owner closing) (hu : Passes nest (max least (leastAmong nest owner)) us) :
    Passes nest least (.tag opening :: us ++ [.tag closing]) := by
  by_cases hn : nest = owner
  · subst hn
    intro depth ps hl
    simp only [leastAmong, if_true] at hu
    have hopen := role_of_opens ho
    have hclose := role_of_closes hc
    simp only [List.cons_append, List.append_assoc, List.nil_append, cut?_tag, hopen, hclose,
      hu (depth + 1) _ (by omega), Option.map_map]
    congr 1
    funext c
    simp [Cut.prepend, Cut.cons]
  · have hopen : Passes nest least [.tag opening] := of_other (role_of_opens_other ho hn)
    have hclose : Passes nest least [.tag closing] := of_other (role_of_closes_other hc hn)
    simp only [leastAmong, hn, if_false, Nat.max_zero] at hu
    exact (hopen.append hu).append hclose

end Passes

lemma divides_of_continues {condition : Expression} (h : Continues inner condition) :
    Divides .conditional inner :=
  let ⟨rest, hb, _⟩ := h
  .inr ⟨rest, hb⟩

/-! ### Where disguises do no harm -/

/-- No divider in disguise is found among the pieces in the search for the end of a part. Inside a
block of the kind, the search passes over dividers. -/
def Clear (nest : Nest) (least : Nat) (ps : List Piece) : Prop :=
  least = 0 → ∀ us inner vs, ps = us ++ .tag inner :: vs → Passes nest 0 us →
    isDisguised (Tag.body inner) → nest.role inner ≠ .divides

namespace Clear

variable {least : Nat} {us vs : List Piece}

lemma left (h : Clear nest least (us ++ vs)) : Clear nest least us := by
  rintro hl us' inner vs' rfl
  exact h hl us' inner (vs' ++ vs) (by simp)

lemma right (h : Clear nest least (us ++ vs)) (hu : Passes nest least us) :
    Clear nest least vs := by
  rintro hl us' inner vs' rfl hus'
  subst hl
  exact h rfl (us ++ us') inner vs' (by simp) (hu.append hus')

/-- What is clear around a block is clear inside it. -/
lemma inside {owner : Nest} {opening closing : List Char} (ho : Opens owner opening)
    (h : Clear nest least (.tag opening :: us ++ [.tag closing])) :
    Clear nest (max least (leastAmong nest owner)) us := by
  by_cases hn : nest = owner
  · intro hl
    simp [leastAmong, hn] at hl
  · have hopen : Passes nest least [.tag opening] := .of_other (role_of_opens_other ho hn)
    have hleft : Clear nest least (.tag opening :: us) := h.left
    have hin : Clear nest least us := hleft.right hopen
    simpa [leastAmong, hn] using hin

end Clear

/-! ### What the grammar derives is passed over -/

lemma passes_of_simple {content : Content} {least : Nat} {ps : List Piece}
    (h : leadOf inner = .ok (.simple content)) (hd : Clear nest least (.tag inner :: ps)) :
    Passes nest least [.tag inner] := by
  rcases role_of_simple h with hr | ⟨hr, hi⟩
  · exact .of_other hr
  · have hl : least ≠ 0 := fun hl => hd hl [] inner ps rfl .nil hi hr
    exact (Passes.of_divides hr).mono (by omega)

mutual

theorem passes_of_derives {least start : Nat} {ps : List Piece} {bs : List Block}
    (h : Derives start ps bs) (hd : Clear nest least ps) : Passes nest least ps := by
  cases h with
  | nil => exact .nil
  | @text _ run _ _ rest =>
    have hrun : Passes nest least [.text run] := .text run
    exact hrun.append (passes_of_derives rest (hd.right hrun))
  | @simple _ inner _ _ _ reads rest =>
    have htag : Passes nest least [.tag inner] := passes_of_simple reads hd
    exact htag.append (passes_of_derives rest (hd.right htag))
  | conditional block rest =>
    have hblock := passes_of_if block hd.left
    exact hblock.append (passes_of_derives rest (hd.right hblock))
  | iteration block rest =>
    have hblock := passes_of_each block hd.left
    exact hblock.append (passes_of_derives rest (hd.right hblock))

theorem passes_of_if {least start : Nat} {ps : List Piece} {b : Block} (h : If start ps b)
    (hd : Clear nest least ps) : Passes nest least ps := by
  cases h with
  | @mk _ opening closing condition us vs ws children branches otherwise opens first more last
      closes =>
    have ho := opens_of_conditional opens
    have hin : Clear nest (max least (leastAmong nest .conditional)) (us ++ vs ++ ws) :=
      .inside ho (by simpa using hd)
    have hu := passes_of_derives first hin.left.left
    have huv := hu.append (passes_of_elseifs more (Nat.le_max_right _ _) (hin.left.right hu))
    have huvw := huv.append (passes_of_last .conditional last (fun _ h => .inl h)
      (Nat.le_max_right _ _) (hin.right huv))
    simpa using Passes.block ho closes huvw

theorem passes_of_elseifs {least start : Nat} {ps : List Piece} {branches : List Branch}
    (h : Elseifs start ps branches) (hl : leastAmong nest .conditional ≤ least)
    (hd : Clear nest least ps) : Passes nest least ps := by
  cases h with
  | nil => exact .nil
  | @cons _ divider condition us vs children branches divides part more =>
    have hdiv : Passes nest least [.tag divider] :=
      (Passes.divider (divides_of_continues divides)).mono hl
    have hu := hdiv.append (passes_of_derives part (hd.left.right hdiv))
    exact hu.append (passes_of_elseifs more hl (hd.right hu))

theorem passes_of_last (owner : Nest) {w : String} {least start : Nat} {ps : List Piece}
    {part : Option Part} (h : Last w start ps part)
    (hw : ∀ inner, Tag.body inner = w.toList → Divides owner inner)
    (hl : leastAmong nest owner ≤ least) (hd : Clear nest least ps) : Passes nest least ps := by
  cases h with
  | none => exact .nil
  | @some _ _ divider us children divides part =>
    have hdiv : Passes nest least [.tag divider] := (Passes.divider (hw _ divides)).mono hl
    exact hdiv.append (passes_of_derives part (hd.right hdiv))

theorem passes_of_each {least start : Nat} {ps : List Piece} {b : Block} (h : Each start ps b)
    (hd : Clear nest least ps) : Passes nest least ps := by
  cases h with
  | @mk _ opening closing header us ws children empty opens first last closes =>
    have ho := opens_of_iteration opens
    have hin : Clear nest (max least (leastAmong nest .iteration)) (us ++ ws) :=
      .inside ho (by simpa using hd)
    have hu := passes_of_derives first hin.left
    have huw := hu.append (passes_of_last .iteration last (fun _ h => h) (Nat.le_max_right _ _)
      (hin.right hu))
    simpa using Passes.block ho closes huw

end

end Nest

lemma Tag.Undisguised.clear {nest : Nest} {least : Nat} {ps : List Piece} (h : Undisguised ps) :
    nest.Clear least ps := by
  rintro - us inner vs rfl - hi
  simp [h inner (by simp)] at hi

end Stencil
