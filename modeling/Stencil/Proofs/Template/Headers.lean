import Stencil.Proofs.Template.Roles

/-!
What tags say: the condition of a conditional and the variables and the collection of an iteration,
for the tags that open a block, and the content of a tag that is a whole block.
-/

namespace Stencil.Template

open Stencil.Text Stencil.Expression

/-- The text names the variables of the header: one, or two different ones with a comma between
them. -/
def NamesVariables (names : List Char) (header : Header) : Prop :=
  (isName (trim names) ∧ header.item = .ofList (trim names) ∧ header.index = none) ∨
    ∃ item index, names = item ++ ',' :: index ∧ isName (trim item) ∧ isName (trim index) ∧
      trim index ≠ trim item ∧ header.item = .ofList (trim item) ∧
      header.index = some (.ofList (trim index))

lemma NamesVariables.index_ne {names : List Char} {header : Header}
    (h : NamesVariables names header) : header.index ≠ some header.item := by
  rcases h with ⟨-, -, hindex⟩ | ⟨item, index, -, -, -, hne, hitem, hindex⟩
  · simp [hindex]
  · rw [hitem, hindex, Ne, Option.some.injEq, String.ofList_inj]
    exact hne

/-- A header has the names of its variables before `in`, and its collection after it. -/
lemma headerOf_cases {rest : List Char} {header : Header}
    (h : headerOf ("each ".toList ++ rest) = .ok header) :
    ∃ names collection, rest = names ++ " in ".toList ++ collection ∧
      NamesVariables names header ∧ readValue collection = .ok header.collection := by
  have hrest : (after? Form.iteration.opening.toList ("each ".toList ++ rest)).getD [] = rest := by
    rw [show Form.iteration.opening.toList = "each ".toList from rfl, after?_append]
    rfl
  unfold headerOf at h
  simp only [hrest] at h
  split at h
  · rename_i names collection hsplit
    refine ⟨names, collection, splitOnce_eq_some hsplit, ?_⟩
    cases hnames : splitOnce [','] names with
    | none =>
      simp only [hnames] at h
      split at h
      · rename_i hname
        obtain ⟨e, he, h⟩ := bind_eq_ok.1 h
        cases h
        exact ⟨.inl ⟨hname, rfl, rfl⟩, he⟩
      · cases h
    | some pair =>
      obtain ⟨item, index⟩ := pair
      simp only [hnames] at h
      split at h
      · rename_i hitem
        split at h
        · rename_i hindex
          split at h
          · cases h
          · rename_i hne
            obtain ⟨e, he, h⟩ := bind_eq_ok.1 h
            cases h
            have hsplit' : names = item ++ ',' :: index := by
              simpa using splitOnce_eq_some hnames
            exact ⟨.inr ⟨item, index, hsplit', hitem, hindex, by simpa using hne, rfl, rfl⟩, he⟩
        · cases h
      · cases h
  · cases h

variable {inner : List Char}

/-- The tag that opens an iteration says `each` and a header. -/
lemma header_of_leadOf {header : Header} (h : leadOf inner = .ok (.iteration header)) :
    ∃ rest, Tag.body inner = "each ".toList ++ rest ∧
      headerOf ("each ".toList ++ rest) = .ok header := by
  obtain ⟨rest, hbody⟩ := Nest.opens_of_iteration h
  have hf := Nest.form_of_opens (Nest.opens_of_iteration h)
  have hs := (Nest.form_of_leadOf h).1
  simp only [leadOf, hs, hf, Bool.false_eq_true, if_false] at h
  obtain ⟨header', hh, h⟩ := map_eq_ok.1 h
  cases h
  exact ⟨rest, hbody, hbody ▸ hh⟩

/-- The tag that opens a conditional says `if` and a condition. -/
lemma condition_of_leadOf {condition : Expression}
    (h : leadOf inner = .ok (.conditional condition)) :
    ∃ rest, Tag.body inner = "if ".toList ++ rest ∧ readValue rest = .ok condition := by
  obtain ⟨rest, hbody⟩ := Nest.opens_of_conditional h
  have hf := Nest.form_of_opens (Nest.opens_of_conditional h)
  have hs := (Nest.form_of_leadOf h).1
  simp only [leadOf, hs, hf, Bool.false_eq_true, if_false] at h
  obtain ⟨condition', hc, h⟩ := map_eq_ok.1 h
  cases h
  refine ⟨rest, hbody, ?_⟩
  rw [conditionOf, hbody] at hc
  exact hc

/-- A tag with `if` and a condition opens a conditional. -/
lemma leadOf_if {rest : List Char} {condition : Expression}
    (hbody : Tag.body inner = "if ".toList ++ rest) (hc : readValue rest = .ok condition) :
    leadOf inner = .ok (.conditional condition) := by
  have hopens : Nest.conditional.Opens inner := ⟨rest, hbody⟩
  have hs : isStray (Tag.body inner) = false := by
    rw [hbody]
    simp [isStray, after?]
  have hcondition : conditionOf (Tag.body inner) = .ok condition := by
    rw [conditionOf, hbody]
    exact hc
  simp only [leadOf, hs, Nest.form_of_opens hopens, hcondition]
  rfl

/-! ### Tags that are a whole block -/

/-- What a tag with this body says when it is a whole block. -/
inductive Says (body : List Char) : Content → Prop
  | comment (text : String) : Says body (.comment text)
  | directive (flag : Flag) : Says body (.directive flag)
  | inclusion {name : String} (reads : inclusionOf body = .ok (.inclusion name)) :
      Says body (.inclusion name)
  | declaration {name : String} {value : Expression}
      (reads : assignmentOf Form.declaration.opening body = .ok (name, value)) :
      Says body (.declaration name value)
  | reassignment {name : String} {value : Expression}
      (reads : assignmentOf Form.reassignment.opening body = .ok (name, value)) :
      Says body (.reassignment name value)
  | call {name : String} {arguments : List Expression}
      (reads : Expression.parse body = .ok (.call name arguments)) :
      Says body (.call name arguments)
  | binding {e : Expression} (reads : Expression.parse body = .ok e) : Says body (.binding e)

lemma says_of_inclusionOf {body : List Char} {content : Content}
    (h : inclusionOf body = .ok content) : Says body content := by
  have hreads := h
  unfold inclusionOf at h
  dsimp only at h
  split at h <;> cases h
  exact .inclusion hreads

lemma says_of_bindingOf {body : List Char} {content : Content}
    (h : bindingOf body = .ok content) : Says body content := by
  obtain ⟨e, he, h⟩ := map_eq_ok.1 h
  have hparse := mapError_eq_ok.1 he
  cases e with
  | call name arguments =>
    cases h
    exact .call hparse
  | _ =>
    cases h
    exact .binding hparse

lemma says_of_leadOf {content : Content} (h : leadOf inner = .ok (.simple content)) :
    Says (Tag.body inner) content := by
  obtain ⟨hs, form, hf, -⟩ := Nest.form_of_leadOf h
  simp only [leadOf, hs, hf, Bool.false_eq_true, if_false] at h
  cases form with
  | comment =>
    cases h
    exact .comment _
  | directive =>
    obtain ⟨content', hc, h⟩ := map_eq_ok.1 h
    cases h
    unfold directiveOf at hc
    dsimp only at hc
    split at hc <;> cases hc
    exact .directive _
  | inclusion =>
    obtain ⟨content', hc, h⟩ := map_eq_ok.1 h
    cases h
    exact says_of_inclusionOf hc
  | declaration =>
    obtain ⟨⟨name, value⟩, hc, h⟩ := map_eq_ok.1 h
    cases h
    exact .declaration hc
  | reassignment =>
    obtain ⟨⟨name, value⟩, hc, h⟩ := map_eq_ok.1 h
    cases h
    exact .reassignment hc
  | iteration =>
    obtain ⟨header, -, h⟩ := map_eq_ok.1 h
    cases h
  | conditional =>
    obtain ⟨condition, -, h⟩ := map_eq_ok.1 h
    cases h
  | binding =>
    obtain ⟨content', hc, h⟩ := map_eq_ok.1 h
    cases h
    exact says_of_bindingOf hc

end Stencil.Template
