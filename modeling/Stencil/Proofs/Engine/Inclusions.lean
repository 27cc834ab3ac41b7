import Stencil.Proofs.Engine.Partials
import Stencil.Proofs.Tag.Quotes
import Stencil.Proofs.Template.Headers
import Stencil.Proofs.Template.Tags
import Stencil.Proofs.Template.Wrapping
import Stencil.Proofs.Text.Case

/-!
Which partials can be included. A partial can be added under any name; the tag that includes it ends
at the first closing braces outside quotes, and takes only a name without blanks. So the name must
be a text right after which a tag ends.
-/

namespace Stencil

open Stencil.Text

/-! ### Texts right after which a tag ends -/

namespace Tag

open Stencil.Expression (isQuote quotedRest quotedRest_length)

/-- Closing braces after the text are the first outside its quotes: each quote in it has its end,
and outside quotes a closing brace has a character after it that is none. -/
inductive Sealed : List Char → Prop
  | nil : Sealed []
  | char {c : Char} {cs : List Char} (unquoted : isQuote c = false) (apart : c ≠ '}')
      (rest : Sealed cs) : Sealed (c :: cs)
  | brace {c : Char} {cs : List Char} (apart : c ≠ '}') (rest : Sealed (c :: cs)) :
      Sealed ('}' :: c :: cs)
  | quoted {q : Char} {cs s rest : List Char} (quote : isQuote q)
      (ends : quotedRest q cs = some (s, rest)) (sealed : Sealed rest) : Sealed (q :: cs)

lemma scan_cons {c : Char} {cs : List Char} (hq : isQuote c = false)
    (hb : ∀ ds, c = '}' → cs ≠ '}' :: ds) :
    scan true none (c :: cs) = cons c (scan true none cs) := by
  rw [isQuote] at hq
  simp [scan_outside hb, hq]

lemma Sealed.scan_append {cs : List Char} (h : Sealed cs) (rest : List Char) :
    scan true none (cs ++ '}' :: '}' :: rest) = some (cs, rest) := by
  induction h with
  | nil => rfl
  | @char c cs hq hb _ ih =>
    rw [List.cons_append, scan_cons hq (fun _ hc => absurd hc hb), ih]
    rfl
  | @brace c cs hc _ ih =>
    rw [List.cons_append, scan_cons rfl (by simp [hc]), ih]
    rfl
  | @quoted q cs s rest' hq hends _ ih =>
    obtain ⟨us, rfl, hus⟩ := Skips.of_quotedRest hq hends
    have hskips : Skips (q :: us) none none := (Skips.opening hq).append hus
    rw [← List.cons_append, List.append_assoc, hskips, ih]
    rfl

/-- Where the search finds an end behind a text that it passes over, it finds the same from there. -/
lemma Skips.scan_of_append {us ds inner rest : List Char} {quote quote' : Option Char}
    (h : Skips us quote quote') (hscan : scan true quote (us ++ ds) = some (us ++ inner, rest)) :
    scan true quote' ds = some (inner, rest) := by
  rw [h] at hscan
  obtain ⟨⟨inner', rest'⟩, hscan', heq⟩ := Option.map_eq_some_iff.1 hscan
  obtain ⟨hinner, rfl⟩ := Prod.mk.inj heq
  rwa [List.append_cancel_left hinner] at hscan'

theorem sealed_of_scan {cs : List Char} (h : scan true none (cs ++ ['}', '}']) = some (cs, [])) :
    Sealed cs := by
  match cs with
  | [] => exact .nil
  | c :: cs =>
    rw [List.cons_append] at h
    cases hq : isQuote c with
    | true =>
      have hopened : scan true (some c) (cs ++ ['}', '}']) = some (cs, []) :=
        (Skips.opening hq).scan_of_append h
      have hclosed := closed_of_scan hopened
      rw [closed_quoted] at hclosed
      split at hclosed
      · rename_i s rest hends
        have hlength := quotedRest_length hends
        obtain ⟨us, rfl, hus⟩ := Skips.of_quotedRest hq hends
        rw [List.append_assoc] at hopened
        exact .quoted hq hends (sealed_of_scan (hus.scan_of_append hopened))
      · cases hclosed
    | false =>
      by_cases hb : c = '}'
      · subst hb
        -- the brace is neither the last character nor one of two
        cases cs with
        | nil => cases h
        | cons d cs =>
          by_cases hd : d = '}'
          · subst hd
            cases h
          · rw [scan_cons hq (by simp [hd])] at h
            obtain ⟨inner, hscan, heq⟩ := cons_eq_some h
            cases heq
            exact .brace hd (sealed_of_scan hscan)
      · rw [scan_cons hq (fun _ hc => absurd hc hb)] at h
        obtain ⟨inner, hscan, heq⟩ := cons_eq_some h
        cases heq
        exact .char hq hb (sealed_of_scan hscan)
termination_by cs.length

/-- The search for closing braces stops right after the texts after which a tag ends. -/
lemma sealed_iff {cs : List Char} :
    Sealed cs ↔ scan true none (cs ++ ['}', '}']) = some (cs, []) :=
  ⟨fun h => h.scan_append [], sealed_of_scan⟩

instance {cs : List Char} : Decidable (Sealed cs) := decidable_of_iff' _ sealed_iff

lemma close?_inclusion_iff {cs : List Char} :
    close? ('>' :: ' ' :: cs ++ ['}', '}']) = some ('>' :: ' ' :: cs, []) ↔ Sealed cs := by
  have hquotes : hasQuotes ('>' :: ' ' :: cs ++ ['}', '}']) = true := rfl
  have hscan : close? ('>' :: ' ' :: cs ++ ['}', '}']) =
      cons '>' (cons ' ' (scan true none (cs ++ ['}', '}']))) := by
    rw [close?, hquotes, List.cons_append, List.cons_append, scan_cons rfl (by simp),
      scan_cons rfl (by simp)]
  rw [hscan]
  constructor
  · intro h
    obtain ⟨inner, h', heq⟩ := cons_eq_some h
    obtain ⟨inner', hscan, heq'⟩ := cons_eq_some h'
    cases heq'
    cases heq
    exact sealed_iff.2 hscan
  · intro h
    rw [sealed_iff.1 h]
    rfl

end Tag

/-! ### The tag that includes a partial -/

namespace Template

variable {cs : List Char} {name : String}

/-- The tag names what follows its sign, without the blanks around it. -/
lemma trim_inclusion (cs : List Char) :
    trim ((Tag.body ('>' :: ' ' :: cs)).dropWhile (· == '>')) = trim cs := by
  obtain ⟨blanks, blanks', hb, hb', hcs⟩ := blanks_append_trim_append_blanks cs
  have hfirst : ∀ c ∈ ' ' :: blanks, isBlank c := List.forall_mem_cons.2 ⟨by decide, hb⟩
  have hbody : Tag.body ('>' :: ' ' :: cs) = trim ('>' :: ' ' :: blanks ++ trim cs) := by
    have hcut : trim ('>' :: ' ' :: blanks ++ trim cs ++ blanks') =
        trim ('>' :: ' ' :: blanks ++ trim cs) := trim_append_of_blanks hb'
    conv_lhs => rw [Tag.body, hcs]
    exact hcut
  rw [hbody]
  by_cases hempty : trim cs = []
  · have hsign : trim ('>' :: ' ' :: blanks) = ['>'] := @trim_append_of_blanks ['>'] _ hfirst
    rw [hempty, List.append_nil, hsign]
    rfl
  · have hends : trim ('>' :: ' ' :: blanks ++ trim cs) = '>' :: ' ' :: blanks ++ trim cs := by
      refine trim_of_ends ?_ fun c hc => ?_
      · rintro c ⟨⟩
        decide
      · rw [List.getLast?_append_of_ne_nil _ hempty] at hc
        exact not_isBlank_of_getLast?_trim hc
    have hdrop : ('>' :: ' ' :: blanks ++ trim cs).dropWhile (· == '>') =
        ' ' :: blanks ++ trim cs := rfl
    rw [hends, hdrop, trim_blanks_append hfirst, trim_trim]

lemma leadOf_inclusion_iff :
    leadOf ('>' :: ' ' :: cs) = .ok (.simple (.inclusion name)) ↔
      name = .ofList (trim cs) ∧ trim cs ≠ [] ∧ ∀ c ∈ trim cs, isBlank c = false := by
  obtain ⟨rest, hbody⟩ : ∃ rest, Tag.body ('>' :: ' ' :: cs) = '>' :: rest :=
    List.head?_eq_some_iff.1 (head?_trim _)
  have hstray : isStray (Tag.body ('>' :: ' ' :: cs)) = false := by
    rw [hbody]
    simp [isStray, after?]
  have hform : Form.of? (Tag.body ('>' :: ' ' :: cs)) = some .inclusion := by
    rw [hbody]
    simp [Form.of?, Form.all, Form.fits, Form.opening, after?]
  have hlead : leadOf ('>' :: ' ' :: cs) =
      (inclusionOf (Tag.body ('>' :: ' ' :: cs))).map .simple := by
    simp only [leadOf, hstray, hform]
    rfl
  rw [hlead, inclusionOf, trim_inclusion]
  have hnamed : ((trim cs).isEmpty || (trim cs).any isBlank) = false ↔
      trim cs ≠ [] ∧ ∀ c ∈ trim cs, isBlank c = false := by
    simp
  cases hrefused : (trim cs).isEmpty || (trim cs).any isBlank with
  | true =>
    have hn : ¬ (trim cs ≠ [] ∧ ∀ c ∈ trim cs, isBlank c = false) := by
      rw [← hnamed, hrefused]
      simp
    simp only [if_true, Except.map, hn, and_false, reduceCtorEq]
  | false =>
    obtain ⟨hne, hblank⟩ := hnamed.1 hrefused
    constructor
    · intro h
      cases h
      exact ⟨rfl, hne, hblank⟩
    · rintro ⟨rfl, -, -⟩
      rfl

/-- The name is one that a tag can include a partial by. -/
structure Includable (name : String) : Prop where
  nonempty : name ≠ ""
  unblank : ∀ c ∈ name.toList, isBlank c = false
  closed : Tag.Sealed name.toList

lemma includable_iff :
    Includable name ↔ name ≠ "" ∧ name.toList.any isBlank = false ∧ Tag.Sealed name.toList := by
  constructor
  · intro h
    exact ⟨h.nonempty, by simpa using h.unblank, h.closed⟩
  · rintro ⟨hne, hblank, hclosed⟩
    exact ⟨hne, by simpa using hblank, hclosed⟩

instance : Decidable (Includable name) := decidable_of_iff' _ includable_iff

end Template

/-! ### Including a partial that has been added -/

namespace Engine

open Library (key)
open Template

variable {e e' : Engine} {name text : String} {p : Partial}

/-- A template that is the tag with the name compiles to one block, an inclusion that finds the
partial. -/
def Includes (e : Engine) (name : String) (p : Partial) : Prop :=
  ∃ b name', Engine.compile (tagText ("> " ++ name)) = .ok ⟨[b], 0⟩ ∧
    b.content = .inclusion name' ∧ e.library.find? name' = some p

lemma toList_inclusion (name : String) : ("> " ++ name).toList = '>' :: ' ' :: name.toList := by
  simp

/-- Trimming a name changes its key, if it takes anything away. -/
lemma trim_eq_of_key_eq (h : key name = key (.ofList (trim name.toList))) :
    trim name.toList = name.toList := by
  refine eq_of_lower_eq (trim_sublist _) ?_
  rw [String.ofList_toList]
  exact h.symm

lemma includable_of_includes (h : e.Includes p.name p) : Includable p.name := by
  obtain ⟨b, name', hcompile, hb, hfind⟩ := h
  obtain ⟨hclose, hlead⟩ := tag_of_compile_inclusion hcompile hb
  rw [toList_inclusion] at hclose hlead
  obtain ⟨rfl, hne, hblank⟩ := leadOf_inclusion_iff.1 hlead
  have hkey : key p.name = key (.ofList (trim p.name.toList)) := by
    simpa using List.find?_some hfind
  rw [trim_eq_of_key_eq hkey] at hne hblank
  exact ⟨by simpa using hne, hblank, Tag.close?_inclusion_iff.1 hclose⟩

lemma includes_of_includable (h : Includable p.name) (hfind : e.library.find? p.name = some p) :
    e.Includes p.name p := by
  have htrim : trim p.name.toList = p.name.toList := trim_of_no_blanks h.unblank
  have hclose := Tag.close?_inclusion_iff.2 h.closed
  have hlead : leadOf ('>' :: ' ' :: p.name.toList) = .ok (.simple (.inclusion p.name)) := by
    rw [leadOf_inclusion_iff, htrim, String.ofList_toList]
    exact ⟨rfl, by simpa using h.nonempty, h.unblank⟩
  rw [← toList_inclusion] at hclose hlead
  have hcompile := @compile_tag _ _ 0 hclose hlead
  exact ⟨_, p.name, hcompile, content_blockOf _ _ _, hfind⟩

/-- **Inclusion**: a partial that has been added under a name can be included by that name exactly
if the name is not empty, has no blanks, and is a text right after which a tag ends. -/
theorem included_iff (h : outcome (addPartial name text) e = (.ok (), e')) :
    (∃ p, e'.library.partials = e.library.partials ++ [p] ∧ p.name = name ∧ p.text = text ∧
      e'.Includes name p) ↔ Includable name := by
  obtain ⟨t, hfree, -, hadded⟩ := Library.add_eq_ok_iff.1 (addPartial_eq_ok h)
  have hfind : e'.library.find? name = some ⟨name, text, t⟩ := by
    rw [Library.find?] at hfree
    simp [hadded, Library.find?, hfree]
  constructor
  · rintro ⟨p, -, rfl, -, hincludes⟩
    exact includable_of_includes hincludes
  · intro hname
    have hincludes := includes_of_includable (p := ⟨name, text, t⟩) hname hfind
    have hpartials : e'.library.partials = e.library.partials ++ [⟨name, text, t⟩] := by
      rw [hadded]
    exact ⟨⟨name, text, t⟩, hpartials, rfl, rfl, hincludes⟩

/-- Closing braces within quotes do no harm. -/
theorem included_iff_quoted :
    let name := "a\"\x7d\x7d\""
    let e' : Engine := ⟨.empty, ⟨[⟨name, xText, xTemplate⟩]⟩⟩
    outcome (addPartial name xText) empty = (.ok (), e') ∧ Includable name ∧
      ∃ p, e'.library.partials = empty.library.partials ++ [p] ∧ p.name = name ∧
        p.text = xText ∧ e'.Includes name p := by
  intro name e'
  have hadded : outcome (addPartial name xText) empty = (.ok (), e') :=
    outcome_addPartial (Library.add_eq_ok rfl compile_xText)
  have hname : Includable name := by decide
  exact ⟨hadded, hname, (included_iff hadded).2 hname⟩

example : ¬ Includable "my card" ∧ ¬ Includable "a\x7d" := by decide

/-- A partial with an apostrophe in its name is added, and the tag with the name has no end. -/
theorem apostrophe_not_included :
    let e' : Engine := ⟨.empty, ⟨[⟨"it's", xText, xTemplate⟩]⟩⟩
    outcome (addPartial "it's" xText) empty = (.ok (), e') ∧
      Engine.compile (tagText ("> " ++ "it's")) = .error (.atEnd (.unclosedTag 0) 10 0) := by
  intro e'
  have hclose : Tag.close? ("> it's".toList ++ ['}', '}']) = none := by decide
  have hsplit : Tag.Piece.split (tagText ("> " ++ "it's")).toList =
      [.loose ("> it's".toList ++ ['}', '}'])] := by
    have htext : (tagText ("> " ++ "it's")).toList =
        '{' :: '{' :: ("> it's".toList ++ ['}', '}']) := by decide
    rw [htext, Tag.Piece.split_braces, hclose]
  refine ⟨outcome_addPartial (Library.add_eq_ok rfl compile_xText), ?_⟩
  rw [Engine.compile, Template.compile, hsplit, compileBlocks]
  rfl

end Engine

end Stencil
