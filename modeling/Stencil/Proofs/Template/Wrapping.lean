import Stencil.Proofs.Expression.Trimming
import Stencil.Proofs.Template.Concatenation
import Stencil.Proofs.Template.Headers

/-!
A source between an opening and a closing tag. What compiles at the top of a source compiles inside
a block as well, to the same blocks further on, exactly if no tag of it stands where the search for
the end of the part takes the tag for a divider. At the top of a source `else == 1` is an expression
like any other, and so is `empty == 1`; the search goes by the first word alone.
-/

namespace Stencil.Nest

open Stencil.Text Stencil.Tag Stencil.Template

variable {nest : Nest} {us ps : List Piece}

/-- A tag among the pieces divides a block of the kind for the count, where no block of the kind is
open: as many have been closed before it as have been opened. -/
def Exposes (nest : Nest) (ps : List Piece) : Prop :=
  ∃ us inner vs, ps = us ++ .tag inner :: vs ∧ nest.role inner = .divides ∧
    nest.count .opens us = nest.count .closes us

/-- The tag that closes a block of the kind, in its plainest form. -/
def closing (nest : Nest) : List Char := '/' :: nest.word.toList

lemma closes_closing (nest : Nest) : Closes nest nest.closing :=
  ⟨[], by simp, by cases nest <;> decide⟩

/-- What the search passes over opens as many blocks as it closes. -/
lemma Passes.count_eq (h : Passes nest 0 us) : nest.count .opens us = nest.count .closes us := by
  have hcut := h.ends_of_closes nest.closes_closing []
  obtain ⟨d, c, hcount, hd, hin⟩ := cut?_of_inside hcut (List.prefix_refl us)
  have hzero : d = 0 := by
    cases d with
    | zero => rfl
    | succ d =>
      simp only [Boundary.piece, cut?_tag, role_of_closes nest.closes_closing] at hd
      cases hd
  omega

lemma clear_of_not_exposes (h : ¬ nest.Exposes ps) : nest.Clear 0 ps :=
  fun _ us inner vs hps hu _ hr => h ⟨us, inner, vs, hps, hr, hu.count_eq⟩

/-- The search stops at an exposed divider, if not before. -/
lemma not_ends_of_exposes {b : Boundary} (h : nest.Exposes ps) : ¬ nest.Ends ps b := by
  obtain ⟨us, inner, vs, rfl, hr, hcount⟩ := h
  intro hends
  have hcut := hends []
  rw [List.append_assoc] at hcut
  obtain ⟨d, c, hdepth, hd, hin⟩ := cut?_of_inside hcut (List.prefix_append us _)
  obtain rfl : d = 0 := by omega
  simp only [List.cons_append, cut?_tag, hr, Option.some.injEq] at hd
  simp [← hd] at hin

/-- A compiled source is a whole part exactly if it exposes no divider. -/
lemma ends_iff {start : Nat} {bs : List Block} (h : Compiles start ps bs) :
    nest.Ends ps (.close nest.closing) ↔ ¬ nest.Exposes ps := by
  constructor
  · exact fun hends hex => not_ends_of_exposes hex hends
  · intro hex
    have hpasses := passes_of_derives h.derives (clear_of_not_exposes hex)
    exact hpasses.ends_of_closes nest.closes_closing

end Stencil.Nest

namespace Stencil.Template

open Stencil.Text Stencil.Tag
open Stencil.Expression (isName isPlain_of_isBlank isPlain_of_continuesName
  continuesName_of_isName)

variable {inner opening : List Char} {nest : Nest}

/-! ### Tags that open a block -/

lemma skips_of_trim {cs : List Char} (h : Skips (trim cs) none none) : Skips cs none none := by
  obtain ⟨blanks, hb, hcs⟩ := blanks_append_trimStart cs
  obtain ⟨blanks', hb', hcs'⟩ := trimEnd_append_blanks (trimStart cs)
  have hstart : Skips blanks none none := .plains fun c hc => isPlain_of_isBlank (hb c hc)
  have hend : Skips blanks' none none := .plains fun c hc => isPlain_of_isBlank (hb' c hc)
  rw [hcs, hcs']
  exact hstart.append (h.append hend)

lemma skips_of_readValue {cs : List Char} {e : Expression} (h : readValue cs = .ok e) :
    Skips cs none none := by
  obtain ⟨ts, ht, -⟩ := bind_eq_ok.1 (mapError_eq_ok.1 h)
  exact skips_of_trim (skips_of_tokensFrom ht)

lemma skips_of_isName {cs : List Char} (h : isName (trim cs)) : Skips cs none none :=
  skips_of_trim (.plains fun c hc => isPlain_of_continuesName (continuesName_of_isName h c hc))

lemma skips_of_names {names : List Char} {header : Header} (h : NamesVariables names header) :
    Skips names none none := by
  rcases h with ⟨hname, -, -⟩ | ⟨item, index, rfl, hitem, hindex, -⟩
  · exact skips_of_isName hname
  · have hcomma : Skips [','] none none := .plain (by decide)
    exact (skips_of_isName hitem).append (hcomma.append (skips_of_isName hindex))

/-- What a tag that opens a block says leaves no quote open. -/
lemma skips_of_conditional {e : Expression} (h : leadOf inner = .ok (.conditional e)) :
    Skips inner none none := by
  obtain ⟨rest, hbody, hcondition⟩ := condition_of_leadOf h
  have hif : Skips "if ".toList none none := .plains (List.all_eq_true.1 (by decide))
  refine skips_of_trim ?_
  rw [Tag.body] at hbody
  rw [hbody]
  exact hif.append (skips_of_readValue hcondition)

lemma skips_of_iteration {header : Header} (h : leadOf inner = .ok (.iteration header)) :
    Skips inner none none := by
  obtain ⟨rest, hbody, hheader⟩ := header_of_leadOf h
  obtain ⟨names, collection, rfl, hnames, hcollection⟩ := headerOf_cases hheader
  have heach : Skips "each ".toList none none := .plains (List.all_eq_true.1 (by decide))
  have hin : Skips " in ".toList none none := .plains (List.all_eq_true.1 (by decide))
  refine skips_of_trim ?_
  rw [Tag.body] at hbody
  rw [hbody]
  exact heach.append (((skips_of_names hnames).append hin).append (skips_of_readValue hcollection))

/-- A tag with `if` and a text that is an expression opens a conditional. -/
lemma leadOf_of_parse {cs : List Char} {e : Expression} (h : Expression.parse cs = .ok e) :
    leadOf ("if ".toList ++ cs) = .ok (.conditional e) := by
  have hend := Expression.parse_trimEnd h
  have hne : trimEnd cs ≠ [] := by
    intro hnil
    rw [hnil, Expression.parse_nil] at hend
    cases hend
  have hbody : Tag.body ("if ".toList ++ cs) = "if ".toList ++ trimEnd cs := by
    rw [← trimEnd_append hne]
    rfl
  exact leadOf_if hbody (mapError_eq_ok.2 (Expression.parse_trim hend))

/-! ### Between two tags -/

lemma close?_of_opens (ho : nest.Opens opening) (hs : Skips opening none none) (rest : List Char) :
    close? (opening ++ '}' :: '}' :: rest) = some (opening, rest) := by
  refine close?_of_skips hs ?_ rest
  obtain ⟨more, hbody⟩ := ho
  rw [← head?_trim, ← Tag.body, hbody]
  cases nest <;> simp [Nest.word]

lemma close?_closing (nest : Nest) (rest : List Char) :
    close? (nest.closing ++ '}' :: '}' :: rest) = some (nest.closing, rest) := by
  cases nest
  · exact close?_of_skips (.plains (List.all_eq_true.1 (by decide))) (by decide) rest
  · exact close?_of_skips (.plains (List.all_eq_true.1 (by decide))) (by decide) rest

/-- The pieces of a source between an opening and a closing tag. -/
lemma split_between {cs : List Char} (ho : nest.Opens opening) (hs : Skips opening none none)
    (hclosed : ∀ rest, .loose rest ∉ Piece.split cs) (hend : cs.getLast? ≠ some '{') :
    Piece.split (signature opening ++ (cs ++ signature nest.closing)) =
      .tag opening :: Piece.split cs ++ [.tag nest.closing] := by
  have hclosing : Piece.split (signature nest.closing) = [.tag nest.closing] :=
    Piece.split_signature (close?_closing nest [])
  rw [Piece.split_signature_append (close?_of_opens ho hs _), Piece.split_append _ hclosed hend,
    hclosing, Piece.fuse_tag_right, List.cons_append]

/-! ### Blocks with one part -/

section

variable {start : Nat} {ps us : List Piece} {closing : List Char} {part : Part}

/-- A conditional without further parts ends where its first part does. -/
lemma CompilesBranches.ends {condition : Option Expression} {e : Expression}
    (h : CompilesBranches start condition us closing [.mk e part] none) :
    Nest.conditional.Ends us (.close closing) := by
  cases h with
  | close ends first => exact ends
  | divide ends first divides more => cases more

/-- An iteration without a last part ends where its body does. -/
lemma CompilesLoop.ends (h : CompilesLoop start us closing part none) :
    Nest.iteration.Ends us (.close closing) := by
  cases h with
  | close ends first => exact ends

lemma Compiles.ends_of_conditional {e : Expression}
    (h : Compiles start ps [blockOf start ps (.conditional [.mk e part] none)]) :
    ∃ opening us closing, ps = .tag opening :: us ++ [.tag closing] ∧
      Nest.conditional.Ends us (.close closing) := by
  generalize hb : blockOf start ps (.conditional [.mk e part] none) = b at h
  have hcontent : b.content = .conditional [.mk e part] none := by rw [← hb, content_blockOf]
  cases h with
  | text rest => cases hcontent
  | simple reads rest =>
    have hparts := (simple_of_leadOf reads).2
    rw [content_blockOf] at hcontent
    simp [hcontent, Content.parts] at hparts
  | @conditional _ opening closing _ us _ _ _ _ reads parts rest =>
    rw [content_blockOf, Content.conditional.injEq] at hcontent
    obtain ⟨rfl, rfl⟩ := hcontent
    cases rest
    exact ⟨opening, us, closing, by simp, parts.ends⟩
  | iteration reads parts rest => cases hcontent

lemma Compiles.ends_of_iteration {item : String} {index : Option String} {collection : Expression}
    (h : Compiles start ps [blockOf start ps (.iteration item index collection part none)]) :
    ∃ opening us closing, ps = .tag opening :: us ++ [.tag closing] ∧
      Nest.iteration.Ends us (.close closing) := by
  generalize hb : blockOf start ps (.iteration item index collection part none) = b at h
  have hcontent : b.content = .iteration item index collection part none := by
    rw [← hb, content_blockOf]
  cases h with
  | text rest => cases hcontent
  | simple reads rest =>
    have hparts := (simple_of_leadOf reads).2
    rw [content_blockOf] at hcontent
    simp [hcontent, Content.parts] at hparts
  | conditional reads parts rest => cases hcontent
  | @iteration _ opening closing _ us _ _ _ _ reads parts rest =>
    rw [content_blockOf, Content.iteration.injEq] at hcontent
    obtain ⟨-, -, -, rfl, rfl⟩ := hcontent
    cases rest
    exact ⟨opening, us, closing, by simp, parts.ends⟩

end

variable {ps : List Piece} {children : List Block}

/-- Pieces between an `if` and its end compile to a conditional with them as its only part exactly
if they expose no divider. -/
lemma compiles_conditional_iff {e : Expression} (h : leadOf opening = .ok (.conditional e))
    (hps : Compiles (0 + Piece.bytes (.tag opening)) ps children) :
    Compiles 0 (.tag opening :: ps ++ [.tag Nest.conditional.closing])
        [blockOf 0 (.tag opening :: ps ++ [.tag Nest.conditional.closing])
          (.conditional [.mk e (partOf (0 + Piece.bytes (.tag opening)) ps children)] none)] ↔
      ¬ Nest.conditional.Exposes ps := by
  rw [← Nest.ends_iff hps]
  constructor
  · intro hc
    obtain ⟨opening', us, closing', heq, hends⟩ := hc.ends_of_conditional
    obtain ⟨hpieces, hclosing⟩ := List.append_inj' heq rfl
    cases hpieces
    cases hclosing
    exact hends
  · intro hends
    simpa using Compiles.conditional h (.close hends hps) (.nil _)

lemma compiles_iteration_iff {header : Header} (h : leadOf opening = .ok (.iteration header))
    (hps : Compiles (0 + Piece.bytes (.tag opening)) ps children) :
    Compiles 0 (.tag opening :: ps ++ [.tag Nest.iteration.closing])
        [blockOf 0 (.tag opening :: ps ++ [.tag Nest.iteration.closing])
          (.iteration header.item header.index header.collection
            (partOf (0 + Piece.bytes (.tag opening)) ps children) none)] ↔
      ¬ Nest.iteration.Exposes ps := by
  rw [← Nest.ends_iff hps]
  constructor
  · intro hc
    obtain ⟨opening', us, closing', heq, hends⟩ := hc.ends_of_iteration
    obtain ⟨hpieces, hclosing⟩ := List.append_inj' heq rfl
    cases hpieces
    cases hclosing
    exact hends
  · intro hends
    simpa using Compiles.iteration h (.close hends hps) (.nil _)

/-! ### Sources between two tags -/

/-- The source text of a tag. -/
def tagText (inner : String) : String := .ofList (signature inner.toList)

/-- The block that a source between two tags makes, when the source compiles to `children` alone. -/
def wrapping (opening s closing : String) (children : List Block) (content : Part → Content) :
    Block :=
  let start := size opening.toList
  let stop := start + size s.toList
  .mk (opening ++ s ++ closing) ⟨0, stop + size closing.toList⟩
    (content (.mk s (children.map (Block.shift start)) ⟨start, stop⟩))

lemma toList_tagText (inner : String) : (tagText inner).toList = signature inner.toList :=
  String.toList_ofList

/-- The block that the source makes covers the pieces from one tag to the other. -/
lemma wrapping_eq_blockOf (opening s closing : String) (children : List Block)
    (content : Part → Content) :
    let start := Piece.bytes (.tag opening.toList)
    wrapping (tagText opening) s (tagText closing) children content =
      blockOf 0 (.tag opening.toList :: Piece.split s.toList ++ [.tag closing.toList])
        (content
          (partOf (0 + start) (Piece.split s.toList) (children.map (Block.shift start)))) := by
  have htotal : Piece.total (Piece.split s.toList) = size s.toList := by
    rw [Piece.total, Piece.join_split]
  simp [wrapping, blockOf, partOf, tagText, htotal, Piece.bytes, Piece.chars, Piece.join_split,
    Nat.add_assoc, String.append_assoc]

/-- A source between two tags compiles as its pieces between those tags do. -/
lemma compile_between {s opening closing : String} {source : Nat} {t : Template}
    {content : Part → Content} (hs : compile s source = .ok t)
    (hend : s.toList.getLast? ≠ some '{') (ho : nest.Opens opening.toList)
    (hskips : Skips opening.toList none none) (hclosing : closing.toList = nest.closing) :
    let start := Piece.bytes (.tag opening.toList)
    let pieces := .tag opening.toList :: Piece.split s.toList ++ [.tag nest.closing]
    compile (tagText opening ++ s ++ tagText closing) source =
        .ok ⟨[wrapping (tagText opening) s (tagText closing) t.blocks content], source⟩ ↔
      Compiles 0 pieces [blockOf 0 pieces
        (content
          (partOf (0 + start) (Piece.split s.toList) (t.blocks.map (Block.shift start))))] := by
  intro start pieces
  have hcompiles := (compile_eq_ok.1 hs).1
  have hsplit : Piece.split (tagText opening ++ s ++ tagText closing).toList = pieces := by
    rw [String.toList_append, String.toList_append, toList_tagText, toList_tagText, hclosing,
      List.append_assoc]
    exact split_between ho hskips (fun rest => hcompiles.not_loose rest) hend
  rw [compile_eq_ok, hsplit, wrapping_eq_blockOf, hclosing]
  exact and_iff_left rfl

/-- **Wrapping**: a source that compiles and does not end in an opening brace compiles between the
tags of a conditional to that conditional alone, with the blocks of the source as its only part,
exactly if the source exposes no divider to conditionals; and likewise for iterations. -/
theorem compile_wrapped {s : String} {source : Nat} {t : Template} (hs : compile s source = .ok t)
    (hend : s.toList.getLast? ≠ some '{') :
    (∀ (c : String) (e : Expression), Expression.parse c.toList = .ok e →
      (compile (tagText ("if " ++ c) ++ s ++ tagText "/if") source =
          .ok ⟨[wrapping (tagText ("if " ++ c)) s (tagText "/if") t.blocks fun part =>
            .conditional [.mk e part] none], source⟩ ↔
        ¬ Nest.conditional.Exposes (Piece.split s.toList))) ∧
    ∀ (h : String) (header : Header), leadOf ("each " ++ h).toList = .ok (.iteration header) →
      (compile (tagText ("each " ++ h) ++ s ++ tagText "/each") source =
          .ok ⟨[wrapping (tagText ("each " ++ h)) s (tagText "/each") t.blocks fun part =>
            .iteration header.item header.index header.collection part none], source⟩ ↔
        ¬ Nest.iteration.Exposes (Piece.split s.toList)) := by
  have hcompiles := (compile_eq_ok.1 hs).1
  have further (n : Nat) : Compiles (0 + n) (Piece.split s.toList)
      (t.blocks.map (Block.shift n)) := by simpa using hcompiles.shift n
  constructor
  · intro c e he
    have hlead : leadOf ("if " ++ c).toList = .ok (.conditional e) := by
      rw [String.toList_append]
      exact leadOf_of_parse he
    have ho := Nest.opens_of_conditional hlead
    have hclosing : "/if".toList = Nest.conditional.closing := rfl
    exact (compile_between hs hend ho (skips_of_conditional hlead) hclosing).trans
      (compiles_conditional_iff hlead (further _))
  · intro h header hlead
    have ho := Nest.opens_of_iteration hlead
    have hclosing : "/each".toList = Nest.iteration.closing := rfl
    exact (compile_between hs hend ho (skips_of_iteration hlead) hclosing).trans
      (compiles_iteration_iff hlead (further _))

lemma parse_letter : Expression.parse "a".toList = .ok (.path ⟨.scope, ["a"]⟩) := by cbv

lemma leadOf_each :
    leadOf ("each " ++ "i in a").toList = .ok (.iteration ⟨"i", none, .path ⟨.scope, ["a"]⟩⟩) := by
  have hvalue : readValue ['a'] = .ok (.path ⟨.scope, ["a"]⟩) :=
    mapError_eq_ok.2 (Expression.parse_trim parse_letter)
  have hheader : headerOf (Tag.body ("each " ++ "i in a").toList) =
      .ok ⟨"i", none, .path ⟨.scope, ["a"]⟩⟩ := by
    have hrest : (after? Form.iteration.opening.toList
        (Tag.body ("each " ++ "i in a").toList)).getD [] = "i in a".toList := by decide
    have hin : splitOnce " in ".toList "i in a".toList = some (['i'], ['a']) := by decide
    have hcomma : splitOnce [','] ['i'] = none := by decide
    have hname : Expression.isName (trim ['i']) = true := by decide
    simp only [headerOf, hrest, hin, hcomma, hname, hvalue]
    rfl
  have hs : isStray (Tag.body ("each " ++ "i in a").toList) = false := by decide
  have hf : Form.of? (Tag.body ("each " ++ "i in a").toList) = some .iteration := by decide
  simp only [leadOf, hs, hf, hheader]
  rfl

theorem compile_wrapped_letter :
    let s := String.singleton 'x'
    let blocks := [Block.mk s ⟨0, 1⟩ .literal]
    compile (tagText ("if " ++ "a") ++ s ++ tagText "/if") 0 =
        .ok ⟨[wrapping (tagText ("if " ++ "a")) s (tagText "/if") blocks fun part =>
          .conditional [.mk (.path ⟨.scope, ["a"]⟩) part] none], 0⟩ ∧
      compile (tagText ("each " ++ "i in a") ++ s ++ tagText "/each") 0 =
        .ok ⟨[wrapping (tagText ("each " ++ "i in a")) s (tagText "/each") blocks fun part =>
          .iteration "i" none (.path ⟨.scope, ["a"]⟩) part none], 0⟩ := by
  intro s blocks
  have hs : compile s 0 = .ok ⟨blocks, 0⟩ := compile_letter (c := 'x') 0 (by decide)
  have hsplit : Piece.split s.toList = [.text ['x']] := split_letter (by decide)
  have hexposes (nest : Nest) : ¬ nest.Exposes (Piece.split s.toList) := by
    rintro ⟨us, inner, vs, hps, -⟩
    simp [hsplit, List.singleton_eq_append_iff] at hps
  obtain ⟨hif, heach⟩ := compile_wrapped hs (by simp [s])
  exact ⟨(hif "a" _ parse_letter).2 (hexposes _), (heach "i in a" _ leadOf_each).2 (hexposes _)⟩

/-! ### An exposed divider -/

open Stencil.Expression in
lemma tokens_else :
    tokens "else == a".toList = .ok [.name "else", .operator .equal, .name "a"] := by
  have blank (afterDot : Bool) (cs : List Char) :
      tokensFrom afterDot (' ' :: cs) = tokensFrom afterDot cs := by
    rw [tokensFrom, if_pos (by decide)]
  have helse : lexeme false 'e' "lse == a".toList = .ok (.name "else", " == a".toList) := by decide
  have hequal : lexeme false '=' "= a".toList = .ok (.operator .equal, " a".toList) := by decide
  have ha : lexeme false 'a' [] = .ok (.name "a", []) := by decide
  change tokensFrom false ('e' :: "lse == a".toList) = _
  rw [tokensFrom_of_ok (by decide) helse]
  change Except.map _ (tokensFrom false (' ' :: '=' :: "= a".toList)) = _
  rw [blank, tokensFrom_of_ok (by decide) hequal]
  change Except.map _ (Except.map _ (tokensFrom false (' ' :: 'a' :: []))) = _
  rw [blank, tokensFrom_of_ok (by decide) ha, tokensFrom]
  rfl

/-- At the top of a source, `else == a` is an expression. -/
lemma leadOf_else : ∃ content, leadOf "else == a".toList = .ok (.simple content) := by
  have hparse : Expression.parse "else == a".toList =
      .ok (.binary .equal (.path ⟨.scope, ["else"]⟩) (.path ⟨.scope, ["a"]⟩)) := by
    rw [Expression.parse, tokens_else]
    cbv
  have hs : isStray (Tag.body "else == a".toList) = false := by decide
  have hf : Form.of? (Tag.body "else == a".toList) = some .binding := by decide
  have hbody : Tag.body "else == a".toList = "else == a".toList := by decide
  have hcontent : ∃ content, bindingOf (Tag.body "else == a".toList) = .ok content := by
    rw [hbody, bindingOf, hparse]
    exact ⟨_, rfl⟩
  obtain ⟨content, hcontent⟩ := hcontent
  refine ⟨content, ?_⟩
  simp only [leadOf, hs, hf, hcontent]
  rfl

/-- A conditional whose first part ends with a tag that is no divider is refused at that tag. -/
lemma compileBlocks_refused {source start : Nat} {opening divider : List Char}
    {us rest : List Piece} {condition : Expression} {children : List Block} {cause : Cause}
    (reads : leadOf opening = .ok (.conditional condition))
    (ends : Nest.conditional.Ends us (.divide divider))
    (part : Compiles (start + Piece.bytes (.tag opening)) us children)
    (divides : dividerOf divider = .error cause) :
    let stop := start + Piece.bytes (.tag opening) + Piece.total us
    compileBlocks source start (.tag opening :: (us ++ .tag divider :: rest)) =
      .error ⟨cause, ⟨stop, stop + Piece.bytes (.tag divider)⟩, source⟩ := by
  intro stop
  have hbranches : compileBranches source (start + Piece.bytes (.tag opening)) (some condition)
      (us ++ .tag divider :: rest) =
        .error ⟨cause, ⟨stop, stop + Piece.bytes (.tag divider)⟩, source⟩ := by
    rw [compileBranches]
    refine (Nest.match_cut? (ends rest)).trans ?_
    simp only [part.eq_ok, divides]
    rfl
  rw [compileBlocks]
  exact bind_eq_error.2 (.inr ⟨_, located_eq_ok.2 reads, bind_eq_error.2 (.inl hbranches)⟩)

/-- Between the tags of a conditional, `else == a` is taken for a divider and refused as one. -/
theorem else_not_wrapped :
    let s := tagText "else == a"
    (∃ t, compile s 0 = .ok t) ∧ s.toList.getLast? ≠ some '{' ∧
      Expression.parse "a".toList = .ok (.path ⟨.scope, ["a"]⟩) ∧
      compile (tagText ("if " ++ "a") ++ s ++ tagText "/if") 0 =
        .error ⟨.badDivider s, ⟨8, 21⟩, 0⟩ := by
  intro s
  have htext : s.toList = signature "else == a".toList := toList_tagText _
  have hskips : Skips "else == a".toList none none := Tag.skips_of_tokensFrom tokens_else
  have hsplit : Piece.split s.toList = [.tag "else == a".toList] := by
    have h := Piece.split_signature_append (close?_of_skips hskips (by decide) [])
    rwa [List.append_nil, ← htext, Piece.split] at h
  have hend : s.toList.getLast? ≠ some '{' := by
    rw [htext]
    decide
  have hlead := leadOf_of_parse parse_letter
  have hwhole : Piece.split (tagText ("if " ++ "a") ++ s ++ tagText "/if").toList =
      [.tag ("if ".toList ++ "a".toList), .tag "else == a".toList, .tag "/if".toList] := by
    have h := split_between (Nest.opens_of_conditional hlead) (skips_of_conditional hlead)
      (by simp [hsplit]) hend
    rw [hsplit, htext] at h
    have hclosing : "/if".toList = Nest.conditional.closing := rfl
    simp only [String.toList_append, toList_tagText, List.append_assoc, s, hclosing]
    exact h
  refine ⟨?_, hend, parse_letter, ?_⟩
  · obtain ⟨content, helse⟩ := leadOf_else
    have hcompiles : Compiles 0 (Piece.split s.toList)
        [blockOf 0 [.tag "else == a".toList] content] := by
      rw [hsplit]
      exact .simple helse (.nil _)
    exact ⟨⟨_, 0⟩, compile_eq_ok.2 ⟨hcompiles, rfl⟩⟩
  · have hends : Nest.conditional.Ends [] (.divide "else == a".toList) := fun rest => rfl
    have hdivider : dividerOf "else == a".toList = .error (.badDivider s) := rfl
    rw [compile, hwhole]
    exact congrArg (Except.map _) (compileBlocks_refused hlead hends (.nil _) hdivider)

end Stencil.Template
