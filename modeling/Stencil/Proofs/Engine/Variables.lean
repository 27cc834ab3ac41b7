import Stencil.Proofs.Engine.Verbatim
import Stencil.Proofs.Expression.Image
import Stencil.Proofs.Template.Tags
import Stencil.Proofs.Text.Cutting

/-!
Which variables can be read. A declaration and the header of an iteration take any name for a
variable. A tag with the name alone reads the variable, unless the name is a word that has a meaning
of its own: as a value in expressions, or as a tag that divides a block.
-/

namespace Stencil

open Stencil.Text Stencil.Expression

/-! ### Names in expressions -/

namespace Expression

variable {cs : List Char} {name : String}

lemma not_mem_of_isName {c : Char} (h : isName cs) (hother : continuesName c = false) : c ∉ cs := by
  intro hc
  rw [continuesName_of_isName h c hc] at hother
  cases hother

lemma not_isBlank_of_isName (h : isName cs) : ∀ c ∈ cs, isBlank c = false := by
  intro c hc
  cases hb : isBlank c with
  | false => rfl
  | true => exact absurd hc (not_mem_of_isName h (not_continuesName_of_isBlank hb))

/-- A name alone is the path of the variable, unless it is the word for a value. -/
lemma parse_name (h : isName name.toList) (hvalue : name ∉ ["true", "false", "null"]) :
    parse name.toList = .ok (.path ⟨.scope, [name]⟩) := by
  have hword : wordToken name.toList = .name name := by
    simp_all [wordToken]
  have hwritten := (@written_scope 0 name [] [] ⟨h, hword⟩ .nil).parse
  rwa [show Path.display ⟨.scope, [name]⟩ = name by simp [Path.display]] at hwritten

end Expression

/-! ### Names in tags -/

namespace Template

variable {cs : List Char} {name : String}

/-- The words that a name may be without being the name of a variable that can be read. -/
def reservedWords : List String := ["true", "false", "null", "else", "elseif", "empty"]

/-- A name begins with no text that has a character of no name. -/
lemma after?_of_isName {lead : List Char} {c : Char} (h : isName cs) (hc : c ∈ lead)
    (hother : continuesName c = false) : after? lead cs = none := by
  rw [Option.eq_none_iff_forall_ne_some]
  intro rest hrest
  refine not_mem_of_isName h hother ?_
  rw [after?_eq_some hrest]
  exact List.mem_append_left _ hc

/-- Whatever begins a tag of another form has a character of no name. -/
lemma not_fits_of_isName (h : isName cs) {form : Form} (hform : form ≠ .binding) :
    form.fits cs = false := by
  have hopening {c : Char} (hc : c ∈ form.opening.toList) (hn : continuesName c = false) :
      form.fits cs = false := by
    cases form with
    | binding => exact absurd rfl hform
    | _ => simp only [Form.fits, after?_of_isName h hc hn, Option.isSome_none]
  cases form with
  | binding => exact absurd rfl hform
  | comment => exact hopening (c := '!') (by decide) (by decide)
  | directive => exact hopening (c := '@') (by decide) (by decide)
  | inclusion => exact hopening (c := '>') (by decide) (by decide)
  | _ => exact hopening (c := ' ') (by decide) (by decide)

lemma form_of_isName (h : isName cs) : Form.of? cs = some .binding := by
  have hbinding : Form.binding.fits cs := by
    cases cs with
    | nil => cases h
    | cons c cs =>
      simp only [isName, beginsName, Bool.and_eq_true, Bool.or_eq_true] at h
      rcases h.1 with hc | hc
      · simp [Form.fits, Form.beginsBinding, isAlphanumeric_of_isAlphabetic hc]
      · simp [Form.fits, Form.beginsBinding, hc]
  simp [Form.of?, Form.all, not_fits_of_isName h, hbinding]

lemma isStray_of_isName (h : isName name.toList) :
    isStray name.toList ↔ name ∈ ["else", "elseif", "empty"] := by
  have hempty : name.toList ≠ [] := by
    intro hnil
    rw [hnil] at h
    cases h
  have hslash : name.toList.head? ≠ some '/' := fun hhead =>
    not_mem_of_isName h (by decide) (List.mem_of_head? hhead)
  have helseif : after? "elseif ".toList name.toList = none :=
    after?_of_isName h (c := ' ') (by decide) (by decide)
  have hword (word : String) : name.toList == word.toList ↔ name = word := by
    rw [beq_iff_eq, String.toList_inj]
  simp only [isStray, helseif, Bool.or_eq_true, hword]
  simp [hempty, hslash, or_assoc]

/-- A tag with a name alone reads a variable, unless the name is reserved. -/
lemma leadOf_name (h : isName name.toList) (hname : name ∉ reservedWords) :
    leadOf name.toList = .ok (.simple (.binding (.path ⟨.scope, [name]⟩))) := by
  have hbody : Tag.body name.toList = name.toList := trim_of_no_blanks (not_isBlank_of_isName h)
  have hstray : isStray name.toList = false := by
    rw [Bool.eq_false_iff, Ne, isStray_of_isName h]
    simp_all [reservedWords]
  have hparse := parse_name h (by simp_all [reservedWords])
  simp only [leadOf, hbody, hstray, form_of_isName h, bindingOf, hparse]
  rfl

/-! ### Names of variables -/

/-- The inside of the tag that declares the variable with the value `1`. -/
def assignOne (name : String) : String := "var " ++ name ++ " = 1"

lemma toList_assignOne (name : String) :
    (assignOne name).toList = "var ".toList ++ name.toList ++ " = 1".toList := by
  simp [assignOne]

/-- A tag accepts the name for a variable: a declaration, or the header of an iteration for its
items or for their places. -/
inductive Declarable (name : String) : Prop
  | declaration {inner : List Char} {value : Expression}
      (reads : leadOf inner = .ok (.simple (.declaration name value)))
  | item {inner : List Char} {header : Header} (reads : leadOf inner = .ok (.iteration header))
      (names : header.item = name)
  | index {inner : List Char} {header : Header} (reads : leadOf inner = .ok (.iteration header))
      (names : header.index = some name)

lemma isName_of_assignmentOf {keyword : String} {body : List Char} {value : Expression}
    (h : assignmentOf keyword body = .ok (name, value)) : isName name.toList := by
  unfold assignmentOf at h
  dsimp only at h
  split at h
  · cases h
  · split at h
    · rename_i hname
      obtain ⟨e, -, heq⟩ := map_eq_ok.1 h
      cases heq
      rwa [String.toList_ofList]
    · cases h

lemma NamesVariables.isName {names : List Char} {header : Header}
    (h : NamesVariables names header) :
    Expression.isName header.item.toList ∧
      ∀ index, header.index = some index → Expression.isName index.toList := by
  rcases h with ⟨hname, hitem, hindex⟩ | ⟨item, index, -, hname, hname', -, hitem, hindex⟩
  · simp [hitem, hindex, hname]
  · simp [hitem, hindex, hname, hname']

lemma isName_of_iteration {inner : List Char} {header : Header}
    (h : leadOf inner = .ok (.iteration header)) :
    isName header.item.toList ∧ ∀ index, header.index = some index → isName index.toList := by
  obtain ⟨rest, -, hheader⟩ := header_of_leadOf h
  obtain ⟨names, collection, -, hnames, -⟩ := headerOf_cases hheader
  exact hnames.isName

lemma assignmentOf_assignOne (h : isName name.toList) :
    assignmentOf Form.declaration.opening (assignOne name).toList =
      .ok (name, .literal (.integer 1)) := by
  have hsplit : splitOnce ['='] (name.toList ++ " = 1".toList) =
      some (name.toList ++ [' '], [' ', '1']) := by
    have hequal : '=' ∉ name.toList ++ [' '] := by
      intro hmem
      rcases List.mem_append.1 hmem with hmem | hmem
      · exact not_mem_of_isName h (by decide) hmem
      · exact absurd hmem (by decide)
    simpa using @splitOnce_singleton _ [' ', '1'] _ hequal
  have htrim : trim (name.toList ++ [' ']) = name.toList := by
    have hblank : ∀ c ∈ [' '], isBlank c := List.all_eq_true.1 (by decide)
    rw [trim_append_of_blanks hblank, trim_of_no_blanks (not_isBlank_of_isName h)]
  have hvalue : readValue [' ', '1'] = .ok (.literal (.integer 1)) := by
    have hdigit : trim [' ', '1'] = Decimal.write (1 : Int64).toInt := by decide
    have hwritten : Written 0 (Decimal.write (1 : Int64).toInt) (.literal (.integer 1)) :=
      written_integer (by decide)
    rw [readValue, hdigit, hwritten.parse]
    rfl
  have hafter : after? Form.declaration.opening.toList (assignOne name).toList =
      some (name.toList ++ " = 1".toList) := by
    rw [toList_assignOne, List.append_assoc]
    exact after?_append _ _
  simp only [assignmentOf, hafter, Option.getD_some, hsplit, htrim, h, hvalue, if_true]
  simp [Except.map]

lemma leadOf_assignOne (h : isName name.toList) :
    leadOf (assignOne name).toList =
      .ok (.simple (.declaration name (.literal (.integer 1)))) := by
  have hbody : Tag.body (assignOne name).toList = (assignOne name).toList := by
    refine trim_of_ends ?_ ?_
    · rw [toList_assignOne]
      rintro c ⟨⟩
      decide
    · rw [toList_assignOne, List.getLast?_append]
      rintro c ⟨⟩
      decide
  have hstray : isStray (assignOne name).toList = false := by
    simp [toList_assignOne, isStray, after?]
  have hform : Form.of? (assignOne name).toList = some .declaration := by
    simp [toList_assignOne, Form.of?, Form.all, Form.fits, Form.opening, after?]
  simp only [leadOf, hbody, hstray, hform, assignmentOf_assignOne h]
  rfl

/-- The names of variables are the names. -/
lemma declarable_iff : Declarable name ↔ isName name.toList := by
  constructor
  · rintro (reads | ⟨reads, rfl⟩ | ⟨reads, names⟩)
    · cases says_of_leadOf reads with
      | declaration h => exact isName_of_assignmentOf h
    · exact (isName_of_iteration reads).1
    · exact (isName_of_iteration reads).2 _ names
  · exact fun h => .declaration (leadOf_assignOne h)

/-! ### Reading variables -/

/-- The variable with the name can be read: a tag with the name alone is a binding of the path that
has the name as its only segment, and after the declaration with the value `1` it writes `1`. -/
structure Readable (name : String) : Prop where
  binding (source : Nat) : compile (tagText name) source =
    .ok ⟨[.mk (tagText name) ⟨0, size (tagText name).toList⟩ (.binding (.path ⟨.scope, [name]⟩))],
      source⟩
  value : ∃ t, Engine.compile (tagText (assignOne name) ++ tagText name) = .ok t ∧
    ∀ (e : Engine) (model : Value) (micros : Nat), e.render t model micros = .ok "1"

lemma close?_name (h : isName name.toList) (rest : List Char) :
    Tag.close? (name.toList ++ '}' :: '}' :: rest) = some (name.toList, rest) := by
  have hblanks := not_isBlank_of_isName h
  have htrim : trim name.toList = name.toList := trim_of_no_blanks hblanks
  refine Tag.close?_of_skips (skips_of_isName (by rwa [htrim])) ?_ rest
  rw [← head?_trim, htrim]
  exact fun hc => not_mem_of_isName h (by decide) (List.mem_of_head? hc)

lemma close?_assignOne (h : isName name.toList) (rest : List Char) :
    Tag.close? ((assignOne name).toList ++ '}' :: '}' :: rest) =
      some ((assignOne name).toList, rest) := by
  have hvar : Tag.Skips "var ".toList none none := .plains (List.all_eq_true.1 (by decide))
  have hname : Tag.Skips name.toList none none :=
    .plains fun c hc => isPlain_of_continuesName (continuesName_of_isName h c hc)
  have hone : Tag.Skips " = 1".toList none none := .plains (List.all_eq_true.1 (by decide))
  have hhead : (trimStart (assignOne name).toList).head? = some 'v' := by
    rw [toList_assignOne]
    rfl
  refine Tag.close?_of_skips ?_ (by simp [hhead]) rest
  rw [toList_assignOne]
  exact (hvar.append hname).append hone

open Rendering in
/-- A variable that is declared with the value `1` and read next is written as `1`. -/
lemma render_declared {signature signature' : String} {span span' : Span} (name : String)
    (e : Engine) (model : Value) (micros : Nat) :
    e.render ⟨[.mk signature span (.declaration name (.literal (.integer 1))),
      .mk signature' span' (.binding (.path ⟨.scope, [name]⟩))], 0⟩ model micros = .ok "1" := by
  let t : Template := ⟨[.mk signature span (.declaration name (.literal (.integer 1))),
    .mk signature' span' (.binding (.path ⟨.scope, [name]⟩))], 0⟩
  let declared : Context := ⟨model, [(name, .integer 1)], [], [], []⟩
  have hflags : t.flags = [] := rfl
  have hresolve : (Path.resolve ⟨.scope, [name]⟩ declared) = .ok (.integer 1) := by
    simp [Path.resolve, Context.lookup, Context.scopes, declared, Scope.find?, Value.findEntry?,
      Path.follow]
  have hfirst : outcome (blockWithin e.functions e.library depthLimit 0
      (.mk signature span (.declaration name (.literal (.integer 1))))) ⟨.initial model [], ""⟩ =
        (.ok (), ⟨declared, ""⟩) := rfl
  have hevaluate : outcome (Expression.evaluate e.functions (.path ⟨.scope, [name]⟩)) declared =
      (.ok (.integer 1), declared) := by
    rw [Expression.evaluate]
    exact congrArg (·, declared) hresolve
  have hsecond : outcome (blockWithin e.functions e.library depthLimit 0
      (.mk signature' span' (.binding (.path ⟨.scope, [name]⟩)))) ⟨declared, ""⟩ =
        (.ok (), ⟨declared, "1"⟩) := by
    have hdisplay : "" ++ (Value.integer 1).display = "1" := by decide
    refine (outcome_bind_ok (outcome_locate_ok hevaluate)).trans ?_
    rw [outcome_write, hdisplay]
  have hrun : t.run [] e.functions e.library model = (.ok (), ⟨declared, "1"⟩) := by
    change outcome (blocksWithin _ _ depthLimit 0 [_, _]) _ = _
    rw [blocksWithin_cons, outcome_bind_ok hfirst, blocksWithin_singleton, hsecond]
  change t.render e.functions e.library model micros = _
  rw [Template.render, hflags, renderWith_ok (by rw [hrun]), hrun]
  rfl

lemma readable_of_isName (h : isName name.toList) (hname : name ∉ reservedWords) :
    Readable name where
  binding source := by
    have hcompile := @compile_tag _ _ source (close?_name h []) (leadOf_name h hname)
    rwa [blockOf_tag, Nat.zero_add, Tag.Piece.bytes, Tag.Piece.chars, ← toList_tagText,
      String.ofList_toList] at hcompile
  value := by
    have hclose := close?_assignOne h (Tag.signature name.toList)
    have hclose' := close?_name h []
    have hcompile := @compile_two_tags _ 0 _ _ _ hclose hclose' (leadOf_assignOne h)
      (leadOf_name h hname)
    rw [blockOf_tag, blockOf_tag] at hcompile
    exact ⟨_, hcompile, fun e model micros => render_declared name e model micros⟩

/-- A name that can be read is a path as an expression, and as a tag no stray one. -/
lemma Readable.parse (h : Readable name) (hname : isName name.toList) :
    isStray name.toList = false ∧ Expression.parse name.toList = .ok (.path ⟨.scope, [name]⟩) := by
  have hbody : Tag.body name.toList = name.toList := trim_of_no_blanks (not_isBlank_of_isName hname)
  obtain ⟨content, reads, hblocks⟩ := (compile_tag_iff (close?_name hname [])).1 (h.binding 0)
  obtain rfl : content = .binding (.path ⟨.scope, [name]⟩) := by
    simp only [Template.mk.injEq, List.cons.injEq, blockOf, Block.mk.injEq] at hblocks
    exact hblocks.1.1.2.2.symm
  have hstray := (Nest.form_of_leadOf reads).1
  have hsays := says_of_leadOf reads
  rw [hbody] at hstray hsays
  cases hsays with
  | binding hparse => exact ⟨hstray, hparse⟩

/-- A reserved word alone is a value, or no tag that can begin a block. -/
lemma not_readable_of_reserved (hname : name ∈ reservedWords) : ¬ Readable name := by
  intro h
  have hvalue (l : Literal) (hl : wordToken name.toList = .literal l) (hn : isName name.toList) :
      False := by
    have hparse := (h.parse hn).2
    rw [(@written_word name.toList 0 l hn hl).parse] at hparse
    cases hparse
  have hdivider (hs : isStray name.toList = true) (hn : isName name.toList) : False := by
    rw [(h.parse hn).1] at hs
    cases hs
  simp only [reservedWords, List.mem_cons, List.not_mem_nil, or_false] at hname
  rcases hname with rfl | rfl | rfl | rfl | rfl | rfl
  · exact hvalue (.boolean true) rfl (by decide)
  · exact hvalue (.boolean false) rfl (by decide)
  · exact hvalue .null rfl (by decide)
  · exact hdivider (by decide) (by decide)
  · exact hdivider (by decide) (by decide)
  · exact hdivider (by decide) (by decide)

/-- **Variables can be read**: of the names that tags accept for variables, just those can be read
that are no reserved words. -/
theorem declarable_readable (h : Declarable name) : Readable name ↔ name ∉ reservedWords :=
  ⟨fun hr hname => not_readable_of_reserved hname hr, readable_of_isName (declarable_iff.1 h)⟩

/-- The letters of names are those of all alphabets. -/
theorem declarable_readable_umlaut : Declarable "größe" ∧ Readable "größe" := by
  have h : Declarable "größe" := declarable_iff.2 (by decide +kernel)
  exact ⟨h, (declarable_readable h).2 (by decide)⟩

/-- The variable `true` is declared with the value `1`, and read as the value `true`. -/
theorem true_not_readable :
    Declarable "true" ∧
      compile (tagText "true") 0 =
        .ok ⟨[.mk (tagText "true") ⟨0, 8⟩ (.binding (.literal (.boolean true)))], 0⟩ ∧
      ∃ t, Engine.compile (tagText (assignOne "true") ++ tagText "true") = .ok t ∧
        ∀ (e : Engine) (model : Value) (micros : Nat), e.render t model micros = .ok "true" := by
  have hname : isName "true".toList := by decide
  have hlead : leadOf "true".toList = .ok (.simple (.binding (.literal (.boolean true)))) := by
    have hbody : Tag.body "true".toList = "true".toList := by decide
    have hs : isStray "true".toList = false := by decide
    have hf : Form.of? "true".toList = some .binding := by decide
    simp only [leadOf, hbody, hs, hf, bindingOf, parse_true]
    rfl
  have hclose := close?_name hname []
  have hcompile := @compile_two_tags _ 0 _ _ _ (close?_assignOne hname _) hclose
    (leadOf_assignOne hname) hlead
  rw [blockOf_tag, blockOf_tag] at hcompile
  refine ⟨declarable_iff.2 hname, compile_tag hclose hlead, _, hcompile, fun e model micros => ?_⟩
  rfl

end Template

end Stencil
