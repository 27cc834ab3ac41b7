import Stencil.Proofs.Template.Raising
import Stencil.Proofs.Template.Wrapping

/-!
The places of faults. A fault in what a tag says is told with the bytes of that tag, from its
opening braces to the closing braces that the search for them finds, except that a tag that would
begin a third part of an iteration is told with as many bytes as its plainest form has. A fault for
want of an end is told where the view ends in which the end is missing: at the end of the source, or
where a tag of an enclosing block begins.
-/

namespace Stencil.Nest

open Stencil.Tag

@[simp] lemma Boundary.piece_eq (b : Boundary) : b.piece = .tag b.inner := by
  cases b <;> rfl

/-- A tag that divides an iteration says `empty`, and it may say more. -/
lemma size_of_divides {inner : List Char} (h : iteration.role inner = .divides) :
    5 ≤ Text.size inner ∧ (Text.size inner = 5 ↔ inner = "empty".toList) := by
  obtain ⟨w, hw, hd⟩ := isDivider_of_role h
  obtain rfl : w = "empty" := by simpa [dividers] using hw
  obtain ⟨more, hbody⟩ : ∃ more, Tag.body inner = "empty".toList ++ more := by
    rcases isDivider_eq_true hd with hb | ⟨c, rest, -, hb⟩
    · exact ⟨[], by simpa using hb⟩
    · exact ⟨c :: rest, hb⟩
  obtain ⟨front, -, hfront⟩ := Text.blanks_append_trimStart inner
  obtain ⟨back, -, hback⟩ := Text.trimEnd_append_blanks (Text.trimStart inner)
  have hinner : inner = front ++ ("empty".toList ++ more ++ back) := by
    rw [← hbody, Tag.body, Text.trim, ← hback]
    exact hfront
  have hsize : Text.size inner =
      Text.size front + (5 + Text.size more + Text.size back) := by
    conv_lhs => rw [hinner]
    rw [Text.size_append, Text.size_append, Text.size_append]
    rfl
  refine ⟨by omega, fun h5 => ?_, fun he => by rw [he]; rfl⟩
  have h1 : front = [] := Text.size_eq_zero_iff.1 (by omega)
  have h2 : more = [] := Text.size_eq_zero_iff.1 (by omega)
  have h3 : back = [] := Text.size_eq_zero_iff.1 (by omega)
  rw [hinner, h1, h2, h3]
  rfl

end Stencil.Nest

namespace Stencil.Template

open Stencil.Text Stencil.Tag

/-! ### Whole tags -/

/-- The bytes of the span are a tag with this inside: the search for closing braces that begins at
its opening braces finds those at its end. -/
structure WholeTag (src : List Char) (span : Span) (inner : List Char) : Prop where
  stands : Stands src span (.ofList (signature inner))
  closes : closing? (dropBytes span.start src) = some (2 + size inner)

lemma wholeTag_of_split {cs inner : List Char} {ps qs : List Piece}
    (h : Piece.split cs = ps ++ .tag inner :: qs) : WholeTag cs (spanAfter ps inner) inner := by
  have hcs : cs = Piece.join ps ++ (signature inner ++ Piece.join qs) := by
    rw [← Piece.join_split cs, h]
    simp [Piece.chars]
  have hclose := Piece.close?_of_split h
  refine ⟨⟨Piece.join ps, Piece.join qs, ?_, rfl, ?_⟩, ?_⟩
  · simpa using hcs
  · simp [spanAfter, Piece.total, Piece.bytes, Piece.chars]
  · have hdrop : dropBytes (spanAfter ps inner).start cs =
        '{' :: '{' :: (inner ++ '}' :: '}' :: Piece.join qs) := by
      conv_lhs => rw [hcs]
      simp [spanAfter, Piece.total, dropBytes_size_append, signature]
    rw [hdrop, closing?_braces, hclose]
    rfl

/-! ### Where views end -/

variable {whole before us : List Piece} {outer : Option (Nest × Nest.Boundary)}

/-- What comes after a view: nothing, or the tag at which the part ends. -/
def ComesAfter (rest : List Piece) : Option (Nest × Nest.Boundary) → Prop
  | none => rest = []
  | some (nest, b) => nest.role b.inner = b.role ∧ ∃ more, rest = .tag b.inner :: more

lemma View.exists_append (h : View whole before us outer) :
    ∃ rest, whole = before ++ us ++ rest ∧ ComesAfter rest outer := by
  induction h with
  | whole => exact ⟨[], by simp, rfl⟩
  | @part before front us rest nest b _ outside begun ends ih =>
    obtain ⟨more, hwhole, -⟩ := ih
    exact ⟨b.piece :: rest ++ more, by simp [hwhole], Nest.role_of_cut? (ends []),
      rest ++ more, by simp⟩

/-- Braces that are not closed are in no part of a block. -/
lemma View.not_loose {part : Nest × Nest.Boundary} (h : View whole before us (some part))
    (cs : List Char) : .loose cs ∉ us := by
  cases h with
  | part outside begun ends => exact ends.not_loose cs

lemma View.wholeTag {cs inner : List Char} {front rest : List Piece}
    (h : View (Piece.split cs) before (front ++ .tag inner :: rest) outer) :
    WholeTag cs (spanAfter (before ++ front) inner) inner := by
  obtain ⟨more, hsplit, -⟩ := h.exists_append
  have htag : Piece.split cs = before ++ front ++ .tag inner :: (rest ++ more) := by simp [hsplit]
  exact wholeTag_of_split htag

/-! ### Faults in what a tag says -/

/-- **Tags at fault**: a fault that is not for want of an end is told with the bytes of a whole tag.
The one exception is the tag that would begin a third part of an iteration: it is told with the
nine bytes from its beginning on, which are the whole of it exactly if it is plainly `empty`. -/
theorem fault_at_tag {text : String} {source : Nat} {fault : Fault}
    (h : compile text source = .error fault) (hkind : fault.kind ≠ .unterminatedBlock) :
    ∃ inner span, WholeTag text.toList span inner ∧
      (fault.span = span ∨
        fault.cause = .secondEmpty ∧ Nest.iteration.role inner = .divides ∧
          fault.span = ⟨span.start, span.start + 9⟩ ∧ span.start + 9 ≤ span.stop ∧
          (fault.span = span ↔ inner = "empty".toList)) := by
  cases raises_of_compile h with
  | loose view => exact absurd rfl hkind
  | unclosed view begun missing => exact absurd rfl hkind
  | @lead before front _ inner _ _ view refused =>
    exact ⟨inner, spanAfter (before ++ front) inner, view.wholeTag, .inl rfl⟩
  | @divider before front us _ _ inner _ _ view begun ends kind =>
    exact ⟨inner, spanAfter (before ++ (front ++ us)) inner, view.wholeTag, .inl rfl⟩
  | @third before front us _ inner _ view begun ends =>
    have hrole : Nest.iteration.role inner = .divides := Nest.role_of_cut? (ends [])
    obtain ⟨hle, hiff⟩ := Nest.size_of_divides hrole
    have hbytes : Piece.bytes (.tag inner) = size inner + 4 := by
      have := size_signature inner
      simp only [Piece.bytes, Piece.chars]
      omega
    refine ⟨inner, spanAfter (before ++ (front ++ us)) inner, view.wholeTag,
      .inr ⟨rfl, hrole, rfl, ?_, ?_⟩⟩
    · simp only [spanAfter]
      omega
    · rw [← hiff]
      have hplain : Piece.bytes (.tag "empty".toList) = 9 := rfl
      simp only [spanAfter, Span.mk.injEq, hplain, hbytes, true_and]
      omega

/-- A part after the second of an iteration is refused at the tag that would begin it. -/
lemma compileEmpty_divide {source start : Nat} {us rest : List Piece} {children : List Block}
    {divider : List Char} (ends : Nest.iteration.Ends us (.divide divider))
    (part : Compiles start us children) :
    compileEmpty source start (us ++ .tag divider :: rest) =
      .error ⟨.secondEmpty, ⟨start + Piece.total us, start + Piece.total us + 9⟩, source⟩ := by
  rw [compileEmpty]
  refine (Nest.match_cut? (ends rest)).trans ?_
  simp only [part.eq_ok]
  rfl

lemma compileLoop_of_error {source start : Nat} {us vs : List Piece} {children : List Block}
    {divider : List Char} {fault : Fault} (ends : Nest.iteration.Ends us (.divide divider))
    (part : Compiles start us children) (divides : Tag.body divider = "empty".toList)
    (more : compileEmpty source (start + Piece.total us + Piece.bytes (.tag divider)) vs =
      .error fault) :
    compileLoop source start (us ++ .tag divider :: vs) = .error fault := by
  rw [compileLoop]
  refine (Nest.match_cut? (ends vs)).trans (bind_eq_error.2 (.inr ⟨children, part.eq_ok, ?_⟩))
  simp only [divides, if_true]
  exact bind_eq_error.2 (.inl more)

/-- A loop over nothing, with a part for the case that there is nothing, and again such a part. -/
def twiceEmpty : String :=
  tagText ("each " ++ "i in a") ++ tagText "empty" ++ tagText " empty " ++ tagText "/each"

lemma split_twiceEmpty : Piece.split twiceEmpty.toList =
    [.tag ("each " ++ "i in a").toList, .tag "empty".toList, .tag " empty ".toList,
      .tag "/each".toList] := by
  cbv

lemma compile_twiceEmpty : compile twiceEmpty 0 = .error ⟨.secondEmpty, ⟨24, 33⟩, 0⟩ := by
  have hfirst : Nest.iteration.Ends [] (.divide "empty".toList) := fun rest => rfl
  have hsecond : Nest.iteration.Ends [] (.divide " empty ".toList) := fun rest => rfl
  have hthird := @compileEmpty_divide 0 24 [] [.tag "/each".toList] _ _ hsecond (.nil _)
  have hloop := @compileLoop_of_error 0 15 [] _ _ _ _ hfirst (.nil _) (by decide) hthird
  have hblocks : compileBlocks 0 0 (Piece.split twiceEmpty.toList) =
      .error ⟨.secondEmpty, ⟨24, 33⟩, 0⟩ := by
    rw [split_twiceEmpty, compileBlocks]
    exact bind_eq_error.2 (.inr ⟨_, located_eq_ok.2 leadOf_each, bind_eq_error.2 (.inl hloop)⟩)
  exact congrArg (Except.map _) hblocks

theorem fault_at_tag_twiceEmpty :
    let fault : Fault := ⟨.secondEmpty, ⟨24, 33⟩, 0⟩
    compile twiceEmpty 0 = .error fault ∧ fault.kind ≠ .unterminatedBlock ∧
      ∃ inner span, WholeTag twiceEmpty.toList span inner ∧
        (fault.span = span ∨
          fault.cause = .secondEmpty ∧ Nest.iteration.role inner = .divides ∧
            fault.span = ⟨span.start, span.start + 9⟩ ∧ span.start + 9 ≤ span.stop ∧
            (fault.span = span ↔ inner = "empty".toList)) := by
  intro fault
  have hkind : fault.kind ≠ .unterminatedBlock := nofun
  exact ⟨compile_twiceEmpty, hkind, fault_at_tag compile_twiceEmpty hkind⟩

/-- The second `empty` tag is told without its last two bytes: the place is that of no tag. -/
theorem secondEmpty_cut :
    ∃ fault, compile twiceEmpty 0 = .error fault ∧ fault.kind = .invalidSignature ∧
      ¬ ∃ inner, WholeTag twiceEmpty.toList fault.span inner := by
  refine ⟨_, compile_twiceEmpty, rfl, ?_⟩
  rintro ⟨inner, ⟨before, after, -, hstart, hstop⟩, hcloses⟩
  have hsplit : Piece.split twiceEmpty.toList =
      [.tag ("each " ++ "i in a").toList, .tag "empty".toList] ++
        Piece.tag " empty ".toList :: [.tag "/each".toList] :=
    split_twiceEmpty
  have hwhole := (wholeTag_of_split hsplit).closes
  -- The search from byte 24 on finds the braces of the whole tag, which has seven bytes inside.
  have hseven : some (2 + size inner) = some 9 := hcloses.symm.trans hwhole
  have hfive : size inner = 5 := by
    simp only [String.toList_ofList, size_signature] at hstart hstop
    omega
  simp [hfive] at hseven

/-! ### Faults for want of an end -/

/-- Where a view ends in the source: where the source does, or where a tag begins that closes or
divides the block of which the view is a part. -/
def EndsAt (src : List Char) (stop : Nat) : Option (Nest × Nest.Boundary) → Prop
  | none => stop = size src
  | some (nest, b) => nest.role b.inner = b.role ∧
    WholeTag src ⟨stop, stop + Piece.bytes (.tag b.inner)⟩ b.inner

/-- What has no end in the view `us` after the pieces `before`: opening braces, if the view is all
of the source; or a block, a part of which has begun. -/
inductive Lacks (before us : List Piece) : Option (Nest × Nest.Boundary) → Cause → Prop
  | braces {front rest : List Piece} {inner : List Char}
      (stands : us = front ++ .loose inner :: rest) :
      Lacks before us none (.unclosedTag (Piece.total (before ++ front)))
  | closing {front rest : List Piece} {nest : Nest} (outer : Option (Nest × Nest.Boundary))
      (stands : us = front ++ rest) (begun : Begun nest front)
      (missing : nest.cut? 0 rest = none) :
      Lacks before us outer (.unclosedBlock nest (Piece.total (before ++ front)))

lemma View.endsAt {cs : List Char} (h : View (Piece.split cs) before us outer) :
    EndsAt cs (Piece.total (before ++ us)) outer := by
  obtain ⟨rest, hsplit, hrest⟩ := h.exists_append
  cases outer with
  | none =>
    obtain rfl : rest = [] := hrest
    rw [List.append_nil] at hsplit
    rw [EndsAt, ← hsplit, Piece.total, Piece.join_split]
  | some part =>
    obtain ⟨nest, b⟩ := part
    obtain ⟨hrole, more, rfl⟩ := hrest
    exact ⟨hrole, wholeTag_of_split hsplit⟩

/-- **Missing ends**: a fault for want of an end is told where a view ends and has no length. The
view is all of the source, or a part of a block whose tag stands at that place; in the view a block
has begun that has no end there. Only in all of the source can braces be without an end, since a
part that is cut off has the same tags as it stands alone, and no open braces. -/
theorem fault_at_end :
    (∀ (text : String) (source : Nat) (fault : Fault), compile text source = .error fault →
      fault.kind = .unterminatedBlock →
        ∃ before us outer, View (Piece.split text.toList) before us outer ∧
          fault.span = ⟨Piece.total (before ++ us), Piece.total (before ++ us)⟩ ∧
          EndsAt text.toList fault.span.start outer ∧ Lacks before us outer fault.cause) ∧
    ∀ (cs : List Char) (before us : List Piece) (part : Nest × Nest.Boundary),
      View (Piece.split cs) before us (some part) →
        Piece.split (Piece.join us) = us ∧ ∀ rest, .loose rest ∉ us := by
  constructor
  · intro text source fault h hkind
    cases raises_of_compile h with
    | @loose before front rest inner outer view =>
      cases outer with
      | some part => exact absurd (by simp) (view.not_loose inner)
      | none => exact ⟨before, _, none, view, rfl, view.endsAt, .braces rfl⟩
    | @unclosed before front ps nest outer view begun missing =>
      exact ⟨before, _, outer, view, rfl, view.endsAt, .closing outer rfl begun missing⟩
    | @lead _ _ _ inner cause _ view refused =>
      exact absurd hkind (settles_leadOf inner cause refused)
    | divider view begun ends kind => exact absurd hkind kind
    | third view begun ends => cases hkind
  · intro cs before us part view
    obtain ⟨rest, hsplit, -⟩ := view.exists_append
    have hinfix : us <:+: Piece.split cs := ⟨before, rest, hsplit.symm⟩
    exact ⟨Piece.split_join_of_isInfix hinfix, view.not_loose⟩

/-- A part of a conditional with a fault inside. -/
lemma compileBranches_of_error {source start : Nat} {us rest : List Piece} {fault : Fault}
    {b : Nest.Boundary} (condition : Option Expression) (ends : Nest.conditional.Ends us b)
    (part : compileBlocks source start us = .error fault) :
    compileBranches source start condition (us ++ b.piece :: rest) = .error fault := by
  rw [compileBranches]
  exact (Nest.match_cut? (ends rest)).trans (bind_eq_error.2 (.inl part))

/-- An iteration without an end inside a conditional. -/
def eachInIf : String :=
  tagText ("if " ++ "a") ++ tagText ("each " ++ "i in a") ++ tagText "/if"

lemma split_eachInIf : Piece.split eachInIf.toList =
    [.tag ("if " ++ "a").toList, .tag ("each " ++ "i in a").toList, .tag "/if".toList] := by
  cbv

lemma leadOf_ifLetter :
    leadOf ("if " ++ "a").toList = .ok (.conditional (.path ⟨.scope, ["a"]⟩)) :=
  leadOf_of_parse parse_letter

lemma ends_eachInIf :
    Nest.conditional.Ends [.tag ("each " ++ "i in a").toList] (.close "/if".toList) :=
  fun _ => rfl

lemma view_eachInIf : View (Piece.split eachInIf.toList) [.tag ("if " ++ "a").toList]
    [.tag ("each " ++ "i in a").toList] (some (.conditional, .close "/if".toList)) := by
  rw [split_eachInIf]
  have begun : Begun .conditional [.tag ("if " ++ "a").toList] := .opened [] ⟨_, leadOf_ifLetter⟩
  exact .part .whole begun ends_eachInIf

lemma compile_eachInIf :
    compile eachInIf 0 = .error (.atEnd (.unclosedBlock .iteration 23) 23 0) := by
  have hloop : compileLoop 0 23 [] = .error (.atEnd (.unclosedBlock .iteration 23) 23 0) := by
    rw [compileLoop]
    rfl
  have hpart : compileBlocks 0 8 [.tag ("each " ++ "i in a").toList] =
      .error (.atEnd (.unclosedBlock .iteration 23) 23 0) := by
    rw [compileBlocks]
    exact bind_eq_error.2 (.inr ⟨_, located_eq_ok.2 leadOf_each, bind_eq_error.2 (.inl hloop)⟩)
  have hbranches := @compileBranches_of_error 0 8 _ [] _ _
    (some (.path ⟨.scope, ["a"]⟩)) ends_eachInIf hpart
  have hblocks : compileBlocks 0 0 (Piece.split eachInIf.toList) =
      .error (.atEnd (.unclosedBlock .iteration 23) 23 0) := by
    rw [split_eachInIf, compileBlocks]
    exact bind_eq_error.2 (.inr ⟨_, located_eq_ok.2 leadOf_ifLetter,
      bind_eq_error.2 (.inl hbranches)⟩)
  exact congrArg (Except.map _) hblocks

theorem fault_at_end_eachInIf :
    let fault : Fault := .atEnd (.unclosedBlock .iteration 23) 23 0
    let part : List Piece := [.tag ("each " ++ "i in a").toList]
    (compile eachInIf 0 = .error fault ∧ fault.kind = .unterminatedBlock ∧
      ∃ before us outer, View (Piece.split eachInIf.toList) before us outer ∧
        fault.span = ⟨Piece.total (before ++ us), Piece.total (before ++ us)⟩ ∧
        EndsAt eachInIf.toList fault.span.start outer ∧ Lacks before us outer fault.cause) ∧
      View (Piece.split eachInIf.toList) [.tag ("if " ++ "a").toList] part
        (some (.conditional, .close "/if".toList)) ∧
      Piece.split (Piece.join part) = part ∧ ∀ rest, .loose rest ∉ part := by
  intro fault part
  have places := fault_at_end.1 eachInIf 0 fault compile_eachInIf rfl
  have alone := fault_at_end.2 eachInIf.toList _ _ _ view_eachInIf
  exact ⟨⟨compile_eachInIf, rfl, places⟩, view_eachInIf, alone⟩

end Stencil.Template
