import Mathlib.Data.List.Nodup
import Mathlib.Data.Set.List
import Stencil.Proofs.Engine.Partials
import Stencil.Proofs.Files.Listings

/-!
What adding a directory does to an engine. The files with partials are added one after the other, in
the order of the names on the way to them, up to the first that cannot be added; and this order does
not depend on how the system lists the directory.
-/

namespace Stencil

/-! ### File names with an extension -/

section

variable {name stem extension : String}

/-- The extension is what follows the last point. -/
lemma splitExtension_of_point (hstem : stem ≠ "") (hpoint : '.' ∉ extension.toList)
    (hname : stem ++ ("." ++ extension) ≠ "..") :
    splitExtension (stem ++ ("." ++ extension)) = (stem, some extension) := by
  obtain ⟨c, cs, hcs⟩ : ∃ c cs, stem.toList.reverse = c :: cs := by
    refine List.exists_cons_of_ne_nil fun hnil => hstem ?_
    simpa using hnil
  have hreverse : (stem ++ ("." ++ extension)).toList.reverse =
      extension.toList.reverse ++ '.' :: c :: cs := by
    simp [hcs]
  have hlast : (extension.toList.reverse ++ '.' :: c :: cs).takeWhile (· != '.') =
      extension.toList.reverse := by
    rw [List.takeWhile_append_of_pos]
    · simp
    · intro d hd
      rw [List.mem_reverse] at hd
      rw [bne_iff_ne]
      rintro rfl
      exact hpoint hd
  have hback : String.ofList (c :: cs).reverse = stem := by simp [← hcs]
  unfold splitExtension
  simp only [hreverse, hlast, List.drop_left, if_neg hname, hback, List.reverse_reverse,
    String.ofList_toList]

/-- In front of an extension there is a point, and something in front of the point. -/
lemma exists_stem (h : (splitExtension name).2 = some extension) :
    ∃ stem, stem ≠ "" ∧ name = stem ++ ("." ++ extension) := by
  unfold splitExtension at h
  simp only at h
  split at h
  · rename_i c stem hdrop
    split at h
    · cases h
    · simp only [Option.some.injEq] at h
      subst h
      have hparts := List.prefix_iff_eq_append.1
        (List.takeWhile_prefix (· != '.') (l := name.toList.reverse))
      rw [hdrop] at hparts
      generalize name.toList.reverse.takeWhile (· != '.') = last at hparts ⊢
      have hname : name.toList = stem.reverse ++ c :: '.' :: last.reverse := by
        simpa using (congrArg List.reverse hparts).symm
      refine ⟨.ofList (c :: stem).reverse, by simp, ?_⟩
      rw [← String.toList_inj, hname]
      simp
  · cases h

end

namespace Engine

/-! ### Files with partials -/

/-- A file that holds a partial. -/
structure PartialFile where
  /-- The names of the directories on the way to it. -/
  directories : List String
  /-- Its name without the extension. -/
  stem : String
  text : String

namespace PartialFile

/-- The names on the way to the file. -/
def way (f : PartialFile) : List String := f.directories ++ [f.stem ++ ".thicket"]

/-- The name of the partial in the file. -/
def name (f : PartialFile) : String := "/".intercalate (f.directories ++ [f.stem])

/-- The file as a tree, with the way to it. -/
def entry (f : PartialFile) : List String × Tree := (f.way, .text f.text)

/-- The name without the extension does not consist of points only. -/
def Named (f : PartialFile) : Prop := ∃ c ∈ f.stem.toList, c ≠ '.'

variable {f : PartialFile}

lemma splitExtension_last (h : f.stem ≠ "") :
    splitExtension (f.stem ++ ".thicket") = (f.stem, some partialExtension) := by
  have hname : f.stem ++ ("." ++ partialExtension) ≠ ".." := by
    intro heq
    have hlast := congrArg (fun s : String => s.toList.getLast?) heq
    revert hlast
    simp [partialExtension]
  have hpoint : '.' ∉ partialExtension.toList := by decide
  change splitExtension (f.stem ++ ("." ++ partialExtension)) = _
  exact splitExtension_of_point h hpoint hname

/-- A way that ends in a name with the extension is the way of a file with a partial. -/
lemma exists_of_holdsPartial {way : List String} (h : holdsPartial way) (text : String) :
    ∃ f : PartialFile, f.stem ≠ "" ∧ f.entry = (way, .text text) := by
  rw [holdsPartial, beq_iff_eq, Option.map_eq_some_iff] at h
  obtain ⟨name, hlast, hextension⟩ := h
  obtain ⟨stem, hstem, rfl⟩ := exists_stem hextension
  obtain ⟨directories, rfl⟩ := List.getLast?_eq_some_iff.1 hlast
  exact ⟨⟨directories, stem, text⟩, hstem, rfl⟩

lemma entry_injective : Function.Injective entry := by
  rintro ⟨directories, stem, text⟩ ⟨directories', stem', text'⟩ h
  simp only [entry, way, Prod.mk.injEq, Tree.text.injEq] at h
  obtain ⟨hway, rfl⟩ := h
  obtain ⟨rfl, hlast⟩ := List.append_inj' hway rfl
  have hstem : stem = stem' := by simpa using hlast
  rw [hstem]

lemma holdsPartial_way : holdsPartial f.way ↔ f.stem ≠ "" := by
  constructor
  · intro h
    obtain ⟨g, hstem, hg⟩ := exists_of_holdsPartial h f.text
    rwa [entry_injective hg] at hstem
  · intro h
    simp [holdsPartial, way, splitExtension_last h]

lemma partialName_way (h : f.Named) : partialName f.way = f.name := by
  obtain ⟨c, hc, hne⟩ := h
  have hstem : f.stem ≠ "" := by
    rintro heq
    simp [heq] at hc
  have hpoint : f.stem ≠ "." := by
    rintro heq
    simp [heq, hne] at hc
  simp [partialName, way, name, splitExtension_last hstem, hpoint]

end PartialFile

open PartialFile

variable {entries entries' : List (String × Tree)}

/-- The files with partials in a readable directory. -/
lemma exists_partialFiles (h : Tree.Readable entries) :
    ∃ files : List PartialFile, partialFiles entries = files.map entry ∧
      (∀ f, f ∈ files ↔ f.stem ≠ "" ∧ Tree.Holds entries f.way f.text) ∧
      files.Pairwise fun f g => f.way < g.way := by
  have hmem (way : List String) (t : Tree) : (way, t) ∈ partialFiles entries ↔
      holdsPartial way ∧ ∃ text, t = .text text ∧ Tree.Holds entries way text := by
    rw [partialFiles, List.mem_filter, (Tree.perm_sortedFiles entries).mem_iff, h.mem_entryFiles,
      and_comm]
  obtain ⟨files, hfiles⟩ : ∃ files : List PartialFile, files.map entry = partialFiles entries := by
    rw [← Set.mem_range, Set.range_list_map]
    rintro ⟨way, t⟩ hfile
    obtain ⟨hpartial, text, rfl, -⟩ := (hmem way t).1 hfile
    obtain ⟨f, -, hf⟩ := exists_of_holdsPartial hpartial text
    exact ⟨f, hf⟩
  refine ⟨files, hfiles.symm, fun f => ?_, ?_⟩
  · rw [← List.mem_map_of_injective entry_injective, hfiles, entry, hmem, holdsPartial_way]
    simp
  · have hsorted : (partialFiles entries).Pairwise fun f g => f.1 < g.1 :=
      (Tree.pairwise_sortedFiles h.nodup_ways).filter _
    rwa [← hfiles, List.pairwise_map] at hsorted

/-- The directory listed in another order has the same files with partials. -/
lemma partialFiles_eq (h : Tree.Readable entries) (hlisted : Tree.Relisted entries entries') :
    partialFiles entries' = partialFiles entries := by
  rw [partialFiles, partialFiles, h.sortedFiles_eq hlisted]

/-! ### Adding the files -/

variable {e e' e'' : Engine} {files files' : List PartialFile}

/-- The partials in the files have been added to the engine in this order, and they carry on its
numbers. -/
structure Gains (e e' : Engine) (files : List PartialFile) : Prop where
  functions : e'.functions = e.functions
  partials : ∃ added : List Partial, e'.library.partials = e.library.partials ++ added ∧
    (added.map fun p => (p.name, p.text)) = (files.map fun f => (f.name, f.text)) ∧
    ∀ i p, added[i]? = some p → p.template.source = e.library.size + i + 1 ∧
      Template.compile p.text (e.library.size + i + 1) = .ok p.template

lemma Gains.refl (e : Engine) : Gains e e [] := ⟨rfl, [], by simp, by simp, by simp⟩

/-- A partial that is added stands behind the others. -/
lemma exists_added {name text : String} (h : outcome (addPartial name text) e = (.ok (), e')) :
    ∃ t, Template.compile text (e.library.size + 1) = .ok t ∧
      e' = { e with library := ⟨e.library.partials ++ [⟨name, text, t⟩]⟩ } := by
  rw [outcome_addPartial_eq] at h
  cases hadd : e.library.add name text with
  | error error => simp [hadd] at h
  | ok l =>
    obtain ⟨t, -, hcompile, rfl⟩ := Library.add_eq_ok_iff.1 hadd
    simp only [hadd, Prod.mk.injEq, true_and] at h
    exact ⟨t, hcompile, h.symm⟩

lemma Gains.cons {f : PartialFile} (hf : outcome (addPartial f.name f.text) e = (.ok (), e'))
    (h : Gains e' e'' files) : Gains e e'' (f :: files) := by
  obtain ⟨t, hcompile, rfl⟩ := exists_added hf
  obtain ⟨hfunctions, added, hadded, hnames, hnumbers⟩ := h
  refine ⟨hfunctions, ⟨f.name, f.text, t⟩ :: added, ?_, ?_, ?_⟩
  · rw [hadded, List.append_assoc, List.singleton_append]
  · rw [List.map_cons, List.map_cons, hnames]
  · intro i p hp
    cases i with
    | zero =>
      cases hp
      exact ⟨Template.source_of_compile hcompile, hcompile⟩
    | succ i =>
      have hnumber := hnumbers i p hp
      have hsize : (⟨e.library.partials ++ [⟨f.name, f.text, t⟩]⟩ : Library).size =
          e.library.size + 1 := by simp [Library.size]
      have hnext : e.library.size + 1 + i + 1 = e.library.size + (i + 1) + 1 := by omega
      rwa [hsize, hnext] at hnumber

/-- The files are added up to the first that cannot be added. -/
lemma outcome_addFiles (path : String) (h : ∀ f ∈ files, f.Named) (e : Engine) :
    (∃ e', outcome (addFiles path (files.map entry)) e = (.ok (), e') ∧ Gains e e' files) ∨
      ∃ before f after error e', files = before ++ f :: after ∧ Gains e e' before ∧
        outcome (addPartial f.name f.text) e' = (.error error, e') ∧
        outcome (addFiles path (files.map entry)) e = (.error error, e') := by
  induction files generalizing e with
  | nil => exact .inl ⟨e, rfl, .refl e⟩
  | cons f files ih =>
    obtain ⟨hname, hnames⟩ := List.forall_mem_cons.1 h
    have hread : ∀ k : String → Setup Unit,
        outcome (reading (joinPath path ("/".intercalate f.way)) (Tree.text f.text).read >>= k) e =
          outcome (k f.text) e := fun k => outcome_bind_ok rfl
    have hstep : outcome (addFiles path ((f :: files).map entry)) e =
        outcome (addPartial f.name f.text >>= fun _ => addFiles path (files.map entry)) e := by
      rw [List.map_cons, entry, addFiles, hread, partialName_way hname]
    rw [hstep]
    rcases outcome_cases (addPartial f.name f.text) e with ⟨⟨⟩, e', hf⟩ | ⟨error, e', hf⟩
    · rw [outcome_bind_ok hf]
      rcases ih hnames e' with
        ⟨e'', hrest, hgains⟩ | ⟨before, g, after, error, e'', rfl, hgains, hg, hrest⟩
      · exact .inl ⟨e'', hrest, .cons hf hgains⟩
      · exact .inr ⟨f :: before, g, after, error, e'', rfl, .cons hf hgains, hg, hrest⟩
    · obtain ⟨rfl, -⟩ := addPartial_eq_error hf
      rw [outcome_bind_error hf]
      exact .inr ⟨[], f, files, error, e', rfl, .refl e', hf, rfl⟩

lemma outcome_reading_ok {α : Type} (path : String) (a : α) (e : Engine) :
    outcome (reading path (.ok a)) e = (.ok a, e) := rfl

/-- Adding a directory is adding its files with partials, and counting them. -/
lemma outcome_addDirectory (path : String) (e : Engine) :
    outcome (addDirectory path (.ok (.directory entries))) e =
      match outcome (addFiles path (partialFiles entries)) e with
      | (.ok (), e') => (.ok (partialFiles entries).length, e')
      | (.error error, e') => (.error error, e') := by
  have hfound : ((.ok (.directory entries) : Except ReadError Tree).bind Tree.entries) =
      .ok entries := rfl
  rw [addDirectory, hfound, outcome_bind_ok (outcome_reading_ok path entries e), outcome_bind]
  cases outcome (addFiles path (partialFiles entries)) e with
  | mk r e' => cases r <;> rfl

/-- **Directories**: from a directory of readable files, no matter in which order the system lists
it, an engine gains the partials in the files with the extension, each once and under the way to it
without the extension, in the order of the names on the ways and with the numbers that follow those
of the engine. It gains all of them and gives their number, or just those in front of the first
whose partial cannot be added, and gives the reason for that. -/
theorem directory_added (path : String) (e : Engine) (h : Tree.Readable entries)
    (hnames : ∀ f : PartialFile, f.stem ≠ "" → Tree.Holds entries f.way f.text → f.Named) :
    (∀ entries', Tree.Relisted entries entries' →
      outcome (addDirectory path (.ok (.directory entries'))) e =
        outcome (addDirectory path (.ok (.directory entries))) e) ∧
    ∃ files : List PartialFile,
      (∀ f, f ∈ files ↔ f.stem ≠ "" ∧ Tree.Holds entries f.way f.text) ∧
      files.Pairwise (fun f g => f.way < g.way) ∧
      ((∃ e', outcome (addDirectory path (.ok (.directory entries))) e = (.ok files.length, e') ∧
          Gains e e' files) ∨
        ∃ before f after error e', files = before ++ f :: after ∧
          outcome (addDirectory path (.ok (.directory entries))) e = (.error error, e') ∧
          Gains e e' before ∧ outcome (addPartial f.name f.text) e' = (.error error, e')) := by
  constructor
  · intro entries' hlisted
    rw [outcome_addDirectory, outcome_addDirectory, partialFiles_eq h hlisted]
  · obtain ⟨files, hfiles, hmem, hsorted⟩ := exists_partialFiles h
    have hnamed : ∀ f ∈ files, f.Named := by
      intro f hf
      obtain ⟨hstem, hholds⟩ := (hmem f).1 hf
      exact hnames f hstem hholds
    refine ⟨files, hmem, hsorted, ?_⟩
    rw [outcome_addDirectory, hfiles]
    rcases outcome_addFiles path hnamed e with
      ⟨e', hadded, hgains⟩ | ⟨before, f, after, error, e', hsplit, hgains, hf, hadded⟩
    · refine .inl ⟨e', ?_, hgains⟩
      rw [hadded, List.length_map]
    · refine .inr ⟨before, f, after, error, e', hsplit, ?_, hgains, hf⟩
      rw [hadded]

/-- Two of the three files hold partials, one of them in a directory in the directory. -/
theorem directory_added_nested :
    let inner : List (String × Tree) := [("x.txt", .text ""), ("q.thicket", .text "x")]
    let entries : List (String × Tree) := [("p.thicket", .text "x"), ("b", .directory inner)]
    let listed : List (String × Tree) := [("b", .directory inner.reverse), ("p.thicket", .text "x")]
    let p : PartialFile := ⟨[], "p", "x"⟩
    let q : PartialFile := ⟨["b"], "q", "x"⟩
    Tree.Readable entries ∧
      (∀ f : PartialFile, f.stem ≠ "" → Tree.Holds entries f.way f.text → f.Named) ∧
      Tree.Relisted entries listed ∧
      outcome (addDirectory "d" (.ok (.directory listed))) empty =
        outcome (addDirectory "d" (.ok (.directory entries))) empty ∧
      ∃ files : List PartialFile, (∀ f, f ∈ files ↔ f = q ∨ f = p) ∧
        files.Pairwise fun f g => f.way < g.way := by
  intro inner entries listed p q
  have hreadable : Tree.Readable entries :=
    .file (by simp) (.inside (by simp) (.file (by simp) (.file (by simp) .nil)) .nil)
  have hfiles (f : PartialFile) : f.stem ≠ "" ∧ Tree.Holds entries f.way f.text ↔
      f = q ∨ f = p := by
    constructor
    · rintro ⟨hstem, hholds⟩
      have hpartial := holdsPartial_way.2 hstem
      have hmem := hholds.mem_entryFiles
      simp only [Tree.entryFiles, Tree.files, entries, inner, List.map_cons, List.map_nil,
        List.append_nil, List.singleton_append, List.mem_cons, List.not_mem_nil, or_false] at hmem
      rcases hmem with hmem | hmem | hmem
      · exact .inr (entry_injective hmem)
      · rw [(Prod.mk.inj hmem).1] at hpartial
        exact absurd hpartial (by decide)
      · exact .inl (entry_injective hmem)
    · rintro (rfl | rfl)
      · exact ⟨by decide, .inside (.tail _ (.head _)) (.file (.tail _ (.head _)))⟩
      · exact ⟨by decide, .file (.head _)⟩
  have hnames (f : PartialFile) (hstem : f.stem ≠ "") (hholds : Tree.Holds entries f.way f.text) :
      f.Named := by
    rcases (hfiles f).1 ⟨hstem, hholds⟩ with rfl | rfl
    · exact ⟨'q', by decide, by decide⟩
    · exact ⟨'p', by decide, by decide⟩
  have hlisted : Tree.Relisted entries listed :=
    .trans (.entry (.directory (.swap _ _ _) .nil)) (.swap _ _ _)
  obtain ⟨horders, files, hmem, hsorted, -⟩ := directory_added "d" empty hreadable hnames
  exact ⟨hreadable, hnames, hlisted, horders listed hlisted, files,
    fun f => (hmem f).trans (hfiles f), hsorted⟩

end Engine

end Stencil
