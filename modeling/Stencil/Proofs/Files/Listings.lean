import Mathlib.Data.List.Nodup
import Stencil.Files.Tree

/-!
The listings of a directory. A system lists the entries of a directory, and those of each directory
in it, in an order of its own. Main statement: which of its listings a directory is given by makes
no difference to the list of its files in the order of the names on the way to them.
-/

namespace Stencil.Tree

/-- The same directory listed twice: the second listing has the entries of the first, and those
of each directory in it, in any order. -/
inductive Relisted : List (String × Tree) → List (String × Tree) → Prop
  | nil : Relisted [] []
  | entry {name : String} {t : Tree} {es es' : List (String × Tree)} (more : Relisted es es') :
      Relisted ((name, t) :: es) ((name, t) :: es')
  | directory {name : String} {ds ds' es es' : List (String × Tree)} (inside : Relisted ds ds')
      (more : Relisted es es') :
      Relisted ((name, directory ds) :: es) ((name, directory ds') :: es')
  | swap (d e : String × Tree) (es : List (String × Tree)) : Relisted (d :: e :: es) (e :: d :: es)
  | trans {es es' es'' : List (String × Tree)} (first : Relisted es es')
      (second : Relisted es' es'') : Relisted es es''

/-- A listing of a directory in which every file is a text, and no two entries of a directory have
the same name. -/
inductive Readable : List (String × Tree) → Prop
  | nil : Readable []
  | file {name content : String} {es : List (String × Tree)} (fresh : ∀ e ∈ es, e.1 ≠ name)
      (more : Readable es) : Readable ((name, text content) :: es)
  | inside {name : String} {ds es : List (String × Tree)} (fresh : ∀ e ∈ es, e.1 ≠ name)
      (inside : Readable ds) (more : Readable es) : Readable ((name, directory ds) :: es)

/-- The names lead from a directory to the file with the text. -/
inductive Holds : List (String × Tree) → List String → String → Prop
  | file {es : List (String × Tree)} {name content : String} (mem : (name, text content) ∈ es) :
      Holds es [name] content
  | inside {es ds : List (String × Tree)} {name content : String} {way : List String}
      (mem : (name, directory ds) ∈ es) (more : Holds ds way content) :
      Holds es (name :: way) content

variable {es es' : List (String × Tree)} {way : List String} {t u : Tree} {name content : String}

/-! ### The files of a listing -/

lemma files_text (content : String) : (text content).files = [([], text content)] := rfl

lemma files_directory (es : List (String × Tree)) : (directory es).files = entryFiles es := rfl

@[simp] lemma entryFiles_nil : entryFiles [] = [] := rfl

lemma entryFiles_cons (name : String) (t : Tree) (es : List (String × Tree)) :
    entryFiles ((name, t) :: es) =
      t.files.map (fun f => (name :: f.1, f.2)) ++ entryFiles es := rfl

/-- A listing in another order has the same files. -/
lemma Relisted.perm_entryFiles (h : Relisted es es') : (entryFiles es).Perm (entryFiles es') := by
  induction h with
  | nil => exact .refl _
  | entry _ ih =>
    rw [entryFiles_cons, entryFiles_cons]
    exact ih.append_left _
  | directory _ _ ihInside ih =>
    rw [entryFiles_cons, entryFiles_cons, files_directory, files_directory]
    exact (ihInside.map _).append ih
  | swap d e es =>
    rw [entryFiles_cons, entryFiles_cons, entryFiles_cons, entryFiles_cons]
    exact List.perm_append_comm_assoc _ _ _
  | trans _ _ ih ih' => exact ih.trans ih'

/-- A file of a listing is in its first entry or in one of the others. -/
lemma mem_entryFiles_cons : (way, t) ∈ entryFiles ((name, u) :: es) ↔
    (∃ rest, way = name :: rest ∧ (rest, t) ∈ u.files) ∨ (way, t) ∈ entryFiles es := by
  rw [entryFiles_cons, List.mem_append, List.mem_map]
  refine or_congr_left ⟨?_, ?_⟩
  · rintro ⟨⟨rest, t'⟩, hmem, heq⟩
    cases heq
    exact ⟨rest, rfl, hmem⟩
  · rintro ⟨rest, rfl, hmem⟩
    exact ⟨(rest, t), hmem, rfl⟩

/-- The way to a file begins with the name of the entry that the file is in. -/
lemma mem_entryFiles : (way, t) ∈ entryFiles es ↔
    ∃ name u rest, (name, u) ∈ es ∧ way = name :: rest ∧ (rest, t) ∈ u.files := by
  induction es with
  | nil => simp
  | cons e es ih =>
    obtain ⟨name, u⟩ := e
    rw [mem_entryFiles_cons, ih]
    constructor
    · rintro (⟨rest, hway, hfile⟩ | ⟨name', u', rest, hmem, hway, hfile⟩)
      · exact ⟨name, u, rest, List.mem_cons_self, hway, hfile⟩
      · exact ⟨name', u', rest, List.mem_cons_of_mem _ hmem, hway, hfile⟩
    · rintro ⟨name', u', rest, hmem, hway, hfile⟩
      rcases List.mem_cons.1 hmem with heq | hmem
      · cases heq
        exact .inl ⟨rest, hway, hfile⟩
      · exact .inr ⟨name', u', rest, hmem, hway, hfile⟩

lemma Holds.mem_entryFiles (h : Holds es way content) : (way, text content) ∈ entryFiles es := by
  induction h with
  | file mem => exact Tree.mem_entryFiles.2 ⟨_, _, [], mem, rfl, by simp [files_text]⟩
  | inside mem _ ih => exact Tree.mem_entryFiles.2 ⟨_, _, _, mem, rfl, by rwa [files_directory]⟩

lemma Holds.cons (h : Holds es way content) (e : String × Tree) : Holds (e :: es) way content := by
  cases h with
  | file mem => exact .file (List.mem_cons_of_mem _ mem)
  | inside mem more => exact .inside (List.mem_cons_of_mem _ mem) more

namespace Readable

lemma exists_holds (h : Readable es) (hmem : (way, t) ∈ entryFiles es) :
    ∃ content, t = text content ∧ Holds es way content := by
  induction h generalizing way t with
  | nil => simp at hmem
  | file _ _ ih =>
    rcases mem_entryFiles_cons.1 hmem with ⟨rest, rfl, hfile⟩ | hmem
    · simp only [files_text, List.mem_singleton, Prod.mk.injEq] at hfile
      obtain ⟨rfl, rfl⟩ := hfile
      exact ⟨_, rfl, .file List.mem_cons_self⟩
    · obtain ⟨content, ht, hholds⟩ := ih hmem
      exact ⟨content, ht, hholds.cons _⟩
  | inside _ _ _ ihInside ih =>
    rcases mem_entryFiles_cons.1 hmem with ⟨rest, rfl, hfile⟩ | hmem
    · rw [files_directory] at hfile
      obtain ⟨content, ht, hholds⟩ := ihInside hfile
      exact ⟨content, ht, .inside List.mem_cons_self hholds⟩
    · obtain ⟨content, ht, hholds⟩ := ih hmem
      exact ⟨content, ht, hholds.cons _⟩

/-- The files of a readable listing are the texts that the names lead to. -/
lemma mem_entryFiles (h : Readable es) : (way, t) ∈ entryFiles es ↔
    ∃ content, t = text content ∧ Holds es way content := by
  refine ⟨h.exists_holds, ?_⟩
  rintro ⟨content, rfl, hholds⟩
  exact hholds.mem_entryFiles

lemma nodup_cons (fresh : ∀ e ∈ es, e.1 ≠ name) (hfirst : (u.files.map Prod.fst).Nodup)
    (hrest : ((entryFiles es).map Prod.fst).Nodup) :
    ((entryFiles ((name, u) :: es)).map Prod.fst).Nodup := by
  have hways : (u.files.map fun f => (name :: f.1, f.2)).map Prod.fst =
      (u.files.map Prod.fst).map (name :: ·) := by simp
  rw [entryFiles_cons, List.map_append, hways, List.nodup_append]
  refine ⟨hfirst.map fun _ _ h => List.tail_eq_of_cons_eq h, hrest, ?_⟩
  rintro way hway way' hway' rfl
  obtain ⟨rest, -, rfl⟩ := List.mem_map.1 hway
  obtain ⟨⟨way', t⟩, hmem, hway'⟩ := List.mem_map.1 hway'
  obtain ⟨name', u', rest', hentry, hcons, -⟩ := Tree.mem_entryFiles.1 hmem
  have hname : name' = name := by
    rw [hcons] at hway'
    exact List.head_eq_of_cons_eq hway'
  exact fresh _ hentry hname

/-- No two files stand in the same place. -/
lemma nodup_ways (h : Readable es) : ((entryFiles es).map Prod.fst).Nodup := by
  induction h with
  | nil => simp
  | file fresh _ ih => exact nodup_cons fresh (by simp [files_text]) ih
  | inside fresh _ _ ihInside ih => exact nodup_cons fresh (by rwa [files_directory]) ih

end Readable

/-! ### The order of the ways -/

/-- Ways are compared name by name. -/
lemma compare_ways {way' : List String} : compare way way' = .lt ↔ way < way' := by
  induction way generalizing way' with
  | nil => cases way' <;> simp
  | cons name rest ih =>
    cases way' with
    | nil => simp
    | cons name' rest' =>
      have hname : compare name name' = .lt ↔ name < name' := compareOfLessAndEq_eq_lt
      rw [List.compare_cons_cons, Ordering.then_eq_lt, List.cons_lt_cons_iff, ih, hname,
        Std.LawfulEqCmp.compare_eq_iff_eq]

lemma perm_sortedFiles (es : List (String × Tree)) : (sortedFiles es).Perm (entryFiles es) :=
  List.mergeSort_perm _ _

/-- Where no two files stand in the same place, the ways to the sorted files ascend strictly. -/
lemma pairwise_sortedFiles (h : ((entryFiles es).map Prod.fst).Nodup) :
    (sortedFiles es).Pairwise fun f g => f.1 < g.1 := by
  have hascending : (sortedFiles es).Pairwise fun f g => (compare f.1 g.1).isLE := by
    refine List.pairwise_mergeSort (fun f g h => Std.TransCmp.isLE_trans) (fun f g => ?_) _
    have hswap : compare g.1 f.1 = (compare f.1 g.1).swap := Std.OrientedCmp.eq_swap
    rw [hswap]
    cases compare f.1 g.1 <;> rfl
  have hdistinct : (sortedFiles es).Pairwise fun f g => f.1 ≠ g.1 :=
    List.pairwise_map.1 (((perm_sortedFiles es).map _).nodup_iff.2 h)
  refine (hascending.and hdistinct).imp fun ⟨hle, hne⟩ => ?_
  rcases Ordering.isLE_iff_eq_lt_or_eq_eq.1 hle with hlt | heq
  · exact compare_ways.1 hlt
  · exact absurd (Std.LawfulEqCmp.compare_eq_iff_eq.1 heq) hne

/-- **Listings**: the sorted files do not depend on the order in which the entries are listed. -/
theorem Readable.sortedFiles_eq (h : Readable es) (hlisted : Relisted es es') :
    sortedFiles es' = sortedFiles es := by
  have hfiles : (entryFiles es').Perm (entryFiles es) := hlisted.perm_entryFiles.symm
  have hnodup : ((entryFiles es').map Prod.fst).Nodup := (hfiles.map _).nodup_iff.2 h.nodup_ways
  have hsorted : (sortedFiles es').Perm (sortedFiles es) :=
    (perm_sortedFiles es').trans (hfiles.trans (perm_sortedFiles es).symm)
  refine hsorted.eq_of_pairwise (fun f g _ _ hfg hgf => ?_) (pairwise_sortedFiles hnodup)
    (pairwise_sortedFiles h.nodup_ways)
  exact absurd hgf (List.lt_asymm hfg)

end Stencil.Tree
