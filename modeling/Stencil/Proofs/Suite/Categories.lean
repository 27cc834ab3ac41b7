import Mathlib.Tactic.Push
import Stencil.Proofs.Text.Cutting
import Stencil.Suite.Category

/-!
Which categories of tests are run. Whether a request brought a category is told by the growth of what
all requests so far have picked. Main statement: the categories that are picked are those that some
request names or that lie within one that it names, and the requests that are reported are the ones
that name none, just if each of the others brings a category that no request before it asks for.
-/

namespace Stencil.Suite

open Stencil.Text

/-! ### What a request asks for -/

/-- The name is the request without the slashes around it. -/
structure Names (request name : String) : Prop where
  around : ∃ before after : List Char, request.toList = before ++ name.toList ++ after ∧
    (∀ c ∈ before, c = '/') ∧ ∀ c ∈ after, c = '/'
  head : name.toList.head? ≠ some '/'
  last : name.toList.getLast? ≠ some '/'

/-- The category has the name, or lies below the one that has it. -/
def Within (name category : String) : Prop :=
  category = name ∨ ∃ rest, category = name ++ "/" ++ rest

def AsksFor (request category : String) : Prop :=
  ∃ name, Names request name ∧ Within name category

/-- Some request asks for the category. -/
def Wanted (requests : List String) (category : String) : Prop :=
  ∃ request ∈ requests, AsksFor request category

/-- There is a category that the request asks for. -/
def Known (all : Categories) (request : String) : Prop :=
  ∃ c ∈ all, AsksFor request c.1

variable {all : Categories} {request name category : String} {before requests : List String}

lemma toList_requestOf (request : String) :
    (requestOf request).toList =
      (request.toList.dropWhile (· == '/')).rdropWhile (· == '/') := by
  rw [requestOf, String.toList_ofList]
  rfl

lemma names_requestOf (request : String) : Names request (requestOf request) where
  around := by
    rw [toList_requestOf]
    exact exists_around_strip '/' request.toList
  head := by
    rw [toList_requestOf]
    exact head?_strip_ne '/' request.toList
  last := by
    rw [toList_requestOf]
    exact getLast?_strip_ne '/' request.toList

lemma Names.requestOf_eq (h : Names request name) : requestOf request = name := by
  obtain ⟨before, after, hrequest, hbefore, hafter⟩ := h.around
  rw [← String.toList_inj, toList_requestOf, hrequest]
  exact strip_append hbefore hafter h.head h.last

lemma matchesRequest_iff : matchesRequest name category = true ↔ Within name category := by
  rw [matchesRequest, Bool.or_eq_true, beq_iff_eq, Within, Option.isSome_iff_exists]
  refine or_congr_right ⟨?_, ?_⟩
  · rintro ⟨rest, hrest⟩
    refine ⟨.ofList rest, ?_⟩
    rw [← String.toList_inj, String.toList_append, String.toList_ofList]
    exact after?_eq_some hrest
  · rintro ⟨rest, rfl⟩
    rw [String.toList_append (t := rest)]
    exact ⟨rest.toList, after?_append _ _⟩

lemma asksFor_iff : AsksFor request category ↔ matchesRequest (requestOf request) category = true := by
  rw [matchesRequest_iff]
  constructor
  · rintro ⟨name, hnames, hwithin⟩
    rwa [hnames.requestOf_eq]
  · exact fun h => ⟨_, names_requestOf request, h⟩

instance : Decidable (AsksFor request category) := decidable_of_iff _ asksFor_iff.symm

instance : Decidable (Wanted requests category) :=
  inferInstanceAs (Decidable (∃ request ∈ requests, AsksFor request category))

instance : Decidable (Known all request) :=
  inferInstanceAs (Decidable (∃ c ∈ all, AsksFor request c.1))

/-! ### What the requests before a request leave for it -/

/-- The request asks for a category that none of those before it asks for. -/
def Brings (all : Categories) (before : List String) (request : String) : Prop :=
  ∃ c ∈ all, AsksFor request c.1 ∧ ¬ Wanted before c.1

instance : Decidable (Brings all before request) :=
  inferInstanceAs (Decidable (∃ c ∈ all, AsksFor request c.1 ∧ ¬ Wanted before c.1))

lemma Brings.known (h : Brings all before request) : Known all request := by
  obtain ⟨c, hc, hasks, -⟩ := h
  exact ⟨c, hc, hasks⟩

/-- The requests that bring nothing. -/
def idle (all : Categories) : List String → List String → List String
  | _, [] => []
  | before, request :: requests =>
    let rest := idle all (before ++ [request]) requests
    if Brings all before request then rest else request :: rest

/-- The requests that ask for no category. -/
def unknown (all : Categories) (requests : List String) : List String :=
  requests.filter fun request => ¬ Known all request

lemma unknown_sublist_idle (all : Categories) (before requests : List String) :
    (unknown all requests).Sublist (idle all before requests) := by
  induction requests generalizing before with
  | nil => exact .slnil
  | cons request requests ih =>
    have ih := ih (before ++ [request])
    rw [unknown, List.filter_cons, ← unknown, idle]
    by_cases hbrings : Brings all before request
    · have hknown := hbrings.known
      simpa [hbrings, hknown] using ih
    · by_cases hknown : Known all request
      · simpa [hbrings, hknown] using ih.cons request
      · simpa [hbrings, hknown] using ih

/-- What holds of each member and those before it. -/
lemma forall_former_cons {α : Type} {p : List α → α → Prop} {x : α} {xs : List α} :
    (∀ former y later, x :: xs = former ++ y :: later → p former y) ↔
      p [] x ∧ ∀ former y later, xs = former ++ y :: later → p (x :: former) y := by
  constructor
  · intro h
    refine ⟨h [] x xs rfl, fun former y later hxs => h (x :: former) y later ?_⟩
    rw [hxs, List.cons_append]
  · rintro ⟨hhead, htail⟩ former y later hxs
    cases former with
    | nil =>
      obtain ⟨rfl, -⟩ := List.cons.inj hxs
      exact hhead
    | cons z former =>
      obtain ⟨rfl, hrest⟩ := List.cons.inj hxs
      exact htail former y later hrest

/-- The requests that bring nothing are the unknown ones, if every other one brings something. -/
lemma idle_eq_unknown_iff (all : Categories) (before requests : List String) :
    idle all before requests = unknown all requests ↔
      ∀ former request later, requests = former ++ request :: later → Known all request →
        Brings all (before ++ former) request := by
  induction requests generalizing before with
  | nil => simp [idle, unknown]
  | cons request requests ih =>
    have hsublist := unknown_sublist_idle all (before ++ [request]) requests
    have ih := ih (before ++ [request])
    rw [forall_former_cons (p := fun former request => Known all request →
      Brings all (before ++ former) request)]
    simp only [List.append_assoc, List.singleton_append] at ih
    rw [unknown, List.filter_cons, ← unknown, idle, ← ih, List.append_nil]
    by_cases hbrings : Brings all before request
    · have hknown := hbrings.known
      simp [hbrings, hknown]
    · by_cases hknown : Known all request
      · -- the request is reported though there is a category that it asks for
        have hne : request :: idle all (before ++ [request]) requests ≠ unknown all requests := by
          intro heq
          have hle := hsublist.length_le
          rw [← heq, List.length_cons] at hle
          omega
        simp [hbrings, hknown, hne]
      · simp [hbrings, hknown]

/-! ### The run over all requests -/

lemma wanted_append_singleton :
    Wanted (before ++ [request]) category ↔ Wanted before category ∨ AsksFor request category := by
  simp [Wanted, or_and_right, exists_or]

/-- What is picked is what the requests so far ask for. -/
def PicksWanted (all : Categories) (before picked : List String) : Prop :=
  ∀ c ∈ all, c.1 ∈ picked ↔ Wanted before c.1

/-- What one request adds. -/
def foundBy (all : Categories) (picked : List String) (request : String) : List String :=
  (all.map Prod.fst).filter fun c => matchesRequest (requestOf request) c && !picked.contains c

lemma mem_foundBy {picked : List String} : category ∈ foundBy all picked request ↔
    (∃ c ∈ all, c.1 = category) ∧ AsksFor request category ∧ category ∉ picked := by
  simp [foundBy, asksFor_iff]

lemma picksWanted_step {picked : List String} (h : PicksWanted all before picked) (request : String) :
    PicksWanted all (before ++ [request]) (picked ++ foundBy all picked request) := by
  intro c hc
  rw [List.mem_append, mem_foundBy, wanted_append_singleton, h c hc]
  have hmem : ∃ c' ∈ all, c'.1 = c.1 := ⟨c, hc, rfl⟩
  tauto

lemma foundBy_isEmpty {picked : List String} (h : PicksWanted all before picked) (request : String) :
    (foundBy all picked request).isEmpty = true ↔ ¬ Brings all before request := by
  rw [List.isEmpty_iff, List.eq_nil_iff_forall_not_mem]
  constructor
  · rintro hnone ⟨c, hc, hasks, hwanted⟩
    exact hnone c.1 (mem_foundBy.2 ⟨⟨c, hc, rfl⟩, hasks, fun hmem => hwanted ((h c hc).1 hmem)⟩)
  · intro hbrings category hmem
    obtain ⟨⟨c, hc, rfl⟩, hasks, hpicked⟩ := mem_foundBy.1 hmem
    exact hbrings ⟨c, hc, hasks, fun hwanted => hpicked ((h c hc).2 hwanted)⟩

lemma selectFrom_spec {picked : List String} (h : PicksWanted all before picked)
    (requests missed : List String) :
    PicksWanted all (before ++ requests) (selectFrom all requests picked missed).1 ∧
      (selectFrom all requests picked missed).2 =
        missed ++ (idle all before requests).map requestOf := by
  induction requests generalizing before picked missed with
  | nil => simpa [selectFrom, idle] using h
  | cons request requests ih =>
    have hempty := foundBy_isEmpty h request
    have hstep := picksWanted_step h request
    rw [selectFrom, idle, ← foundBy]
    by_cases hbrings : Brings all before request
    · have ih := ih hstep missed
      simpa [hempty, hbrings] using ih
    · have ih := ih hstep (missed ++ [requestOf request])
      simpa [hempty, hbrings] using ih

lemma select_spec (all : Categories) (hne : requests ≠ []) :
    (select all requests).1 = (all.filter fun c => Wanted requests c.1) ∧
      (select all requests).2 = (idle all [] requests).map requestOf := by
  have hstart : PicksWanted all [] [] := by simp [PicksWanted, Wanted]
  obtain ⟨hpicked, hmissed⟩ := selectFrom_spec hstart requests []
  have hrequests : requests.isEmpty = false := by simpa using hne
  rw [List.nil_append] at hpicked hmissed
  rw [select, hrequests]
  refine ⟨?_, hmissed⟩
  refine List.filter_congr fun c hc => ?_
  rw [List.contains_eq_mem, decide_eq_decide]
  exact hpicked c hc

/-- **Categories**: the categories that are run are those that a request names or that lie within one
that it names, each with its own tests; and the requests that are reported are those that ask for no
category, just if each of the others asks for one that no request before it asks for. -/
theorem select_eq_iff (all : Categories) (hne : requests ≠ []) :
    (select all requests).1 = (all.filter fun c => Wanted requests c.1) ∧
      ((select all requests).2 = (unknown all requests).map requestOf ↔
        ∀ former request later, requests = former ++ request :: later → Known all request →
          Brings all former request) := by
  obtain ⟨hpicked, hmissed⟩ := select_spec all hne
  have hidle := idle_eq_unknown_iff all [] requests
  refine ⟨hpicked, ?_⟩
  simp only [List.nil_append] at hidle
  rw [hmissed, ← hidle]
  constructor
  · intro hmap
    have hlength := congrArg List.length hmap
    rw [List.length_map, List.length_map] at hlength
    exact ((unknown_sublist_idle all [] requests).eq_of_length hlength.symm).symm
  · exact congrArg _

/-- A category below another one, and one whose name only begins in the same way. -/
def nested : Categories :=
  [("a", [(["a", "x.test.thicket"], .directory [])]), ("a/b", []), ("ab", [])]

/-- The second request brings what the first does not. -/
theorem select_eq_nested :
    ["/a/b/", "a", "c"] ≠ [] ∧
      (select nested ["/a/b/", "a", "c"]).1 = nested.take 2 ∧
        (select nested ["/a/b/", "a", "c"]).2 = ["c"] := by
  have hne : ["/a/b/", "a", "c"] ≠ [] := List.cons_ne_nil _ _
  obtain ⟨hpicked, hmissed⟩ := select_eq_iff nested hne
  have hbrings := (idle_eq_unknown_iff nested [] ["/a/b/", "a", "c"]).1 rfl
  exact ⟨hne, hpicked.trans rfl, (hmissed.2 hbrings).trans rfl⟩

/-- A category that is asked for twice is reported as one that is not there. -/
theorem select_twice_ne :
    ["a", "a"] ≠ [] ∧
      (select nested ["a", "a"]).2 ≠ (unknown nested ["a", "a"]).map requestOf := by
  have hmissed : (select nested ["a", "a"]).2 = ["a"] := rfl
  have hunknown : unknown nested ["a", "a"] = [] := rfl
  rw [hmissed, hunknown]
  exact ⟨List.cons_ne_nil _ _, List.cons_ne_nil _ _⟩

end Stencil.Suite
