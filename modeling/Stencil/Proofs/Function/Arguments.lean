import Mathlib.Data.List.Forall2
import Stencil.Function.Builtin
import Stencil.Proofs.Function.Calls
import Stencil.Proofs.Value.Coercion

/-!
The arguments that the bodies of functions ask for. A body asks for an argument by place and kind,
and fails where it does not find one. The built-in functions ask for arguments of the kinds of their
parameters only. Main statement: no call of a built-in function fails since an argument is missing
or not of the kind that the body asks for, or for the type of a default.
-/

namespace Stencil

/-! ### Values of the kinds of parameters -/

/-- The values are one for each of the parameters, of its kind. -/
def OfKinds : List Parameter → List Value → Prop := List.Forall₂ fun p w => w.IsOf p.kind

variable {ps : List Parameter} {ws given : List Value}

lemma OfKinds.exists_at (h : OfKinds ps ws) {i : Nat} {kind : Kind}
    (hi : (ps[i]?).map Parameter.kind = some kind) : ∃ w, ws[i]? = some w ∧ w.IsOf kind := by
  induction h generalizing i with
  | nil => simp at hi
  | @cons p w ps ws hw _ ih =>
    cases i with
    | zero =>
      rw [List.getElem?_cons_zero, Option.map_some, Option.some.injEq] at hi
      subst hi
      exact ⟨w, rfl, hw⟩
    | succ i => exact ih hi

/-- What is bound to parameters is of their kinds. -/
lemma Binds.ofKinds {left : Parameter → Option Value} (h : Binds left ps given ws) :
    OfKinds ps ws := by
  induction h with
  | nil => exact .nil
  | given coerces _ ih => exact .cons (Kind.isOf_of_coerce coerces) ih
  | omitted _ coerces _ ih => exact .cons (Kind.isOf_of_coerce coerces) ih

namespace Function

variable {f : Function} {α β : Type}

/-! ### Asking for arguments -/

/-- What a body that asks for an argument in vain fails with: there is no argument in the place, or
it is not of the kind that the body expects. -/
inductive Mismatch : Failure → Prop
  | kind (i : Nat) (expected : String) (mem : expected ∈
      ["a number", "an integer", "text", "a date and time", "a sequence"]) :
      Mismatch (.invalidArgument s!"argument {i + 1} is not {expected}")
  | missing (i : Nat) : Mismatch (.invalidArgument s!"argument {i + 1} is missing")

/-- The body finds each argument that it asks for; it may fail for another reason. -/
def Finds (r : Except Failure α) : Prop := ∀ failure, r = .error failure → ¬ Mismatch failure

namespace Finds

lemma ok (a : α) : Finds (.ok a : Except Failure α) := by
  rintro failure ⟨⟩

lemma bind {r : Except Failure α} {k : α → Except Failure β} (h : Finds r)
    (hk : ∀ a, Finds (k a)) : Finds (r >>= k) := by
  intro failure hfailure
  rcases bind_eq_error.1 hfailure with hr | ⟨a, -, hka⟩
  · exact h failure hr
  · exact hk a failure hka

/-- Failures that have no text of their own tell of no argument. -/
lemma divisionByZero : Finds (.error .divisionByZero : Except Failure α) := by
  rintro failure ⟨⟩ ⟨⟩

lemma outOfRange : Finds (.error .outOfRange : Except Failure α) := by
  rintro failure ⟨⟩ ⟨⟩

end Finds

lemma Mismatch.head {s : String} (h : Mismatch (.invalidArgument s)) :
    s.toList.head? = some 'a' := by
  generalize hfailure : Failure.invalidArgument s = failure at h
  cases h with
  | kind i expected mem =>
    cases hfailure
    simp [toString]
  | missing i =>
    cases hfailure
    simp [toString]

/-- A text that begins differently tells of something else. -/
lemma Finds.invalidArgument {s : String} (h : s.toList.head? ≠ some 'a') :
    Finds (.error (.invalidArgument s) : Except Failure α) := by
  rintro failure ⟨⟩ hmismatch
  exact h hmismatch.head

section

variable {i : Nat} (h : OfKinds ps ws)

include h

lemma finds_argument {kind : Kind} {expected : String} {view : Value → Option α}
    (hi : (ps[i]?).map Parameter.kind = some kind)
    (hview : ∀ w : Value, w.IsOf kind → ∃ a, view w = some a) :
    Finds (argument ws i expected view) := by
  obtain ⟨w, hw, hkind⟩ := h.exists_at hi
  obtain ⟨a, ha⟩ := hview w hkind
  rw [argument, hw, Option.bind_some, ha]
  exact .ok a

lemma finds_numberAt (hi : (ps[i]?).map Parameter.kind = some .number) :
    Finds (numberAt ws i) := by
  refine finds_argument h hi ?_
  rintro w (_ | _)
  · exact ⟨_, rfl⟩
  · exact ⟨_, rfl⟩

lemma finds_integerAt (hi : (ps[i]?).map Parameter.kind = some .integer) :
    Finds (integerAt ws i) := by
  refine finds_argument h hi ?_
  rintro w (_ | _)
  exact ⟨_, rfl⟩

lemma finds_textAt (hi : (ps[i]?).map Parameter.kind = some .text) : Finds (textAt ws i) := by
  refine finds_argument h hi ?_
  rintro w (_ | _)
  exact ⟨_, rfl⟩

lemma finds_momentAt (hi : (ps[i]?).map Parameter.kind = some .dateTime) :
    Finds (momentAt ws i) := by
  refine finds_argument h hi ?_
  rintro w (_ | _)
  exact ⟨_, rfl⟩

lemma finds_sequenceAt (hi : (ps[i]?).map Parameter.kind = some .sequence) :
    Finds (sequenceAt ws i) := by
  refine finds_argument h hi ?_
  rintro w (_ | _)
  exact ⟨_, rfl⟩

lemma finds_valueAt (hi : (ps[i]?).map Parameter.kind = some .any) : Finds (valueAt ws i) := by
  obtain ⟨w, hw, -⟩ := h.exists_at hi
  rw [valueAt, hw]
  exact .ok w

end

/-- A body that asks for a number in the place of a text does not find it. -/
example : ¬ Finds (numberAt [.text "4"] 0) :=
  fun h => h _ rfl (.kind 0 "a number" List.mem_cons_self)

/-! ### The bodies of the built-in functions -/

/-- The body finds the arguments that it asks for among values of the kinds of the parameters. -/
def Served (f : Function) : Prop :=
  ∀ (c : Context) (ws : List Value), OfKinds f.parameters ws → Finds (f.body c ws)

lemma served_arithmetic {name description : String}
    {compute : Float → Float → Except Failure Float} (h : ∀ x y, Finds (compute x y)) :
    (arithmetic name description compute).Served := by
  intro c ws hws
  refine .bind (finds_numberAt hws rfl) fun x => .bind (finds_numberAt hws rfl) fun y => ?_
  refine .bind (h x y) fun z => ?_
  cases z.isFinite with
  | false => exact .outOfRange
  | true => exact .ok _

lemma served_divide : divide.Served := by
  refine served_arithmetic fun x y => ?_
  split
  · exact .divisionByZero
  · exact .ok _

lemma served_round : round.Served := by
  intro c ws hws
  refine .bind (finds_numberAt hws rfl) fun x => .bind (finds_integerAt hws rfl) fun n => ?_
  dsimp only
  split
  · exact .ok _
  · exact .invalidArgument (by decide)

lemma served_dateAdder (name description unit : String) (millisPerUnit : Float) :
    (dateAdder name description unit millisPerUnit).Served := by
  intro c ws hws
  refine .bind (finds_momentAt hws rfl) fun m => .bind (finds_numberAt hws rfl) fun x => ?_
  refine .bind ?_ fun _ => .ok _
  unfold addMillis
  split
  · exact .ok _
  · exact .outOfRange

lemma served_formatDate : formatDate.Served := by
  intro c ws hws
  refine .bind (finds_momentAt hws rfl) fun m => .bind (finds_textAt hws rfl) fun s => ?_
  split
  · exact .invalidArgument (by simp [toString])
  · split
    · exact .invalidArgument (by simp [toString])
    · exact .ok _

lemma served_toUpper : toUpper.Served :=
  fun _ _ hws => .bind (finds_textAt hws rfl) fun _ => .ok _

lemma served_toLower : toLower.Served :=
  fun _ _ hws => .bind (finds_textAt hws rfl) fun _ => .ok _

lemma served_replace : replace.Served := by
  intro c ws hws
  refine .bind (finds_textAt hws rfl) fun text => .bind (finds_textAt hws rfl) fun find => ?_
  exact .bind (finds_textAt hws rfl) fun replacement => .ok _

lemma served_truncate : truncate.Served := by
  intro c ws hws
  refine .bind (finds_textAt hws rfl) fun text => .bind (finds_integerAt hws rfl) fun n => ?_
  dsimp only
  split
  · exact .invalidArgument (by decide)
  · refine .bind (finds_textAt hws rfl) fun suffix => ?_
    split
    · exact .ok _
    · exact .ok _

lemma served_concat : concat.Served :=
  fun _ _ hws => .bind (finds_textAt hws rfl) fun _ => .bind (finds_textAt hws rfl) fun _ => .ok _

lemma served_count : count.Served := by
  intro c ws hws
  refine .bind (finds_valueAt hws rfl) fun v => ?_
  cases v with
  | null | sequence items | mapping entries | text s => exact .ok _
  | _ => exact .invalidArgument (by simp [toString])

lemma served_join : join.Served :=
  fun _ _ hws =>
    .bind (finds_sequenceAt hws rfl) fun _ => .bind (finds_textAt hws rfl) fun _ => .ok _

lemma served_contains : contains.Served := by
  intro c ws hws
  refine .bind (finds_valueAt hws rfl) fun wanted => .bind (finds_valueAt hws rfl) fun v => ?_
  cases v with
  | null | sequence items | mapping entries | text s => exact .ok _
  | _ => exact .invalidArgument (by simp [toString])

lemma served_of_mem_builtins (hf : f ∈ builtins) : f.Served := by
  simp only [builtins, arithmeticFunctions, dateFunctions, textFunctions, collectionFunctions,
    List.cons_append, List.nil_append, List.mem_cons, List.not_mem_nil, or_false] at hf
  rcases hf with rfl | rfl | rfl | rfl | rfl | rfl | rfl | rfl | rfl | rfl | rfl | rfl | rfl | rfl |
    rfl | rfl | rfl
  · exact served_arithmetic fun _ _ => .ok _
  · exact served_arithmetic fun _ _ => .ok _
  · exact served_arithmetic fun _ _ => .ok _
  · exact served_divide
  · exact served_round
  · exact served_dateAdder _ _ _ _
  · exact served_dateAdder _ _ _ _
  · exact served_dateAdder _ _ _ _
  · exact served_formatDate
  · exact served_toUpper
  · exact served_toLower
  · exact served_replace
  · exact served_truncate
  · exact served_concat
  · exact served_count
  · exact served_join
  · exact served_contains

/-! ### Calls with defaults -/

/-- The parameters can do with defaults: those that are required come first, the names are all
different, and the defaults are of the kinds of their parameters. -/
structure Defaulted (ps : List Parameter) : Prop where
  order : ps.Pairwise fun p q => q.isRequired → p.isRequired
  names : (ps.map Parameter.name).Nodup
  defaults : ∀ p ∈ ps, p.isRequired ∨ (p.kind.coerce (p.valueOf none)).isSome

instance (ps : List Parameter) : Decidable (Defaulted ps) :=
  decidable_of_iff
    ((ps.Pairwise fun p q => q.isRequired → p.isRequired) ∧ (ps.map Parameter.name).Nodup ∧
      ∀ p ∈ ps, p.isRequired ∨ (p.kind.coerce (p.valueOf none)).isSome)
    ⟨fun h => ⟨h.1, h.2.1, h.2.2⟩, fun h => ⟨h.order, h.names, h.defaults⟩⟩

lemma defaulted_builtins : ∀ f ∈ builtins, Defaulted f.parameters := by
  decide

/-- A supplied value cannot be converted, or a parameter that is left to its default cannot have
it. -/
lemma coerceAll_eq_error_cases {error : EvaluationError} (h : f.coerceAll ps given = .error error) :
    (∃ p v, (p, v) ∈ ps.zip given ∧ p.kind.coerce v = none ∧
      error = .argumentType f.name p.name p.kind v.typeName) ∨
    ∃ p ∈ ps.drop given.length, p.kind.coerce (p.valueOf none) = none := by
  induction ps generalizing given with
  | nil => cases h
  | cons p ps ih =>
    rw [coerceAll_cons] at h
    cases hw : p.kind.coerce (p.valueOf given.head?) with
    | none =>
      rw [hw] at h
      cases h
      cases given with
      | nil => exact .inr ⟨p, List.mem_cons_self, hw⟩
      | cons v vs => exact .inl ⟨p, v, List.mem_cons_self, hw, rfl⟩
    | some w =>
      rw [hw] at h
      have hrest : f.coerceAll ps given.tail = .error error := by
        rcases bind_eq_error.1 h with h | ⟨_, _, ⟨⟩⟩
        exact h
      cases given with
      | nil =>
        rcases ih hrest with ⟨q, v, hq, -⟩ | ⟨q, hq, hnone⟩
        · simp at hq
        · exact .inr ⟨q, List.mem_cons_of_mem _ hq, hnone⟩
      | cons v vs =>
        rcases ih hrest with ⟨q, u, hq, hnone, rfl⟩ | ⟨q, hq, hnone⟩
        · exact .inl ⟨q, u, List.mem_cons_of_mem _ hq, hnone, rfl⟩
        · exact .inr ⟨q, hq, hnone⟩

lemma mem_take_of_mem_zip {p : Parameter} {v : Value} (h : (p, v) ∈ ps.zip given) :
    p ∈ ps.take given.length := by
  rw [List.zip_eq_zip_take_min] at h
  have heq : ps.take (min ps.length given.length) = ps.take given.length := by
    rw [List.take_eq_take_iff]
    omega
  rw [← heq]
  exact (List.of_mem_zip h).1

section

variable (h : Defaulted f.parameters)

include h

/-- The parameters without an argument can do without, if there are enough arguments. -/
lemma Defaulted.isSome_of_mem_drop (hcount : f.requiredCount ≤ given.length) {p : Parameter}
    (hp : p ∈ f.parameters.drop given.length) : (p.kind.coerce (p.valueOf none)).isSome := by
  rcases h.defaults p (List.mem_of_mem_drop hp) with hreq | hdefault
  · have horder := h.order
    rw [← List.take_append_drop given.length f.parameters, List.pairwise_append] at horder
    have hlt := lt_length_required (fun q hq => horder.2.2 q hq p hp hreq) hp hreq
    rw [requiredCount] at hcount
    omega
  · exact hdefault

/-- What is wrong with the arguments of a call is their number, or the type of one of them. -/
lemma Defaulted.arguments_eq_error {error : EvaluationError}
    (herror : f.arguments given = .error error) :
    (¬ (f.requiredCount ≤ given.length ∧ given.length ≤ f.parameters.length) ∧
      error = .argumentCount f.name f.requiredCount f.parameters.length given.length) ∨
    ∃ p v, (p, v) ∈ f.parameters.zip given ∧ p.kind.coerce v = none ∧
      error = .argumentType f.name p.name p.kind v.typeName := by
  simp only [arguments] at herror
  split at herror
  · rename_i hcount
    rcases coerceAll_eq_error_cases herror with hsupplied | ⟨p, hp, hnone⟩
    · exact .inr hsupplied
    · have hsome := h.isSome_of_mem_drop hcount.1 hp
      rw [hnone] at hsome
      cases hsome
  · rename_i hcount
    cases herror
    exact .inl ⟨hcount, rfl⟩

end

lemma ofKinds_of_arguments (h : f.arguments given = .ok ws) : OfKinds f.parameters ws :=
  (arguments_eq_ok.1 h).2.ofKinds

/-- **Arguments**: no call of a built-in function fails since its body misses an argument, or finds
it of another kind than it expects; nor does it fail for the type of a parameter that is left to its
default. If the number of arguments is right and every argument can be converted to the kind of its
parameter, the body runs on values of the kinds of all parameters, and finds those it asks for. -/
theorem builtin_arguments (hf : f ∈ builtins) (c : Context) (given : List Value) :
    (∀ name failure, f.invoke c given = .error (.failed name failure) → ¬ Mismatch failure) ∧
    (∀ p ∈ f.parameters.drop given.length, ∀ expected type,
      f.invoke c given ≠ .error (.argumentType f.name p.name expected type)) ∧
    (f.requiredCount ≤ given.length → given.length ≤ f.parameters.length →
      (∀ p v, (p, v) ∈ f.parameters.zip given → (p.kind.coerce v).isSome) →
      ∃ ws, f.Runs given ws ∧ OfKinds f.parameters ws ∧ Finds (f.body c ws)) := by
  have hserved := served_of_mem_builtins hf
  have hdefaulted := defaulted_builtins f hf
  refine ⟨?_, ?_, ?_⟩
  · intro name failure herror
    rcases invoke_eq_error herror with hargs | ⟨ws, failure', hargs, hbody, heq⟩
    · rcases hdefaulted.arguments_eq_error hargs with ⟨-, ⟨⟩⟩ | ⟨_, _, _, _, ⟨⟩⟩
    · cases heq
      exact hserved c ws (ofKinds_of_arguments hargs) failure hbody
  · intro p hp expected type herror
    rcases invoke_eq_error herror with hargs | ⟨ws, failure, -, -, ⟨⟩⟩
    rcases hdefaulted.arguments_eq_error hargs with ⟨-, ⟨⟩⟩ | ⟨q, v, hq, -, heq⟩
    injection heq with _ hname
    -- a parameter with an argument has another name
    have hnames := hdefaulted.names
    rw [← List.take_append_drop given.length f.parameters, List.map_append,
      List.nodup_append] at hnames
    exact hnames.2.2 q.name (List.mem_map_of_mem (mem_take_of_mem_zip hq)) p.name
      (List.mem_map_of_mem hp) hname.symm
  · intro hleast hmost hconvert
    cases hargs : f.arguments given with
    | ok ws =>
      have hkinds := ofKinds_of_arguments hargs
      exact ⟨ws, runs_iff.2 hargs, hkinds, hserved c ws hkinds⟩
    | error error =>
      rcases hdefaulted.arguments_eq_error hargs with ⟨hcount, -⟩ | ⟨p, v, hp, hnone, -⟩
      · exact absurd ⟨hleast, hmost⟩ hcount
      · have hsome := hconvert p v hp
        rw [hnone] at hsome
        cases hsome

/-- A call that leaves the separator to its default. -/
theorem builtin_arguments_join :
    join ∈ builtins ∧ ∃ ws, join.Runs [.sequence [.null]] ws ∧ OfKinds join.parameters ws ∧
      Finds (join.body (.initial .null []) ws) := by
  have hmem : join ∈ builtins := by
    simp [builtins, collectionFunctions]
  have hcount : join.requiredCount = 1 := by decide
  have hlength : join.parameters.length = 2 := by decide
  refine ⟨hmem, (builtin_arguments hmem (.initial .null []) [.sequence [.null]]).2.2 ?_ ?_ ?_⟩
  · exact hcount.le
  · rw [hlength]
    decide
  · intro p v hp
    rw [join, List.zip_cons_cons, List.zip_nil_right, List.mem_singleton] at hp
    cases hp
    rfl

end Function

end Stencil
