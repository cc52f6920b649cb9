import Codebook.Proofs.Template.Absence.Places

/-!
# Two contexts at one place

Two contexts that differ in one function only give the names in scope the same values, as long as
that of the function is not among them. So what is done at a place with its names comes to the same
in both contexts, and leaves the same store.
-/

namespace Codebook.Template

variable {f : Function}

/-! ## Evaluating in step -/

/-- From every store without the function both evaluations have the same outcome. The result has a
property, and the store behind it lacks the function as well. -/
def Eval.Alike (f : Function) {α : Type} (P : α → Prop) (x y : Eval α) : Prop :=
  ∀ store : Store, store.Lacks f →
    Except.Alike (fun result => P result.1 ∧ result.2.Lacks f) (x store) (y store)

section Steps

variable {α β : Type} {P : α → Prop} {Q : β → Prop}

theorem Eval.Alike.bind {x y : Eval α} {g g' : α → Eval β} (hxy : Eval.Alike f P x y)
    (hg : ∀ result, P result → Eval.Alike f Q (g result) (g' result)) :
    Eval.Alike f Q (x >>= g) (y >>= g') :=
  fun store hstore => (hxy store hstore).bind fun (result, store) ⟨hresult, hstore⟩ =>
    hg result hresult store hstore

theorem Eval.Alike.pure {result : α} (h : P result) :
    Eval.Alike f P (Pure.pure result) (Pure.pure result) :=
  fun _ hstore => Except.alike_ok ⟨h, hstore⟩

theorem Eval.Alike.ite {c : Prop} [Decidable c] {x y x' y' : Eval α}
    (hx : c → Eval.Alike f P x x') (hy : ¬c → Eval.Alike f P y y') :
    Eval.Alike f P (if c then x else y) (if c then x' else y') := by
  split
  · exact hx ‹_›
  · exact hy ‹_›

theorem failOn_alike (line : Nat) (problem : Problem) :
    Eval.Alike f P (failOn line problem) (failOn line problem) :=
  fun _ _ => Except.gives_error.alike

theorem onLine_alike (line : Nat) {result : Except Problem α} (h : result.Gives P) :
    Eval.Alike f P (onLine line result) (onLine line result) := by
  cases result with
  | error problem => exact failOn_alike line problem
  | ok a => exact .pure (h a rfl)

/-- Whatever comes out on a line, nothing is said of it. -/
theorem onLine_same (line : Nat) (result : Except Problem α) :
    Eval.Alike f (fun _ => True) (onLine line result) (onLine line result) :=
  onLine_alike line (Except.gives_some result)

theorem get_alike : Eval.Alike f (Store.Lacks f) get get :=
  fun _ hstore => Except.alike_ok ⟨hstore, hstore⟩

theorem modify_alike {g : Store → Store} (h : ∀ store : Store, store.Lacks f → (g store).Lacks f) :
    Eval.Alike f (fun _ => True) (modify g) (modify g) :=
  fun store hstore => Except.alike_ok ⟨trivial, h store hstore⟩

end Steps

/-! ## Names -/

/-- The contexts differ in one function at most. -/
structure Context.AgreeBut (f : Function) (a b : Context) : Prop where
  codes : a.codes = b.codes
  apply : ∀ g ≠ f, ∀ arguments, g.apply a arguments = g.apply b arguments

/-- The same place in another context. -/
def Env.given (env : Env) (context : Context) : Env := { env with context }

variable {a b : Context}

theorem Context.AgreeBut.value? (h : a.AgreeBut f b) (name : Text) :
    a.value? name = b.value? name := by
  simp only [Context.value?, h.codes]

theorem Scope.value?_agree (h : a.AgreeBut f b) (store : Store) (scope : Scope) (name : Text) :
    scope.value? a store name = scope.value? b store name := by
  have hframe (frame : Frame) : frame.value? a store name = frame.value? b store name := by
    simp only [Frame.value?, Frame.behind?, h.value?]
  simp only [Scope.value?, hframe]

theorem Env.roomFor_alike (env : Env) (scope : Scope) (line : Nat) :
    Eval.Alike f (fun _ => True) ((env.given a).roomFor scope line)
      ((env.given b).roomFor scope line) :=
  .ite (fun _ => failOn_alike _ _) fun _ => .pure trivial

theorem Env.lookup_alike (h : a.AgreeBut f b) (env : Env) {scope : Scope}
    (hscope : Scope.Lacks f scope) {name : Text} (hname : name ≠ f.name) :
    Eval.Alike f (Value.Lacks f) ((env.given a).lookup scope name)
      ((env.given b).lookup scope name) := by
  refine get_alike.bind fun store hstore => ?_
  have hvalue := Scope.value?_lacks hstore hscope b hname
  rw [show (env.given a).context = a from rfl, Scope.value?_agree h]
  exact .pure (Value.lacks_getD hvalue trivial)

/-! ## Changing frames and cells -/

theorem Frame.assign_alike {frame : Frame} (hframe : frame.Lacks f) (name : Text) {value : Value}
    (hvalue : value.Lacks f) :
    Eval.Alike f (Frame.Lacks f) (frame.assign name value) (frame.assign name value) := by
  have hlocal := hframe.withLocal name hvalue
  unfold Frame.assign
  split
  · next cell _ =>
    have hentry (store : Store) (hstore : store.Lacks f) := hstore.withEntry cell name hvalue
    exact (modify_alike hentry).bind fun _ _ => .pure hlocal
  · exact .pure hlocal

theorem newCell_alike {entries : List (Text × Value)} (h : ∀ entry ∈ entries, entry.2.Lacks f) :
    Eval.Alike f (fun _ => True) (newCell entries) (newCell entries) :=
  get_alike.bind fun _ _ => (modify_alike fun _ hstore => hstore.withCell h).bind
    fun _ _ => .pure trivial

theorem Frame.closed_alike {frame : Frame} (hframe : frame.Lacks f) :
    Eval.Alike f (fun closed => closed.2.Lacks f) frame.closed frame.closed := by
  unfold Frame.closed
  split
  · exact .pure hframe
  · exact (newCell_alike (List.forall_mem_nil _)).bind fun _ _ =>
      .pure ⟨hframe.locals, hframe.turn⟩

theorem Env.enclose_alike (h : a.AgreeBut f b) (env : Env) {scope : Scope}
    (hscope : Scope.Lacks f scope) (cell : Nat) {names : List Text} (hnames : f.name ∉ names) :
    Eval.Alike f (fun _ => True) ((env.given a).enclose scope cell names)
      ((env.given b).enclose scope cell names) := by
  induction names with
  | nil => exact .pure trivial
  | cons name rest ih =>
    have hname := List.ne_of_not_mem_cons hnames
    have hrest := List.not_mem_of_not_mem_cons hnames
    refine get_alike.bind fun store _ => .ite (fun _ => ?_) fun _ => ih hrest
    refine (env.lookup_alike h hscope hname.symm).bind fun value hvalue => ?_
    exact (modify_alike fun _ hstore => hstore.withEntry cell name hvalue).bind fun _ _ => ih hrest

/-- A macro is declared with what it encloses, which does not hold the function. -/
theorem Env.declare_alike (h : a.AgreeBut f b) (env : Env) {outer : Scope}
    (houter : Scope.Lacks f outer) {frame : Frame} (hframe : frame.Lacks f) (name : Text)
    {parameters : List Parameter} (hparameters : ParametersLack f parameters) {body : List Stmt}
    (hbody : Stmt.AllLack f body) :
    Eval.Alike f (fun declared => declared.1.Lacks f ∧ declared.2.Lacks f)
      ((env.given a).declare outer frame name parameters body)
      ((env.given b).declare outer frame name parameters body) := by
  -- `f` is not among the names that the body takes from outside, so its value is never looked up
  have hfree : f.name ∉ (freeOfRoutine parameters body).filter (· != callerName) :=
    fun hmem => not_mem_freeOfRoutine hparameters hbody (List.mem_filter.1 hmem).1
  refine (Frame.closed_alike hframe).bind ?_
  rintro ⟨cell, frame⟩ hframe
  refine (env.enclose_alike h (Scope.Lacks.cons hframe houter) cell hfree).bind fun _ _ => ?_
  refine get_alike.bind fun store _ => ?_
  refine (modify_alike fun _ hstore => hstore.withRoutine ⟨hparameters, hbody⟩).bind fun _ _ => ?_
  exact .pure ⟨trivial, hframe⟩

end Codebook.Template
