import Codebook.Proofs.Template.Absence.Filters
import Codebook.Proofs.Template.Confinement.Places
import Codebook.Template.Evaluation

/-!
# Calls in two contexts

A call comes to the same in two contexts that differ in one function only, if what is called lacks
this function. What a call may run, the bodies of macros, blocks and loops, is run by an executor,
of which the same is assumed.
-/

namespace Codebook.Template

variable {f : Function}

/-! ## Functions -/

theorem Function.apply_gives (context : Context) (g : Function) (arguments : List Value) :
    (g.apply context arguments).Gives (Value.Lacks f) := by
  -- texts and lists of texts hold no function
  cases g with
  | key | normalize =>
    exact Except.gives_bind fun _ => Except.gives_bind fun _ => Except.gives_ok.2 trivial
  | split =>
    exact Except.gives_bind fun _ => Except.gives_bind fun _ => Except.gives_bind fun _ =>
      Except.gives_ok.2 (Value.allLack_texts _)
  | join =>
    exact Except.gives_bind fun _ => Except.gives_bind fun _ => Except.gives_bind fun _ =>
      Except.gives_ok.2 trivial
  | title =>
    exact Except.gives_bind fun _ => Except.gives_bind fun _ =>
      Except.gives_ok.2 (Value.allLack_texts _)
  | map =>
    exact Except.gives_bind fun _ => Except.gives_bind fun _ => Except.gives_bind fun _ =>
      Except.gives_bind fun _ => Except.gives_ok.2 (Value.allLack_texts _)

theorem range_gives (first behind step : Nat) :
    (range first behind step).Gives (Value.Lacks f) := by
  unfold range
  split
  · exact Except.gives_error
  · dsimp only
    split
    · exact Except.gives_error
    · exact Except.gives_ok.2
        (Value.allLack_map (g := fun place => .natural (first + place * step)) (fun _ => trivial) _)

theorem callRange_gives (arguments : List Value) :
    (callRange arguments).Gives (Value.Lacks f) := by
  refine Except.gives_bind fun lower => Except.gives_bind fun upper? => Except.gives_bind
    fun step? => Except.gives_bind fun _ => ?_
  split
  · exact range_gives _ _ _
  · exact range_gives _ _ _

theorem callDict_gives {arguments : List Value} (h : Value.AllLack f arguments) :
    (callDict arguments).Gives (Value.Lacks f) := by
  have hgiven := Given.lacks_of h
  -- whatever map it starts from
  have hbehind (base : List (Value × Value)) (hbase : Value.EntriesLack f base) :
      (do
        noMoreThan 1 (Given.of arguments).positional
        return Value.map .plain (entriesOf (base ++ (Given.of arguments).keywords))).Gives
        (Value.Lacks f) :=
    Except.gives_bind fun _ => Except.gives_ok.2 (entriesOf_lacks (hbase.append hgiven.keywords))
  unfold callDict
  dsimp only
  split
  · exact hbehind [] trivial
  · exact hbehind [] trivial
  · exact hbehind [] trivial
  · exact hbehind [] trivial
  · next value _ _ _ hvalue =>
    have hvalue := hgiven.positional.getElem? 0 value hvalue
    split
    · next entries hentries => exact hbehind entries (.of_entries? hvalue hentries)
    · exact Except.gives_error

theorem namespaceEntries_gives {arguments : List Value} (h : Value.AllLack f arguments) :
    (namespaceEntries arguments).Gives fun entries => ∀ entry ∈ entries, entry.2.Lacks f := by
  -- whatever map it starts from
  have hbehind (base : List (Value × Value)) (hbase : Value.EntriesLack f base) :
      (do
        noMoreThan 1 arguments
        return (entriesOf base).filterMap fun (entry : Value × Value) =>
          entry.1.text?.map fun name => (name, entry.2)).Gives
        fun entries : List (Text × Value) => ∀ entry ∈ entries, entry.2.Lacks f := by
    refine Except.gives_bind fun _ => Except.gives_ok.2 fun entry hentry => ?_
    obtain ⟨⟨key, value⟩, hmem, hentry⟩ := List.mem_filterMap.1 hentry
    obtain ⟨name, -, rfl⟩ := Option.map_eq_some_iff.1 hentry
    exact (Value.entriesLack_iff.1 (entriesOf_lacks hbase) _ hmem).2
  unfold namespaceEntries
  split
  · exact hbehind [] trivial
  · exact hbehind [] trivial
  · exact hbehind [] trivial
  · exact hbehind [] trivial
  · next value _ _ _ hvalue =>
    have hvalue := h.getElem? 0 value hvalue
    split
    · next entries hentries => exact hbehind entries (.of_entries? hvalue hentries)
    · exact Except.gives_error

theorem captured_lacks (escape : Bool) (text : Text) : (captured escape text).Lacks f := by
  cases escape <;> trivial

/-! ## Arguments -/

theorem Value.spreadItems_gives {value : Value} (h : value.Lacks f) :
    value.spreadItems.Gives (Value.AllLack f) := by
  unfold Value.spreadItems
  split
  · next items hitems => exact Except.gives_ok.2 (.of_items? h hitems)
  · exact Except.gives_error

theorem Value.spreadEntries?_gives {value : Value} (h : value.Lacks f) :
    value.spreadEntries?.Gives (Value.EntriesLack f) := by
  unfold Value.spreadEntries?
  split
  · next entries hentries => exact Except.gives_ok.2 (.of_entries? h hentries)
  · exact Except.gives_error

theorem passed_alike {arguments : List (Passing × Expr)}
    {positional positional' : Eval (List Value)} {named named' : Eval (List (Value × Value))}
    (hpositional : Eval.Alike f (Value.AllLack f) positional positional')
    (hnamed : Eval.Alike f (Value.EntriesLack f) named named') :
    Eval.Alike f (Value.AllLack f) (passed arguments positional named)
      (passed arguments positional' named') := by
  refine hpositional.bind fun values hvalues => .ite (fun _ => ?_) fun _ => .pure hvalues
  refine hnamed.bind fun entries hentries => .pure ?_
  exact hvalues.append ⟨entriesOf_lacks hentries, trivial⟩

theorem parameterValues_gives {given : Given} (h : given.Lacks f) (place : Nat)
    (names : List Text) :
    (parameterValues given place names).Gives fun values => ∀ entry ∈ values, entry.2.Lacks f := by
  induction names generalizing place with
  | nil => exact Except.gives_ok.2 (List.forall_mem_nil _)
  | cons name rest ih =>
    have hbehind (value : Value) (hvalue : value.Lacks f) :
        (do return (name, value) :: (← parameterValues given (place + 1) rest)).Gives
          fun values : List (Text × Value) => ∀ entry ∈ values, entry.2.Lacks f :=
      (ih (place + 1)).bind fun _ hrest =>
        Except.gives_ok.2 (List.forall_mem_cons.2 ⟨hvalue, hrest⟩)
    -- given twice, by place, by name, or not at all
    unfold parameterValues
    split
    · exact Except.gives_error
    · next value hvalue _ => exact hbehind value (h.positional.getElem? place value hvalue)
    · next value _ hvalue => exact hbehind value (h.keyword? name value hvalue)
    · exact hbehind .undefined trivial

theorem RoutineHead.take_gives (head : RoutineHead) {arguments : List Value}
    (h : Value.AllLack f arguments) :
    (head.take arguments).Gives fun values => ∀ entry ∈ values, entry.2.Lacks f := by
  have hgiven := Given.lacks_of h
  refine Except.gives_bind fun _ => ?_
  refine (parameterValues_gives hgiven 0 head.parameters).bind fun values hvalues => ?_
  refine Except.gives_bind fun _ => Except.gives_ok.2 ?_
  split
  · have hcaller : (((Given.of arguments).keyword? callerName).getD .undefined).Lacks f :=
      Value.lacks_getD (hgiven.keyword? callerName) trivial
    exact List.forall_mem_append.2 ⟨hvalues, List.forall_mem_singleton.2 hcaller⟩
  · exact hvalues

theorem parameterBindings_lack (line : Nat) {values : List (Text × Value)}
    (hvalues : ∀ entry ∈ values, entry.2.Lacks f) {parameters : List Parameter}
    (hparameters : ParametersLack f parameters) :
    Stmt.AllLack f (parameterBindings line values parameters) := by
  refine Stmt.allLack_iff.2 (List.forall_mem_map.2 fun parameter hparameter => ⟨trivial, ?_⟩)
  have hdefault := hparameters parameter (List.mem_reverse.1 hparameter)
  have hvalue : ((values.lookup parameter.1).getD .undefined).Lacks f :=
    Value.lacks_getD (lookup_lacks hvalues parameter.1) trivial
  -- a default counts only where no value was given
  split
  · next default heq =>
    split
    · rw [heq] at hdefault
      exact hdefault
    · exact hvalue
  · exact hvalue

/-! ## Calling what runs -/

/-- The contexts differ in the function at most; no block of the template names the function, and
whatever the executor runs without it shows the same in both contexts. -/
structure Confined (f : Function) (a b : Context) (exec : Executor) (env : Env) : Prop where
  contexts : a.AgreeBut f b
  blocks : ∀ block ∈ env.blocks, Stmt.AllLack f block.2
  exec : ∀ (env : Env) (scope : Scope) (statements : List Stmt),
    (∀ block ∈ env.blocks, Stmt.AllLack f block.2) → Scope.Lacks f scope →
    Stmt.AllLack f statements →
    Eval.Alike f (fun _ => True) (exec (env.given a) scope statements)
      (exec (env.given b) scope statements)

section Calls

variable {a b : Context} {exec : Executor} {env : Env} {scope : Scope}

/-- A macro runs its body in a frame of its own, in front of its cell. -/
theorem callRoutine_alike (h : Confined f a b exec env) (line : Nat) (head : RoutineHead)
    {arguments : List Value} (harguments : Value.AllLack f arguments) :
    Eval.Alike f (Value.Lacks f) (callRoutine exec (env.given a) scope line head arguments)
      (callRoutine exec (env.given b) scope line head arguments) := by
  refine (onLine_alike line (head.take_gives harguments)).bind fun values hvalues => ?_
  refine get_alike.bind fun store hstore => ?_
  cases hroutine : store.routines[head.place]? with
  | none => exact failOn_alike _ _
  | some routine =>
    obtain ⟨hparameters, hbody⟩ := hstore.routines routine (List.mem_of_getElem? hroutine)
    -- the body runs away from the caller: with the closure, the parameters and nothing else
    let inner : Env := { env with
      blocks := [], block := none, outer := env.depth scope + routineFrames, templates := [] }
    let frame : Frame := { Frame.empty with
      locals := values.filter (·.1 == callerName), backing := .cell routine.closure }
    have hframe : frame.Lacks f :=
      ⟨fun entry hentry => hvalues entry (List.mem_filter.1 hentry).1, Frame.empty_lacks.turn⟩
    have hscope : Scope.Lacks f [frame, .outermost] :=
      .cons hframe (.cons Frame.outermost_lacks (List.forall_mem_nil _))
    have hrun := h.exec inner [frame, .outermost] _ (List.forall_mem_nil _) hscope
      ((parameterBindings_lack line hvalues hparameters).append hbody)
    refine (inner.roomFor_alike [frame, .outermost] line).bind fun _ _ => ?_
    exact hrun.bind fun text _ => .pure (captured_lacks _ _)

/-- An overview shows the codes, which both contexts have. -/
theorem Env.overview_agree (h : a.AgreeBut f b) (env : Env) (store : Store) (scope : Scope) :
    (env.given a).overview store scope = (env.given b).overview store scope := by
  have hframe (frame : Frame) : frame.entries a store = frame.entries b store := by
    simp only [Frame.entries, h.codes]
  have hentries : scope.entries a store = scope.entries b store := by
    simp only [Scope.entries, hframe]
  unfold Env.overview
  rw [show (env.given a).context = a from rfl, hentries]
  rfl

theorem callBuiltin_alike (h : a.AgreeBut f b) (line : Nat) (builtin : Builtin)
    {arguments : List Value} (harguments : Value.AllLack f arguments) :
    Eval.Alike f (Value.Lacks f) (callBuiltin (env.given a) scope line builtin arguments)
      (callBuiltin (env.given b) scope line builtin arguments) := by
  cases builtin with
  | range => exact onLine_alike line (callRange_gives arguments)
  | dict => exact onLine_alike line (callDict_gives harguments)
  | newNamespace =>
    refine (onLine_alike line (namespaceEntries_gives harguments)).bind fun entries hentries => ?_
    exact (newCell_alike hentries).bind fun _ _ => .pure (Value.entriesLack_named hentries)
  | debug =>
    refine get_alike.bind fun store _ => ?_
    rw [env.overview_agree h]
    exact .pure trivial

theorem callValue_alike (h : Confined f a b exec env) (line : Nat) {arguments : List Value}
    (harguments : Value.AllLack f arguments) {callee : Value} (hcallee : callee.Lacks f) :
    Eval.Alike f (Value.Lacks f) (callValue exec (env.given a) scope line arguments callee)
      (callValue exec (env.given b) scope line arguments callee) := by
  cases callee with
  | function g =>
    have happly : g.apply (env.given a).context arguments =
        g.apply (env.given b).context arguments := h.contexts.apply g hcallee arguments
    simp only [callValue, happly]
    exact onLine_alike line (Function.apply_gives _ g arguments)
  | builtin builtin => exact callBuiltin_alike h.contexts line builtin harguments
  | routine head => exact callRoutine_alike h line head harguments
  | _ => exact failOn_alike _ _

/-- A loop that is called from inside starts over in the same scope. -/
theorem callLoop_alike (h : Confined f a b exec env) (hscope : Scope.Lacks f scope) (line : Nat)
    {arguments : List Value} (harguments : Value.AllLack f arguments) :
    Eval.Alike f (Value.Lacks f) (callLoop exec (env.given a) scope line arguments)
      (callLoop exec (env.given b) scope line arguments) := by
  unfold callLoop
  split
  · next items =>
    split
    · exact failOn_alike _ _
    · next turn hturn =>
      split
      · exact failOn_alike _ _
      · next target body hrecursion =>
        obtain ⟨htarget, hbody⟩ := (hscope.turn? turn hturn).recursion _ hrecursion
        -- a call of the loop runs it once more over the argument
        have hloop : Stmt.AllLack f [.loop target (.constant items line) none true body []] :=
          ⟨⟨htarget, harguments.1, trivial, hbody, trivial⟩, trivial⟩
        exact (h.exec env scope _ h.blocks hscope hloop).bind fun text _ =>
          .pure (captured_lacks _ _)
  · exact failOn_alike _ _

theorem callNamed_alike (h : Confined f a b exec env) (hscope : Scope.Lacks f scope) (line : Nat)
    {name : Text} (hname : name ≠ f.name) {arguments : List Value}
    (harguments : Value.AllLack f arguments) :
    Eval.Alike f (Value.Lacks f) (callNamed exec (env.given a) scope line name arguments)
      (callNamed exec (env.given b) scope line name arguments) := by
  refine .ite (fun _ => failOn_alike _ _) fun _ => .ite
    (fun _ => callLoop_alike h hscope line harguments) fun _ => ?_
  refine get_alike.bind fun store hstore => ?_
  rw [show (env.given a).context = a from rfl, show (env.given b).context = b from rfl,
    Scope.value?_agree h.contexts]
  have hvalue := Scope.value?_lacks hstore hscope b hname
  cases hcallee : scope.value? b store name with
  | none => exact failOn_alike _ _
  | some callee => exact callValue_alike h line harguments (hvalue callee hcallee)

theorem askLoop_alike (state : LoopState) (arguments : List Value) :
    Eval.Alike f (Value.Lacks f) (askLoop state arguments) (askLoop state arguments) := by
  refine get_alike.bind fun store _ => .ite (fun _ => .pure trivial) fun _ => ?_
  exact (modify_alike fun _ hstore => hstore.withMemory _ _).bind fun _ _ => .pure trivial

theorem callLoopMethod_alike (line : Nat) (state : LoopState) (name : Text)
    {arguments : List Value} (harguments : Value.AllLack f arguments) :
    Eval.Alike f (Value.Lacks f) (callLoopMethod line state name arguments)
      (callLoopMethod line state name arguments) :=
  .ite (fun _ => askLoop_alike state arguments) fun _ => .ite
    (fun _ => .pure (Value.lacks_getD (harguments.getElem? _) trivial)) fun _ => failOn_alike _ _

theorem callMethodOf_alike (h : Confined f a b exec env) (line : Nat) {owner : Value}
    (howner : owner.Lacks f) (name : Text) {arguments : List Value}
    (harguments : Value.AllLack f arguments) :
    Eval.Alike f (Value.Lacks f) (callMethodOf exec (env.given a) scope line owner name arguments)
      (callMethodOf exec (env.given b) scope line owner name arguments) := by
  have hattribute := Value.lookup?_lacks howner (.text name)
  unfold callMethodOf
  -- a method of the loop, or an attribute that can be called
  split
  · exact callLoopMethod_alike line _ name harguments
  · split
    · next callee hcallee => exact callValue_alike h line harguments (hattribute callee hcallee)
    · exact failOn_alike _ _
  · split
    · next callee hcallee => exact callValue_alike h line harguments (hattribute callee hcallee)
    · exact failOn_alike _ _
  · exact failOn_alike _ _

theorem callBlockNamed_alike (h : Confined f a b exec env) (hscope : Scope.Lacks f scope)
    (line : Nat) (name : Text) :
    Eval.Alike f (Value.Lacks f) (callBlockNamed exec (env.given a) scope line name)
      (callBlockNamed exec (env.given b) scope line name) := by
  unfold callBlockNamed
  rw [show (env.given a).blocks = env.blocks from rfl,
    show (env.given b).blocks = env.blocks from rfl]
  -- neither context changes which blocks there are
  cases hbody : env.blocks.lookup name with
  | none => exact failOn_alike _ _
  | some body =>
    obtain ⟨front, behind, hsplit, -⟩ := List.lookup_eq_some_iff.1 hbody
    have hlacks := h.blocks (name, body) (by rw [hsplit]; simp)
    refine (env.roomFor_alike scope line).bind fun _ _ => ?_
    have hrun := h.exec { env with block := name } (.empty :: scope) body h.blocks
      (.cons Frame.empty_lacks hscope) hlacks
    exact hrun.bind fun text _ => .pure (captured_lacks _ _)

end Calls

end Codebook.Template
