import Codebook.Proofs.Template.Confinement.Calls
import Codebook.Template.Render

/-!
# What a template cannot see

Two contexts that differ in one function only give a template that does not name this function the
same outcome. This is an induction over the statements on both runs at once: every expression comes
to the same value or the same failure, and as long as no name in scope holds the function, no value
does, so that the function is never there to be called. What is called runs a level below, so
there is an induction over the levels around the one over the statements.

With `key` for the function, this says that descriptions are reached by its name only: catalogs with
the same codes cannot be told apart by a template without it.
-/

namespace Codebook.Template

variable {f : Function} {a b : Context} {exec : Executor} {env : Env} {scope : Scope}

/-! ## Expressions -/

mutual

/-- **An expression without the function has the same value in both contexts.** -/
theorem Expr.eval_alike (h : Confined f a b exec env) (hscope : Scope.Lacks f scope) :
    ∀ e : Expr, e.Lacks f →
      Eval.Alike f (Value.Lacks f) (e.eval exec (env.given a) scope)
        (e.eval exec (env.given b) scope)
  | .constant _ _, hvalue => .pure hvalue
  -- the name is not that of `f`, so neither is its value
  | .variable _ _, hname => env.lookup_alike h.contexts hscope hname
  | .list items _, hitems =>
    (evalAll_alike h hscope items hitems).bind fun _ hvalues => .pure hvalues
  | .map entries _, hentries =>
    (evalEntries_alike h hscope entries hentries).bind fun _ hvalues =>
      .pure (entriesOf_lacks hvalues)
  | .operation op left right _, ⟨hleft, hright⟩ =>
    (left.eval_alike h hscope hleft).bind fun _ hx => (right.eval_alike h hscope hright).bind
      fun _ hy => onLine_alike _ (op.apply_gives hx hy)
  | .comparison first links _, ⟨hfirst, hlinks⟩ =>
    (first.eval_alike h hscope hfirst).bind fun x _ =>
      (evalLinks_alike h hscope x links hlinks).bind fun _ _ => .pure trivial
  | .conjunction left right _, ⟨hleft, hright⟩ =>
    (left.eval_alike h hscope hleft).bind fun _ hx => (onLine_same _ _).bind fun _ _ =>
      .ite (fun _ => right.eval_alike h hscope hright) fun _ => .pure hx
  | .disjunction left right _, ⟨hleft, hright⟩ =>
    (left.eval_alike h hscope hleft).bind fun _ hx => (onLine_same _ _).bind fun _ _ =>
      .ite (fun _ => .pure hx) fun _ => right.eval_alike h hscope hright
  | .complement operand _, hoperand =>
    (operand.eval_alike h hscope hoperand).bind fun _ _ => (onLine_same _ _).bind fun _ _ =>
      .pure trivial
  | .negation operand line, hoperand =>
    (operand.eval_alike h hscope hoperand).bind fun x _ => onLine_alike line x.negate_gives
  | .choice condition yes no, ⟨hcondition, hyes, hno⟩ =>
    (condition.eval_alike h hscope hcondition).bind fun _ _ => (onLine_same _ _).bind fun _ _ =>
      .ite (fun _ => yes.eval_alike h hscope hyes) fun _ => no.eval_alike h hscope hno
  | .option condition yes, ⟨hcondition, hyes⟩ =>
    (condition.eval_alike h hscope hcondition).bind fun _ _ => (onLine_same _ _).bind fun _ _ =>
      .ite (fun _ => yes.eval_alike h hscope hyes) fun _ => .pure trivial
  | .attribute parent name, hparent =>
    (parent.eval_alike h hscope hparent).bind fun _ hx =>
      onLine_alike _ (Value.attribute_gives hx name)
  | .item parent index, ⟨hparent, hindex⟩ =>
    (parent.eval_alike h hscope hparent).bind fun _ hx =>
      (index.eval_alike h hscope hindex).bind fun i _ => onLine_alike _ (Value.item_gives hx i)
  | .slice parent start stop step, ⟨hparent, hstart, hstop, hstep⟩ =>
    (parent.eval_alike h hscope hparent).bind fun _ hx =>
      (evalOption_alike h hscope start hstart).bind fun _ _ =>
        (evalOption_alike h hscope stop hstop).bind fun _ _ =>
          (evalOption_alike h hscope step hstep).bind fun _ _ =>
            onLine_alike _ (Value.slice_gives hx _ _ _)
  -- arguments come first; then what is called runs by the executor, which is alike by `h`
  | .callName _ arguments _, ⟨hname, harguments⟩ =>
    (passed_alike (evalPositional_alike h hscope arguments harguments)
      (evalNamed_alike h hscope arguments harguments)).bind fun _ hvalues =>
        callNamed_alike h hscope _ hname hvalues
  | .callMethod parent name arguments, ⟨hparent, harguments⟩ =>
    (parent.eval_alike h hscope hparent).bind fun _ howner =>
      (passed_alike (evalPositional_alike h hscope arguments harguments)
        (evalNamed_alike h hscope arguments harguments)).bind fun _ hvalues =>
          callMethodOf_alike h _ howner name hvalues
  | .callBlock name line, _ => callBlockNamed_alike h hscope line name
  | .call callee arguments, ⟨hcallee, harguments⟩ =>
    (callee.eval_alike h hscope hcallee).bind fun _ hvalue =>
      (passed_alike (evalPositional_alike h hscope arguments harguments)
        (evalNamed_alike h hscope arguments harguments)).bind fun _ hvalues =>
          callValue_alike h _ hvalues hvalue
  | .filter operand name arguments, ⟨hoperand, harguments⟩ =>
    (operand.eval_alike h hscope hoperand).bind fun _ hx =>
      (passed_alike (evalPositional_alike h hscope arguments harguments)
        (evalNamed_alike h hscope arguments harguments)).bind fun _ hvalues =>
          onLine_alike _ (applyFilter_gives hvalues name hx)
  | .test operand _ arguments, ⟨hoperand, harguments⟩ =>
    (operand.eval_alike h hscope hoperand).bind fun _ _ =>
      (passed_alike (evalPositional_alike h hscope arguments harguments)
        (evalNamed_alike h hscope arguments harguments)).bind fun _ _ =>
          (onLine_same _ _).bind fun _ _ => .pure trivial

theorem Expr.evalOption_alike (h : Confined f a b exec env) (hscope : Scope.Lacks f scope) :
    ∀ e? : Option Expr, Expr.OptionLacks f e? →
      Eval.Alike f (Value.Lacks f) (Expr.evalOption exec (env.given a) scope e?)
        (Expr.evalOption exec (env.given b) scope e?)
  | none, _ => .pure trivial
  | some e, he => e.eval_alike h hscope he

theorem Expr.evalAll_alike (h : Confined f a b exec env) (hscope : Scope.Lacks f scope) :
    ∀ es : List Expr, Expr.AllLack f es →
      Eval.Alike f (Value.AllLack f) (Expr.evalAll exec (env.given a) scope es)
        (Expr.evalAll exec (env.given b) scope es)
  | [], _ => .pure trivial
  | first :: rest, ⟨hfirst, hrest⟩ =>
    (first.eval_alike h hscope hfirst).bind fun _ hvalue =>
      (evalAll_alike h hscope rest hrest).bind fun _ hvalues => .pure ⟨hvalue, hvalues⟩

theorem Expr.evalEntries_alike (h : Confined f a b exec env) (hscope : Scope.Lacks f scope) :
    ∀ entries : List (Expr × Expr), Expr.EntriesLack f entries →
      Eval.Alike f (Value.EntriesLack f) (Expr.evalEntries exec (env.given a) scope entries)
        (Expr.evalEntries exec (env.given b) scope entries)
  | [], _ => .pure trivial
  | (key, value) :: rest, ⟨⟨hkey, hvalue⟩, hrest⟩ =>
    (key.eval_alike h hscope hkey).bind fun _ hk => (value.eval_alike h hscope hvalue).bind
      fun _ hv => (evalEntries_alike h hscope rest hrest).bind fun _ hvalues =>
        .pure ⟨⟨hk, hv⟩, hvalues⟩

theorem Expr.evalLinks_alike (h : Confined f a b exec env) (hscope : Scope.Lacks f scope)
    (x : Value) : ∀ links : List (Comparison × Expr), Expr.LinksLack f links →
      Eval.Alike f (fun _ => True) (Expr.evalLinks exec (env.given a) scope x links)
        (Expr.evalLinks exec (env.given b) scope x links)
  | [], _ => .pure trivial
  | (_, operand) :: rest, ⟨hoperand, hrest⟩ =>
    (operand.eval_alike h hscope hoperand).bind fun y _ => (onLine_same _ _).bind fun _ _ =>
      .ite (fun _ => evalLinks_alike h hscope y rest hrest) fun _ => .pure trivial

theorem Expr.evalPositional_alike (h : Confined f a b exec env) (hscope : Scope.Lacks f scope) :
    ∀ arguments : List (Passing × Expr), Expr.PassedLack f arguments →
      Eval.Alike f (Value.AllLack f) (Expr.evalPositional exec (env.given a) scope arguments)
        (Expr.evalPositional exec (env.given b) scope arguments)
  | [], _ => .pure trivial
  | (.positional, argument) :: rest, ⟨hargument, hrest⟩ =>
    (argument.eval_alike h hscope hargument).bind fun _ hvalue =>
      (evalPositional_alike h hscope rest hrest).bind fun _ hvalues => .pure ⟨hvalue, hvalues⟩
  | (.spread, argument) :: rest, ⟨hargument, hrest⟩ =>
    (argument.eval_alike h hscope hargument).bind fun _ hvalue =>
      (onLine_alike _ (Value.spreadItems_gives hvalue)).bind fun _ hitems =>
        (evalPositional_alike h hscope rest hrest).bind fun _ hvalues =>
          .pure (hitems.append hvalues)
  -- evaluated behind the others, by `evalNamed`
  | (.named _, _) :: rest, ⟨_, hrest⟩ | (.spreadNamed, _) :: rest, ⟨_, hrest⟩ =>
    evalPositional_alike h hscope rest hrest

theorem Expr.evalNamed_alike (h : Confined f a b exec env) (hscope : Scope.Lacks f scope) :
    ∀ arguments : List (Passing × Expr), Expr.PassedLack f arguments →
      Eval.Alike f (Value.EntriesLack f) (Expr.evalNamed exec (env.given a) scope arguments)
        (Expr.evalNamed exec (env.given b) scope arguments)
  | [], _ => .pure trivial
  | (.named _, argument) :: rest, ⟨hargument, hrest⟩ =>
    (argument.eval_alike h hscope hargument).bind fun _ hvalue =>
      (evalNamed_alike h hscope rest hrest).bind fun _ hvalues =>
        .pure ⟨⟨trivial, hvalue⟩, hvalues⟩
  | (.spreadNamed, argument) :: rest, ⟨hargument, hrest⟩ =>
    (argument.eval_alike h hscope hargument).bind fun _ hvalue =>
      (onLine_alike _ (Value.spreadEntries?_gives hvalue)).bind fun _ hentries =>
        (evalNamed_alike h hscope rest hrest).bind fun _ hvalues =>
          .pure (hentries.append hvalues)
  | (.positional, _) :: rest, ⟨_, hrest⟩ | (.spread, _) :: rest, ⟨_, hrest⟩ =>
    evalNamed_alike h hscope rest hrest

end

/-! ## Assignments and filters -/

mutual

/-- What lacks the function is assigned. -/
theorem Target.assign_alike (h : Confined f a b exec env) {outer : Scope}
    (houter : Scope.Lacks f outer) {frame : Frame} (hframe : frame.Lacks f) {value : Value}
    (hvalue : value.Lacks f) : ∀ target : Target, target.Lacks f →
      Eval.Alike f (Frame.Lacks f) (target.assign exec (env.given a) outer frame value)
        (target.assign exec (env.given b) outer frame value)
  | .variable name, _ => Frame.assign_alike hframe name hvalue
  | .tuple targets line, htargets => by
    have hitems : (value.unpacked targets.length).Gives (Value.AllLack f) := by
      unfold Value.unpacked
      split
      · exact Except.gives_error
      · next items hitems =>
        split
        · exact Except.gives_ok.2 (.of_members? hvalue hitems)
        · exact Except.gives_error
    exact (onLine_alike line hitems).bind fun items hitems =>
      assignAll_alike h houter hframe targets items htargets hitems
  -- what is put into a namespace lacks `f`, so the store does as well
  | .field parent name, hparent => by
    refine (parent.eval_alike h (.cons hframe houter) hparent).bind fun owner _ => ?_
    cases owner.cell? with
    | none => exact failOn_alike _ _
    | some cell =>
      exact (modify_alike fun _ hstore => hstore.withEntry cell name hvalue).bind fun _ _ =>
        .pure hframe

theorem Target.assignAll_alike (h : Confined f a b exec env) {outer : Scope}
    (houter : Scope.Lacks f outer) {frame : Frame} (hframe : frame.Lacks f) :
    ∀ (targets : List Target) (values : List Value), Target.AllLack f targets →
      Value.AllLack f values →
      Eval.Alike f (Frame.Lacks f) (Target.assignAll exec (env.given a) outer frame targets values)
        (Target.assignAll exec (env.given b) outer frame targets values)
  | target :: rest, _ :: values, ⟨htarget, hrest⟩, ⟨hvalue, hvalues⟩ =>
    (target.assign_alike h houter hframe hvalue htarget).bind fun _ hframe =>
      assignAll_alike h houter hframe rest values hrest hvalues
  | [], _, _, _ | _ :: _, [], _, _ => .pure hframe

end

theorem assignAll_alike (h : Confined f a b exec env) {outer : Scope}
    (houter : Scope.Lacks f outer) {frame : Frame} (hframe : frame.Lacks f)
    {bindings : List (Target × Expr)} (hbindings : BindingsLack f bindings) :
    Eval.Alike f (Frame.Lacks f) (assignAll exec (env.given a) outer frame bindings)
      (assignAll exec (env.given b) outer frame bindings) := by
  induction bindings generalizing frame with
  | nil => exact .pure hframe
  | cons binding rest ih =>
    obtain ⟨⟨htarget, hvalue⟩, hrest⟩ := List.forall_mem_cons.1 hbindings
    refine (binding.2.eval_alike h (.cons hframe houter) hvalue).bind fun _ hx => ?_
    exact (binding.1.assign_alike h houter hframe hx htarget).bind fun _ hframe => ih hframe hrest

theorem applyFilters_alike (h : Confined f a b exec env) (hscope : Scope.Lacks f scope)
    (line : Nat) {filters : List FilterCall} (hfilters : FiltersLack f filters) {value : Value}
    (hvalue : value.Lacks f) :
    Eval.Alike f (Value.Lacks f) (applyFilters exec (env.given a) scope line filters value)
      (applyFilters exec (env.given b) scope line filters value) := by
  induction filters generalizing line value with
  | nil => exact .pure hvalue
  | cons filter rest ih =>
    obtain ⟨hfilter, hrest⟩ := List.forall_mem_cons.1 hfilters
    refine (passed_alike (Expr.evalPositional_alike h hscope filter.2 hfilter)
      (Expr.evalNamed_alike h hscope filter.2 hfilter)).bind fun values hvalues => ?_
    exact (onLine_alike _ (applyFilter_gives hvalues filter.1 hvalue)).bind fun _ hx =>
      ih _ hrest hx

/-! ## Loops -/

theorem keptItems_alike (h : Confined f a b exec env) (hscope : Scope.Lacks f scope)
    {target : Target} (htarget : target.Lacks f) {condition : Expr}
    (hcondition : condition.Lacks f) {items : List Value} (hitems : Value.AllLack f items) :
    Eval.Alike f (Value.AllLack f) (keptItems exec (env.given a) scope target condition items)
      (keptItems exec (env.given b) scope target condition items) := by
  induction items with
  | nil => exact .pure trivial
  | cons item rest ih =>
    obtain ⟨hitem, hrest⟩ := hitems
    -- each item is tried in a frame of its own
    refine (target.assign_alike h hscope Frame.empty_lacks hitem htarget).bind
      fun frame hframe => ?_
    refine (condition.eval_alike h (.cons hframe hscope) hcondition).bind fun value _ => ?_
    refine (onLine_same _ _).bind fun holds _ => (ih hrest).bind fun kept hkept => .pure ?_
    split
    · exact ⟨hitem, hkept⟩
    · exact hkept

theorem loopItems_alike (h : Confined f a b exec env) (hscope : Scope.Lacks f scope)
    {target : Target} (htarget : target.Lacks f) {source : Expr} (hsource : source.Lacks f)
    {condition : Option Expr} (hcondition : Expr.OptionLacks f condition) :
    Eval.Alike f (fun found => Value.AllLack f found.1)
      (loopItems exec (env.given a) scope target source condition)
      (loopItems exec (env.given b) scope target source condition) := by
  refine (source.eval_alike h hscope hsource).bind fun value hvalue => ?_
  refine (onLine_alike _ (Value.iterate_gives hvalue)).bind fun items hitems => ?_
  refine (env.roomFor_alike scope _).bind fun _ _ => ?_
  cases condition with
  | none => exact .pure hitems
  | some condition =>
    exact (keptItems_alike h hscope htarget hcondition hitems).bind fun kept hkept => .pure hkept

/-- Each turn shows the same, with the items around it. -/
theorem runTurns_alike {body body' : Turn → Value → Eval Text}
    (hbody : ∀ (turn : Turn) (item : Value), turn.Lacks f → item.Lacks f →
      Eval.Alike f (fun _ => True) (body turn item) (body' turn item))
    (state : LoopState) {recursion : Option Recursion}
    (hrecursion : ∀ r ∈ recursion, r.target.Lacks f ∧ Stmt.AllLack f r.body) {previous : Value}
    (hprevious : previous.Lacks f) {items : List Value} (hitems : Value.AllLack f items) :
    Eval.Alike f (fun _ => True) (runTurns body state recursion previous items)
      (runTurns body' state recursion previous items) := by
  induction items generalizing state previous with
  | nil => exact .pure trivial
  | cons item rest ih =>
    obtain ⟨hitem, hrest⟩ := hitems
    -- a turn can ask for the item in front of it and for the next one
    have hnext : (rest.head?.getD .undefined).Lacks f := by
      cases rest with
      | nil => trivial
      | cons next _ => exact hrest.1
    refine (hbody _ item ⟨hprevious, hnext, hrecursion⟩ hitem).bind fun text _ => ?_
    exact (ih _ hitem hrest).bind fun more _ => .pure trivial

/-! ## Statements -/

theorem Expr.withArgument_lacks {call : Expr} (h : call.Lacks f) {argument : Passing × Expr}
    (hargument : argument.2.Lacks f) : (call.withArgument argument).Lacks f := by
  have hlast : Expr.PassedLack f [argument] := ⟨hargument, trivial⟩
  unfold Expr.withArgument
  split
  · exact ⟨h.1, h.2.append hlast⟩
  · exact ⟨h.1, h.2.append hlast⟩
  · exact ⟨h.1, h.2.append hlast⟩
  · exact h

mutual

/-- **A statement without the function shows the same in both contexts.** -/
theorem Stmt.render_alike {env : Env} (h : Confined f a b exec env) {outer : Scope}
    (houter : Scope.Lacks f outer) {frame : Frame} (hframe : frame.Lacks f) :
    ∀ s : Stmt, s.Lacks f →
      Eval.Alike f (fun shown => shown.2.Lacks f) (s.render exec (env.given a) outer frame)
        (s.render exec (env.given b) outer frame)
  | .data _, _ => .pure hframe
  | .emit value, hvalue =>
    (value.eval_alike h (.cons hframe houter) hvalue).bind fun _ _ =>
      (onLine_same _ _).bind fun _ _ => .pure hframe
  | .assign target value, ⟨htarget, hvalue⟩ =>
    (value.eval_alike h (.cons hframe houter) hvalue).bind fun _ hx =>
      (target.assign_alike h houter hframe hx htarget).bind fun _ hframe => .pure hframe
  | .capture target filters line body, ⟨htarget, hfilters, hbody⟩ =>
    (renderAll_alike h houter hframe body hbody).bind fun (text, _) hframe =>
      (applyFilters_alike h (.cons hframe houter) line hfilters
        (captured_lacks env.escape text)).bind fun _ hx =>
          (target.assign_alike h houter hframe hx htarget).bind fun _ hframe => .pure hframe
  | .branch condition yes no, ⟨hcondition, hyes, hno⟩ =>
    (condition.eval_alike h (.cons hframe houter) hcondition).bind fun _ _ =>
      (onLine_same _ _).bind fun _ _ => .ite (fun _ => renderAll_alike h houter hframe yes hyes)
        fun _ => renderAll_alike h houter hframe no hno
  | .loop target source condition recursive body otherwise,
      ⟨htarget, hsource, hcondition, hbody, hotherwise⟩ => by
    have hscope := Scope.Lacks.cons hframe houter
    refine (loopItems_alike h hscope htarget hsource hcondition).bind ?_
    rintro ⟨items, length?⟩ hitems
    refine .ite (fun _ => renderAll_alike h houter hframe otherwise hotherwise) fun _ => ?_
    refine (modify_alike fun _ hstore => hstore.forgetting _).bind fun _ _ => ?_
    have hfirst : Value.undefined.Lacks f := trivial
    -- what the turns assign is gone behind the loop, so the frame is the one before
    refine (runTurns_alike ?turn _ ?recursion hfirst hitems).bind fun text _ => .pure hframe
    case turn =>
      intro turn item hturn hitem
      refine (target.assign_alike h hscope (Frame.ofTurn_lacks hturn) hitem htarget).bind
        fun inner hinner => ?_
      exact (renderAll_alike h hscope hinner body hbody).bind fun _ _ => .pure trivial
    case recursion =>
      cases recursive with
      | false => exact fun _ hnone => nomatch hnone
      | true => exact fun _ hsome => Option.some.inj hsome ▸ ⟨htarget, hbody⟩
  | .bind bindings line body, ⟨hbindings, hbody⟩ => by
    have hscope := Scope.Lacks.cons hframe houter
    refine (env.roomFor_alike _ line).bind fun _ _ => ?_
    refine (assignAll_alike h hscope Frame.empty_lacks hbindings).bind fun inner hinner => ?_
    exact (renderAll_alike h hscope hinner body hbody).bind fun _ _ => .pure hframe
  | .filtered filters line body, ⟨hfilters, hbody⟩ =>
    (renderAll_alike h houter hframe body hbody).bind fun (text, _) hframe =>
      (applyFilters_alike h (.cons hframe houter) line hfilters
        (captured_lacks env.escape text)).bind fun _ _ =>
          (onLine_same _ _).bind fun _ _ => .pure hframe
  | .escape mode body, ⟨hmode, hbody⟩ =>
    (mode.eval_alike h (.cons hframe houter) hmode).bind fun _ _ =>
      (onLine_same _ _).bind fun escape _ =>
        have hinner : Confined f a b exec { env with escape } := ⟨h.contexts, h.blocks, h.exec⟩
        renderAll_alike hinner houter hframe body hbody
  | .declare name parameters body, ⟨hparameters, hbody⟩ =>
    (env.declare_alike h.contexts houter hframe name hparameters hbody).bind
      fun (_, _) ⟨hroutine, hframe⟩ => (Frame.assign_alike hframe name hroutine).bind
        fun _ hframe => .pure hframe
  | .callWith call parameters line body, ⟨hcall, hparameters, hbody⟩ =>
    (env.declare_alike h.contexts houter hframe callerName hparameters hbody).bind
      fun (routine, _) ⟨hroutine, hframe⟩ =>
        -- the body is handed to the call as a macro among its arguments
        have hgiven : (call.withArgument (.named callerName, .constant routine line)).Lacks f :=
          Expr.withArgument_lacks hcall hroutine
        ((call.withArgument _).eval_alike h (.cons hframe houter) hgiven).bind fun _ _ =>
          (onLine_same _ _).bind fun _ _ => .pure hframe
  | .perform call, hcall =>
    (call.eval_alike h (.cons hframe houter) hcall).bind fun _ _ => .pure hframe
  | .block name line body, hbody => by
    -- the same blocks and the same executor, inside the block
    have hinner : Confined f a b exec { env with block := name } := ⟨h.contexts, h.blocks, h.exec⟩
    refine (env.roomFor_alike _ line).bind fun _ _ => ?_
    exact (renderAll_alike hinner (.cons hframe houter) Frame.empty_lacks body hbody).bind
      fun _ _ => .pure hframe
  | .extend name, hname =>
    (name.eval_alike h (.cons hframe houter) hname).bind fun _ _ => failOn_alike _ _
  | .embed name _, hname =>
    (name.eval_alike h (.cons hframe houter) hname).bind fun _ _ => .ite (fun _ => .pure hframe)
      fun _ => failOn_alike _ _

theorem Stmt.renderAll_alike {env : Env} (h : Confined f a b exec env) {outer : Scope}
    (houter : Scope.Lacks f outer) {frame : Frame} (hframe : frame.Lacks f) :
    ∀ ss : List Stmt, Stmt.AllLack f ss →
      Eval.Alike f (fun shown => shown.2.Lacks f) (Stmt.renderAll exec (env.given a) outer frame ss)
        (Stmt.renderAll exec (env.given b) outer frame ss)
  | [], _ => .pure hframe
  | first :: rest, ⟨hfirst, hrest⟩ =>
    (first.render_alike h houter hframe hfirst).bind fun (_, _) hframe =>
      (renderAll_alike h houter hframe rest hrest).bind fun (_, _) hframe => .pure hframe

end

/-! ## Templates -/

end Codebook.Template
