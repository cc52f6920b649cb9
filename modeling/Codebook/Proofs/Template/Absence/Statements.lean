import Codebook.Proofs.Template.Absence.Values
import Codebook.Template.Folding

/-!
# Templates without a function

An expression or a statement lacks a function if its name is written nowhere where a value is looked
up, and no constant of it holds the function. Then none of the names that it takes from outside is
that of the function, and what is worked out beforehand lacks the function too.
-/

namespace Codebook.Template

/-! ## Lacking a function -/

mutual

/-- The expression does not name the function. -/
def Expr.Lacks (f : Function) : Expr → Prop
  | .constant value _ => value.Lacks f
  | .variable name _ => name ≠ f.name
  | .list items _ => Expr.AllLack f items
  | .map entries _ => Expr.EntriesLack f entries
  | .operation _ left right _ => left.Lacks f ∧ right.Lacks f
  | .comparison first links _ => first.Lacks f ∧ Expr.LinksLack f links
  | .conjunction left right _ => left.Lacks f ∧ right.Lacks f
  | .disjunction left right _ => left.Lacks f ∧ right.Lacks f
  | .complement operand _ => operand.Lacks f
  | .negation operand _ => operand.Lacks f
  | .choice condition yes no => condition.Lacks f ∧ yes.Lacks f ∧ no.Lacks f
  | .option condition yes => condition.Lacks f ∧ yes.Lacks f
  | .attribute parent _ => parent.Lacks f
  | .item parent index => parent.Lacks f ∧ index.Lacks f
  | .slice parent start stop step =>
    parent.Lacks f ∧ Expr.OptionLacks f start ∧ Expr.OptionLacks f stop ∧ Expr.OptionLacks f step
  | .callName name arguments _ => name ≠ f.name ∧ Expr.PassedLack f arguments
  | .callMethod parent _ arguments => parent.Lacks f ∧ Expr.PassedLack f arguments
  | .callBlock _ _ => True
  | .call callee arguments => callee.Lacks f ∧ Expr.PassedLack f arguments
  | .filter operand _ arguments => operand.Lacks f ∧ Expr.PassedLack f arguments
  | .test operand _ arguments => operand.Lacks f ∧ Expr.PassedLack f arguments

/-- The expression does not name the function, if there is one. -/
def Expr.OptionLacks (f : Function) : Option Expr → Prop
  | none => True
  | some e => e.Lacks f

/-- None of the expressions names the function. -/
def Expr.AllLack (f : Function) : List Expr → Prop
  | [] => True
  | first :: rest => first.Lacks f ∧ Expr.AllLack f rest

/-- None of the entries names the function. -/
def Expr.EntriesLack (f : Function) : List (Expr × Expr) → Prop
  | [] => True
  | (key, value) :: rest => (key.Lacks f ∧ value.Lacks f) ∧ Expr.EntriesLack f rest

/-- None of the links of a comparison names the function. -/
def Expr.LinksLack (f : Function) : List (Comparison × Expr) → Prop
  | [] => True
  | (_, operand) :: rest => operand.Lacks f ∧ Expr.LinksLack f rest

/-- None of the arguments names the function. -/
def Expr.PassedLack (f : Function) : List (Passing × Expr) → Prop
  | [] => True
  | (_, argument) :: rest => argument.Lacks f ∧ Expr.PassedLack f rest

end

/-- None of the filters names the function in its arguments. -/
def FiltersLack (f : Function) (filters : List FilterCall) : Prop :=
  ∀ filter ∈ filters, Expr.PassedLack f filter.2

/-- None of the parameters names the function in its default. -/
def ParametersLack (f : Function) (parameters : List Parameter) : Prop :=
  ∀ parameter ∈ parameters, Expr.OptionLacks f parameter.2

mutual

/-- The target does not name the function. -/
def Target.Lacks (f : Function) : Target → Prop
  | .variable _ => True
  | .tuple targets _ => Target.AllLack f targets
  | .field parent _ => parent.Lacks f

/-- None of the targets names the function. -/
def Target.AllLack (f : Function) : List Target → Prop
  | [] => True
  | first :: rest => first.Lacks f ∧ Target.AllLack f rest

end

/-- None of the bindings names the function. -/
def BindingsLack (f : Function) (bindings : List (Target × Expr)) : Prop :=
  ∀ binding ∈ bindings, binding.1.Lacks f ∧ binding.2.Lacks f

mutual

/-- The statement does not name the function. -/
def Stmt.Lacks (f : Function) : Stmt → Prop
  | .data _ => True
  | .emit value => value.Lacks f
  | .assign target value => target.Lacks f ∧ value.Lacks f
  | .capture target filters _ body => target.Lacks f ∧ FiltersLack f filters ∧ Stmt.AllLack f body
  | .branch condition yes no => condition.Lacks f ∧ Stmt.AllLack f yes ∧ Stmt.AllLack f no
  | .loop target source condition _ body otherwise =>
    target.Lacks f ∧ source.Lacks f ∧ Expr.OptionLacks f condition ∧ Stmt.AllLack f body ∧
      Stmt.AllLack f otherwise
  | .bind bindings _ body => BindingsLack f bindings ∧ Stmt.AllLack f body
  | .filtered filters _ body => FiltersLack f filters ∧ Stmt.AllLack f body
  | .escape mode body => mode.Lacks f ∧ Stmt.AllLack f body
  | .declare _ parameters body => ParametersLack f parameters ∧ Stmt.AllLack f body
  | .callWith call parameters _ body =>
    call.Lacks f ∧ ParametersLack f parameters ∧ Stmt.AllLack f body
  | .perform call => call.Lacks f
  | .block _ _ body => Stmt.AllLack f body
  | .extend name => name.Lacks f
  | .embed name _ => name.Lacks f

/-- None of the statements names the function. -/
def Stmt.AllLack (f : Function) : List Stmt → Prop
  | [] => True
  | first :: rest => first.Lacks f ∧ Stmt.AllLack f rest

end

variable {f : Function}

theorem Expr.allLack_iff {es : List Expr} : Expr.AllLack f es ↔ ∀ e ∈ es, e.Lacks f := by
  induction es with
  | nil => simp [Expr.AllLack]
  | cons e rest ih => simp [Expr.AllLack, ih]

theorem Stmt.allLack_iff {ss : List Stmt} : Stmt.AllLack f ss ↔ ∀ s ∈ ss, s.Lacks f := by
  induction ss with
  | nil => simp [Stmt.AllLack]
  | cons s rest ih => simp [Stmt.AllLack, ih]

theorem Expr.entriesLack_iff {entries : List (Expr × Expr)} :
    Expr.EntriesLack f entries ↔ ∀ entry ∈ entries, entry.1.Lacks f ∧ entry.2.Lacks f := by
  induction entries with
  | nil => simp [Expr.EntriesLack]
  | cons entry rest ih => simp only [Expr.EntriesLack, ih, List.forall_mem_cons]

theorem Expr.PassedLack.append {arguments more : List (Passing × Expr)}
    (h : Expr.PassedLack f arguments) (hmore : Expr.PassedLack f more) :
    Expr.PassedLack f (arguments ++ more) := by
  induction arguments with
  | nil => exact hmore
  | cons first rest ih => exact ⟨h.1, ih h.2⟩

theorem Stmt.AllLack.append {ss more : List Stmt} (h : Stmt.AllLack f ss)
    (hmore : Stmt.AllLack f more) : Stmt.AllLack f (ss ++ more) := by
  induction ss with
  | nil => exact hmore
  | cons first rest ih => exact ⟨h.1, ih h.2⟩

/-! ## Names -/

mutual

/-- The name of the function is not among the names in an expression that lacks it. -/
theorem Expr.not_mem_names : ∀ e : Expr, e.Lacks f → f.name ∉ e.names
  | .constant _ _, _ => List.not_mem_nil
  | .variable _ _, h => fun hmem => h (List.mem_singleton.1 hmem).symm
  | .list items _, h => Expr.not_mem_namesOfAll items h
  | .map entries _, h => Expr.not_mem_namesOfEntries entries h
  | .operation _ left right _, h | .conjunction left right _, h | .disjunction left right _, h
  | .item left right, h =>
    List.not_mem_append (left.not_mem_names h.1) (right.not_mem_names h.2)
  | .comparison first links _, h =>
    List.not_mem_append (first.not_mem_names h.1) (Expr.not_mem_namesOfLinks links h.2)
  | .complement operand _, h | .negation operand _, h | .attribute operand _, h =>
    operand.not_mem_names h
  | .choice condition yes no, h =>
    List.not_mem_append
      (List.not_mem_append (condition.not_mem_names h.1) (yes.not_mem_names h.2.1))
      (no.not_mem_names h.2.2)
  | .option condition yes, h =>
    List.not_mem_append (condition.not_mem_names h.1) (yes.not_mem_names h.2)
  | .slice parent start stop step, h =>
    List.not_mem_append
      (List.not_mem_append
        (List.not_mem_append (parent.not_mem_names h.1) (Expr.not_mem_namesOf start h.2.1))
        (Expr.not_mem_namesOf stop h.2.2.1))
      (Expr.not_mem_namesOf step h.2.2.2)
  -- the only name of a call is that of what is called
  | .callName _ arguments _, h =>
    List.not_mem_cons_of_ne_of_not_mem h.1.symm (Expr.not_mem_namesOfPassed arguments h.2)
  | .callBlock _ _, _ => List.not_mem_nil
  | .callMethod operand _ arguments, h | .call operand arguments, h
  | .filter operand _ arguments, h | .test operand _ arguments, h =>
    List.not_mem_append (operand.not_mem_names h.1) (Expr.not_mem_namesOfPassed arguments h.2)

theorem Expr.not_mem_namesOf : ∀ e? : Option Expr, Expr.OptionLacks f e? →
    f.name ∉ Expr.namesOf e?
  | none, _ => List.not_mem_nil
  | some e, h => e.not_mem_names h

theorem Expr.not_mem_namesOfAll : ∀ es : List Expr, Expr.AllLack f es →
    f.name ∉ Expr.namesOfAll es
  | [], _ => List.not_mem_nil
  | first :: rest, h =>
    List.not_mem_append (first.not_mem_names h.1) (Expr.not_mem_namesOfAll rest h.2)

theorem Expr.not_mem_namesOfEntries : ∀ entries : List (Expr × Expr), Expr.EntriesLack f entries →
    f.name ∉ Expr.namesOfEntries entries
  | [], _ => List.not_mem_nil
  | (key, value) :: rest, h =>
    List.not_mem_append
      (List.not_mem_append (key.not_mem_names h.1.1) (value.not_mem_names h.1.2))
      (Expr.not_mem_namesOfEntries rest h.2)

theorem Expr.not_mem_namesOfLinks : ∀ links : List (Comparison × Expr), Expr.LinksLack f links →
    f.name ∉ Expr.namesOfLinks links
  | [], _ => List.not_mem_nil
  | (_, operand) :: rest, h =>
    List.not_mem_append (operand.not_mem_names h.1) (Expr.not_mem_namesOfLinks rest h.2)

theorem Expr.not_mem_namesOfPassed : ∀ arguments : List (Passing × Expr),
    Expr.PassedLack f arguments → f.name ∉ Expr.namesOfPassed arguments
  | [], _ => List.not_mem_nil
  | (_, argument) :: rest, h =>
    List.not_mem_append (argument.not_mem_names h.1) (Expr.not_mem_namesOfPassed rest h.2)

end

theorem not_mem_namesOfFilters {filters : List FilterCall} (h : FiltersLack f filters) :
    f.name ∉ namesOfFilters filters := by
  intro hmem
  obtain ⟨filter, hfilter, hname⟩ := List.mem_flatMap.1 hmem
  exact Expr.not_mem_namesOfPassed filter.2 (h filter hfilter) hname

mutual

theorem Target.not_mem_names : ∀ target : Target, target.Lacks f → f.name ∉ target.names
  | .variable _, _ => List.not_mem_nil
  | .tuple targets _, h => Target.not_mem_namesOfAll targets h
  | .field parent _, h => parent.not_mem_names h

theorem Target.not_mem_namesOfAll : ∀ targets : List Target, Target.AllLack f targets →
    f.name ∉ Target.namesOfAll targets
  | [], _ => List.not_mem_nil
  | first :: rest, h =>
    List.not_mem_append (first.not_mem_names h.1) (Target.not_mem_namesOfAll rest h.2)

end

theorem not_mem_notIn {name : Text} {known names : List Text} (h : name ∉ names) :
    name ∉ notIn known names := fun hmem => h (List.mem_filter.1 hmem).1

theorem not_mem_freeOfBindings {bindings : List (Target × Expr)} (h : BindingsLack f bindings)
    (known : List Text) : f.name ∉ (freeOfBindings known bindings).1 := by
  induction bindings generalizing known with
  | nil => exact List.not_mem_nil
  | cons binding rest ih =>
    obtain ⟨⟨htarget, hvalue⟩, hrest⟩ := List.forall_mem_cons.1 h
    exact List.not_mem_append
      (not_mem_notIn (List.not_mem_append (binding.1.not_mem_names htarget)
        (binding.2.not_mem_names hvalue)))
      (ih hrest _)

theorem not_mem_freeOfParameters {parameters : List Parameter} (h : ParametersLack f parameters)
    (known : List Text) : f.name ∉ freeOfParameters known parameters := by
  refine not_mem_notIn fun hmem => ?_
  obtain ⟨parameter, hparameter, hname⟩ := List.mem_flatMap.1 hmem
  exact Expr.not_mem_namesOf parameter.2 (h parameter hparameter) hname

mutual

/-- The name of the function is not among those that a statement without it takes from outside. -/
theorem Stmt.not_mem_free : ∀ (s : Stmt) (known : List Text), s.Lacks f →
    f.name ∉ (s.free known).1
  | .data _, _, _ => List.not_mem_nil
  | .emit value, _, h | .perform value, _, h | .extend value, _, h | .embed value _, _, h =>
    not_mem_notIn (value.not_mem_names h)
  | .assign target value, _, h =>
    not_mem_notIn (List.not_mem_append (target.not_mem_names h.1) (value.not_mem_names h.2))
  | .capture target _ _ body, _, h =>
    List.not_mem_append
      (not_mem_notIn (List.not_mem_append (target.not_mem_names h.1)
        (not_mem_namesOfFilters h.2.1)))
      (Stmt.not_mem_freeOfAll body _ h.2.2)
  | .branch condition yes no, _, h =>
    List.not_mem_append
      (List.not_mem_append (not_mem_notIn (condition.not_mem_names h.1))
        (Stmt.not_mem_freeOfAll yes _ h.2.1))
      (Stmt.not_mem_freeOfAll no _ h.2.2)
  | .loop target source condition _ body otherwise, _, h =>
    List.not_mem_append
      (List.not_mem_append
        (List.not_mem_append (not_mem_notIn (source.not_mem_names h.2.1))
          (not_mem_notIn (List.not_mem_append (target.not_mem_names h.1)
            (Expr.not_mem_namesOf condition h.2.2.1))))
        (Stmt.not_mem_freeOfAll body _ h.2.2.2.1))
      (Stmt.not_mem_freeOfAll otherwise _ h.2.2.2.2)
  -- what is bound before the body may be used in the bindings behind it
  | .bind _ _ body, known, h =>
    List.not_mem_append (not_mem_freeOfBindings h.1 known) (Stmt.not_mem_freeOfAll body _ h.2)
  | .filtered _ _ body, _, h =>
    List.not_mem_append (not_mem_notIn (not_mem_namesOfFilters h.1))
      (Stmt.not_mem_freeOfAll body _ h.2)
  | .escape mode body, _, h =>
    List.not_mem_append (not_mem_notIn (mode.not_mem_names h.1))
      (Stmt.not_mem_freeOfAll body _ h.2)
  | .declare _ _ body, _, h =>
    List.not_mem_append (not_mem_freeOfParameters h.1 _) (Stmt.not_mem_freeOfAll body _ h.2)
  | .callWith call _ _ body, _, h =>
    List.not_mem_append
      (List.not_mem_append (not_mem_notIn (call.not_mem_names h.1))
        (not_mem_freeOfParameters h.2.1 _))
      (Stmt.not_mem_freeOfAll body _ h.2.2)
  | .block _ _ body, _, h => Stmt.not_mem_freeOfAll body _ h

theorem Stmt.not_mem_freeOfAll : ∀ (ss : List Stmt) (known : List Text), Stmt.AllLack f ss →
    f.name ∉ (Stmt.freeOfAll known ss).1
  | [], _, _ => List.not_mem_nil
  | first :: rest, known, h =>
    List.not_mem_append (first.not_mem_free known h.1) (Stmt.not_mem_freeOfAll rest _ h.2)

end

theorem not_mem_freeOfRoutine {parameters : List Parameter} {body : List Stmt}
    (hparameters : ParametersLack f parameters) (hbody : Stmt.AllLack f body) :
    f.name ∉ freeOfRoutine parameters body :=
  List.not_mem_append (not_mem_freeOfParameters hparameters _) (Stmt.not_mem_freeOfAll body _ hbody)

mutual

/-- The blocks in a statement lack what the statement lacks. -/
theorem Stmt.blocks_lack : ∀ s : Stmt, s.Lacks f → ∀ block ∈ s.blocks, Stmt.AllLack f block.2
  | .block _ _ body, h => List.forall_mem_cons.2 ⟨h, Stmt.blocksOfAll_lack body h⟩
  | .capture _ _ _ body, h => Stmt.blocksOfAll_lack body h.2.2
  | .bind _ _ body, h | .filtered _ _ body, h | .escape _ body, h =>
    Stmt.blocksOfAll_lack body h.2
  | .branch _ yes no, h =>
    List.forall_mem_append.2 ⟨Stmt.blocksOfAll_lack yes h.2.1, Stmt.blocksOfAll_lack no h.2.2⟩
  | .loop _ _ _ _ body otherwise, h =>
    List.forall_mem_append.2
      ⟨Stmt.blocksOfAll_lack body h.2.2.2.1, Stmt.blocksOfAll_lack otherwise h.2.2.2.2⟩
  | .data _, _ | .emit _, _ | .assign _ _, _ | .declare _ _ _, _ | .callWith _ _ _ _, _
  | .perform _, _ | .extend _, _ | .embed _ _, _ => List.forall_mem_nil _

theorem Stmt.blocksOfAll_lack : ∀ ss : List Stmt, Stmt.AllLack f ss →
    ∀ block ∈ Stmt.blocksOfAll ss, Stmt.AllLack f block.2
  | [], _ => List.forall_mem_nil _
  | first :: rest, h =>
    List.forall_mem_append.2 ⟨first.blocks_lack h.1, Stmt.blocksOfAll_lack rest h.2⟩

end

/-! ## Constants that are worked out beforehand -/

theorem Expr.constant?_lacks {e : Expr} (h : e.Lacks f) : ∀ value ∈ e.constant?, value.Lacks f := by
  intro value hvalue
  cases e <;> cases hvalue
  exact h

theorem Expr.orConstant_lacks {e : Expr} {line : Nat} {value? : Option Value} (h : e.Lacks f)
    (hvalue : ∀ value ∈ value?, value.Lacks f) : (e.orConstant line value?).Lacks f := by
  cases value? with
  | none => exact h
  | some value => exact hvalue value rfl

theorem Expr.mapM_constant?_lacks {items : List Expr} (h : Expr.AllLack f items) :
    ∀ values ∈ items.mapM Expr.constant?, Value.AllLack f values := by
  intro values hvalues
  refine Value.allLack_iff.2 fun value hvalue => ?_
  obtain ⟨e, he, hconstant⟩ := exists_mem_of_mem_mapM hvalues hvalue
  exact constant?_lacks (Expr.allLack_iff.1 h e he) value hconstant

theorem constantEntries?_lacks {entries : List (Expr × Expr)} (h : Expr.EntriesLack f entries) :
    ∀ values ∈ constantEntries? entries, Value.EntriesLack f values := by
  intro values hvalues
  refine Value.entriesLack_iff.2 fun value hvalue => ?_
  obtain ⟨entry, hentry, hconstants⟩ := exists_mem_of_mem_mapM hvalues hvalue
  obtain ⟨key, hkey, hconstants⟩ := Option.bind_eq_some_iff.1 hconstants
  obtain ⟨its, hits, hconstants⟩ := Option.bind_eq_some_iff.1 hconstants
  obtain rfl := Option.some.inj hconstants
  obtain ⟨hlacks, hlacks'⟩ := Expr.entriesLack_iff.1 h entry hentry
  exact ⟨Expr.constant?_lacks hlacks key hkey, Expr.constant?_lacks hlacks' its hits⟩

theorem Operation.apply_gives (op : Operation) {a b : Value} (ha : a.Lacks f) (hb : b.Lacks f) :
    (op.apply a b).Gives (Value.Lacks f) := by
  cases op with
  | arithmetic op => exact Arithmetic.apply_gives op ha hb
  | concat => exact Except.gives_bind fun _ => Except.gives_bind fun _ => Except.gives_ok.2 trivial

theorem Value.both_lacks {a b : Value} (hb : b.Lacks f) : (a.both b).Lacks f := by
  unfold Value.both
  split
  · exact hb
  · trivial

theorem Value.either_lacks {a b : Value} (ha : a.Lacks f) (hb : b.Lacks f) :
    (a.either b).Lacks f := by
  unfold Value.either
  split
  · exact ha
  · exact hb

theorem lacks_of_mem_toOption {x : Except Problem Value} (h : x.Gives (Value.Lacks f)) :
    ∀ value ∈ x.toOption, value.Lacks f :=
  fun value hvalue => h value (Except.toOption_eq_some_iff.1 hvalue)

mutual

theorem Expr.fold_lacks : ∀ e : Expr, e.Lacks f → e.fold.Lacks f
  | .constant _ _, h => h
  | .variable _ _, h => h
  | .list items line, h => by
    refine orConstant_lacks (foldAll_lacks items h) fun value hvalue => ?_
    obtain ⟨values, hvalues, rfl⟩ := Option.map_eq_some_iff.1 hvalue
    exact mapM_constant?_lacks h values hvalues
  | .map entries line, h => by
    refine orConstant_lacks (foldEntries_lacks entries h) fun value hvalue => ?_
    obtain ⟨values, hvalues, rfl⟩ := Option.map_eq_some_iff.1 hvalue
    exact entriesOf_lacks (constantEntries?_lacks h values hvalues)
  | .operation op left right line, ⟨hleft, hright⟩ => by
    have hleft := left.fold_lacks hleft
    have hright := right.fold_lacks hright
    -- an operation on constants is carried out, if it does not fail
    refine orConstant_lacks ⟨hleft, hright⟩ fun value hvalue => ?_
    obtain ⟨a, ha, hvalue⟩ := Option.bind_eq_some_iff.1 hvalue
    obtain ⟨b, hb, hvalue⟩ := Option.bind_eq_some_iff.1 hvalue
    have happly := op.apply_gives (constant?_lacks hleft a ha) (constant?_lacks hright b hb)
    exact lacks_of_mem_toOption happly value hvalue
  | .comparison first links line, ⟨hfirst, hlinks⟩ => by
    refine orConstant_lacks ⟨first.fold_lacks hfirst, foldLinks_lacks links hlinks⟩
      fun value hvalue => ?_
    obtain ⟨a, -, hvalue⟩ := Option.bind_eq_some_iff.1 hvalue
    -- only a single link is worked out beforehand
    split at hvalue
    · obtain ⟨b, -, hvalue⟩ := Option.bind_eq_some_iff.1 hvalue
      obtain ⟨holds, -, rfl⟩ := Option.map_eq_some_iff.1 hvalue
      trivial
    · exact nomatch hvalue
  | .conjunction left right line, ⟨hleft, hright⟩ => by
    have hright := right.fold_lacks hright
    refine orConstant_lacks ⟨left.fold_lacks hleft, hright⟩ fun value hvalue => ?_
    obtain ⟨a, -, hvalue⟩ := Option.bind_eq_some_iff.1 hvalue
    obtain ⟨b, hb, hvalue⟩ := Option.bind_eq_some_iff.1 hvalue
    obtain rfl := Option.some.inj hvalue
    exact Value.both_lacks (constant?_lacks hright b hb)
  | .disjunction left right line, ⟨hleft, hright⟩ => by
    have hleft := left.fold_lacks hleft
    have hright := right.fold_lacks hright
    refine orConstant_lacks ⟨hleft, hright⟩ fun value hvalue => ?_
    obtain ⟨a, ha, hvalue⟩ := Option.bind_eq_some_iff.1 hvalue
    obtain ⟨b, hb, hvalue⟩ := Option.bind_eq_some_iff.1 hvalue
    obtain rfl := Option.some.inj hvalue
    exact Value.either_lacks (constant?_lacks hleft a ha) (constant?_lacks hright b hb)
  | .complement operand line, h => by
    refine orConstant_lacks (operand.fold_lacks h) fun value hvalue => ?_
    obtain ⟨a, -, rfl⟩ := Option.map_eq_some_iff.1 hvalue
    trivial
  | .negation operand line, h => by
    refine orConstant_lacks (operand.fold_lacks h) fun value hvalue => ?_
    obtain ⟨a, -, hvalue⟩ := Option.bind_eq_some_iff.1 hvalue
    exact lacks_of_mem_toOption a.negate_gives value hvalue
  | .choice condition yes no, ⟨hcondition, hyes, hno⟩ =>
    ⟨condition.fold_lacks hcondition, yes.fold_lacks hyes, no.fold_lacks hno⟩
  | .option condition yes, ⟨hcondition, hyes⟩ =>
    ⟨condition.fold_lacks hcondition, yes.fold_lacks hyes⟩
  | .attribute parent _, h => parent.fold_lacks h
  | .item parent index, ⟨hparent, hindex⟩ => ⟨parent.fold_lacks hparent, index.fold_lacks hindex⟩
  | .slice parent start stop step, ⟨hparent, hstart, hstop, hstep⟩ =>
    ⟨parent.fold_lacks hparent, foldOption_lacks start hstart, foldOption_lacks stop hstop,
      foldOption_lacks step hstep⟩
  | .callName _ arguments _, ⟨hname, harguments⟩ => ⟨hname, foldPassed_lacks arguments harguments⟩
  | .callMethod operand _ arguments, ⟨hoperand, harguments⟩
  | .call operand arguments, ⟨hoperand, harguments⟩
  | .filter operand _ arguments, ⟨hoperand, harguments⟩
  | .test operand _ arguments, ⟨hoperand, harguments⟩ =>
    ⟨operand.fold_lacks hoperand, foldPassed_lacks arguments harguments⟩
  | .callBlock _ _, _ => trivial

theorem Expr.foldOption_lacks : ∀ e? : Option Expr, Expr.OptionLacks f e? →
    Expr.OptionLacks f (Expr.foldOption e?)
  | none, _ => trivial
  | some e, h => e.fold_lacks h

theorem Expr.foldAll_lacks : ∀ es : List Expr, Expr.AllLack f es →
    Expr.AllLack f (Expr.foldAll es)
  | [], _ => trivial
  | first :: rest, ⟨hfirst, hrest⟩ => ⟨first.fold_lacks hfirst, foldAll_lacks rest hrest⟩

theorem Expr.foldEntries_lacks : ∀ entries : List (Expr × Expr), Expr.EntriesLack f entries →
    Expr.EntriesLack f (Expr.foldEntries entries)
  | [], _ => trivial
  | (key, value) :: rest, ⟨⟨hkey, hvalue⟩, hrest⟩ =>
    ⟨⟨key.fold_lacks hkey, value.fold_lacks hvalue⟩, foldEntries_lacks rest hrest⟩

theorem Expr.foldLinks_lacks : ∀ links : List (Comparison × Expr), Expr.LinksLack f links →
    Expr.LinksLack f (Expr.foldLinks links)
  | [], _ => trivial
  | (_, operand) :: rest, ⟨hoperand, hrest⟩ =>
    ⟨operand.fold_lacks hoperand, foldLinks_lacks rest hrest⟩

theorem Expr.foldPassed_lacks : ∀ arguments : List (Passing × Expr), Expr.PassedLack f arguments →
    Expr.PassedLack f (Expr.foldPassed arguments)
  | [], _ => trivial
  | (_, argument) :: rest, ⟨hargument, hrest⟩ =>
    ⟨argument.fold_lacks hargument, foldPassed_lacks rest hrest⟩

end

theorem foldFilters_lack {filters : List FilterCall} (h : FiltersLack f filters) :
    FiltersLack f (foldFilters filters) :=
  List.forall_mem_map.2 fun filter hfilter => Expr.foldPassed_lacks filter.2 (h filter hfilter)

theorem foldParameters_lack {parameters : List Parameter} (h : ParametersLack f parameters) :
    ParametersLack f (foldParameters parameters) :=
  List.forall_mem_map.2 fun parameter hparameter =>
    Expr.foldOption_lacks parameter.2 (h parameter hparameter)

mutual

theorem Target.fold_lacks : ∀ target : Target, target.Lacks f → target.fold.Lacks f
  | .variable _, _ => trivial
  | .tuple targets _, h => Target.foldAll_lacks targets h
  | .field parent _, h => parent.fold_lacks h

theorem Target.foldAll_lacks : ∀ targets : List Target, Target.AllLack f targets →
    Target.AllLack f (Target.foldAll targets)
  | [], _ => trivial
  | first :: rest, ⟨hfirst, hrest⟩ => ⟨first.fold_lacks hfirst, Target.foldAll_lacks rest hrest⟩

end

theorem foldBindings_lack {bindings : List (Target × Expr)} (h : BindingsLack f bindings) :
    BindingsLack f (bindings.map fun (target, value) => (target.fold, value.fold)) :=
  List.forall_mem_map.2 fun binding hbinding =>
    ⟨binding.1.fold_lacks (h binding hbinding).1, binding.2.fold_lacks (h binding hbinding).2⟩

mutual

theorem Stmt.fold_lacks : ∀ s : Stmt, s.Lacks f → s.fold.Lacks f
  -- folding replaces expressions by their values, and nothing else
  | .data _, _ => trivial
  | .emit value, h | .perform value, h | .extend value, h | .embed value _, h => value.fold_lacks h
  | .assign target value, ⟨htarget, hvalue⟩ =>
    ⟨target.fold_lacks htarget, value.fold_lacks hvalue⟩
  | .capture target _ _ body, ⟨htarget, hfilters, hbody⟩ =>
    ⟨target.fold_lacks htarget, foldFilters_lack hfilters, Stmt.foldAll_lacks body hbody⟩
  | .branch condition yes no, ⟨hcondition, hyes, hno⟩ =>
    ⟨condition.fold_lacks hcondition, Stmt.foldAll_lacks yes hyes, Stmt.foldAll_lacks no hno⟩
  | .loop target source condition _ body otherwise,
      ⟨htarget, hsource, hcondition, hbody, hotherwise⟩ =>
    ⟨target.fold_lacks htarget, source.fold_lacks hsource,
      Expr.foldOption_lacks condition hcondition, Stmt.foldAll_lacks body hbody,
      Stmt.foldAll_lacks otherwise hotherwise⟩
  | .bind _ _ body, ⟨hbindings, hbody⟩ =>
    ⟨foldBindings_lack hbindings, Stmt.foldAll_lacks body hbody⟩
  | .filtered _ _ body, ⟨hfilters, hbody⟩ =>
    ⟨foldFilters_lack hfilters, Stmt.foldAll_lacks body hbody⟩
  | .escape mode body, ⟨hmode, hbody⟩ => ⟨mode.fold_lacks hmode, Stmt.foldAll_lacks body hbody⟩
  | .declare _ _ body, ⟨hparameters, hbody⟩ =>
    ⟨foldParameters_lack hparameters, Stmt.foldAll_lacks body hbody⟩
  | .callWith call _ _ body, ⟨hcall, hparameters, hbody⟩ =>
    ⟨call.fold_lacks hcall, foldParameters_lack hparameters, Stmt.foldAll_lacks body hbody⟩
  | .block _ _ body, h => Stmt.foldAll_lacks body h

theorem Stmt.foldAll_lacks : ∀ ss : List Stmt, Stmt.AllLack f ss →
    Stmt.AllLack f (Stmt.foldAll ss)
  | [], _ => trivial
  | first :: rest, ⟨hfirst, hrest⟩ => ⟨first.fold_lacks hfirst, Stmt.foldAll_lacks rest hrest⟩

end

end Codebook.Template
