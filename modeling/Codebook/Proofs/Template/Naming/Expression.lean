import Codebook.Proofs.Template.Absence.Statements
import Codebook.Template.Parser.Expression

/-!
# What an expression names

The names in an expression are words of the template. So where no lexeme is the name of a function,
no expression names it: every parser that is given lexemes without the name gives something that
lacks the function, and leaves lexemes without the name behind. `Keeps` is this property; it goes
along with the steps of a parser, and the parsers of the levels of an expression hand it on from the
level below.
-/

namespace Codebook.Template

/-- The lexemes that are left do not name the function. -/
def Cursor.Lacks (f : Function) (cursor : Cursor) : Prop :=
  ∀ lexeme ∈ cursor.rest, lexeme.token ≠ .word f.name

namespace Parser

variable {f : Function} {α β : Type} {P : α → Prop} {Q : β → Prop}

/-- From lexemes that do not name the function the parser gives something that has a property, and
the lexemes that it leaves do not name the function either. -/
def Keeps (f : Function) (P : α → Prop) (p : Parser α) : Prop :=
  ∀ cursor : Cursor, cursor.Lacks f → (p cursor).Gives fun (a, behind) => P a ∧ behind.Lacks f

/-- A parser whose result does not matter. -/
abbrev Leaves (f : Function) (p : Parser α) : Prop := Keeps f (fun _ => True) p

/-! ## Steps -/

theorem Keeps.pure {a : α} (h : P a) : Keeps f P (pure a) := by
  intro cursor hcursor result hresult
  obtain rfl := Except.ok.inj hresult
  exact ⟨h, hcursor⟩

theorem keeps_fail : Keeps f P fail := fun _ _ => Except.gives_error

theorem Keeps.bind {p : Parser α} {next : α → Parser β} (hp : Keeps f P p)
    (hnext : ∀ a, P a → Keeps f Q (next a)) : Keeps f Q (p >>= next) := by
  intro cursor hcursor
  refine (hp cursor hcursor).bind ?_
  rintro ⟨a, behind⟩ ⟨ha, hbehind⟩
  exact hnext a ha behind hbehind

theorem Keeps.ite {c : Prop} [Decidable c] {p q : Parser α} (hp : c → Keeps f P p)
    (hq : ¬ c → Keeps f P q) : Keeps f P (if c then p else q) := by
  split
  · next h => exact hp h
  · next h => exact hq h

theorem keeps_peek : Keeps f (fun token? => ∀ token ∈ token?, token ≠ .word f.name) peek := by
  intro cursor hcursor
  unfold peek
  split
  · exact Except.gives_ok.2 ⟨(fun _ h => nomatch h), hcursor⟩
  · next lexeme rest hrest =>
    split
    · exact Except.gives_error
    · refine Except.gives_ok.2 ⟨fun token h => ?_, hcursor⟩
      obtain rfl := Option.some.inj h
      exact hcursor lexeme (hrest ▸ List.mem_cons_self)

theorem keeps_take : Keeps f (fun lexeme => lexeme.token ≠ .word f.name) take := by
  intro cursor hcursor
  unfold take
  split
  · exact Except.gives_error
  · next lexeme rest hrest =>
    split
    · exact Except.gives_error
    · refine Except.gives_ok.2 ⟨hcursor lexeme (hrest ▸ List.mem_cons_self), fun other hother => ?_⟩
      exact hcursor other (hrest ▸ List.mem_cons_of_mem _ hother)

theorem leaves_lastLine : Leaves f lastLine :=
  fun _ hcursor => Except.gives_ok.2 ⟨trivial, hcursor⟩

theorem leaves_nextLine : Leaves f nextLine :=
  fun _ hcursor => Except.gives_ok.2 ⟨trivial, hcursor⟩

theorem leaves_enough : Leaves f enough :=
  fun _ hcursor => Except.gives_ok.2 ⟨trivial, hcursor⟩

theorem leaves_skipSign (sign : Sign) : Leaves f (skipSign sign) := by
  refine keeps_peek.bind fun token? _ => ?_
  split
  · exact .ite (fun _ => keeps_take.bind fun _ _ => .pure trivial) fun _ => .pure trivial
  · exact .pure trivial

theorem leaves_skipWord (word : Text) : Leaves f (skipWord word) := by
  refine keeps_peek.bind fun token? _ => ?_
  split
  · exact .ite (fun _ => keeps_take.bind fun _ _ => .pure trivial) fun _ => .pure trivial
  · exact .pure trivial

theorem leaves_expectSign (sign : Sign) : Leaves f (expectSign sign) := by
  refine keeps_take.bind fun lexeme _ => ?_
  split
  · exact .ite (fun _ => .pure trivial) fun _ => keeps_fail
  · exact keeps_fail

theorem leaves_expectWord (word : Text) : Leaves f (expectWord word) := by
  refine keeps_take.bind fun lexeme _ => ?_
  split
  · exact .ite (fun _ => .pure trivial) fun _ => keeps_fail
  · exact keeps_fail

theorem keeps_expectName : Keeps f (· ≠ f.name) expectName := by
  refine keeps_take.bind fun lexeme hlexeme => ?_
  split
  · next name hname => exact .pure fun heq => hlexeme (by rw [hname, heq])
  · exact keeps_fail

/-- Putting two operands together names nothing. -/
def Joins (f : Function) (next? : Token → Option Combine) : Prop :=
  ∀ token, ∀ combine ∈ next? token, ∀ left right line, left.Lacks f → right.Lacks f →
    (combine left right line).Lacks f

/-- What may stand inside another expression names nothing that the lexemes do not name. -/
structure Inner.Keeps (f : Function) (inner : Inner) : Prop where
  expression : Parser.Keeps f (Expr.Lacks f) inner.expression
  unconditional : Parser.Keeps f (Expr.Lacks f) inner.unconditional
  primary : Parser.Keeps f (Expr.Lacks f) inner.primary

section Levels

variable {operand : Parser Expr}

theorem keeps_leftAssoc (hoperand : Keeps f (Expr.Lacks f) operand)
    {next? : Token → Option Combine} (hnext : Joins f next?) (line steps : Nat) {left : Expr}
    (hleft : left.Lacks f) :
    Keeps f (Expr.Lacks f) (leftAssoc operand next? line steps left) := by
  induction steps generalizing left with
  | zero => exact keeps_fail
  | succ steps ih =>
    refine keeps_peek.bind fun token? _ => ?_
    split
    · exact .pure hleft
    · next combine hcombine =>
      obtain ⟨token, -, htoken⟩ := Option.bind_eq_some_iff.1 hcombine
      refine keeps_take.bind fun _ _ => hoperand.bind fun right hright => ih ?_
      exact hnext token combine htoken left right line hleft hright

theorem keeps_leftLevel (hoperand : Keeps f (Expr.Lacks f) operand)
    {next? : Token → Option Combine} (hnext : Joins f next?) :
    Keeps f (Expr.Lacks f) (leftLevel operand next?) :=
  leaves_nextLine.bind fun line _ => hoperand.bind fun _ hleft => leaves_enough.bind fun steps _ =>
    keeps_leftAssoc hoperand hnext line steps hleft

/-! ### Lists and arguments -/

/-- The next part, if what is read does not end here; but for the first one, a comma stands in front
of it, behind which the end may come as well. -/
theorem keeps_separated {ending next : Parser α} (close : Sign) (first : Bool)
    (hending : Keeps f P ending) (hnext : Keeps f P next) :
    Keeps f P (do
      if ← skipSign close then ending
      else if !first then
        expectSign .comma
        if ← skipSign close then ending else next
      else next) := by
  refine (leaves_skipSign close).bind fun _ _ => .ite (fun _ => hending) fun _ => ?_
  refine .ite (fun _ => ?_) fun _ => hnext
  refine (leaves_expectSign .comma).bind fun _ _ => (leaves_skipSign close).bind fun _ _ => ?_
  exact .ite (fun _ => hending) fun _ => hnext

theorem keeps_items {item : Parser α} (hitem : Keeps f P item) (close : Sign) (steps : Nat)
    (first : Bool) : Keeps f (∀ a ∈ ·, P a) (items item close steps first) := by
  induction steps generalizing first with
  | zero => exact keeps_fail
  | succ steps ih =>
    have hnext : Keeps f (∀ a ∈ ·, P a) (do
        let next ← item
        let rest ← items item close steps false
        return next :: rest) :=
      hitem.bind fun _ hnext => (ih false).bind fun _ hrest =>
        .pure (List.forall_mem_cons.2 ⟨hnext, hrest⟩)
    exact keeps_separated close first (.pure (List.forall_mem_nil P)) hnext

variable {inner : Inner} (hinner : inner.Keeps f)
include hinner

theorem keeps_entry :
    Keeps f (fun entry => entry.1.Lacks f ∧ entry.2.Lacks f) (entry inner) :=
  hinner.expression.bind fun _ hkey => (leaves_expectSign .colon).bind fun _ _ =>
    hinner.expression.bind fun _ hvalue => .pure ⟨hkey, hvalue⟩

omit hinner in
theorem keeps_unnamed (named : Bool) {value : Expr} (h : value.Lacks f) :
    Keeps f (fun argument => argument.2.Lacks f) (unnamed named value) :=
  .ite (fun _ => keeps_fail) fun _ => .pure h

theorem keeps_argument (named : Bool) :
    Keeps f (fun argument => argument.2.Lacks f) (argument inner named) := by
  refine (leaves_skipSign .doubleStar).bind fun _ _ => .ite
    (fun _ => hinner.expression.bind fun _ h => .pure h) fun _ => ?_
  refine (leaves_skipSign .star).bind fun _ _ => .ite
    (fun _ => hinner.expression.bind fun _ h => .pure h) fun _ => ?_
  refine hinner.expression.bind fun value hvalue => ?_
  split
  · exact (leaves_skipSign .assign).bind fun _ _ => .ite
      (fun _ => hinner.unconditional.bind fun _ h => .pure h) fun _ => keeps_unnamed named hvalue
  · exact keeps_unnamed named hvalue

theorem keeps_argumentsFrom (steps : Nat) (first named : Bool) :
    Keeps f (Expr.PassedLack f) (argumentsFrom inner steps first named) := by
  induction steps generalizing first named with
  | zero => exact keeps_fail
  | succ steps ih =>
    have hnext : Keeps f (Expr.PassedLack f) (do
        let next ← argument inner named
        let rest ← argumentsFrom inner steps false (named || next.1.isNamed)
        return next :: rest) :=
      (keeps_argument hinner named).bind fun _ hnext => (ih false _).bind fun _ hrest =>
        .pure ⟨hnext, hrest⟩
    exact keeps_separated .closeParen first (.pure trivial) hnext

theorem keeps_arguments : Keeps f (Expr.PassedLack f) (arguments inner) :=
  leaves_enough.bind fun steps _ => (keeps_argumentsFrom hinner steps true false).bind
    fun _ hargs => .ite (fun _ => keeps_fail) fun _ => .pure hargs

/-! ### Operands -/

omit hinner in
theorem calling_lacks {callee : Expr} {arguments : List (Passing × Expr)} (hcallee : callee.Lacks f)
    (harguments : Expr.PassedLack f arguments) (line : Nat) :
    (calling callee arguments line).Lacks f := by
  unfold calling
  split
  · exact ⟨hcallee, harguments⟩
  · split
    · split
      · trivial
      · exact ⟨hcallee, harguments⟩
    · exact ⟨hcallee, harguments⟩
  · exact ⟨hcallee, harguments⟩

theorem keeps_slicePart : Keeps f (Expr.OptionLacks f) (slicePart inner) := by
  refine keeps_peek.bind fun token? _ => ?_
  split
  · exact .pure trivial
  · exact .pure trivial
  · exact hinner.expression.bind fun _ h => .pure h

theorem keeps_subscript {operand : Expr} (hoperand : operand.Lacks f) :
    Keeps f (Expr.Lacks f) (subscript inner operand) := by
  have hpart := keeps_slicePart hinner
  have hend {start stop step : Option Expr} (hstart : Expr.OptionLacks f start)
      (hstop : Expr.OptionLacks f stop) (hstep : Expr.OptionLacks f step) :
      Keeps f (Expr.Lacks f) (do
        expectSign .closeBracket
        return .slice operand start stop step) :=
    (leaves_expectSign _).bind fun _ _ => .pure ⟨hoperand, hstart, hstop, hstep⟩
  -- no colon makes it an item, one or two make it a slice
  refine hpart.bind fun start hstart => (leaves_skipSign .colon).bind fun _ _ => .ite
    (fun _ => hpart.bind fun stop hstop => (leaves_skipSign .colon).bind fun _ _ => .ite
      (fun _ => hpart.bind fun step hstep => hend hstart hstop hstep)
      fun _ => hend hstart hstop trivial)
    fun _ => (leaves_expectSign _).bind fun _ _ => ?_
  cases start with
  | none => exact keeps_fail
  | some index => exact .pure ⟨hoperand, hstart⟩

omit hinner in
theorem keeps_member {operand : Expr} (hoperand : operand.Lacks f) :
    Keeps f (Expr.Lacks f) (member operand) := by
  refine keeps_peek.bind fun token? _ => ?_
  split
  · exact keeps_take.bind fun _ _ => .pure ⟨hoperand, trivial⟩
  · exact keeps_expectName.bind fun _ _ => .pure hoperand

theorem keeps_postfixes (line steps : Nat) {operand : Expr} (hoperand : operand.Lacks f) :
    Keeps f (Expr.Lacks f) (postfixes inner line steps operand) := by
  induction steps generalizing operand with
  | zero => exact keeps_fail
  | succ steps ih =>
    refine keeps_peek.bind fun token? _ => ?_
    split
    · exact keeps_take.bind fun _ _ => (keeps_member hoperand).bind fun _ h => ih h
    · exact keeps_take.bind fun _ _ => (keeps_subscript hinner hoperand).bind fun _ h => ih h
    · exact keeps_take.bind fun _ _ => (keeps_arguments hinner).bind fun _ hargs =>
        ih (calling_lacks hoperand hargs line)
    · exact .pure hoperand

omit hinner in
theorem keeps_negations {primary : Parser Expr} (hprimary : Keeps f (Expr.Lacks f) primary)
    (steps : Nat) : Keeps f (Expr.Lacks f) (negations primary steps) := by
  induction steps with
  | zero => exact keeps_fail
  | succ steps ih =>
    refine keeps_peek.bind fun token? _ => ?_
    split
    · exact keeps_take.bind fun _ _ => ih.bind fun _ hoperand => .pure hoperand
    · exact hprimary

theorem keeps_signedOperand : Keeps f (Expr.Lacks f) (signedOperand inner) :=
  leaves_nextLine.bind fun line _ => leaves_enough.bind fun steps _ =>
    (keeps_negations hinner.primary steps).bind fun _ hoperand => leaves_enough.bind
      fun steps _ => keeps_postfixes hinner line steps hoperand

/-! ### Filters and tests -/

omit hinner in
theorem leaves_moreName (steps : Nat) : Leaves f (moreName steps) := by
  induction steps with
  | zero => exact keeps_fail
  | succ steps ih =>
    exact (leaves_skipSign .dot).bind fun _ _ => .ite
      (fun _ => keeps_expectName.bind fun _ _ => ih.bind fun _ _ => .pure trivial)
      fun _ => .pure trivial

theorem keeps_testArguments : Keeps f (Expr.PassedLack f) (testArguments inner) := by
  refine (leaves_skipSign .openParen).bind fun _ _ => .ite (fun _ => keeps_arguments hinner)
    fun _ => keeps_peek.bind fun token? _ => ?_
  split
  · exact .ite (fun _ => (keeps_signedOperand hinner).bind fun _ hargument =>
      .pure ⟨hargument, trivial⟩) fun _ => .pure trivial
  · exact .pure trivial

theorem keeps_tested (line : Nat) {operand : Expr} (hoperand : operand.Lacks f) :
    Keeps f (Expr.Lacks f) (tested inner line operand) := by
  refine (leaves_skipWord _).bind fun negated _ => keeps_expectName.bind fun name _ =>
    leaves_enough.bind fun steps _ => (leaves_moreName steps).bind fun _ _ =>
      (keeps_testArguments hinner).bind fun args hargs => ?_
  dsimp only
  split
  · exact .pure ⟨hoperand, hargs⟩
  · exact .pure ⟨hoperand, hargs⟩

theorem keeps_filterCall :
    Keeps f (fun filter => Expr.PassedLack f filter.2) (filterCall inner) := by
  refine keeps_expectName.bind fun name _ => leaves_enough.bind fun steps _ =>
    (leaves_moreName steps).bind fun _ _ => (leaves_skipSign .openParen).bind fun _ _ => ?_
  exact .ite (fun _ => (keeps_arguments hinner).bind fun _ hargs => .pure hargs)
    fun _ => .pure trivial

theorem keeps_filters (line steps : Nat) {operand : Expr} (hoperand : operand.Lacks f) :
    Keeps f (Expr.Lacks f) (filters inner line steps operand) := by
  induction steps generalizing operand with
  | zero => exact keeps_fail
  | succ steps ih =>
    refine keeps_peek.bind fun token? _ => ?_
    split
    · exact keeps_take.bind fun _ _ => (keeps_filterCall hinner).bind fun _ hargs =>
        ih ⟨hoperand, hargs⟩
    · refine .ite (fun _ => ?_) fun _ => .pure hoperand
      exact keeps_take.bind fun _ _ => (keeps_tested hinner line hoperand).bind
        fun _ htest => ih htest
    · exact .pure hoperand

theorem keeps_filtered : Keeps f (Expr.Lacks f) (filtered inner) :=
  leaves_nextLine.bind fun line _ => (keeps_signedOperand hinner).bind fun _ hoperand =>
    leaves_enough.bind fun steps _ => keeps_filters hinner line steps hoperand

/-! ### Operations -/

omit hinner

theorem joins_powerSign? : Joins f powerSign? := by
  intro token combine hcombine left right line hleft hright
  unfold powerSign? at hcombine
  split at hcombine <;> cases hcombine
  exact ⟨hleft, hright⟩

theorem joins_productSign? : Joins f productSign? := by
  intro token combine hcombine left right line hleft hright
  unfold productSign? at hcombine
  split at hcombine <;> cases hcombine
  all_goals exact ⟨hleft, hright⟩

theorem joins_concatSign? : Joins f concatSign? := by
  intro token combine hcombine left right line hleft hright
  unfold concatSign? at hcombine
  split at hcombine <;> cases hcombine
  exact ⟨hleft, hright⟩

theorem joins_sumSign? : Joins f sumSign? := by
  intro token combine hcombine left right line hleft hright
  unfold sumSign? at hcombine
  split at hcombine <;> cases hcombine
  all_goals exact ⟨hleft, hright⟩

theorem keeps_sum (hinner : inner.Keeps f) : Keeps f (Expr.Lacks f) (sum inner) :=
  keeps_leftLevel (keeps_leftLevel (keeps_leftLevel (keeps_leftLevel (keeps_filtered hinner)
    joins_powerSign?) joins_productSign?) joins_concatSign?) joins_sumSign?

theorem keeps_links (hoperand : Keeps f (Expr.Lacks f) operand) (steps : Nat) :
    Keeps f (Expr.LinksLack f) (links operand steps) := by
  induction steps with
  | zero => exact keeps_fail
  | succ steps ih =>
    refine keeps_peek.bind fun token? _ => ?_
    split
    · exact .pure trivial
    · next op _ =>
      have hright : Keeps f (Expr.LinksLack f) (do
          let right ← operand
          return (op, right) :: (← links operand steps)) :=
        hoperand.bind fun _ hright => ih.bind fun _ hlinks => .pure ⟨hright, hlinks⟩
      -- `not` is only half an operator: `in` has to follow
      refine keeps_take.bind fun _ _ => .ite (fun _ => ?_) fun _ => hright
      exact (leaves_expectWord _).bind fun _ _ => hright

theorem keeps_comparison (hinner : inner.Keeps f) :
    Keeps f (Expr.Lacks f) (comparison inner) := by
  have hsum := keeps_sum hinner
  refine leaves_lastLine.bind fun line _ => hsum.bind fun first hfirst => leaves_enough.bind
    fun steps _ => (keeps_links hsum steps).bind fun links hlinks => ?_
  split
  · exact .pure hfirst
  · exact .pure ⟨hfirst, hlinks⟩

theorem keeps_complements (hoperand : Keeps f (Expr.Lacks f) operand) (steps : Nat) :
    Keeps f (Expr.Lacks f) (complements operand steps) := by
  induction steps with
  | zero => exact keeps_fail
  | succ steps ih =>
    exact leaves_nextLine.bind fun _ _ => (leaves_skipWord _).bind fun _ _ => .ite
      (fun _ => ih.bind fun _ hinner => .pure hinner) fun _ => hoperand

theorem joins_andWord? : Joins f andWord? := by
  intro token combine hcombine left right line hleft hright
  unfold andWord? at hcombine
  split at hcombine
  · split at hcombine
    · obtain rfl := Option.some.inj hcombine
      exact ⟨hleft, hright⟩
    · exact nomatch hcombine
  · exact nomatch hcombine

theorem joins_orWord? : Joins f orWord? := by
  intro token combine hcombine left right line hleft hright
  unfold orWord? at hcombine
  split at hcombine
  · split at hcombine
    · obtain rfl := Option.some.inj hcombine
      exact ⟨hleft, hright⟩
    · exact nomatch hcombine
  · exact nomatch hcombine

theorem keeps_disjunction (hinner : inner.Keeps f) :
    Keeps f (Expr.Lacks f) (disjunction inner) := by
  have hnegatable : Keeps f (Expr.Lacks f) (negatable inner) :=
    leaves_enough.bind fun steps _ => keeps_complements (keeps_comparison hinner) steps
  exact keeps_leftLevel (keeps_leftLevel hnegatable joins_andWord?) joins_orWord?

theorem keeps_conditions (hoperand : Keeps f (Expr.Lacks f) operand) (steps : Nat) {yes : Expr}
    (hyes : yes.Lacks f) : Keeps f (Expr.Lacks f) (conditions operand steps yes) := by
  induction steps generalizing yes with
  | zero => exact keeps_fail
  | succ steps ih =>
    refine (leaves_skipWord _).bind fun _ _ => .ite (fun _ => ?_) fun _ => .pure hyes
    refine hoperand.bind fun test htest => (leaves_skipWord _).bind fun _ _ => .ite
      (fun _ => ?_) fun _ => ih ⟨htest, hyes⟩
    exact hoperand.bind fun _ hno => (ih hno).bind fun _ hno => ih ⟨htest, hyes, hno⟩

theorem keeps_conditional (hinner : inner.Keeps f) :
    Keeps f (Expr.Lacks f) (conditional inner) := by
  have hdisjunction := keeps_disjunction hinner
  exact hdisjunction.bind fun _ hyes => leaves_enough.bind fun steps _ =>
    keeps_conditions hdisjunction steps hyes

/-! ## Single values -/

theorem constantWord?_lacks {word : Text} {value : Value} (h : constantWord? word = some value) :
    value.Lacks f := by
  obtain ⟨front, behind, hsplit, -⟩ := List.lookup_eq_some_iff.1 h
  have hmem : (word, value) ∈ front ++ (word, value) :: behind := by simp
  rw [← hsplit] at hmem
  simp only [List.mem_cons, Prod.mk.injEq, List.not_mem_nil, or_false] at hmem
  rcases hmem with ⟨-, rfl⟩ | ⟨-, rfl⟩ | ⟨-, rfl⟩ | ⟨-, rfl⟩ | ⟨-, rfl⟩ | ⟨-, rfl⟩ <;> trivial

theorem leaves_nextText? : Leaves f nextText? := by
  intro cursor hcursor
  unfold nextText?
  split
  · exact Except.gives_ok.2 ⟨trivial, hcursor⟩
  · next lexeme rest hrest =>
    split
    · refine Except.gives_ok.2 ⟨trivial, fun other hother => ?_⟩
      exact hcursor other (hrest ▸ List.mem_cons_of_mem _ hother)
    · exact Except.gives_ok.2 ⟨trivial, List.forall_mem_nil _⟩
    · exact Except.gives_ok.2 ⟨trivial, hcursor⟩

theorem leaves_moreText (steps : Nat) : Leaves f (moreText steps) := by
  induction steps with
  | zero => exact keeps_fail
  | succ steps ih =>
    refine leaves_nextText?.bind fun value? _ => ?_
    split
    · exact ih.bind fun _ _ => .pure trivial
    · exact .pure trivial

theorem keeps_parenthesized (hinner : inner.Keeps f) (line : Nat) :
    Keeps f (Expr.Lacks f) (parenthesized inner line) := by
  refine (leaves_skipSign .closeParen).bind fun _ _ => .ite (fun _ => .pure trivial) fun _ => ?_
  refine hinner.expression.bind fun first hfirst => (leaves_skipSign .comma).bind fun _ _ => .ite
    (fun _ => ?_) fun _ => (leaves_expectSign _).bind fun _ _ => .pure hfirst
  exact leaves_enough.bind fun steps _ => (keeps_items hinner.expression _ steps true).bind
    fun _ hrest => .pure ⟨hfirst, Expr.allLack_iff.2 hrest⟩

theorem keeps_single (hinner : inner.Keeps f) : Keeps f (Expr.Lacks f) (single inner) := by
  refine keeps_take.bind fun lexeme hlexeme => ?_
  split
  · next name hname =>
    split
    · next value hvalue => exact .pure (constantWord?_lacks hvalue)
    -- a name is that of its lexeme, and no lexeme names `f`
    · exact .pure fun heq => hlexeme (by rw [hname, heq])
  · exact leaves_enough.bind fun steps _ => (leaves_moreText steps).bind fun _ _ => .pure trivial
  · exact .pure trivial
  · exact .pure trivial
  · exact keeps_parenthesized hinner lexeme.line
  · exact leaves_enough.bind fun steps _ => (keeps_items hinner.expression _ steps true).bind
      fun _ hitems => .pure (Expr.allLack_iff.2 hitems)
  · exact leaves_enough.bind fun steps _ => (keeps_items (keeps_entry hinner) _ steps true).bind
      fun _ hentries => .pure (Expr.entriesLack_iff.2 hentries)
  · exact keeps_fail

end Levels

mutual

theorem keeps_expression : ∀ depth : Nat, Keeps f (Expr.Lacks f) (expression depth)
  | 0 => by rw [expression]; exact keeps_fail
  | depth + 1 => by
    rw [expression]
    exact keeps_conditional
      ⟨keeps_expression depth, keeps_unconditional depth, keeps_primary depth⟩

theorem keeps_unconditional : ∀ depth : Nat, Keeps f (Expr.Lacks f) (unconditional depth)
  | 0 => by rw [unconditional]; exact keeps_fail
  | depth + 1 => by
    rw [unconditional]
    exact keeps_disjunction
      ⟨keeps_expression depth, keeps_unconditional depth, keeps_primary depth⟩

theorem keeps_primary : ∀ depth : Nat, Keeps f (Expr.Lacks f) (primary depth)
  | 0 => by rw [primary]; exact keeps_fail
  | depth + 1 => by
    rw [primary]
    exact keeps_single ⟨keeps_expression depth, keeps_unconditional depth, keeps_primary depth⟩

end

end Parser

end Codebook.Template
