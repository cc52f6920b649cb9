import Codebook.Proofs.Outcome
import Codebook.Proofs.Template.Reading
import Codebook.Proofs.Template.Steps
import Codebook.Template.Render
import Mathlib.Data.List.Forall2

/-!
# Terms

The part of the expressions in which a template applies its functions: texts in quotes, names, calls
by name and lists, nested in any way. A term is read whole, if it is not nested deeper than the
parser allows, and is a syntax error if it is. What it evaluates to is then told by `Term.value?`,
which knows neither lines nor what has been worked out beforehand.
-/

namespace Codebook.Template

/-- Whether a text is a word. -/
def isWord : Text → Bool
  | [] => false
  | c :: rest => startsWord c && rest.all continuesWord

/-- A word that is a name wherever it stands. -/
structure Name where
  text : Text
  word : isWord text = true
  ne_not : text ≠ "not".toList
  not_constant : Parser.constantWord? text = none

/-- Texts in quotes, names, calls by name and lists. -/
inductive Term where
  | literal (text : Text)
  | name (name : Name)
  | call (name : Name) (arguments : List Term)
  | list (items : List Term)

namespace Term

mutual

/-- The tokens of a term. -/
def tokens : Term → List Token
  | literal text => [.text text]
  | name n => [.word n.text]
  | call n arguments => .word n.text :: .sign .openParen :: tokensOfAll arguments ++
      [.sign .closeParen]
  | list items => .sign .openBracket :: tokensOfAll items ++ [.sign .closeBracket]

/-- The tokens of some terms, with commas between them. -/
def tokensOfAll : List Term → List Token
  | [] => []
  | first :: rest => first.tokens ++ tokensBehind rest

/-- The tokens of some terms, with a comma in front of each. -/
def tokensBehind : List Term → List Token
  | [] => []
  | first :: rest => .sign .comma :: first.tokens ++ tokensBehind rest

end

mutual

/-- Whether so many levels of the parser are enough to read a term. -/
def Fits : Term → Nat → Prop
  | literal _, depth => 2 ≤ depth
  | name _, depth => 2 ≤ depth
  | call _ arguments, depth =>
    2 ≤ depth ∧ AllFit arguments (depth - 1) ∧ arguments.length ≤ Parser.maxArguments
  | list items, depth => 2 ≤ depth ∧ AllFit items (depth - 2)

/-- Whether so many levels of the parser are enough to read each of some terms. -/
def AllFit : List Term → Nat → Prop
  | [], _ => True
  | first :: rest, depth => first.Fits depth ∧ AllFit rest depth

end

/-- The value of a call by name, if a function has the name and there is no problem. -/
def callValue? (context : Context) (scope : Scope) (name : Text) (values : List Value) :
    Option Value :=
  if name = superName ∨ name = loopName then none
  else
    match scope.value? context .empty name with
    | some (.function f) => (f.apply context values).toOption
    | _ => none

mutual

/-- The value of a term, if there is no problem. -/
def value? (context : Context) (scope : Scope) : Term → Option Value
  | literal text => some (.text text)
  | name n => some ((scope.value? context .empty n.text).getD .undefined)
  | call n arguments => do
    let values ← valuesOfAll? context scope arguments
    callValue? context scope n.text values
  | list items => do
    let values ← valuesOfAll? context scope items
    return .list values

/-- The values of some terms, if there is no problem. -/
def valuesOfAll? (context : Context) (scope : Scope) : List Term → Option (List Value)
  | [] => some []
  | first :: rest => do
    let value ← first.value? context scope
    let values ← valuesOfAll? context scope rest
    return value :: values

end

/-- The expression evaluates to the value of the term, wherever there is one, and leaves nothing in
the store. -/
def Evaluates (t : Term) (e : Expr) : Prop :=
  ∀ exec env scope value, t.value? env.context scope = some value →
    e.fold.eval exec env scope .empty = .ok (value, .empty)

/-- The argument is passed at its place and evaluates to the value of the term. -/
structure Passes (t : Term) (argument : Passing × Expr) : Prop where
  passing_eq : argument.1 = .positional
  evaluates : t.Evaluates argument.2

/-! ## What is worked out beforehand -/

section Values

variable {t : Term} {ts : List Term} {e : Expr} {es : List Expr}
  {arguments : List (Passing × Expr)} {exec : Executor} {env : Env} {scope : Scope}
  {values : List Value}

theorem evaluates_literal (text : Text) (line : Nat) :
    (literal text).Evaluates (.constant (.text text) line) := by
  intro exec env scope value hvalue
  obtain rfl := Option.some.inj hvalue
  rfl

theorem evaluates_name (n : Name) (line : Nat) : (name n).Evaluates (.variable n.text line) := by
  intro exec env scope value hvalue
  obtain rfl := Option.some.inj hvalue
  rfl

/-- The values of terms, those behind the first and the first one. -/
theorem valuesOfAll?_cons_eq_some {context : Context}
    (h : valuesOfAll? context scope (t :: ts) = some values) :
    ∃ value rest, t.value? context scope = some value ∧
      valuesOfAll? context scope ts = some rest ∧ values = value :: rest := by
  obtain ⟨value, hvalue, hmore⟩ := Option.bind_eq_some_iff.1 h
  obtain ⟨rest, hrest, hcons⟩ := Option.bind_eq_some_iff.1 hmore
  exact ⟨value, rest, hvalue, hrest, (Option.some.inj hcons).symm⟩

theorem evalAll_of_evaluates (exec : Executor) (h : List.Forall₂ Evaluates ts es)
    (hvalues : valuesOfAll? env.context scope ts = some values) :
    Expr.evalAll exec env scope (Expr.foldAll es) .empty = .ok (values, .empty) := by
  induction h generalizing values with
  | nil =>
    obtain rfl := Option.some.inj hvalues
    rfl
  | cons hfirst _ ih =>
    obtain ⟨value, rest, hvalue, hrest, rfl⟩ := valuesOfAll?_cons_eq_some hvalues
    rw [Expr.foldAll, Expr.evalAll, Eval.bind_of_ok (hfirst exec env scope value hvalue),
      Eval.bind_of_ok (ih hrest)]
    rfl

theorem evalPositional_of_passes (h : List.Forall₂ Passes ts arguments)
    (hvalues : valuesOfAll? env.context scope ts = some values) :
    Expr.evalPositional exec env scope (Expr.foldPassed arguments) .empty =
      .ok (values, .empty) := by
  induction h generalizing values with
  | nil =>
    obtain rfl := Option.some.inj hvalues
    rfl
  | @cons _ argument _ _ hfirst _ ih =>
    obtain ⟨value, rest, hvalue, hrest, rfl⟩ := valuesOfAll?_cons_eq_some hvalues
    obtain ⟨passing, e⟩ := argument
    -- none of these arguments has a name or a star
    obtain rfl : passing = .positional := hfirst.passing_eq
    rw [Expr.foldPassed, Expr.evalPositional,
      Eval.bind_of_ok (hfirst.evaluates exec env scope value hvalue), Eval.bind_of_ok (ih hrest)]
    rfl

/-- None of the arguments has a name. -/
theorem any_isNamed_of_passes (h : List.Forall₂ Passes ts arguments) :
    (Expr.foldPassed arguments).any (·.1.isNamed) = false := by
  induction h with
  | nil => rfl
  | @cons _ argument _ _ hfirst _ ih =>
    rw [Expr.foldPassed, List.any_cons, ih, hfirst.passing_eq]
    rfl

theorem passed_of_passes (h : List.Forall₂ Passes ts arguments)
    (hvalues : valuesOfAll? env.context scope ts = some values)
    (named : Eval (List (Value × Value))) :
    passed (Expr.foldPassed arguments)
      (Expr.evalPositional exec env scope (Expr.foldPassed arguments)) named .empty =
        .ok (values, .empty) := by
  rw [passed, Eval.bind_of_ok (evalPositional_of_passes h hvalues), any_isNamed_of_passes h]
  rfl

/-- A function is called, and neither a loop nor a block. -/
theorem callNamed_of_callValue? {name : Text} {value : Value}
    (h : callValue? env.context scope name values = some value) (line : Nat) :
    callNamed exec env scope line name values .empty = .ok (value, .empty) := by
  unfold callValue? at h
  -- `super` and `loop` are no functions, whatever value they have
  split at h
  · cases h
  · next hname =>
    obtain ⟨hsuper, hloop⟩ := not_or.1 hname
    have hget : (get : Eval Store) .empty = .ok (.empty, .empty) := rfl
    rw [callNamed, if_neg hsuper, if_neg hloop, Eval.bind_of_ok hget]
    split at h
    · next f hvalue =>
      rw [hvalue]
      exact onLine_of_ok (Except.toOption_eq_some_iff.1 h) line .empty
    · cases h

theorem evaluates_call {n : Name} (hs : List.Forall₂ Passes ts arguments) (line : Nat) :
    (call n ts).Evaluates (.callName n.text arguments line) := by
  intro exec env scope value hvalue
  obtain ⟨values, hvalues, hcall⟩ := Option.bind_eq_some_iff.1 hvalue
  rw [Expr.fold, Expr.eval, Eval.bind_of_ok (passed_of_passes hs hvalues _)]
  exact callNamed_of_callValue? hcall _

/-- Constants evaluate to what they are. -/
theorem evalAll_of_constants (exec : Executor) (env : Env) (scope : Scope)
    (h : es.mapM Expr.constant? = some values) :
    Expr.evalAll exec env scope (Expr.foldAll es) .empty = .ok (values, .empty) := by
  induction es generalizing values with
  | nil =>
    obtain rfl := Option.some.inj h
    rfl
  | cons e es ih =>
    rw [List.mapM_cons] at h
    obtain ⟨value, hvalue, hmore⟩ := Option.bind_eq_some_iff.1 h
    obtain ⟨rest, hrest, hcons⟩ := Option.bind_eq_some_iff.1 hmore
    obtain rfl := Option.some.inj hcons
    -- folding leaves a constant alone, and its value is itself
    have heval : e.fold.eval exec env scope .empty = .ok (value, .empty) := by
      unfold Expr.constant? at hvalue
      split at hvalue
      · obtain rfl := Option.some.inj hvalue
        rfl
      · cases hvalue
    rw [Expr.foldAll, Expr.evalAll, Eval.bind_of_ok heval, Eval.bind_of_ok (ih hrest)]
    rfl

theorem evaluates_list (hs : List.Forall₂ Evaluates ts es) (line : Nat) :
    (list ts).Evaluates (.list es line) := by
  intro exec env scope value hvalue
  obtain ⟨values, hvalues, hlist⟩ := Option.bind_eq_some_iff.1 hvalue
  obtain rfl := Option.some.inj hlist
  have hall := evalAll_of_evaluates exec hs hvalues
  rw [Expr.fold]
  -- a list of constants has become a constant
  cases hconstants : es.mapM Expr.constant? with
  | none =>
    show Expr.eval exec env scope (.list (Expr.foldAll es) line) .empty = _
    rw [Expr.eval, Eval.bind_of_ok hall]
    rfl
  | some constants =>
    have hsame := (evalAll_of_constants exec env scope hconstants).symm.trans hall
    obtain rfl := (Prod.ext_iff.1 (Except.ok.inj hsame)).1
    rfl

end Values

/-! ## Reading -/

open Codebook.Template.Parser

theorem exists_opens (t : Term) : ∃ opening more, t.tokens = opening :: more ∧ Opens opening := by
  cases t with
  | literal text => exact ⟨_, _, by rw [tokens], .text⟩
  | name n => exact ⟨_, _, by rw [tokens], .word n.ne_not⟩
  | call n arguments => exact ⟨_, _, by rw [tokens]; rfl, .word n.ne_not⟩
  | list items => exact ⟨_, _, by rw [tokens]; rfl, .openBracket⟩

theorem exists_closes (ts : List Term) {close : Sign} (hclose : Closes (.sign close))
    (after : List Token) :
    ∃ token more, tokensBehind ts ++ .sign close :: after = token :: more ∧ Closes token := by
  cases ts with
  | nil => exact ⟨_, _, rfl, hclose⟩
  | cons t ts => exact ⟨_, _, by rw [tokensBehind]; rfl, .comma⟩

theorem length_le_tokensBehind (ts : List Term) : ts.length ≤ (tokensBehind ts).length := by
  induction ts with
  | nil => exact Nat.zero_le _
  | cons t ts ih =>
    rw [tokensBehind]
    simp only [List.length_cons, List.length_append]
    omega

section Reading

variable {α : Type} {total depth : Nat} {token : Token} {before after : List Token} {ok : Prop}
  {P : Expr → Prop} {expression primary : Parser Expr} {inner : Inner}

/-- The parser reads a term up to whatever closes it. -/
def ReadBy (parser : Parser α) (total depth : Nat) (t : Term) (Q : Term → α → Prop) : Prop :=
  ∀ {token : Token} {after : List Token}, Closes token →
    parser.Reads total (t.tokens ++ token :: after) (token :: after) (t.Fits depth) (Q t)

/-- In front of a term no sign is skipped that it does not start with. -/
theorem reads_skipSign_tokens {sign : Sign} (hsign : ¬ Opens (.sign sign)) (t : Term) :
    (skipSign sign).Reads total (t.tokens ++ after) (t.tokens ++ after) True (· = false) := by
  obtain ⟨opening, inner, htokens, hopening⟩ := t.exists_opens
  have hne : opening ≠ .sign sign := by
    rintro rfl
    exact hsign hopening
  rw [htokens]
  exact reads_skipSign_false hopening.isFault hne

/-! ### Items between commas -/

/-- The parser takes what is between commas, up to a closing sign, one `item` after another, as long
as they are like `Q`. -/
structure Loops (loop : Nat → Bool → Parser (List α)) (item : Parser α) (close : Sign)
    (Q : α → Prop) (behind : Nat → α → Parser (List α)) : Prop where
  eq (steps : Nat) (first : Bool) : loop (steps + 1) first = (do
    if ← skipSign close then return []
    if !first then
      expectSign .comma
      if ← skipSign close then return []
    let next ← item
    let rest ← behind steps next
    return next :: rest)
  behind_eq (steps : Nat) {a : α} (ha : Q a) : behind steps a = loop steps false

theorem loops_items (item : Parser α) (close : Sign) :
    Loops (items item close) item close (fun _ => True)
      fun steps _ => items item close steps false :=
  ⟨fun _ _ => by rw [items], fun _ _ _ => rfl⟩

theorem loops_arguments (inner : Inner) :
    Loops (argumentsFrom inner · · false) (argument inner false) .closeParen
      (·.1.isNamed = false) fun steps next => argumentsFrom inner steps false next.1.isNamed :=
  ⟨fun _ _ => by simp only [argumentsFrom, Bool.false_or], fun _ _ ha => by rw [ha]⟩

section Items

variable {loop : Nat → Bool → Parser (List α)} {item : Parser α} {close : Sign} {R : α → Prop}
  {behind : Nat → α → Parser (List α)} {Q : Term → α → Prop} {t : Term} {ts : List Term}
  {steps : Nat}

/-- A term and those behind it, up to the sign that closes them. -/
theorem Loops.reads_item (hloop : Loops loop item close R behind)
    (hclose : Closes (.sign close)) (hR : ∀ t a, Q t a → R a) (ht : t.ReadBy item total depth Q)
    (hts : (loop steps false).Reads total (tokensBehind ts ++ .sign close :: after) after
      (AllFit ts depth) (List.Forall₂ Q ts)) :
    (do
      let next ← item
      let rest ← behind steps next
      return next :: rest : Parser (List α)).Reads total
        (t.tokens ++ (tokensBehind ts ++ .sign close :: after)) after (AllFit (t :: ts) depth)
        (List.Forall₂ Q (t :: ts)) := by
  -- the item ends where its comma or the closing sign stands
  obtain ⟨token, more, hmore, htoken⟩ := exists_closes ts hclose after
  have hitem := @ht token more htoken
  rw [← hmore] at hitem
  refine (hitem.bind fun next hnext => ?_).iff (by rw [AllFit])
  rw [hloop.behind_eq steps (hR t next hnext)]
  exact hts.done fun rest hrest => reads_pure (.cons hnext hrest)

/-- Some terms, each behind a comma, up to the sign that closes them. -/
theorem Loops.reads_behind (hloop : Loops loop item close R behind)
    (hclose : Closes (.sign close)) (hopen : ¬ Opens (.sign close)) (hcomma : close ≠ .comma)
    (hR : ∀ t a, Q t a → R a) (h : ∀ t ∈ ts, t.ReadBy item total depth Q)
    (hsteps : ts.length < steps) :
    (loop steps false).Reads total (tokensBehind ts ++ .sign close :: after) after
      (AllFit ts depth) (List.Forall₂ Q ts) := by
  induction ts generalizing steps with
  | nil =>
    obtain ⟨steps, rfl⟩ := Nat.exists_eq_add_one_of_ne_zero (Nat.ne_zero_of_lt hsteps)
    rw [hloop.eq, AllFit]
    refine reads_skipSign_true.known ?_
    exact reads_pure .nil
  | cons t ts ih =>
    obtain ⟨steps, rfl⟩ := Nat.exists_eq_add_one_of_ne_zero (Nat.ne_zero_of_lt hsteps)
    have hrest := ih (fun t' ht' => h t' (List.mem_cons_of_mem t ht'))
      (Nat.lt_of_succ_lt_succ hsteps)
    rw [hloop.eq, tokensBehind, List.cons_append, List.cons_append, List.append_assoc]
    -- no end here but a comma, and behind the comma an item
    refine (reads_skipSign_false rfl (by simpa using hcomma.symm)).known ?_
    refine reads_expectSign.step fun _ _ => (reads_skipSign_tokens hopen t).known ?_
    exact hloop.reads_item hclose hR (h t List.mem_cons_self) hrest

/-- Some terms with commas between them, up to the sign that closes them. -/
theorem Loops.reads (hloop : Loops loop item close R behind)
    (hclose : Closes (.sign close)) (hopen : ¬ Opens (.sign close)) (hcomma : close ≠ .comma)
    (hR : ∀ t a, Q t a → R a) (h : ∀ t ∈ ts, t.ReadBy item total depth Q)
    (hsteps : ts.length < steps) :
    (loop steps true).Reads total (tokensOfAll ts ++ .sign close :: after) after
      (AllFit ts depth) (List.Forall₂ Q ts) := by
  obtain ⟨steps, rfl⟩ := Nat.exists_eq_add_one_of_ne_zero (Nat.ne_zero_of_lt hsteps)
  rw [hloop.eq]
  -- in front of the first item no comma is expected
  cases ts with
  | nil =>
    rw [AllFit]
    refine reads_skipSign_true.known ?_
    exact reads_pure .nil
  | cons t ts =>
    rw [tokensOfAll, List.append_assoc]
    refine (reads_skipSign_tokens hopen t).known ?_
    exact hloop.reads_item hclose hR (h t List.mem_cons_self)
      (hloop.reads_behind hclose hopen hcomma hR
        (fun t' ht' => h t' (List.mem_cons_of_mem t ht')) (Nat.lt_of_succ_lt_succ hsteps))

end Items

theorem length_le_tokensOfAll (ts : List Term) : ts.length ≤ (tokensOfAll ts).length := by
  cases ts with
  | nil => exact Nat.zero_le _
  | cons t ts =>
    obtain ⟨opening, inner, htokens, -⟩ := t.exists_opens
    have := length_le_tokensBehind ts
    rw [tokensOfAll, htokens]
    simp only [List.length_cons, List.length_append]
    omega

theorem reads_unnamed {e : Expr} {t : Term} (h : t.Evaluates e) :
    (unnamed false e).Reads total before before True (Passes t) :=
  reads_pure ⟨rfl, h⟩

/-- A term is an argument without a name: no name with a value behind it can stand there. -/
theorem reads_argument {t : Term} (h : t.ReadBy inner.expression total depth Evaluates) :
    t.ReadBy (argument inner false) total depth Passes := by
  intro token after hclose
  have hstars : ¬ Opens (.sign .doubleStar) := nofun
  have hstar : ¬ Opens (.sign .star) := nofun
  refine (reads_skipSign_tokens hstars t).known ?_
  refine (reads_skipSign_tokens hstar t).known ?_
  refine (h hclose).done fun e heval => ?_
  -- a name could be one of an argument, if an assignment sign followed
  split
  · have hassign : token ≠ .sign .assign := by
      rintro rfl
      cases hclose
    refine (reads_skipSign_false hclose.isFault hassign).known ?_
    exact reads_unnamed heval
  · exact reads_unnamed heval

theorem reads_arguments (ts : List Term)
    (h : ∀ t ∈ ts, t.ReadBy inner.expression total depth Evaluates) :
    (arguments inner).Reads total (tokensOfAll ts ++ .sign .closeParen :: after) after
      (AllFit ts depth ∧ ts.length ≤ maxArguments) (List.Forall₂ Passes ts) := by
  -- the bound on steps is the number of tokens, so every argument can be read
  refine .of_le fun hle => ?_
  have hlength := length_le_tokensOfAll ts
  rw [List.length_append] at hle
  refine reads_enough.known ?_
  refine ((loops_arguments inner).reads .closeParen nofun (by decide)
    (fun t a h => by rw [h.passing_eq]; rfl) (fun t ht => reads_argument (h t ht))
    (by omega)).bind fun args hargs => ?_
  rw [hargs.length_eq]
  split
  · next hmany => exact reads_fail.iff (iff_of_false not_false (Nat.not_le.2 hmany))
  · next hfew => exact (reads_pure hargs).iff (iff_of_true trivial (Nat.not_lt.1 hfew))

/-! ## One operand -/

/-- An operand without anything behind it. -/
theorem reads_signedOperand {opening : Token} (hopen : Opens opening) (hclose : Closes token)
    (h : inner.primary.Reads total (opening :: before) (token :: after) ok P) :
    (signedOperand inner).Reads total (opening :: before) (token :: after) ok P := by
  refine reads_nextLine.step fun line _ => reads_enough.known ?_
  refine (h.negations hopen total).done fun operand hoperand => reads_enough.known ?_
  exact (reads_postfixes hclose line total operand).of_eq hoperand

/-- A name with arguments behind it. -/
theorem reads_signedOperand_call {n : Name} {ts : List Term} (hclose : Closes token)
    (h : inner.primary.Reads total (.word n.text :: .sign .openParen :: before)
      (.sign .openParen :: before) ok fun e => ∃ line, e = .variable n.text line)
    (harguments : (arguments inner).Reads total before (token :: after)
      (AllFit ts depth ∧ ts.length ≤ maxArguments) (List.Forall₂ Passes ts)) :
    (signedOperand inner).Reads total (.word n.text :: .sign .openParen :: before)
      (token :: after) (ok ∧ AllFit ts depth ∧ ts.length ≤ maxArguments)
      (call n ts).Evaluates := by
  refine .of_le fun hle => reads_nextLine.step fun line _ => reads_enough.known ?_
  refine (h.negations (.word n.ne_not) total).bind ?_
  rintro _ ⟨line', rfl⟩
  refine reads_enough.known ?_
  refine (reads_peek rfl).known ?_
  refine (reads_take rfl).step fun _ _ => harguments.done fun args hargs => ?_
  -- the parenthesis has taken one of the steps of the loop
  obtain ⟨count, rfl⟩ : ∃ count, total = count + 1 :=
    ⟨total - 1, by simp only [List.length_cons] at hle; omega⟩
  exact (reads_postfixes hclose line count _).of_eq (evaluates_call hargs line)

theorem reads_nextText?_none (hclose : Closes token) :
    nextText?.Reads total (token :: after) (token :: after) True (· = none) := by
  rintro ⟨_ | ⟨lexeme, rest⟩, line, count, blocks, inside⟩ hcursor
  · exact nomatch hcursor.tokens_eq
  · have hnone : nextText? ⟨lexeme :: rest, line, count, blocks, inside⟩ =
        .ok (none, ⟨lexeme :: rest, line, count, blocks, inside⟩) := by
      have htoken : lexeme.token = token := (List.cons.inj hcursor.tokens_eq).1
      unfold nextText?
      dsimp only
      rw [htoken]
      cases hclose <;> rfl
    rw [hnone]
    exact ⟨trivial, rfl, hcursor⟩

theorem reads_moreText (hclose : Closes token) (steps : Nat) :
    (moreText (steps + 1)).Reads total (token :: after) (token :: after) True (· = []) := by
  refine (reads_nextText?_none hclose).known ?_
  exact reads_pure rfl

theorem reads_single_literal (hclose : Closes token) (text : Text) :
    (single inner).Reads total (.text text :: token :: after) (token :: after) True
      (literal text).Evaluates := by
  refine (reads_take rfl).step fun lexeme hlexeme => ?_
  rw [hlexeme]
  refine reads_enough.known ?_
  refine (reads_moreText hclose total).known ?_
  rw [List.append_nil]
  exact reads_pure (evaluates_literal text lexeme.line)

theorem reads_single_name (n : Name) :
    (single inner).Reads total (.word n.text :: after) after True
      fun e => ∃ line, e = .variable n.text line := by
  refine (reads_take rfl).step fun lexeme hlexeme => ?_
  rw [hlexeme]
  dsimp only
  rw [n.not_constant]
  exact reads_pure ⟨lexeme.line, rfl⟩

theorem reads_single_list (ts : List Term)
    (h : ∀ t ∈ ts, t.ReadBy inner.expression total depth Evaluates) :
    (single inner).Reads total
      (.sign .openBracket :: tokensOfAll ts ++ .sign .closeBracket :: after) after
      (AllFit ts depth) (list ts).Evaluates := by
  refine .of_le fun hle => ?_
  have hlength := length_le_tokensOfAll ts
  rw [List.cons_append, List.length_cons, List.length_append] at hle
  refine (reads_take rfl).step fun lexeme hlexeme => ?_
  rw [hlexeme]
  refine reads_enough.known ?_
  refine ((loops_items inner.expression .closeBracket).reads .closeBracket nofun (by decide)
    (fun _ _ _ => trivial) h (by omega)).done fun items hitems => ?_
  exact reads_pure (evaluates_list hitems lexeme.line)

/-- What a single value reads is read at every level but the lowest. -/
theorem reads_primary (h : ∀ lower, depth = lower + 1 →
    (single (Parser.inner lower)).Reads total before after ok P) :
    (Parser.primary depth).Reads total before after (1 ≤ depth ∧ ok) P := by
  cases depth with
  | zero => exact reads_fail.iff (by simp)
  | succ lower =>
    rw [Parser.primary]
    exact (h lower rfl).iff (by simp)

end Reading

/-- Every term takes two levels at least. -/
theorem two_le_of_fits (t : Term) {depth : Nat} (h : t.Fits depth) : 2 ≤ depth := by
  cases t <;> rw [Fits] at h <;> omega

theorem not_fits_zero (t : Term) : ¬ t.Fits 0 := fun h => absurd (t.two_le_of_fits h) (by decide)

/-- Each level of a parser is above the operands of one less. -/
theorem readBy_of_operand {t : Term} {total : Nat}
    (h : ∀ (depth : Nat) {token : Token} {after : List Token}, Closes token →
      (signedOperand (Parser.inner depth)).Reads total
        (t.tokens ++ token :: after) (token :: after) (t.Fits (depth + 1)) t.Evaluates)
    (depth : Nat) : t.ReadBy (Parser.expression depth) total depth Evaluates := by
  intro token after hclose
  cases depth with
  | zero => exact reads_fail.iff (iff_of_false not_false t.not_fits_zero)
  | succ depth =>
    obtain ⟨opening, inner, htokens, hopen⟩ := t.exists_opens
    have hoperand := @h depth token after hclose
    rw [htokens] at hoperand ⊢
    rw [Parser.expression]
    exact hoperand.conditional hopen hclose

mutual

theorem reads_operand (total : Nat) (t : Term) (depth : Nat) {token : Token} {after : List Token}
    (hclose : Closes token) :
    (signedOperand (Parser.inner depth)).Reads total
      (t.tokens ++ token :: after) (token :: after) (t.Fits (depth + 1)) t.Evaluates := by
  match t with
  | literal text =>
    rw [tokens, Fits]
    refine Reads.iff (reads_signedOperand .text hclose
      (reads_primary fun inner _ => reads_single_literal hclose text)) ?_
    simp
  | name n =>
    rw [tokens, Fits]
    refine Reads.iff (reads_signedOperand (.word n.ne_not) hclose (reads_primary fun inner _ =>
      (reads_single_name n).imp fun e ⟨line, he⟩ => he ▸ evaluates_name n line)) ?_
    simp
  | call n ts =>
    -- the parentheses are no level of their own: the arguments are read at that of the call
    have hall := allReadBy_expression total ts
    have htokens : (call n ts).tokens ++ token :: after =
        .word n.text :: .sign .openParen :: (tokensOfAll ts ++ .sign .closeParen ::
          token :: after) := by
      simp [tokens]
    rw [htokens, Fits]
    refine Reads.iff (reads_signedOperand_call hclose
      (reads_primary fun inner _ => reads_single_name n)
      (reads_arguments ts fun t ht => hall t ht depth)) ?_
    simp
  | list ts =>
    -- the brackets are a single value, so the items are a level deeper than arguments would be
    have hall := allReadBy_expression total ts
    have htokens : (list ts).tokens ++ token :: after =
        .sign .openBracket :: (tokensOfAll ts ++ .sign .closeBracket :: token :: after) := by
      simp [tokens]
    have hprimary : (primary depth).Reads total
        (.sign .openBracket :: (tokensOfAll ts ++ .sign .closeBracket :: token :: after))
        (token :: after) (1 ≤ depth ∧ AllFit ts (depth - 1)) (list ts).Evaluates := by
      refine reads_primary fun lower hlower => ?_
      subst hlower
      exact reads_single_list ts fun t ht => hall t ht lower
    rw [htokens, Fits]
    refine Reads.iff (reads_signedOperand .openBracket hclose hprimary) ?_
    simp

theorem allReadBy_expression (total : Nat) (ts : List Term) :
    ∀ t ∈ ts, ∀ depth, t.ReadBy (Parser.expression depth) total depth Evaluates := by
  match ts with
  | [] => exact fun t ht => nomatch ht
  | first :: rest =>
    intro t ht depth
    rcases List.mem_cons.1 ht with heq | ht
    · exact heq ▸ readBy_of_operand (reads_operand total first) depth
    · exact allReadBy_expression total rest t ht depth

end

/-- **A term is read whole, if there are levels enough for it, and is a syntax error if not.** -/
theorem readBy_expression (t : Term) (total depth : Nat) :
    t.ReadBy (Parser.expression depth) total depth Evaluates :=
  readBy_of_operand (reads_operand total t) depth

/-- Where no condition may stand behind it, a term is read all the same. -/
theorem reads_disjunction (t : Term) (total depth : Nat) {token : Token} {after : List Token}
    (hclose : Closes token) :
    (disjunction (Parser.inner depth)).Reads total
      (t.tokens ++ token :: after) (token :: after) (t.Fits (depth + 1)) t.Evaluates := by
  obtain ⟨opening, inner, htokens, hopen⟩ := t.exists_opens
  have hoperand := @reads_operand total t depth token after hclose
  rw [htokens] at hoperand ⊢
  exact hoperand.disjunction hopen hclose

end Term

end Codebook.Template
