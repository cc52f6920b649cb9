import Codebook.Template.Parser

/-!
# What a parser takes

`Reads` says all about a parser on known tokens: which of them it leaves, what its result is like,
and under which condition it has one at all, being stopped by a syntax error otherwise. Lines do not
matter, and there are never more tokens ahead than there were at first, which is what bounds the
loops of the parser. `Reads` goes along with the steps of a parser, so a parser is followed from
step to step.

The levels of an expression do nothing in front of a token that closes it: what an operand reads
is read by every level above it.
-/

namespace Codebook.Template

/-- The tokens that are left, which are not more than there were at first. -/
structure Cursor.Ahead (cursor : Cursor) (total : Nat) (tokens : List Token) : Prop where
  tokens_eq : cursor.rest.map (·.token) = tokens
  total_eq : cursor.total = total
  le : tokens.length ≤ total

namespace Parser

variable {α β : Type} {total : Nat} {before middle after : List Token} {ok ok' : Prop}
  {P P' : α → Prop} {Q : β → Prop} {p : Parser α} {token : Token}

/-- A result like `P` with the tokens `after` left if `ok` holds, and a syntax error if not. -/
def Outcome (total : Nat) (after : List Token) (ok : Prop) (P : α → Prop) :
    Except SyntaxFault (α × Cursor) → Prop
  | .ok (a, cursor) => ok ∧ P a ∧ cursor.Ahead total after
  | .error _ => ¬ ok

/-- With the tokens `before` ahead, the parser has a result like `P` and leaves the tokens `after`
if `ok` holds, and there is a syntax error if not. -/
def Reads (p : Parser α) (total : Nat) (before after : List Token) (ok : Prop) (P : α → Prop) :
    Prop :=
  ∀ cursor : Cursor, cursor.Ahead total before → Outcome total after ok P (p cursor)

namespace Reads

theorem iff (h : p.Reads total before after ok P) (hok : ok ↔ ok') :
    p.Reads total before after ok' P := propext hok ▸ h

theorem imp (h : p.Reads total before after ok P) (hP : ∀ a, P a → P' a) :
    p.Reads total before after ok P' := by
  intro cursor hcursor
  have hp := h cursor hcursor
  generalize p cursor = result at hp ⊢
  rcases result with _ | ⟨a, next⟩
  · exact hp
  · exact ⟨hp.1, hP a hp.2.1, hp.2.2⟩

/-- What is known of the one result there is. -/
theorem of_eq {a : α} (h : p.Reads total before after ok (· = a)) (ha : P a) :
    p.Reads total before after ok P :=
  h.imp fun _ heq => heq ▸ ha

/-- There are never more tokens than at first. -/
theorem of_le (h : before.length ≤ total → p.Reads total before after ok P) :
    p.Reads total before after ok P := fun cursor hcursor => h hcursor.le cursor hcursor

theorem bind {next : α → Parser β} (hp : p.Reads total before middle ok P)
    (hnext : ∀ a, P a → (next a).Reads total middle after ok' Q) :
    (p >>= next).Reads total before after (ok ∧ ok') Q := by
  intro cursor hcursor
  have hstep := hp cursor hcursor
  show Outcome total after (ok ∧ ok') Q (p cursor >>= fun (a, cursor) => next a cursor)
  -- a step that fails does so because its own condition does not hold
  generalize p cursor = result at hstep ⊢
  rcases result with _ | ⟨a, between⟩
  · exact fun h => hstep h.1
  · have hlast := hnext a hstep.2.1 between hstep.2.2
    show Outcome total after (ok ∧ ok') Q (next a between)
    generalize next a between = result at hlast ⊢
    rcases result with _ | ⟨b, last⟩
    · exact fun h => hlast h.2
    · exact ⟨⟨hstep.1, hlast.1⟩, hlast.2⟩

/-- Behind a step that cannot fail. -/
theorem step {next : α → Parser β} (hp : p.Reads total before middle True P)
    (hnext : ∀ a, P a → (next a).Reads total middle after ok Q) :
    (p >>= next).Reads total before after ok Q :=
  (hp.bind hnext).iff (by simp)

/-- Behind a step that is known to give `a`. -/
theorem known {a : α} {next : α → Parser β} (hp : p.Reads total before middle True (· = a))
    (hnext : (next a).Reads total middle after ok Q) :
    (p >>= next).Reads total before after ok Q :=
  hp.step fun _ heq => heq ▸ hnext

/-- In front of steps that cannot fail. -/
theorem done {next : α → Parser β} (hp : p.Reads total before middle ok P)
    (hnext : ∀ a, P a → (next a).Reads total middle after True Q) :
    (p >>= next).Reads total before after ok Q :=
  (hp.bind hnext).iff (by simp)

end Reads

/-! ## Single steps -/

theorem reads_pure {a : α} (h : P a) : (pure a : Parser α).Reads total before before True P :=
  fun _ hcursor => ⟨trivial, h, hcursor⟩

theorem reads_fail : (fail : Parser α).Reads total before after False P := fun _ _ h => h

theorem reads_peek (hfault : token.isFault = false) :
    peek.Reads total (token :: after) (token :: after) True (· = some token) := by
  rintro ⟨_ | ⟨lexeme, rest⟩, line, count, blocks, inside⟩ hcursor
  · exact nomatch hcursor.tokens_eq
  · obtain ⟨rfl, -⟩ := List.cons.inj hcursor.tokens_eq
    have hpeek : peek ⟨lexeme :: rest, line, count, blocks, inside⟩ =
        .ok (some lexeme.token, ⟨lexeme :: rest, line, count, blocks, inside⟩) :=
      if_neg (by simp [hfault])
    rw [hpeek]
    exact ⟨trivial, rfl, hcursor⟩

theorem reads_peek_nil : peek.Reads total [] [] True (· = none) := by
  rintro ⟨_ | ⟨lexeme, rest⟩, line, _, _, _⟩ hcursor
  · exact ⟨trivial, rfl, hcursor⟩
  · exact nomatch hcursor.tokens_eq

theorem reads_take (hfault : token.isFault = false) :
    take.Reads total (token :: after) after True (·.token = token) := by
  rintro ⟨_ | ⟨lexeme, rest⟩, line, count, blocks, inside⟩ hcursor
  · exact nomatch hcursor.tokens_eq
  · obtain ⟨rfl, htokens⟩ := List.cons.inj hcursor.tokens_eq
    have htake : take ⟨lexeme :: rest, line, count, blocks, inside⟩ =
        .ok (lexeme, ⟨rest, lexeme.line, count, blocks, inside⟩) := if_neg (by simp [hfault])
    rw [htake]
    exact ⟨trivial, rfl, htokens, hcursor.total_eq, Nat.le_of_succ_le hcursor.le⟩

theorem reads_lastLine : lastLine.Reads total before before True fun _ => True :=
  fun _ hcursor => ⟨trivial, trivial, hcursor⟩

theorem reads_nextLine : nextLine.Reads total before before True fun _ => True :=
  fun _ hcursor => ⟨trivial, trivial, hcursor⟩

theorem reads_enough : enough.Reads total before before True (· = total + 1) :=
  fun _ hcursor => ⟨trivial, congrArg (· + 1) hcursor.total_eq, hcursor⟩

/-- Another token than the sign stands next. -/
theorem reads_skipSign_false {sign : Sign} (hfault : token.isFault = false)
    (hne : token ≠ .sign sign) :
    (skipSign sign).Reads total (token :: after) (token :: after) True (· = false) := by
  refine (reads_peek hfault).known ?_
  split
  · next sign' heq =>
    rw [if_neg (by rintro rfl; exact hne (Option.some.inj heq))]
    exact reads_pure rfl
  · exact reads_pure rfl

theorem reads_skipSign_true {sign : Sign} :
    (skipSign sign).Reads total (.sign sign :: after) after True (· = true) := by
  refine (reads_peek rfl).known ?_
  dsimp only
  rw [if_pos rfl]
  exact (reads_take rfl).step fun _ _ => reads_pure rfl

theorem reads_skipWord_false {word : Text} (hfault : token.isFault = false)
    (hne : token ≠ .word word) :
    (skipWord word).Reads total (token :: after) (token :: after) True (· = false) := by
  refine (reads_peek hfault).known ?_
  split
  · next word' heq =>
    rw [if_neg (by rintro rfl; exact hne (Option.some.inj heq))]
    exact reads_pure rfl
  · exact reads_pure rfl

theorem reads_expectSign {sign : Sign} :
    (expectSign sign).Reads total (.sign sign :: after) after True fun _ => True := by
  refine (reads_take rfl).step fun lexeme hlexeme => ?_
  rw [hlexeme]
  dsimp only
  rw [if_pos rfl]
  exact reads_pure trivial

theorem reads_expectWord {word : Text} :
    (expectWord word).Reads total (.word word :: after) after True fun _ => True := by
  refine (reads_take rfl).step fun lexeme hlexeme => ?_
  rw [hlexeme]
  dsimp only
  rw [if_pos rfl]
  exact reads_pure trivial

theorem reads_expectName {name : Text} :
    expectName.Reads total (.word name :: after) after True (· = name) := by
  refine (reads_take rfl).step fun lexeme hlexeme => ?_
  rw [hlexeme]
  exact reads_pure rfl

theorem reads_expectBlockEnd :
    expectBlockEnd.Reads total (.blockEnd :: after) after True fun _ => True := by
  refine (reads_take rfl).step fun lexeme hlexeme => ?_
  rw [hlexeme]
  exact reads_pure trivial

theorem reads_expectVariableEnd :
    expectVariableEnd.Reads total (.variableEnd :: after) after True fun _ => True := by
  refine (reads_take rfl).step fun lexeme hlexeme => ?_
  rw [hlexeme]
  exact reads_pure trivial

/-! ## Levels -/

/-- What stands behind an expression: another one, the end of some, or the end of a tag. -/
inductive Closes : Token → Prop where
  | comma : Closes (.sign .comma)
  | closeParen : Closes (.sign .closeParen)
  | closeBracket : Closes (.sign .closeBracket)
  | variableEnd : Closes .variableEnd
  | blockEnd : Closes .blockEnd

/-- What an operand starts with that has no sign in front. -/
inductive Opens : Token → Prop where
  | word {name : Text} : name ≠ "not".toList → Opens (.word name)
  | text {value : Text} : Opens (.text value)
  | openBracket : Opens (.sign .openBracket)

theorem Closes.isFault (h : Closes token) : token.isFault = false := by cases h <;> rfl

theorem Opens.isFault (h : Opens token) : token.isFault = false := by cases h <;> rfl

theorem reads_leftAssoc {operand : Parser Expr} {next? : Token → Option Combine} {line : Nat}
    (hnext : next? token = none) (hfault : token.isFault = false) (steps : Nat) (left : Expr) :
    (leftAssoc operand next? line (steps + 1) left).Reads total (token :: after) (token :: after)
      True (· = left) := by
  refine (reads_peek hfault).known ?_
  dsimp only [Option.bind_some]
  rw [hnext]
  exact reads_pure rfl

section Levels

variable {operand : Parser Expr} {P : Expr → Prop}

theorem Reads.leftLevel {next? : Token → Option Combine} (hnext : next? token = none)
    (hfault : token.isFault = false) (h : operand.Reads total before (token :: after) ok P) :
    (leftLevel operand next?).Reads total before (token :: after) ok P := by
  refine reads_nextLine.step fun line _ => h.done fun left hleft => ?_
  refine reads_enough.known ?_
  exact (reads_leftAssoc hnext hfault total left).of_eq hleft

variable {inner : Inner}

theorem reads_postfixes (hclose : Closes token) (line steps : Nat) (operand : Expr) :
    (postfixes inner line (steps + 1) operand).Reads total (token :: after) (token :: after)
      True (· = operand) := by
  refine (reads_peek hclose.isFault).known ?_
  cases hclose <;> exact reads_pure rfl

theorem reads_filters (hclose : Closes token) (line steps : Nat) (operand : Expr) :
    (filters inner line (steps + 1) operand).Reads total (token :: after)
      (token :: after) True (· = operand) := by
  refine (reads_peek hclose.isFault).known ?_
  cases hclose <;> exact reads_pure rfl

theorem reads_links (hclose : Closes token) (steps : Nat) :
    (links operand (steps + 1)).Reads total (token :: after) (token :: after) True (· = []) := by
  refine (reads_peek hclose.isFault).known ?_
  cases hclose <;> exact reads_pure rfl

theorem reads_conditions (hclose : Closes token) (steps : Nat) (yes : Expr) :
    (conditions operand (steps + 1) yes).Reads total (token :: after) (token :: after) True
      (· = yes) := by
  have hword : token ≠ .word "if".toList := by rintro rfl; cases hclose
  refine (reads_skipWord_false hclose.isFault hword).known ?_
  exact reads_pure rfl

theorem Reads.negations {primary : Parser Expr} (hopen : Opens token)
    (h : primary.Reads total (token :: before) after ok P) (steps : Nat) :
    (negations primary (steps + 1)).Reads total (token :: before) after ok P := by
  refine (reads_peek hopen.isFault).known ?_
  cases hopen <;> exact h

theorem Reads.complements (hopen : Opens token)
    (h : operand.Reads total (token :: before) after ok P) (steps : Nat) :
    (complements operand (steps + 1)).Reads total (token :: before) after ok P := by
  have hword : token ≠ .word "not".toList := by
    rintro rfl
    cases hopen with
    | word hname => exact hname rfl
  refine reads_nextLine.step fun line _ => (reads_skipWord_false hopen.isFault hword).known ?_
  exact h

variable {opening : Token}

theorem Reads.sum (hclose : Closes token)
    (h : (signedOperand inner).Reads total before (token :: after) ok P) :
    (sum inner).Reads total before (token :: after) ok P := by
  have hfiltered : (filtered inner).Reads total before (token :: after) ok P := by
    refine reads_nextLine.step fun line _ => h.done fun operand hoperand => ?_
    refine reads_enough.known ?_
    exact (reads_filters hclose line total operand).of_eq hoperand
  have hfault := hclose.isFault
  -- powers, products, joined texts and sums: no sign of theirs closes anything
  refine (((hfiltered.leftLevel ?_ hfault).leftLevel ?_ hfault).leftLevel ?_ hfault).leftLevel ?_
    hfault
  all_goals cases hclose <;> rfl

theorem Reads.comparison (hclose : Closes token)
    (h : (signedOperand inner).Reads total before (token :: after) ok P) :
    (comparison inner).Reads total before (token :: after) ok P := by
  refine reads_lastLine.step fun line _ => (h.sum hclose).done fun first hfirst => ?_
  refine reads_enough.known ?_
  refine (reads_links hclose total).known ?_
  exact reads_pure hfirst

theorem Reads.disjunction (hopen : Opens opening) (hclose : Closes token)
    (h : (signedOperand inner).Reads total (opening :: before) (token :: after) ok P) :
    (disjunction inner).Reads total (opening :: before) (token :: after) ok P := by
  have hnegatable :
      (negatable inner).Reads total (opening :: before) (token :: after) ok P := by
    refine reads_enough.known ?_
    exact (h.comparison hclose).complements hopen total
  have hfault := hclose.isFault
  refine (hnegatable.leftLevel ?_ hfault).leftLevel ?_ hfault
  all_goals cases hclose <;> rfl

/-- **What an operand reads up to a closing token is a whole expression.** -/
theorem Reads.conditional (hopen : Opens opening) (hclose : Closes token)
    (h : (signedOperand inner).Reads total (opening :: before) (token :: after) ok P) :
    (conditional inner).Reads total (opening :: before) (token :: after) ok P := by
  refine (h.disjunction hopen hclose).done fun yes hyes => reads_enough.known ?_
  exact (reads_conditions hclose total yes).of_eq hyes

end Levels

end Parser

end Codebook.Template
