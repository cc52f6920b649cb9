import Codebook.Proofs.Template.Lexing
import Codebook.Proofs.Template.Term

/-!
# Templates by parts

A template that is put together from text, terms to show and loops. `render_parts` says what such a
template gives: each part gives its text, and a loop gives that of its body once for each item.
Reading and rendering meet in `Part.StatedAs`, which says how the statements of a block that has
been read are related to its parts. Such statements show the text of the parts (`Part.AllShown`).
-/

namespace Codebook.Template

/-- A name that a loop can give to its items. -/
structure ItemName where
  text : Text
  free : text ∉ "in".toList :: Parser.reservedNames

/-- A piece of a template. -/
inductive Part where
  /-- Text outside tags, which may be empty. -/
  | data (text : Text)
  /-- A term in a tag of its own. -/
  | emit (term : Term)
  /-- Parts for each item of a list. -/
  | each (item : ItemName) (source : Term) (body : List Part)

namespace Part

mutual

/-- The tokens of a part. -/
def tokens : Part → List Token
  | data text => dataTokens text
  | emit term => .variableStart :: term.tokens ++ [.variableEnd]
  | each item source body =>
    .blockStart :: .word "for".toList :: .word item.text :: .word "in".toList :: source.tokens ++
      .blockEnd :: tokensOfAll body ++ [.blockStart, .word "endfor".toList, .blockEnd]

/-- The tokens of some parts one after another. -/
def tokensOfAll : List Part → List Token
  | [] => []
  | first :: rest => first.tokens ++ tokensOfAll rest

end

mutual

/-- Whether so many levels of the parser are enough to read a part. -/
def Fits : Part → Nat → Prop
  | data _, _ => True
  | emit term, depth => term.Fits depth
  | each _ source body, depth =>
    source.Fits depth ∧ AllFit body (depth - 1)

/-- Whether so many levels of the parser are enough to read each of some parts. -/
def AllFit : List Part → Nat → Prop
  | [], _ => True
  | first :: rest, depth => first.Fits depth ∧ AllFit rest depth

end

/-- The texts of the turns of a loop one behind the other, if there is no problem in any. -/
def turns? (body : Turn → Value → Option Text) (state : LoopState) (previous : Value) :
    List Value → Option Text
  | [] => some []
  | value :: rest => do
    let text ← body ⟨state, previous, rest.head?.getD .undefined, none⟩ value
    let more ← turns? body { state with index := state.index + 1 } value rest
    return text ++ more

/-- The frame of a turn of a loop, in which the name has the item as its value. -/
def turnFrame (item : ItemName) (turn : Turn) (value : Value) : Frame :=
  (Frame.ofTurn turn).withLocal item.text value

/-- How far a loop has come at its first turn. -/
def firstState (scope : Scope) (value : Value) : LoopState :=
  ⟨0, value.itemCount?, Scope.loopDepth scope, scope.length⟩

mutual

/-- The text that a part shows, if there is no problem. -/
def text? (context : Context) (scope : Scope) : Part → Option Text
  | data text => some text
  | emit term => do
    let value ← term.value? context scope
    (value.shownAs false).toOption
  | each item source body => do
    let value ← source.value? context scope
    let items ← value.iterate.toOption
    if maxFrames < scope.length then none
    else
      turns? (fun turn value => textOfAll? context (turnFrame item turn value :: scope) body)
        (firstState scope value) .undefined items

/-- The texts of some parts one behind the other, if there is no problem. -/
def textOfAll? (context : Context) (scope : Scope) : List Part → Option Text
  | [] => some []
  | first :: rest => do
    let text ← first.text? context scope
    let more ← textOfAll? context scope rest
    return text ++ more

end

end Part

/-- No call is around the place, and texts are shown as they stand. -/
structure Env.Plain (env : Env) : Prop where
  outer_eq : env.outer = 0
  escape_eq : env.escape = false

theorem Env.Plain.depth_eq {env : Env} (h : env.Plain) (scope : Scope) :
    env.depth scope = scope.length := by
  rw [Env.depth, h.outer_eq, Nat.zero_add]

namespace Part

/-- The statements show the text of the parts, wherever there is one. -/
def AllShown (parts : List Part) (statements : List Stmt) : Prop :=
  ∀ exec (env : Env) outer frame text, env.Plain →
    textOfAll? env.context (frame :: outer) parts = some text →
    Stmt.renderAll exec env outer frame (Stmt.foldAll statements) .empty =
      .ok ((text, frame), .empty)

/-- The statement shows the text of the part, wherever there is one. -/
def Shown (part : Part) (statement : Stmt) : Prop :=
  ∀ exec (env : Env) outer frame text, env.Plain →
    part.text? env.context (frame :: outer) = some text →
    statement.fold.render exec env outer frame .empty = .ok ((text, frame), .empty)

/-- The statements that parts are read as. A term has become an expression of the same value, and
text that is empty has become nothing. -/
inductive StatedAs : List Part → List Stmt → Prop
  | nil : StatedAs [] []
  | blank {parts : List Part} {statements : List Stmt} :
      StatedAs parts statements → StatedAs (data [] :: parts) statements
  | data {text : Text} {parts : List Part} {statements : List Stmt} :
      StatedAs parts statements → StatedAs (data text :: parts) (.data text :: statements)
  | emit {term : Term} {e : Expr} {parts : List Part} {statements : List Stmt} :
      term.Evaluates e → StatedAs parts statements →
      StatedAs (emit term :: parts) (.emit e :: statements)
  | each {item : ItemName} {source : Term} {e : Expr} {body parts : List Part}
      {inner statements : List Stmt} :
      source.Evaluates e → StatedAs body inner → StatedAs parts statements →
      StatedAs (each item source body :: parts)
        (.loop (.variable item.text) e none false inner [] :: statements)

/-- The part is read as the statement, whatever follows. -/
def IsStated (part : Part) (statement : Stmt) : Prop :=
  ∀ {parts : List Part} {statements : List Stmt}, StatedAs parts statements →
    StatedAs (part :: parts) (statement :: statements)

/-! ## Rendering -/

section Rendering

variable {part : Part} {parts body : List Part} {statement : Stmt} {statements : List Stmt}

theorem allShown_nil : AllShown [] [] := by
  intro exec env outer frame text _ htext
  obtain rfl := Option.some.inj htext
  rfl

theorem Shown.cons (h : part.Shown statement) (hs : AllShown parts statements) :
    AllShown (part :: parts) (statement :: statements) := by
  intro exec env outer frame text hplain htext
  obtain ⟨front, hfront, hmore⟩ := Option.bind_eq_some_iff.1 htext
  obtain ⟨more, hrest, happend⟩ := Option.bind_eq_some_iff.1 hmore
  obtain rfl := Option.some.inj happend
  rw [Stmt.foldAll, Stmt.renderAll,
    Eval.bind_of_ok (h exec env outer frame front hplain hfront)]
  dsimp only
  rw [Eval.bind_of_ok (hs exec env outer frame more hplain hrest)]
  rfl

theorem shown_data (text : Text) : (data text).Shown (.data text) := by
  intro exec env outer frame shown _ hshown
  obtain rfl := Option.some.inj hshown
  rfl

/-- Text that is empty shows nothing. -/
theorem AllShown.cons_nil (hs : AllShown parts statements) :
    AllShown (data [] :: parts) statements := by
  intro exec env outer frame text hplain htext
  obtain ⟨more, hrest, happend⟩ := Option.bind_eq_some_iff.1 htext
  obtain rfl := Option.some.inj happend
  exact hs exec env outer frame more hplain hrest

theorem shown_emit {term : Term} {e : Expr} (h : term.Evaluates e) :
    (emit term).Shown (.emit e) := by
  intro exec env outer frame text hplain htext
  obtain ⟨value, hvalue, hshow⟩ := Option.bind_eq_some_iff.1 htext
  rw [Stmt.fold, Stmt.render, Eval.bind_of_ok (h exec env (frame :: outer) value hvalue),
    hplain.escape_eq, Eval.bind_of_ok (onLine_of_ok (Except.toOption_eq_some_iff.1 hshow) _ _)]
  rfl

/-- The turns of a loop, when what each of them renders is known. -/
theorem runTurns_eq_ok {render : Turn → Value → Eval Text} {body : Turn → Value → Option Text}
    (h : ∀ turn value text, body turn value = some text →
      render turn value .empty = .ok (text, .empty))
    {state : LoopState} {previous : Value} {values : List Value} {text : Text}
    (htext : turns? body state previous values = some text) :
    runTurns render state none previous values .empty = .ok (text, .empty) := by
  induction values generalizing state previous text with
  | nil =>
    obtain rfl := Option.some.inj htext
    rfl
  | cons value values ih =>
    -- the whole text is there, so this turn has one and so have the rest
    obtain ⟨front, hfront, hmore⟩ := Option.bind_eq_some_iff.1 htext
    obtain ⟨more, hrest, happend⟩ := Option.bind_eq_some_iff.1 hmore
    obtain rfl := Option.some.inj happend
    rw [runTurns, Eval.bind_of_ok (h _ _ front hfront), Eval.bind_of_ok (ih hrest)]
    rfl

variable {exec : Executor} {env : Env} {scope outer : Scope} {frame : Frame} {value : Value}
  {items : List Value}

theorem roomFor_eq_ok (hplain : env.Plain) (hroom : scope.length ≤ maxFrames) (line : Nat)
    (store : Store) : env.roomFor scope line store = .ok ((), store) := by
  rw [Env.roomFor, hplain.depth_eq, if_neg (Nat.not_lt.2 hroom)]
  rfl

theorem loopItems_eq_ok {source : Term} {e : Expr} (h : source.Evaluates e) (hplain : env.Plain)
    (hroom : scope.length ≤ maxFrames) (hvalue : source.value? env.context scope = some value)
    (hitems : value.iterate = .ok items) (target : Target) :
    loopItems exec env scope target e.fold none .empty =
      .ok ((items, value.itemCount?), .empty) := by
  rw [loopItems, Eval.bind_of_ok (h exec env scope value hvalue),
    Eval.bind_of_ok (onLine_of_ok hitems _ _),
    Eval.bind_of_ok (roomFor_eq_ok hplain hroom _ _)]
  rfl

/-- One turn of a loop. -/
def renderTurn (exec : Executor) (env : Env) (scope : Scope) (item : ItemName)
    (statements : List Stmt) (turn : Turn) (value : Value) : Eval Text := do
  let inner ← (Target.variable item.text).assign exec env scope (.ofTurn turn) value
  let (text, _) ← Stmt.renderAll exec env scope inner (Stmt.foldAll statements)
  return text

theorem renderTurn_eq (item : ItemName) (turn : Turn) (value : Value) :
    renderTurn exec env scope item statements turn value .empty =
      (Stmt.renderAll exec env scope (turnFrame item turn value) (Stmt.foldAll statements)
        .empty).map fun result => (result.1.1, result.2) := by
  -- assigning the variable of the loop never fails
  have hassign : (Target.variable item.text).assign exec env scope (.ofTurn turn) value .empty =
      .ok (turnFrame item turn value, .empty) := by
    rw [Target.assign]
    rfl
  rw [renderTurn, Eval.bind_of_ok hassign]
  generalize hresult :
    Stmt.renderAll exec env scope (turnFrame item turn value) (Stmt.foldAll statements) .empty =
      result
  rcases result with error | ⟨⟨text, frame⟩, store⟩
  · exact Eval.bind_of_error hresult
  · exact Eval.bind_of_ok hresult

theorem AllShown.renderTurn (h : AllShown body statements) (hplain : env.Plain) {item : ItemName}
    {turn : Turn} {value : Value} {text : Text}
    (htext : textOfAll? env.context (turnFrame item turn value :: scope) body = some text) :
    renderTurn exec env scope item statements turn value .empty = .ok (text, .empty) := by
  rw [renderTurn_eq, h exec env scope _ text hplain htext]
  rfl

/-- A loop goes through the turns for its items. Without an item it shows what stands behind its
`else`, which is nothing. -/
theorem render_loop_eq {source : Term} {e : Expr} (h : source.Evaluates e) (hplain : env.Plain)
    (hroom : (frame :: outer).length ≤ maxFrames)
    (hvalue : source.value? env.context (frame :: outer) = some value)
    (hitems : value.iterate = .ok items) (item : ItemName) (statements : List Stmt) :
    (Stmt.loop (.variable item.text) e none false statements []).fold.render exec env outer frame
      .empty =
      (runTurns (Part.renderTurn exec env (frame :: outer) item statements)
        (firstState (frame :: outer) value) none .undefined items .empty).map
          fun result => ((result.1, frame), result.2) := by
  rw [Stmt.fold, Stmt.render, Expr.foldOption, Target.fold,
    Eval.bind_of_ok (loopItems_eq_ok h hplain hroom hvalue hitems _)]
  cases items with
  | nil => rfl
  | cons first rest =>
    -- no loop has remembered anything, so nothing is forgotten
    have hforget (memory : Nat) :
        (modify (·.forgetting memory) : Eval PUnit) .empty = .ok ((), .empty) := rfl
    dsimp only [List.isEmpty_cons]
    rw [if_neg Bool.false_ne_true, if_neg Bool.false_ne_true, hplain.depth_eq,
      Eval.bind_of_ok (hforget _)]
    generalize hresult : runTurns (Part.renderTurn exec env (frame :: outer) item statements)
      (firstState (frame :: outer) value) none .undefined (first :: rest) .empty = result
    rcases result with error | ⟨text, store⟩
    · exact Eval.bind_of_error hresult
    · exact Eval.bind_of_ok hresult

theorem shown_each {item : ItemName} {source : Term} {e : Expr} (h : source.Evaluates e)
    (hbody : AllShown body statements) :
    (each item source body).Shown (.loop (.variable item.text) e none false statements []) := by
  intro exec env outer frame text hplain htext
  obtain ⟨value, hvalue, hmore⟩ := Option.bind_eq_some_iff.1 htext
  obtain ⟨items, hitems, hturns⟩ := Option.bind_eq_some_iff.1 hmore
  split at hturns
  · cases hturns
  · next hroom =>
    rw [render_loop_eq h hplain (Nat.not_lt.1 hroom) hvalue
      (Except.toOption_eq_some_iff.1 hitems),
      runTurns_eq_ok (fun _ _ _ htext => hbody.renderTurn hplain htext) hturns]
    rfl

/-- **What parts are read as shows their text.** -/
theorem StatedAs.allShown (h : StatedAs parts statements) : AllShown parts statements := by
  induction h with
  | nil => exact allShown_nil
  | blank _ ih => exact ih.cons_nil
  | data _ ih => exact (shown_data _).cons ih
  | emit heval _ ih => exact (shown_emit heval).cons ih
  | each heval _ _ ihbody ih => exact (shown_each heval ihbody).cons ih

end Rendering

/-! ## Reading -/

open Codebook.Template.Parser

section Reading

variable {total : Nat} {before after : List Token} {ok : Prop}

/-- The name of the items of a loop, in front of the word behind it. -/
theorem reads_itemName (item : ItemName) :
    freeName.Reads total (.word item.text :: after) after True (· = item.text) := by
  refine reads_expectName.known ?_
  rw [if_neg (List.not_mem_of_not_mem_cons item.free)]
  exact reads_pure rfl

theorem reads_targetEnds (item : ItemName) :
    targetEnds.Reads total (.word item.text :: after) (.word item.text :: after) True
      (· = false) := by
  have hword : item.text ≠ "in".toList := List.ne_of_not_mem_cons item.free
  refine (reads_peek rfl).known ?_
  exact reads_pure (decide_eq_false hword)

/-- What a loop gives to its items, up to the word behind it. -/
theorem reads_assignment (item : ItemName) (depth : Nat) :
    (assignment depth).Reads total (.word item.text :: .word "in".toList :: after)
      (.word "in".toList :: after) (1 ≤ depth) (· = .variable item.text) := by
  cases depth with
  | zero => exact reads_fail.iff (by simp)
  | succ depth =>
    have hparen (word : Text) : Token.word word ≠ .sign .openParen := nofun
    have hcomma : Token.word "in".toList ≠ .sign .comma := nofun
    rw [assignment]
    refine Reads.iff ?_ (iff_of_true trivial (Nat.le_add_left 1 depth))
    refine reads_nextLine.step fun line _ => reads_enough.known ?_
    -- a single target without a comma behind it
    refine Reads.known (a := ([.variable item.text], false)) ?_ (reads_pure rfl)
    refine (reads_targetEnds item).known ?_
    have hname : (do
        if ← skipSign .openParen then
          let target ← assignment depth
          expectSign .closeParen
          return target
        else return .variable (← freeName) : Parser Target).Reads total
          (.word item.text :: .word "in".toList :: after) (.word "in".toList :: after) True
          (· = .variable item.text) := by
      refine (reads_skipSign_false rfl (hparen _)).known ?_
      exact (reads_itemName item).known (reads_pure rfl)
    refine hname.known ((reads_skipSign_false rfl hcomma).known ?_)
    exact reads_pure rfl

theorem reads_stopsAt {stops : List Text} {word : Text} :
    (stopsAt stops).Reads total (.word word :: after) (.word word :: after) True
      (· = decide (word ∈ stops)) := by
  refine (reads_peek rfl).known ?_
  exact reads_pure rfl

/-- The words that end the body of a loop. -/
def loopStops : List Text := ["endfor".toList, "else".toList]

theorem reads_loop {item : ItemName} {source : Term} {body : List Part}
    {value condition : Parser Expr} {block : List Text → Parser (List Stmt)} {depth : Nat}
    (hvalue : ∀ {after : List Token}, value.Reads total (source.tokens ++ .blockEnd :: after)
      (.blockEnd :: after) (source.Fits (depth + 1)) source.Evaluates)
    (hblock : (block loopStops).Reads total
      (tokensOfAll body ++ .blockStart :: .word "endfor".toList :: after)
      (.word "endfor".toList :: after) ok (StatedAs body)) :
    (loop value condition block depth).Reads total
      (.word item.text :: .word "in".toList :: (source.tokens ++ .blockEnd :: (tokensOfAll body ++
        .blockStart :: .word "endfor".toList :: after)))
      after (1 ≤ depth ∧ source.Fits (depth + 1) ∧ ok) (each item source body).IsStated := by
  refine (reads_assignment item depth).bind ?_
  rintro _ rfl
  refine reads_expectWord.step fun _ _ => hvalue.bind fun e heval => ?_
  -- no condition, no `recursive` and no `else`
  have hif : Token.blockEnd ≠ .word "if".toList := by simp
  have hrecursive : Token.blockEnd ≠ .word "recursive".toList := by simp
  refine (reads_skipWord_false rfl hif).known ?_
  refine (reads_pure (P := (· = none)) rfl).known ?_
  refine (reads_skipWord_false rfl hrecursive).known ?_
  refine reads_expectBlockEnd.step fun _ _ => hblock.done fun statements hstatements => ?_
  have helse : Token.word "endfor".toList ≠ .word "else".toList := by simp
  refine (reads_skipWord_false rfl helse).known ?_
  refine (reads_pure (P := (· = [])) rfl).known ?_
  exact reads_expectWord.step fun _ _ => reads_pure (.each heval hstatements)

/-- A block that is over. -/
theorem reads_block_stop {expression : Parser Expr} {statement : Parser Stmt} {stops : List Text}
    {word : Text} (hword : word ∈ stops) (steps : Nat) :
    (block expression statement stops (steps + 1)).Reads total
      (.blockStart :: .word word :: after) (.word word :: after) True (· = []) := by
  refine (reads_peek rfl).known ?_
  refine (reads_take rfl).step fun _ _ => reads_stopsAt.known ?_
  rw [if_pos (by simpa using hword)]
  exact reads_pure rfl

theorem reads_block_nil {expression : Parser Expr} {statement : Parser Stmt} {stops : List Text}
    (steps : Nat) :
    (block expression statement stops (steps + 1)).Reads total [] [] True (· = []) := by
  refine reads_peek_nil.known ?_
  exact reads_pure rfl

/-- The parts are read one after another, whatever ends the block behind them. -/
def AllRead (total : Nat) (parts : List Part) : Prop :=
  ∀ (depth : Nat) {stops : List Text} {after behind : List Token}, "for".toList ∉ stops →
    (∀ steps, (block (Parser.expression depth) (statement depth) stops (steps + 1)).Reads total
      after behind True (· = [])) →
    ∀ steps, (tokensOfAll parts ++ after).length ≤ steps →
      (block (Parser.expression depth) (statement depth) stops (steps + 1)).Reads total
        (tokensOfAll parts ++ after) behind (AllFit parts depth) (StatedAs parts)

variable {parts body : List Part}

theorem allRead_nil : AllRead total [] := by
  intro depth stops after behind _ hend steps _
  rw [AllFit]
  exact (hend steps).of_eq .nil

theorem AllRead.data (h : AllRead total parts) (text : Text) :
    AllRead total (data text :: parts) := by
  intro depth stops after behind hstops hend steps hsteps
  rw [AllFit, Fits, true_and]
  cases text with
  | nil =>
    -- no token is made of empty text, so there is no statement for it either
    have htokens : tokensOfAll (.data [] :: parts) = tokensOfAll parts := by
      rw [tokensOfAll, tokens]
      rfl
    rw [htokens] at hsteps ⊢
    exact (h depth hstops hend steps hsteps).imp fun _ hparts => hparts.blank
  | cons c text =>
    have htokens : tokensOfAll (.data (c :: text) :: parts) =
        .data (c :: text) :: tokensOfAll parts := by
      rw [tokensOfAll, tokens]
      rfl
    rw [htokens] at hsteps ⊢
    obtain ⟨steps, rfl⟩ := Nat.exists_eq_add_one_of_ne_zero (Nat.ne_zero_of_lt hsteps)
    refine (reads_peek rfl).known ?_
    refine (reads_take rfl).step fun _ _ => ?_
    exact (h depth hstops hend steps (Nat.le_of_succ_le_succ hsteps)).done
      fun _ hparts => reads_pure hparts.data

theorem AllRead.emit (h : AllRead total parts) (term : Term) :
    AllRead total (emit term :: parts) := by
  intro depth stops after behind hstops hend steps hsteps
  have htokens : tokensOfAll (.emit term :: parts) ++ after =
      .variableStart :: (term.tokens ++ .variableEnd :: (tokensOfAll parts ++ after)) := by
    simp [tokensOfAll, tokens]
  rw [htokens] at hsteps ⊢
  -- there are more steps than tokens, and each part takes a token at least
  obtain ⟨steps, rfl⟩ := Nat.exists_eq_add_one_of_ne_zero (Nat.ne_zero_of_lt hsteps)
  have hrest : (tokensOfAll parts ++ after).length ≤ steps := by
    simp only [List.length_cons, List.length_append] at hsteps ⊢
    omega
  rw [AllFit, Fits]
  refine (reads_peek rfl).known ?_
  refine (reads_take rfl).step fun _ _ => ?_
  refine (term.readBy_expression total depth .variableEnd).bind fun e heval => ?_
  refine reads_expectVariableEnd.step fun _ _ => ?_
  exact (h depth hstops hend steps hrest).done
    fun _ hparts => reads_pure (hparts.emit heval)

/-- A loop without the first and the last of its tokens. -/
theorem AllRead.reads_statement (hbody : AllRead total body) (item : ItemName) (source : Term)
    (depth : Nat) :
    (statement depth).Reads total
      (.word "for".toList :: .word item.text :: .word "in".toList :: (source.tokens ++ .blockEnd ::
        (tokensOfAll body ++ .blockStart :: .word "endfor".toList :: after)))
      after ((each item source body).Fits depth) (each item source body).IsStated := by
  refine .of_le fun hle => ?_
  cases depth with
  | zero => exact reads_fail.iff (iff_of_false not_false fun h => source.not_fits_zero h.1)
  | succ inner =>
    have hblock : (do
        let steps ← enough
        block (Parser.expression inner) (statement inner) loopStops steps :
          Parser (List Stmt)).Reads total
          (tokensOfAll body ++ .blockStart :: .word "endfor".toList :: after)
          (.word "endfor".toList :: after) (AllFit body inner) (StatedAs body) := by
      refine reads_enough.known ?_
      refine hbody inner (by decide) (reads_block_stop (by decide)) total ?_
      simp only [List.length_cons, List.length_append] at hle ⊢
      omega
    -- the name of the items takes a level, and every term takes more
    have hfits : (1 ≤ inner ∧ source.Fits (inner + 1) ∧ AllFit body inner) ↔
        (each item source body).Fits (inner + 1) := by
      rw [Fits, Nat.add_sub_cancel]
      exact and_iff_right_of_imp fun h => Nat.le_of_succ_le_succ (source.two_le_of_fits h.1)
    rw [statement]
    refine reads_expectName.known ?_
    rw [if_pos rfl]
    exact (reads_loop (fun {after} => source.reads_disjunction total inner .blockEnd)
      hblock).iff hfits

theorem AllRead.each (hbody : AllRead total body) (h : AllRead total parts) (item : ItemName)
    (source : Term) : AllRead total (each item source body :: parts) := by
  intro depth stops after behind hstops hend steps hsteps
  have htokens : tokensOfAll (.each item source body :: parts) ++ after =
      .blockStart :: .word "for".toList :: .word item.text :: .word "in".toList :: (source.tokens ++
        .blockEnd :: (tokensOfAll body ++ .blockStart :: .word "endfor".toList ::
          .blockEnd :: (tokensOfAll parts ++ after))) := by
    simp [tokensOfAll, tokens]
  rw [htokens] at hsteps ⊢
  obtain ⟨steps, rfl⟩ := Nat.exists_eq_add_one_of_ne_zero (Nat.ne_zero_of_lt hsteps)
  have hrest : (tokensOfAll parts ++ after).length ≤ steps := by
    simp only [List.length_cons, List.length_append] at hsteps ⊢
    omega
  rw [AllFit]
  refine (reads_peek rfl).known ?_
  refine (reads_take rfl).step fun _ _ => reads_stopsAt.known ?_
  -- `for` ends nothing, so it starts a statement
  rw [if_neg (by simpa using hstops)]
  refine (hbody.reads_statement item source depth).bind fun _ hfirst => ?_
  exact reads_expectBlockEnd.step fun _ _ => (h depth hstops hend steps hrest).done
    fun _ hparts => reads_pure (hfirst hparts)

/-- **The parts of a block are read one after another.** -/
theorem allRead (total : Nat) : ∀ parts : List Part, AllRead total parts
  | [] => allRead_nil
  | .data text :: rest => (allRead total rest).data text
  | .emit term :: rest => (allRead total rest).emit term
  | .each item source body :: rest => (allRead total body).each (allRead total rest) item source

end Reading

end Part

/-! ## Whole templates -/

open Codebook.Template.Part

variable {text : Text} {parts : List Part}

theorem reads_template (parts : List Part) (total : Nat) :
    Parser.template.Reads total (tokensOfAll parts) [] (AllFit parts Parser.maxDepth)
      (StatedAs parts) := by
  refine .of_le fun hle => Parser.reads_enough.known ?_
  have h := allRead total parts Parser.maxDepth (List.not_mem_nil) reads_block_nil total
    (by simpa using hle)
  simpa using h

/-- A template is read whole, or it is nested too deep. -/
theorem parse_parts (hlexes : Lexes (.text false) text (tokensOfAll parts)) :
    (AllFit parts Parser.maxDepth ∧
      ∃ statements, parse text = .ok statements ∧ StatedAs parts statements) ∨
    (¬ AllFit parts Parser.maxDepth ∧ ∃ fault, parse text = .error fault) := by
  let first : Cursor := ⟨lexemes text, 1, (lexemes text).length, [], false⟩
  have hahead : first.Ahead (lexemes text).length (tokensOfAll parts) :=
    ⟨hlexes 1, rfl, Nat.le_of_eq (by rw [← hlexes 1, List.length_map]; rfl)⟩
  have houtcome := reads_template parts _ _ hahead
  have hparse : parse text = (Parser.template first).map (·.1) := rfl
  rw [hparse]
  generalize Parser.template first = result at houtcome ⊢
  rcases result with fault | ⟨statements, last⟩
  · exact .inr ⟨houtcome, fault, rfl⟩
  · exact .inl ⟨houtcome.1, statements, rfl, houtcome.2.1⟩

theorem Env.plain_of (context : Context) (statements : List Stmt) :
    (Env.of context statements).Plain := ⟨rfl, rfl⟩

/-- Nothing that is called at the outermost place has been called before. -/
theorem run_eq (context : Context) (statements : List Stmt) :
    run context statements =
      (Stmt.renderAll (execute (maxFrames + 1)) (Env.of context (Stmt.foldAll statements)) []
        .outermost (Stmt.foldAll statements) .empty).map (·.1.1) := by
  unfold run
  -- one level is the template itself; those below are for what it calls
  show (execute (maxFrames + 1 + 1) _ [.outermost] _ .empty).map _ = _
  rw [execute]
  dsimp only [List.head?_cons, Option.getD_some, List.tail_cons]
  generalize hresult : Stmt.renderAll (execute (maxFrames + 1))
    (Env.of context (Stmt.foldAll statements)) [] .outermost (Stmt.foldAll statements) .empty =
      result
  rcases result with error | ⟨⟨text, frame⟩, store⟩
  · rw [Eval.bind_of_error hresult]
    rfl
  · rw [Eval.bind_of_ok hresult]
    rfl

/-- **A template gives the text of its parts.** -/
theorem render_parts (hlexes : Lexes (.text false) text (tokensOfAll parts))
    (hfits : AllFit parts Parser.maxDepth) {context : Context} {shown : Text}
    (hshown : textOfAll? context [.outermost] parts = some shown) :
    render context text = .ok shown := by
  rcases parse_parts hlexes with ⟨-, statements, hparse, hstatements⟩ | ⟨hdeep, -⟩
  · unfold render
    rw [hparse]
    dsimp only
    rw [run_eq, hstatements.allShown _ _ [] .outermost shown (Env.plain_of _ _) hshown]
    rfl
  · exact absurd hfits hdeep

/-- A template that is nested too deep is a syntax error. -/
theorem render_parts_unreadable (hlexes : Lexes (.text false) text (tokensOfAll parts))
    (hfits : ¬ AllFit parts Parser.maxDepth) (context : Context) :
    ∃ line, render context text = .error (.unreadable line) := by
  rcases parse_parts hlexes with ⟨hfits', -⟩ | ⟨-, fault, hparse⟩
  · exact absurd hfits' hfits
  · unfold render
    rw [hparse]
    exact ⟨fault.line, rfl⟩

end Codebook.Template
