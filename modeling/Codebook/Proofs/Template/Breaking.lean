import Codebook.Proofs.Template.CodeLoop

/-!
# Where a template breaks off

A template shows its parts from the left and its loops turn by turn, so a problem is met only when
everything in front of it has been shown. `Part.BreaksOff` says that a problem is met in this way,
and `render_parts_broken` that the rendering then fails with it, whatever stands behind.
-/

namespace Codebook.Template

namespace Part

/-- Showing the parts breaks off with the problem: a term has no text, or a loop breaks off in one
of its turns, and everything in front shows its text. A turn does so whatever it knows of itself. -/
inductive BreaksOff (context : Context) (problem : Problem) : Scope → List Part → Prop
  | emit {scope : Scope} {term : Term} {value : Value} {rest : List Part} :
      term.value? context scope = some value → value.shownAs false = .error problem →
      BreaksOff context problem scope (emit term :: rest)
  | each {scope : Scope} {item : ItemName} {source : Term} {value broken : Value}
      {before after : List Value} {body rest : List Part} :
      source.value? context scope = some value → value.iterate = .ok (before ++ broken :: after) →
      scope.length ≤ maxFrames →
      (∀ earlier ∈ before, ∀ turn,
        ∃ text, textOfAll? context (turnFrame item turn earlier :: scope) body = some text) →
      (∀ turn, BreaksOff context problem (turnFrame item turn broken :: scope) body) →
      BreaksOff context problem scope (each item source body :: rest)
  | later {scope : Scope} {first : Part} {text : Text} {rest : List Part} :
      first.text? context scope = some text → BreaksOff context problem scope rest →
      BreaksOff context problem scope (first :: rest)

section Rendering

variable {exec : Executor} {env : Env} {outer : Scope} {frame : Frame} {error : TemplateError}
  {problem : Problem} {part : Part} {statement : Stmt} {statements : List Stmt}

theorem renderAll_eq_error (h : statement.fold.render exec env outer frame .empty = .error error) :
    Stmt.renderAll exec env outer frame (Stmt.foldAll (statement :: statements)) .empty =
      .error error := by
  rw [Stmt.foldAll, Stmt.renderAll]
  exact Eval.bind_of_error h

/-- What goes wrong behind a part goes wrong behind its statement. -/
theorem Shown.renderAll_eq_error (h : part.Shown statement) (hplain : env.Plain) {text : Text}
    (htext : part.text? env.context (frame :: outer) = some text)
    (hrest : Stmt.renderAll exec env outer frame (Stmt.foldAll statements) .empty =
      .error error) :
    Stmt.renderAll exec env outer frame (Stmt.foldAll (statement :: statements)) .empty =
      .error error := by
  rw [Stmt.foldAll, Stmt.renderAll, Eval.bind_of_ok (h exec env outer frame text hplain htext)]
  exact Eval.bind_of_error hrest

/-- A loop fails with the first turn that fails. -/
theorem exists_runTurns_eq_error {render : Turn → Value → Eval Text} {broken : Value}
    {before : List Value}
    (hbefore : ∀ earlier ∈ before, ∀ turn,
      ∃ text, render turn earlier .empty = .ok (text, .empty))
    (hbroken : ∀ turn, ∃ line, render turn broken .empty = .error (.failed problem line))
    (state : LoopState) (previous : Value) (after : List Value) :
    ∃ line, runTurns render state none previous (before ++ broken :: after) .empty =
      .error (.failed problem line) := by
  -- the turns in front succeed, so the broken one is come to
  induction before generalizing state previous with
  | nil =>
    obtain ⟨line, hline⟩ := hbroken ⟨state, previous, after.head?.getD .undefined, none⟩
    refine ⟨line, ?_⟩
    rw [List.nil_append, runTurns]
    exact Eval.bind_of_error hline
  | cons value before ih =>
    obtain ⟨text, htext⟩ := hbefore value List.mem_cons_self
      ⟨state, previous, (before ++ broken :: after).head?.getD .undefined, none⟩
    obtain ⟨line, hline⟩ := ih (fun earlier h => hbefore earlier (List.mem_cons_of_mem value h))
      { state with index := state.index + 1 } value
    refine ⟨line, ?_⟩
    rw [List.cons_append, runTurns, Eval.bind_of_ok htext]
    exact Eval.bind_of_error hline

theorem exists_render_loop_eq_error {item : ItemName} {source : Term} {e : Expr}
    (h : source.Evaluates e) {body : List Part} (hbody : AllShown body statements)
    (hplain : env.Plain) {value broken : Value} {before after : List Value}
    (hvalue : source.value? env.context (frame :: outer) = some value)
    (hitems : value.iterate = .ok (before ++ broken :: after))
    (hroom : (frame :: outer).length ≤ maxFrames)
    (hbefore : ∀ earlier ∈ before, ∀ turn, ∃ text,
      textOfAll? env.context (turnFrame item turn earlier :: frame :: outer) body = some text)
    (hbroken : ∀ turn, ∃ line, Stmt.renderAll exec env (frame :: outer)
      (turnFrame item turn broken) (Stmt.foldAll statements) .empty =
        .error (.failed problem line)) :
    ∃ line, (Stmt.loop (.variable item.text) e none false statements []).fold.render exec env outer
      frame .empty = .error (.failed problem line) := by
  have hearlier (earlier : Value) (h : earlier ∈ before) (turn : Turn) : ∃ text,
      renderTurn exec env (frame :: outer) item statements turn earlier .empty =
        .ok (text, .empty) :=
    (hbefore earlier h turn).imp fun _ htext => hbody.renderTurn hplain htext
  have hlast (turn : Turn) : ∃ line,
      renderTurn exec env (frame :: outer) item statements turn broken .empty =
        .error (.failed problem line) := by
    obtain ⟨line, hline⟩ := hbroken turn
    exact ⟨line, by rw [renderTurn_eq, hline]; rfl⟩
  -- the body shows a text in each turn in front, and fails in this one
  obtain ⟨line, hline⟩ := exists_runTurns_eq_error hearlier hlast
    (firstState (frame :: outer) value) .undefined after
  refine ⟨line, ?_⟩
  rw [render_loop_eq h hplain hroom hvalue hitems, hline]
  rfl

end Rendering

/-- **What parts are read as fails with the problem that they break off with.** -/
theorem BreaksOff.renderAll {env : Env} (hplain : env.Plain) (exec : Executor) {problem : Problem}
    {scope : Scope} {parts : List Part} (h : BreaksOff env.context problem scope parts)
    {outer : Scope} {frame : Frame} (hscope : scope = frame :: outer) {statements : List Stmt}
    (hstated : StatedAs parts statements) :
    ∃ line, Stmt.renderAll exec env outer frame (Stmt.foldAll statements) .empty =
      .error (.failed problem line) := by
  -- on how the parts break off: a loop goes on in the frame of its turn, with the statements of
  -- its body, so frame and statements cannot be fixed
  induction h generalizing outer frame statements with
  | emit hvalue hshow =>
    subst hscope
    cases hstated with
    | @emit _ e _ _ heval _ =>
      refine ⟨e.fold.endLine, renderAll_eq_error ?_⟩
      rw [Stmt.fold, Stmt.render, Eval.bind_of_ok (heval exec env _ _ hvalue), hplain.escape_eq]
      exact Eval.bind_of_error (onLine_of_error hshow _ _)
  | each hvalue hitems hroom hbefore _ ih =>
    subst hscope
    cases hstated with
    | each heval hbody _ =>
      exact (exists_render_loop_eq_error heval hbody.allShown hplain hvalue hitems hroom hbefore
        fun turn => ih turn rfl hbody).imp fun line hline => renderAll_eq_error hline
  | later htext _ ih =>
    subst hscope
    -- whatever the first part is, it shows its text and leaves the frame as it was
    cases hstated with
    | blank hrest => exact ih rfl hrest
    | data hrest =>
      obtain ⟨line, hline⟩ := ih rfl hrest
      exact ⟨line, (shown_data _).renderAll_eq_error hplain htext hline⟩
    | emit heval hrest =>
      obtain ⟨line, hline⟩ := ih rfl hrest
      exact ⟨line, (shown_emit heval).renderAll_eq_error hplain htext hline⟩
    | each heval hbody hrest =>
      obtain ⟨line, hline⟩ := ih rfl hrest
      exact ⟨line, (shown_each heval hbody.allShown).renderAll_eq_error hplain htext hline⟩

end Part

open Codebook.Template.Part

variable {context : Context} {problem : Problem}

/-- **A template fails with the problem that its parts break off with.** -/
theorem render_parts_broken {text : Text} {parts : List Part}
    (hlexes : Lexes (.text false) text (tokensOfAll parts))
    (hfits : AllFit parts Parser.maxDepth)
    (hbreaks : BreaksOff context problem [.outermost] parts) :
    ∃ line, render context text = .error (.failed problem line) := by
  -- the template is short enough to be read
  rcases parse_parts hlexes with ⟨-, statements, hparse, hstated⟩ | ⟨hdeep, -⟩
  · obtain ⟨line, hline⟩ := BreaksOff.renderAll (Env.plain_of context (Stmt.foldAll statements))
      (execute (maxFrames + 1)) hbreaks rfl hstated
    refine ⟨line, ?_⟩
    unfold render
    rw [hparse]
    dsimp only
    rw [run_eq, hline]
    rfl
  · exact absurd hfits hdeep

/-! ## Loops over the codes -/

section Codes

variable {body : List Part} {before after : List Code} {code : Code}
  (hcodes : context.catalog.codes = before ++ code :: after)
  (hbefore : ∀ earlier ∈ before, ∀ turn,
    ∃ text, textOfAll? context (codeScope earlier turn) body = some text)
  (hbreaks : ∀ turn, BreaksOff context problem (codeScope code turn) body)
include hcodes hbefore hbreaks

/-- A loop over the codes breaks off at the first code that its body breaks off at. -/
theorem Part.breaksOff_eachCode (rest : List Part) :
    BreaksOff context problem [.outermost] (eachCode body :: rest) := by
  have hvalues : context.codes.iterate = .ok (before.map (fun code => .integer code.value) ++
      .integer code.value :: after.map fun code => .integer code.value) := by
    have h : context.codes.iterate =
      .ok (context.catalog.codes.map fun code => .integer code.value) := rfl
    rw [h, hcodes, List.map_append, List.map_cons]
  refine .each (Term.value?_codes context) hvalues (Nat.not_lt.1 roomAround_outermost) ?_ hbreaks
  intro value hvalue turn
  obtain ⟨earlier, hearlier, rfl⟩ := List.mem_map.1 hvalue
  exact hbefore earlier hearlier turn

/-- A template with a loop over the codes fails where the body of the loop breaks off at a code. -/
theorem render_codeLoop_broken {trims trims' : Bool} {front inner behind : Text}
    (hfront : Unmarked front) (hbody : WrittenBody trims' body inner)
    (hbehind : findMarker behind = none) (hfits : AllFit body (Parser.maxDepth - 1)) :
    ∃ line, render context (codeLoop trims trims' front inner behind) =
      .error (.failed problem line) :=
  render_parts_broken (lexes_codeLoop hfront hbody hbehind) ((allFit_codeLoop_iff _ _).2 hfits)
    (.later (by rw [text?]) (breaksOff_eachCode hcodes hbefore hbreaks _))

end Codes

end Codebook.Template
