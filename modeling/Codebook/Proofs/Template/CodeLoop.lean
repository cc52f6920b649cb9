import Codebook.Proofs.Template.Parts
import Codebook.Proofs.Template.Spelling

/-!
# Loops over the codes

A template that is written for a catalog goes through its codes in a loop. `render_codeLoop` is the
rule for such a template: text in front, the loop, and text behind it, where the text of one turn
may depend on its code only. White space in front of the two tags of the loop goes if they say so.
-/

namespace Codebook.Template

/-- The name of the codes. -/
def Name.codes : Name := ⟨"codes".toList, rfl, by decide, rfl⟩

/-- The name of the code that a loop has come to. -/
def Name.code : Name := ⟨"code".toList, rfl, by decide, rfl⟩

/-- The name that a loop over the codes gives to its items. -/
def ItemName.code : ItemName := ⟨"code".toList, by decide⟩

/-- The frames inside a loop over the codes. -/
def codeScope (code : Code) (turn : Turn) : Scope :=
  [Part.turnFrame .code turn (.integer code.value), .outermost]

theorem Term.value?_code (context : Context) (code : Code) (turn : Turn) :
    (name .code).value? context (codeScope code turn) = some (.integer code.value) := by
  rw [value?]
  rfl

/-- A loop over the codes. -/
def Part.eachCode (body : List Part) : Part := .each .code (.name .codes) body

section Rendering

variable {context : Context} {body : List Part} {text : Code → Text}

theorem Part.turns?_codes {body : Turn → Value → Option Text} {codes : List Code}
    (h : ∀ code turn, body turn (.integer code.value) = some (text code)) (state : LoopState)
    (previous : Value) :
    turns? body state previous (codes.map fun code => .integer code.value) =
      some (codes.flatMap text) := by
  induction codes generalizing state previous with
  | nil => rfl
  | cons code codes ih =>
    rw [List.map_cons, turns?, h code, ih]
    rfl

theorem Term.value?_codes (context : Context) :
    (name .codes).value? context [.outermost] = some context.codes := by
  rw [value?]
  rfl

/-- There is room for a loop around the outermost place. -/
theorem roomAround_outermost : ¬ maxFrames < [Frame.outermost].length := by decide

/-- **A loop over the codes shows the text of each code, in ascending order.** -/
theorem Part.text?_eachCode
    (h : ∀ code turn, textOfAll? context (codeScope code turn) body = some (text code)) :
    (eachCode body).text? context [.outermost] = some (context.catalog.codes.flatMap text) := by
  rw [eachCode, text?, Term.value?_codes, Option.bind_eq_bind, Option.bind_some]
  have hitems : context.codes.iterate.toOption =
      some (context.catalog.codes.map fun code => .integer code.value) := rfl
  rw [hitems, Option.bind_eq_bind, Option.bind_some, if_neg roomAround_outermost]
  exact turns?_codes h _ _

/-- Without codes a loop over them shows nothing, whatever its body is. -/
theorem Part.text?_eachCode_of_no_code (hcodes : context.catalog.codes = []) :
    (eachCode body).text? context [.outermost] = some [] := by
  have hitems : context.codes.iterate.toOption = some [] := by
    rw [Context.codes, hcodes]
    rfl
  rw [eachCode, text?, Term.value?_codes, Option.bind_eq_bind, Option.bind_some, hitems,
    Option.bind_eq_bind, Option.bind_some, if_neg roomAround_outermost]
  rfl

theorem Part.allFit_codeLoop_iff (front behind : Text) :
    AllFit [.data front, eachCode body, .data behind] Parser.maxDepth ↔
      AllFit body (Parser.maxDepth - 1) := by
  simp only [AllFit, Fits, eachCode, Term.Fits, true_and, and_true]
  exact and_iff_right (by decide)

end Rendering

/-! ## The tags of a loop -/

/-- The tag that starts a loop over the codes. -/
def forTag (trims : Bool) : Text :=
  TagKind.block.opening trims ++ " for code in codes ".toList ++ TagKind.block.close

/-- The tag that ends a loop. -/
def endTag (trims : Bool) : Text :=
  TagKind.block.opening trims ++ " endfor ".toList ++ TagKind.block.close

/-- A tag that shows the value of what stands in it. -/
def showTag (inner : Text) : Text :=
  TagKind.opening .variable false ++ inner ++ TagKind.close .variable

/-- Text in front of a tag, without the white space at its end if the tag takes that away. -/
def trimmedIf (trims : Bool) (text : Text) : Text := if trims then text.trimEnd else text

section Tags

variable {front inner rest : Text} {more : List Token}

theorem Lexes.forTag (trims : Bool) (hfront : Unmarked front) (h : Lexes (.text false) rest more) :
    Lexes (.text false) (front ++ Template.forTag trims ++ rest)
      (dataTokens (trimmedIf trims front) ++ .blockStart :: .word "for".toList ::
        .word "code".toList :: .word "in".toList :: .word "codes".toList :: .blockEnd :: more) := by
  have hinner : Written [.word "for".toList, .word "code".toList, .word "in".toList,
      .word "codes".toList] " for code in codes ".toList := by
    have h : ["for".toList, "code".toList, "in".toList, "codes".toList].all isWord = true := rfl
    exact written_spacedWords h
  exact Lexes.tag trims hfront hinner (fun _ => by decide) h

theorem Lexes.endTag (trims : Bool) (hfront : Unmarked front) (h : Lexes (.text false) rest more) :
    Lexes (.text false) (front ++ Template.endTag trims ++ rest)
      (dataTokens (trimmedIf trims front) ++ .blockStart :: .word "endfor".toList ::
        .blockEnd :: more) := by
  have hinner : Written [.word "endfor".toList] " endfor ".toList := by
    have h : ["endfor".toList].all isWord = true := rfl
    exact written_spacedWords h
  exact Lexes.tag trims hfront hinner (fun _ => by decide) h

theorem Lexes.showTag {tokens : List Token} (hfront : Unmarked front)
    (hinner : Written tokens inner) (h : Lexes (.text false) rest more) :
    Lexes (.text false) (front ++ Template.showTag inner ++ rest)
      (dataTokens front ++ .variableStart :: (tokens ++ .variableEnd :: more)) :=
  Lexes.tag false hfront hinner nofun h

end Tags

/-! ## The rule -/

/-- The text of the body of a loop: terms to show with text around them, of which the last one may
lose the white space at its end. -/
inductive WrittenBody (trims : Bool) : List Part → Text → Prop where
  | last {text : Text} : Unmarked text → WrittenBody trims [.data (trimmedIf trims text)] text
  | emit {front inner rest : Text} {term : Term} {body : List Part} : Unmarked front →
      Written term.tokens inner → WrittenBody trims body rest →
      WrittenBody trims (.data front :: .emit term :: body) (front ++ showTag inner ++ rest)

open Codebook.Template.Part

variable {trims trims' : Bool} {front inner behind : Text} {body : List Part}

theorem WrittenBody.lexes (h : WrittenBody trims body inner) {rest : Text} {more : List Token}
    (hrest : Lexes (.text false) rest more) :
    Lexes (.text false) (inner ++ endTag trims ++ rest)
      (tokensOfAll body ++ .blockStart :: .word "endfor".toList :: .blockEnd :: more) := by
  induction h with
  | last hfront =>
    have h := Lexes.endTag trims hfront hrest
    simpa [tokensOfAll, tokens] using h
  | emit hfront hinner _ ih =>
    have h := Lexes.showTag hfront hinner ih
    simpa [tokensOfAll, tokens] using h

/-- A template with a loop over the codes, and text around it. -/
def codeLoop (trims trims' : Bool) (front inner behind : Text) : Text :=
  front ++ forTag trims ++ (inner ++ endTag trims' ++ behind)

theorem lexes_codeLoop (hfront : Unmarked front) (hbody : WrittenBody trims' body inner)
    (hbehind : findMarker behind = none) :
    Lexes (.text false) (codeLoop trims trims' front inner behind)
      (tokensOfAll [.data (trimmedIf trims front), eachCode body, .data behind]) := by
  have h := Lexes.forTag trims hfront (hbody.lexes (.plain hbehind))
  simpa [codeLoop, tokensOfAll, tokens, eachCode, Term.tokens, Name.codes,
    ItemName.code] using h

/-- **A template with a loop over the codes gives the texts of the codes between those around the
loop.** -/
theorem render_codeLoop (hfront : Unmarked front) (hbody : WrittenBody trims' body inner)
    (hbehind : findMarker behind = none) (hfits : AllFit body (Parser.maxDepth - 1))
    {context : Context} {text : Code → Text}
    (htext : ∀ code turn, textOfAll? context (codeScope code turn) body = some (text code)) :
    render context (codeLoop trims trims' front inner behind) =
      .ok (trimmedIf trims front ++ context.catalog.codes.flatMap text ++ behind) := by
  refine render_parts (lexes_codeLoop hfront hbody hbehind)
    ((allFit_codeLoop_iff _ _).2 hfits) ?_
  simp [textOfAll?, text?_eachCode htext, text?]

theorem render_codeLoop_of_no_code (hfront : Unmarked front) (hbody : WrittenBody trims' body inner)
    (hbehind : findMarker behind = none) (hfits : AllFit body (Parser.maxDepth - 1))
    {context : Context} (hcodes : context.catalog.codes = []) :
    render context (codeLoop trims trims' front inner behind) =
      .ok (trimmedIf trims front ++ behind) := by
  refine render_parts (lexes_codeLoop hfront hbody hbehind)
    ((allFit_codeLoop_iff _ _).2 hfits) ?_
  simp [textOfAll?, text?_eachCode_of_no_code hcodes, text?]

/-- If the body of the loop is nested too deep, the template is a syntax error. -/
theorem render_codeLoop_unreadable (hfront : Unmarked front)
    (hbody : WrittenBody trims' body inner) (hbehind : findMarker behind = none)
    (hfits : ¬ AllFit body (Parser.maxDepth - 1)) (context : Context) :
    ∃ line, render context (codeLoop trims trims' front inner behind) =
      .error (.unreadable line) :=
  render_parts_unreadable (lexes_codeLoop hfront hbody hbehind)
    (mt (allFit_codeLoop_iff _ _).1 hfits) context

end Codebook.Template
