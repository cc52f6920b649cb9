import Codebook.Proofs.Phrase.Identifier
import Codebook.Proofs.Template.Phrasing

/-!
# Constants for a catalog

The templates that the generator is there for write a constant for each code: a name made out of its
description, and the number. `render_constants` says what they give, with any text around the names
and the numbers.
-/

namespace Codebook

namespace Template

/-- The expression for the name of a code. -/
def identifierExpr : TextExpr :=
  .join (.literal []) (.title (.split (.literal [' ']) (.normalize .key)))

/-- How the expression is written. -/
def identifierText : Text :=
  "join(\"\", title(split(\" \", normalize(key(code)))))".toList

theorem written_identifierText : Written identifierExpr.term.tokens identifierText :=
  identifierExpr.term.written_text rfl

/-- A template that writes a name and a number for each code, with text around them. -/
def constants (before front between behind after : Text) : Text :=
  before ++ "\x7b%- for code in codes %\x7d".toList ++
    front ++ "\x7b\x7b join(\"\", title(split(\" \", normalize(key(code))))) \x7d\x7d".toList ++
    between ++ "\x7b\x7b code \x7d\x7d".toList ++
    behind ++ "\x7b%- endfor %\x7d".toList ++ after

theorem constants_eq_codeLoop (before front between behind after : Text) :
    constants before front between behind after =
      codeLoop true true before
        (front ++ showTag (' ' :: (identifierText ++ [' '])) ++
          (between ++ showTag (' ' :: ("code".toList ++ [' '])) ++ behind)) after := by
  have hfor : "\x7b%- for code in codes %\x7d".toList = forTag true := rfl
  have hname : "\x7b\x7b join(\"\", title(split(\" \", normalize(key(code))))) \x7d\x7d".toList =
      showTag (' ' :: (identifierText ++ [' '])) := rfl
  have hcode : "\x7b\x7b code \x7d\x7d".toList =
      showTag (' ' :: ("code".toList ++ [' '])) := rfl
  have hend : "\x7b%- endfor %\x7d".toList = endTag true := rfl
  unfold constants codeLoop
  rw [hfor, hname, hcode, hend]
  simp only [List.append_assoc]

theorem textOfAll?_constants (context : Context) (code : Code) (turn : Turn)
    (front between behind : Text) :
    Part.textOfAll? context (codeScope code turn)
        [.data front, .emit identifierExpr.term, .data between, .emit (.name .code),
          .data behind] =
      some (front ++ Phrase.identifier (context.catalog.get code) ++ between ++ code.toText ++
        behind) := by
  have hname := identifierExpr.value?_term context code turn
  have hvalue : identifierExpr.value context code = Phrase.identifier (context.catalog.get code) :=
    rfl
  have hshow (t : Text) : ((Value.text t).shownAs false).toOption = some t := rfl
  have hnumber : ((Value.integer code.value).shownAs false).toOption = some code.toText := rfl
  simp [Part.textOfAll?, Part.text?, hname, hvalue, hshow, Term.value?_code, hnumber]

/--
**A template of constants gives one for each code.**

For every catalog and whatever text without a brace is around the names and the numbers: white
space in front of the two tags of the loop goes, and everything else stands where it was written,
once for each code, in ascending order.
-/
theorem render_constants {before front between behind after : Text} (hbefore : '\x7b' ∉ before)
    (hfront : '\x7b' ∉ front) (hbetween : '\x7b' ∉ between) (hbehind : '\x7b' ∉ behind)
    (hafter : '\x7b' ∉ after) (context : Context) :
    context.catalog.codes.Pairwise (fun a b => a.value < b.value) ∧
    render context (constants before front between behind after) =
      .ok (before.trimEnd ++ (context.catalog.codes.flatMap fun code =>
        front ++ Phrase.identifier (context.catalog.get code) ++ between ++ code.toText ++
          behind.trimEnd) ++ after) := by
  have hcode : Written (Term.name .code).tokens "code".toList := (Term.name .code).written_text rfl
  -- the body of the loop as it is written, with the white space at its end cut off
  have hbody : WrittenBody true [.data front, .emit identifierExpr.term, .data between,
      .emit (.name .code), .data behind.trimEnd]
      (front ++ showTag (' ' :: (identifierText ++ [' '])) ++
        (between ++ showTag (' ' :: ("code".toList ++ [' '])) ++ behind)) :=
    .emit (unmarked_of_not_mem hfront) written_identifierText.spaced
      (.emit (unmarked_of_not_mem hbetween) hcode.spaced (.last (unmarked_of_not_mem hbehind)))
  refine ⟨context.catalog.ascending_codes, ?_⟩
  rw [constants_eq_codeLoop]
  have hfits : Part.AllFit [.data front, .emit identifierExpr.term, .data between,
      .emit (.name .code), .data behind.trimEnd] (Parser.maxDepth - 1) := by
    simp only [Part.AllFit, Part.Fits, identifierExpr.fits_term_iff, Term.Fits, true_and, and_true]
    decide
  exact render_codeLoop (unmarked_of_not_mem hbefore) hbody (findMarker_of_not_mem hafter) hfits
    fun code turn => textOfAll?_constants context code turn front between behind.trimEnd

/-- A code above zero and one below. -/
def notFoundAndDenied : Catalog :=
  .ofMembers [(⟨40100, by decide, by decide⟩, "not found".toList),
    (⟨-2, by decide, by decide⟩, "access-denied (to) all".toList)]

/-- Two codes in a block of constants, the end of which stands on a line of its own. -/
theorem render_constants_block :
    render ⟨notFoundAndDenied, .legacy⟩
      (constants "const (\n".toList "\n\tError".toList " = ".toList "\n".toList "\n)\n".toList) =
      .ok "const (\n\tErrorAccessDeniedTo = -2\n\tErrorNotFound = 40100\n)\n".toList := by
  have hsplit : Phrase.split [' '] (Phrase.normalize "access-denied (to) all".toList) =
      ["access".toList, "denied".toList, [], "to".toList] := by
    simp [Phrase.split, Text.pieces, Text.cut?, Phrase.normalize]
  have hsplit' : Phrase.split [' '] (Phrase.normalize "not found".toList) =
      ["not".toList, "found".toList] := by
    simp [Phrase.split, Text.pieces, Text.cut?, Phrase.normalize]
  have hname : Phrase.identifier "access-denied (to) all".toList = "AccessDeniedTo".toList := by
    rw [Phrase.identifier, hsplit]
    rfl
  have hname' : Phrase.identifier "not found".toList = "NotFound".toList := by
    rw [Phrase.identifier, hsplit']
    rfl
  have hcodes : notFoundAndDenied.codes =
      [⟨-2, by decide, by decide⟩, ⟨40100, by decide, by decide⟩] := rfl
  have hget : notFoundAndDenied.get ⟨-2, by decide, by decide⟩ =
      "access-denied (to) all".toList := rfl
  have hget' : notFoundAndDenied.get ⟨40100, by decide, by decide⟩ = "not found".toList := rfl
  -- from here on there is only text to put together
  rw [(render_constants (by decide) (by decide) (by decide) (by decide) (by decide) _).2]
  dsimp only
  rw [hcodes, List.flatMap_cons, List.flatMap_cons, hget, hget', hname, hname']
  rfl

end Template

end Codebook
