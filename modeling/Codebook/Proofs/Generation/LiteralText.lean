import Codebook.Proofs.Catalog.Enumeration
import Codebook.Proofs.Generation.UnknownName

/-!
# Text outside tags

A template without a marker is text and nothing else: it is a single token, which is shown as it is.
Braces that open nothing, ends of tags without a beginning, line ends of any kind and quotes are
characters like all others there. In the body of a loop the same text is shown once for each item.
-/

namespace Codebook

open Template

namespace Template

/-- A template that goes through the codes with a text in the body of its loop. -/
def eachCodeText (text : Text) : Text :=
  "\x7b% for code in codes %\x7d".toList ++ text ++ "\x7b% endfor %\x7d".toList

theorem eachCodeText_eq_codeLoop (text : Text) :
    eachCodeText text = codeLoop false false [] text [] := by
  have hfor : "\x7b% for code in codes %\x7d".toList = forTag false := rfl
  have hend : "\x7b% endfor %\x7d".toList = endTag false := rfl
  unfold eachCodeText codeLoop
  rw [hfor, hend, List.nil_append, List.append_nil, List.append_assoc]

/-- The codes themselves do not matter to a text, but only how many there are. -/
theorem flatMap_codes_const (catalog : Catalog) (text : Text) :
    (catalog.codes.flatMap fun _ => text) = (List.replicate catalog.size text).flatten := by
  rw [List.flatMap_def, List.map_const', Catalog.size_eq_length_codes]

theorem render_eachCodeText {text : Text} (h : '\x7b' ∉ text) (context : Context) :
    render context (eachCodeText text) =
      .ok (List.replicate context.catalog.size text).flatten := by
  have hbody : WrittenBody false [.data text] text := .last (unmarked_of_not_mem h)
  have hfits : Part.AllFit [.data text] (Parser.maxDepth - 1) := by
    simp [Part.AllFit, Part.Fits]
  have htext (code : Code) (turn : Turn) :
      Part.textOfAll? context (codeScope code turn) [.data text] = some text := by
    simp [Part.textOfAll?, Part.text?]
  have hfront : Unmarked [] := unmarked_of_not_mem List.not_mem_nil
  have hbehind : findMarker [] = none := findMarker_of_not_mem List.not_mem_nil
  rw [eachCodeText_eq_codeLoop, render_codeLoop hfront hbody hbehind hfits htext,
    flatMap_codes_const, List.append_nil]
  rfl

end Template

variable {m : Type → Type} [Monad m] [Host m]

/--
**Text is rendered as it is written.**

A template in which neither a tag nor a comment is opened gives itself, to the last character,
whatever the catalog is. If there is no brace at all in it, it may stand in a loop over the codes,
which gives it as many times as there are codes.
-/
theorem renderTemplate_literal [LawfulMonad m] {text : Text}
    (hvariable : ¬ ['\x7b', '\x7b'] <:+: text) (hblock : ¬ ['\x7b', '%'] <:+: text)
    (hcomment : ¬ ['\x7b', '#'] <:+: text) (catalog : Catalog) (mode : Phrase.MapMode) :
    (renderTemplate catalog mode text : ExceptT Error m Text) =
      renderedAs catalog (.ok text) ∧
    ('\x7b' ∉ text →
      (renderTemplate catalog mode (eachCodeText text) : ExceptT Error m Text) =
        renderedAs catalog (.ok (List.replicate catalog.size text).flatten)) := by
  refine ⟨renderTemplate_of_ok (render_of_no_marker ?_ _), fun hbrace => ?_⟩
  · simp only [findMarker_eq_none_iff, markerMarks, List.forall_mem_cons]
    exact ⟨hvariable, hblock, hcomment, List.forall_mem_nil _⟩
  · exact renderTemplate_of_ok (render_eachCodeText hbrace _)

/-- All that looks like a tag and is none, with a brace as the last character; and a line that is
shown for two codes. -/
theorem renderTemplate_literal_braces :
    (renderTemplate (.ofMembers []) .legacy
      "\x7d\x7d\r\n \x7b \x7b\n%\x7d#\x7d <&\"é'>\n\n\x7b".toList : Run Text) =
        renderedAs (.ofMembers [])
          (.ok "\x7d\x7d\r\n \x7b \x7b\n%\x7d#\x7d <&\"é'>\n\n\x7b".toList) ∧
    ∃ catalog : Catalog, catalog.size = 2 ∧ '\x7b' ∉ " %\x7d\r\n".toList ∧
      (renderTemplate catalog .substitute (eachCodeText " %\x7d\r\n".toList) : Run Text) =
        renderedAs catalog (.ok " %\x7d\r\n %\x7d\r\n".toList) := by
  have hvariable : ¬ ['\x7b', '\x7b'] <:+:
      "\x7d\x7d\r\n \x7b \x7b\n%\x7d#\x7d <&\"é'>\n\n\x7b".toList := by decide
  have hall := renderTemplate_literal (m := StateM World) hvariable (by decide) (by decide)
    (.ofMembers []) .legacy
  -- once for each of two codes
  let catalog : Catalog :=
    .ofMembers [(⟨7, by decide, by decide⟩, ['x']), (⟨-7, by decide, by decide⟩, [])]
  have hvariable' : ¬ ['\x7b', '\x7b'] <:+: " %\x7d\r\n".toList := by decide
  have hline := renderTemplate_literal (m := StateM World) hvariable' (by decide) (by decide)
    catalog .substitute
  have hbrace : '\x7b' ∉ " %\x7d\r\n".toList := by decide
  exact ⟨hall.1, catalog, rfl, hbrace, hline.2 hbrace⟩

end Codebook
