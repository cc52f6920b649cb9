import Codebook.Generation
import Codebook.Proofs.Template.Parts

/-!
# Renderings that are known

A rendering is one event and an outcome. Where the outcome is known, so is the whole rendering; for
a template without a marker this is its own text.
-/

namespace Codebook

open Template

variable {m : Type → Type} [Monad m] [Host m]

/-- What a rendering does that comes to an outcome: it tells that it begins, and that is all. -/
def renderedAs (catalog : Catalog) (outcome : Except TemplateError Text) :
    ExceptT Error m Text := do
  Host.report (.rendering catalog.size)
  orFail .template outcome

/-- A template that can be read is rendered, and nothing else is done with it. -/
theorem renderTemplate_of_render [LawfulMonad m] {catalog : Catalog} {mode : Phrase.MapMode}
    {template : Text} {outcome : Except TemplateError Text}
    (hrender : render ⟨catalog, mode⟩ template = outcome)
    (hreadable : ∀ line, outcome ≠ .error (.unreadable line)) :
    (renderTemplate catalog mode template : ExceptT Error m Text) =
      renderedAs catalog outcome := by
  subst hrender
  unfold renderTemplate renderedAs
  unfold render at hreadable ⊢
  cases hparse : parse template with
  | error fault =>
    rw [hparse] at hreadable
    exact absurd rfl (hreadable fault.line)
  | ok statements => simp [orFail]

theorem renderTemplate_of_ok [LawfulMonad m] {catalog : Catalog} {mode : Phrase.MapMode}
    {template shown : Text} (h : render ⟨catalog, mode⟩ template = .ok shown) :
    (renderTemplate catalog mode template : ExceptT Error m Text) =
      renderedAs catalog (.ok shown) := renderTemplate_of_render h (by simp)

theorem renderTemplate_of_failed [LawfulMonad m] {catalog : Catalog} {mode : Phrase.MapMode}
    {template : Text} {problem : Problem} {line : Nat}
    (h : render ⟨catalog, mode⟩ template = .error (.failed problem line)) :
    (renderTemplate catalog mode template : ExceptT Error m Text) =
      renderedAs catalog (.error (.failed problem line)) := renderTemplate_of_render h (by simp)

namespace Template

/-- A text without a marker is shown as it is. -/
theorem render_of_no_marker {text : Text} (h : findMarker text = none) (context : Context) :
    render context text = .ok text := by
  have hlexes : Lexes (.text false) text (Part.tokensOfAll [.data text]) := by
    have h := Lexes.plain h
    simpa [Part.tokensOfAll, Part.tokens] using h
  refine render_parts hlexes ?_ ?_
  · simp [Part.AllFit, Part.Fits]
  · simp [Part.textOfAll?, Part.text?]

end Template

end Codebook
