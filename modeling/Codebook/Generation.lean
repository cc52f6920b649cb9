import Codebook.Output
import Codebook.Source
import Codebook.Template.Render

/-!
# Generation

From a catalog and a template to an output, in one run: the template is read, the catalog opened,
the template rendered and the result written. The first stage that fails ends the run, so nothing
is written unless everything before succeeded.
-/

namespace Codebook

variable {m : Type → Type} [Monad m] [Host m]

/-- What a template gives for a catalog. -/
def renderTemplate (catalog : Catalog) (mode : Phrase.MapMode) (template : Text) :
    ExceptT Error m Text := do
  let statements ← orFail (fun fault => .template (.unreadable fault.line))
    (Template.parse template)
  Host.report (.rendering catalog.size)
  orFail .template (Template.run ⟨catalog, mode⟩ statements)

/-- How much was generated. -/
structure Stats where
  codes : Nat
  bytes : Nat
  deriving DecidableEq, Repr

/-- Reads a template and a catalog, and writes what the template gives for the catalog. -/
def generate (source template : Text) (output? : Option Text) (mode : Phrase.MapMode) :
    ExceptT Error m Stats := do
  let template ← templateAt template
  let catalog ← catalogFrom source
  Host.report (.loaded catalog.size)
  let output ← renderTemplate catalog mode template
  deliver output? output
  return ⟨catalog.size, (Utf8.encode output).length⟩

end Codebook
