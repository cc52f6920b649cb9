import Codebook.FileSystem.Fault
import Codebook.Json.Document
import Codebook.Network.Response
import Codebook.Template.Problem

/-!
# Errors

Each stage from the catalog to the output has its own way to fail. An error names the stage, and
its message goes on with the words of what went wrong there. Those words alone are the cause that
is reported behind the error.
-/

namespace Codebook

/-- Why there is no output. -/
inductive Error where
  /-- The catalog or the template could not be read. -/
  | read (path : Text) (fault : FileFault)
  /-- The catalog is no object of codes and descriptions. -/
  | parse (fault : CatalogFault)
  /-- The template could not be rendered. -/
  | template (error : Template.TemplateError)
  /-- The output could not be written. -/
  | write (path : Text) (fault : FileFault)
  /-- A remote catalog could not be fetched. -/
  | download (fault : DownloadFault)

namespace Error

/-- The error in words. -/
def message : Error → Text
  | read path fault => "failed to read ".toList ++ path ++ ": ".toList ++ fault.message
  | parse fault => "failed to parse error catalog: ".toList ++ fault.message
  | template error => "template error: ".toList ++ error.message
  | write path fault => "failed to write ".toList ++ path ++ ": ".toList ++ fault.message
  | download fault => "download failed: ".toList ++ fault.message

/-- What the error was caused by, from the outside in. -/
def causes : Error → List Text
  | read _ fault | write _ fault => [fault.message]
  | parse fault => [fault.message]
  | template error => error.message :: error.causes
  | download _ => []

end Error

/-- A result that may be missing for a reason of its own stage. -/
def orFail {m : Type → Type} [Monad m] {α ε : Type} (error : ε → Error) :
    Except ε α → ExceptT Error m α
  | .ok a => pure a
  | .error e => throw (error e)

end Codebook
