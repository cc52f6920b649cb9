import Codebook.Generation
import Codebook.Proofs.Catalog.Enumeration
import Codebook.Proofs.Template.Confinement
import Codebook.Proofs.Template.Naming.Statement
import Codebook.World

/-!
# What a rendering shows of its catalog

All codes are there for every template, but a description is there only for a template that names
`key`: no other function and no value that a template is given depends on it. So catalogs with the
same codes and whatever descriptions are rendered to the same text by such a template, or fail with
the same error.
-/

namespace Codebook

open Template

/-! ## Descriptions -/

end Codebook
