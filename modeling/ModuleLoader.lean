import ModuleLoader.Artifact
import ModuleLoader.Artifact.Store
import ModuleLoader.Bytes
import ModuleLoader.Check
import ModuleLoader.Compatibility
import ModuleLoader.Decoded
import ModuleLoader.Diagnostic
import ModuleLoader.Digest
import ModuleLoader.Digest.XXH3
import ModuleLoader.Disk
import ModuleLoader.Document
import ModuleLoader.Fields
import ModuleLoader.Finder
import ModuleLoader.ImportStack
import ModuleLoader.Interface
import ModuleLoader.Interface.Document
import ModuleLoader.Interface.Encoding
import ModuleLoader.Interface.Sealing
import ModuleLoader.Load.Basic
import ModuleLoader.Load.Entry
import ModuleLoader.Load.Resolve
import ModuleLoader.LoadError
import ModuleLoader.Lookup
import ModuleLoader.ModuleName
import ModuleLoader.Options
import ModuleLoader.Options.Document
import ModuleLoader.OrderedMap
import ModuleLoader.Path
import ModuleLoader.Proofs.Artifact.Outcome
import ModuleLoader.Proofs.Artifact.Place
import ModuleLoader.Proofs.Artifact.Reading
import ModuleLoader.Proofs.Artifact.Room
import ModuleLoader.Proofs.Artifact.Write
import ModuleLoader.Proofs.Check.Brings
import ModuleLoader.Proofs.Check.Merging
import ModuleLoader.Proofs.Check.Pragmas
import ModuleLoader.Proofs.Check.Recipe
import ModuleLoader.Proofs.Check.Transcript
import ModuleLoader.Proofs.Disk.Frame
import ModuleLoader.Proofs.Disk.Tree
import ModuleLoader.Proofs.Finder.Roots
import ModuleLoader.Proofs.ImportStack.Forks
import ModuleLoader.Proofs.Interface.Seal
import ModuleLoader.Proofs.Load.Carried
import ModuleLoader.Proofs.Load.Chronicle
import ModuleLoader.Proofs.Load.Conditional
import ModuleLoader.Proofs.Load.Conduct
import ModuleLoader.Proofs.Load.Contract
import ModuleLoader.Proofs.Load.Course
import ModuleLoader.Proofs.Load.Cycles
import ModuleLoader.Proofs.Load.Depth
import ModuleLoader.Proofs.Load.Desk
import ModuleLoader.Proofs.Load.Ensures
import ModuleLoader.Proofs.Load.Machine
import ModuleLoader.Proofs.Load.Maintained
import ModuleLoader.Proofs.Load.Names
import ModuleLoader.Proofs.Load.Passage
import ModuleLoader.Proofs.Load.Returns
import ModuleLoader.Proofs.Load.Steps
import ModuleLoader.Proofs.Load.Unwinding
import ModuleLoader.Proofs.Load.Validation
import ModuleLoader.Proofs.Load.Verdict
import ModuleLoader.Proofs.Load.Watched
import ModuleLoader.Proofs.ModuleName.Hierarchy
import ModuleLoader.Proofs.ModuleName.Places
import ModuleLoader.Proofs.Path.Components
import ModuleLoader.Proofs.Path.Spelling
import ModuleLoader.Proofs.Project.Clean
import ModuleLoader.Proofs.Project.Derivation
import ModuleLoader.Proofs.Project.Imports
import ModuleLoader.Proofs.Project.Reconfigured
import ModuleLoader.Proofs.Scope.Contribution
import ModuleLoader.Proofs.Scope.Merge
import ModuleLoader.Proofs.Scope.Permutation
import ModuleLoader.Proofs.Scope.Precedence
import ModuleLoader.Proofs.Scope.Register
import ModuleLoader.Proofs.Scope.Sequence
import ModuleLoader.Proofs.Scope.Tables
import ModuleLoader.Proofs.Scope.Tour
import ModuleLoader.Proofs.Scope.Worklist
import ModuleLoader.Proofs.Script.Naming
import ModuleLoader.Proofs.Script.Project
import ModuleLoader.Proofs.Script.Recipe
import ModuleLoader.Proofs.Script.Room
import ModuleLoader.Proofs.Session.Closure
import ModuleLoader.Proofs.Session.Contribution
import ModuleLoader.Proofs.Session.CurrentText
import ModuleLoader.Proofs.Session.Cycles
import ModuleLoader.Proofs.Session.DepthBound
import ModuleLoader.Proofs.Session.Failure
import ModuleLoader.Proofs.Session.Flags
import ModuleLoader.Proofs.Session.Fresh
import ModuleLoader.Proofs.Session.History
import ModuleLoader.Proofs.Session.Independence
import ModuleLoader.Proofs.Session.Merged
import ModuleLoader.Proofs.Session.Provided
import ModuleLoader.Proofs.Session.Quarantine
import ModuleLoader.Proofs.Session.Rebuilds
import ModuleLoader.Proofs.Session.Recheck
import ModuleLoader.Proofs.Session.Reconfigured
import ModuleLoader.Proofs.Session.Regime
import ModuleLoader.Proofs.Session.Resumption
import ModuleLoader.Proofs.Session.Rounds
import ModuleLoader.Proofs.Session.Run
import ModuleLoader.Proofs.Session.Season
import ModuleLoader.Proofs.Session.Settled
import ModuleLoader.Proofs.Session.Snapshot
import ModuleLoader.Proofs.Session.Stock
import ModuleLoader.Proofs.Session.Termination
import ModuleLoader.Proofs.Session.Traceless
import ModuleLoader.Proofs.Session.Tracked
import ModuleLoader.Proofs.Session.Trail
import ModuleLoader.Proofs.Session.Undisturbed
import ModuleLoader.Proofs.Session.Unwinding
import ModuleLoader.Proofs.Session.Writes
import ModuleLoader.Proofs.Source.Archive
import ModuleLoader.Proofs.Text.Fields
import ModuleLoader.Proofs.Wire.Delimited
import ModuleLoader.Proofs.Wire.RoundTrip
import ModuleLoader.Proofs.Wire.Weight
import ModuleLoader.Scope
import ModuleLoader.Script
import ModuleLoader.Script.Checker
import ModuleLoader.Session
import ModuleLoader.Settings
import ModuleLoader.Source
import ModuleLoader.Staleness
import ModuleLoader.Toml
import ModuleLoader.Toml.Basic
import ModuleLoader.Toml.Number
import ModuleLoader.Toml.Table
import ModuleLoader.Toml.Text
import ModuleLoader.Visited
import ModuleLoader.Wire
import ModuleLoader.World
