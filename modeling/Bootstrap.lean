import Bootstrap.Archive.Unpack
import Bootstrap.CommandLine.Run
import Bootstrap.FileSystem.Digest
import Bootstrap.Main
import Bootstrap.Process.World
import Bootstrap.Rehearsal
import Bootstrap.Proofs.FileSystem.Place
import Bootstrap.Proofs.Artifact.Content
import Bootstrap.Proofs.Artifact.Naming
import Bootstrap.Proofs.Artifact.Promotion
import Bootstrap.Proofs.Pipeline.Fixpoint
import Bootstrap.Proofs.Pipeline.Plan
import Bootstrap.Proofs.Pipeline.Schedule
import Bootstrap.Proofs.Pipeline.Verification
import Bootstrap.Proofs.Pipeline.Frame
import Bootstrap.Proofs.Pipeline.Delivery
import Bootstrap.Proofs.Archive.Compression
import Bootstrap.Proofs.Archive.Contents
import Bootstrap.Proofs.CommandLine.Shipping
import Bootstrap.Proofs.Archive.Omission
import Bootstrap.Proofs.Archive.TreeName
import Bootstrap.Proofs.Archive.Inventory
import Bootstrap.Proofs.Archive.Itself
import Bootstrap.Proofs.Archive.Reproduction
import Bootstrap.Proofs.Artifact.Atomic
import Bootstrap.Proofs.Process.Contract
import Bootstrap.Proofs.Pipeline.Leftovers
import Bootstrap.Proofs.Process.Words
import Bootstrap.Proofs.Pipeline.SelfTest
import Bootstrap.Proofs.Archive.Failure
import Bootstrap.Proofs.Artifact.Comparison
import Bootstrap.Proofs.CommandLine.Toolchain
import Bootstrap.Proofs.Report.Size
import Bootstrap.Proofs.Artifact.Collision
import Bootstrap.Proofs.CommandLine.Digests
