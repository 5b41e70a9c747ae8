import Cleave.Main
import Cleave.Proofs.Text.Lines
import Cleave.Proofs.Scan.Outline
import Cleave.Proofs.Scan.Order
import Cleave.Proofs.Scan.Lossless
import Cleave.Proofs.Scan.Segmentation
import Cleave.Proofs.Plan.Grouping
import Cleave.Proofs.Text.Substance
import Cleave.Proofs.Plan.Root
import Cleave.Proofs.Scan.Composed
import Cleave.Proofs.Plan.Rerun
import Cleave.Proofs.Disk.LinkFree
import Cleave.Proofs.Disk.Frame
import Cleave.Proofs.Disk.Effect
import Cleave.Proofs.Commit.Targets
import Cleave.Proofs.Commit.Outcome
import Cleave.Proofs.Commit.Permanence
import Cleave.Proofs.Commit.Stages
import Cleave.Proofs.Plan.Partition
import Cleave.Proofs.Commit.Undo
import Cleave.Proofs.Run.Split
import Cleave.Proofs.Scan.Held
import Cleave.Proofs.Plan.Chunk
import Cleave.Proofs.Plan.Passes
import Cleave.Proofs.Render.Body
import Cleave.Proofs.Path.Parts
import Cleave.Proofs.Specifier.Route
import Cleave.Proofs.Specifier.Target
import Cleave.Proofs.Specifier.Form
import Cleave.Proofs.Plan.Files
import Cleave.Proofs.Text.ByteOrder
import Cleave.Proofs.Imports.Canonical
import Cleave.Proofs.Imports.Catalog
import Cleave.Proofs.Imports.Lines
import Cleave.Proofs.Plan.Siblings
import Cleave.Proofs.Run.Report
import Cleave.Proofs.Check.Diagnostics
import Cleave.Proofs.Profile.Faults
import Cleave.Proofs.Profile.RoundTrip
import Cleave.Proofs.Profile.Nearest
import Cleave.Proofs.Check.Verdict
import Cleave.Proofs.Command.Work
import Cleave.Proofs.Command.Exit
import Cleave.Proofs.Command.Listing
import Cleave.Proofs.Path.Ancestors
import Cleave.Proofs.Commit.Collision
import Cleave.Proofs.Disk.Way
import Cleave.Proofs.Commit.Replacement
import Cleave.Proofs.Document.Slice
import Cleave.Proofs.Domain.Key
