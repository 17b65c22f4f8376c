import ToolPipeline.ControlLine.Cursor
import ToolPipeline.Main
import ToolPipeline.Proofs.ControlLine.Refusals
import ToolPipeline.Proofs.ControlLine.Rendering
import ToolPipeline.Proofs.ControlLine.Segmentation
import ToolPipeline.Proofs.EarlyFailures
import ToolPipeline.Proofs.InProcess.CleanScope
import ToolPipeline.Proofs.InProcess.LastToken
import ToolPipeline.Proofs.InProcess.Redirection
import ToolPipeline.Proofs.Manifest
import ToolPipeline.Proofs.Partition
import ToolPipeline.Proofs.Piping.Composition
import ToolPipeline.Proofs.Piping.ThroughFile
import ToolPipeline.Proofs.Placeholders
import ToolPipeline.Proofs.Quoting
import ToolPipeline.Proofs.Storage.Anchoring
import ToolPipeline.Proofs.Storage.Confinement
import ToolPipeline.Proofs.Storage.Fetching
import ToolPipeline.Proofs.Storage.Fragments
import ToolPipeline.Proofs.Storage.RoundTrip
import ToolPipeline.Proofs.Substitution
import ToolPipeline.Proofs.Operation
import ToolPipeline.Proofs.Storage.Failing
import ToolPipeline.Proofs.Storage.LocalCopies
import ToolPipeline.Proofs.FileTree.Creating
import ToolPipeline.Proofs.Config.Loading
import ToolPipeline.Proofs.Config.Validation
import ToolPipeline.Proofs.Arguments
import ToolPipeline.Proofs.ControlLine.PushBack
import ToolPipeline.Proofs.InProcess.Copying
import ToolPipeline.Proofs.OrderedMap.Insertions
import ToolPipeline.Proofs.Piping.Story
