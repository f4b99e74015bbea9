import ColumnLog.Size
import ColumnLog.Name
import ColumnLog.Error
import ColumnLog.Assemble
import ColumnLog.Datum
import ColumnLog.Builder
import ColumnLog.Pool
import ColumnLog.Loggable
import ColumnLog.DataCell
import ColumnLog.Value.Transform
import ColumnLog.Value.Mesh
import ColumnLog.Value.Identifier
import ColumnLog.Tensor.Data
import ColumnLog.Component.Geometry
import ColumnLog.Component.Camera
import ColumnLog.Component.Mesh
import ColumnLog.Component.Tensor
import ColumnLog.Archetype.Mesh3D
import ColumnLog.Archetype.Pinhole
import ColumnLog.Archetype.Tensor
import ColumnLog.Archetype.Transform3D
import ColumnLog.Config
import ColumnLog.Text.Decimal
import ColumnLog.Proofs.Transpose
import ColumnLog.Proofs.Append
import ColumnLog.Proofs.Run
import ColumnLog.Proofs.Finish
import ColumnLog.Proofs.Read
import ColumnLog.Proofs.Library
import ColumnLog.Proofs.RoundTrip
import ColumnLog.Proofs.Dense
import ColumnLog.Proofs.Conform
import ColumnLog.Proofs.Rejection
import ColumnLog.Proofs.Ledger
import ColumnLog.Proofs.Charge
import ColumnLog.Proofs.Compose
import ColumnLog.Proofs.Demand
import ColumnLog.Proofs.Impartial
import ColumnLog.Proofs.Ownership
import ColumnLog.Proofs.RefusedFill
import ColumnLog.Proofs.ElementCount
import ColumnLog.Proofs.Naming
import ColumnLog.Proofs.Layout
import ColumnLog.Proofs.Acceptance
import ColumnLog.Proofs.LittleEndian
import ColumnLog.Proofs.Chunks
import ColumnLog.Proofs.FailedSteps
import ColumnLog.Proofs.Indicator
import ColumnLog.Proofs.Setters
import ColumnLog.Proofs.NullBuffer
import ColumnLog.Proofs.HeapBytes
import ColumnLog.Proofs.UnionSteps
import ColumnLog.Proofs.Overflow
import ColumnLog.Proofs.LostSlots
import ColumnLog.Proofs.DocumentLines
import ColumnLog.Proofs.Files
import ColumnLog.Proofs.ConfigFile
import ColumnLog.Proofs.Lineage
