import PackedNumbers.Builder
import PackedNumbers.Cursor
import PackedNumbers.Digest
import PackedNumbers.Json
import PackedNumbers.Order
import PackedNumbers.Projection
import PackedNumbers.TypeCode.Name
import PackedNumbers.Proofs.Builder.Build
import PackedNumbers.Proofs.Builder.Decode
import PackedNumbers.Proofs.Check.Lossless
import PackedNumbers.Proofs.Collect.Ascending
import PackedNumbers.Proofs.Collect.Paths
import PackedNumbers.Proofs.Collect.Supply
import PackedNumbers.Proofs.Cursor.Walk
import PackedNumbers.Proofs.Element.Nearest
import PackedNumbers.Proofs.Element.Whole
import PackedNumbers.Proofs.Equality.Operations
import PackedNumbers.Proofs.Equality.Readings
import PackedNumbers.Proofs.History.Run
import PackedNumbers.Proofs.Order.Canonical
import PackedNumbers.Proofs.Order.Floats
import PackedNumbers.Proofs.Order.Runs
import PackedNumbers.Proofs.Order.Sorted
import PackedNumbers.Proofs.Projection.Consistency
import PackedNumbers.Proofs.Projection.Decision
import PackedNumbers.Proofs.Projection.FirstColumn
import PackedNumbers.Proofs.Record.Operations
import PackedNumbers.Proofs.Scalar.Reading
import PackedNumbers.Proofs.Slice.Parts
import PackedNumbers.Proofs.Slice.Single
