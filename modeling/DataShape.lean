import DataShape.Call.Function
import DataShape.Table
import DataShape.Proofs.Document
import DataShape.Proofs.Document.Reading
import DataShape.Proofs.Document.Writing
import DataShape.Proofs.Schema.Expressible
import DataShape.Proofs.Schema.Expression
import DataShape.Proofs.Table
import DataShape.Proofs.Validation.Agreement
import DataShape.Proofs.Validation.Construction
import DataShape.Proofs.Validation.Locality
import DataShape.Proofs.Validation.Order
import DataShape.Proofs.Validation.Path
import DataShape.Proofs.Validation.PatternVerdict
import DataShape.Proofs.Validation.Rearrangement
import DataShape.Proofs.Validation.Relaxation
import DataShape.Proofs.Validation.Report
import DataShape.Proofs.Validation.Uniform
import DataShape.Proofs.Validation.Wrapper
import DataShape.Proofs.Validation.Independence
import DataShape.Proofs.Number.Line
import DataShape.Proofs.Validation.Arithmetic
import DataShape.Proofs.Validation.Marks
import DataShape.Proofs.FileTree.Growth
import DataShape.Proofs.Json.LineEnds
import DataShape.Proofs.Validation.Message
