import Relational.Session
import Relational.Proofs.Outcome
import Relational.Proofs.WellFormed
import Relational.Proofs.Guarded.Query
import Relational.Proofs.Execution
import Relational.Proofs.RowLimit
import Relational.Proofs.Runs
import Relational.Proofs.StoredNames
import Relational.Proofs.Footprint
import Relational.Proofs.Independence
import Relational.Proofs.Approximation
import Relational.Proofs.Header
import Relational.Proofs.Monotone
import Relational.Relation.Edit
import Relational.Proofs.Operands
import Relational.Proofs.EvaluationLog
import Relational.Proofs.Building
import Relational.Proofs.Wrappers
import Relational.Proofs.Join
import Relational.Proofs.Division
import Relational.Proofs.Grouping
import Relational.Proofs.OuterJoin
import Relational.Proofs.ProductQuotient
import Relational.Proofs.Guarded.Word
import Relational.Proofs.Arithmetic
import Relational.Proofs.RunningTotals
import Relational.Proofs.Selection
import Relational.Proofs.Distribution
import Relational.Proofs.Product
import Relational.Proofs.SetAlgebra
import Relational.Proofs.Substitution
import Relational.Proofs.Requalification
import Relational.Proofs.SelfAssignment
import Relational.Proofs.SchemaNames
import Relational.Proofs.GroupingKeys
import Relational.Proofs.ColumnNames
import Relational.Proofs.Addressing
import Relational.Proofs.Designation
import Relational.Proofs.StorageOrder
import Relational.Proofs.SetOfRows
import Relational.Proofs.NestedLoop
