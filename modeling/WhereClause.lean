import WhereClause.Expr.Record
import WhereClause.Session
import WhereClause.Proofs.Operand
import WhereClause.Proofs.Condition
import WhereClause.Proofs.NormalForm
import WhereClause.Proofs.Supported
import WhereClause.Proofs.PrefixRange
import WhereClause.Proofs.Store
import WhereClause.Proofs.Meaning
import WhereClause.Proofs.NodePosition
import WhereClause.Proofs.ByteOrder
import WhereClause.Proofs.Overlap
import WhereClause.Proofs.UpperCase
import WhereClause.Proofs.OperatorNormal
import WhereClause.Proofs.Grammar
import WhereClause.Proofs.RoundTrip
import WhereClause.Proofs.CoreForm
import WhereClause.Proofs.Reordering
import WhereClause.Proofs.Origin
import WhereClause.Proofs.History
import WhereClause.Proofs.FanOut
import WhereClause.Proofs.RangeWarnings
import WhereClause.Proofs.EqualNodes
import WhereClause.Proofs.Captured
import WhereClause.Proofs.Faults
import WhereClause.Proofs.Numerals
import WhereClause.Proofs.QuotedText
import WhereClause.Proofs.NumberText
import WhereClause.Proofs.Literals
import WhereClause.Proofs.SealedQueries
import WhereClause.Proofs.PatternShapes
import WhereClause.Proofs.Respelling
import WhereClause.Proofs.BareNodes
import WhereClause.Proofs.Retelling
import WhereClause.Proofs.RootLogger
