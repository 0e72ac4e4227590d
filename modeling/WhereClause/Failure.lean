import WhereClause.Checked
import WhereClause.Pattern
import WhereClause.Report

/-! # Failures -/

namespace WhereClause

/-- Why a WHERE clause is rejected. -/
inductive Rejection where
  /-- A record is no node. -/
  | malformed (faults : List Fault)
  | unsupportedClause (kind : String)
  | leftNotColumn (operator kind : String)
  | rightNotList (operator : String)
  | likeNotText (kind : String)
  | betweenNotPair
  | containsNotScalar (kind : String)
  | unsupportedPattern (pattern : String) (shape : Pattern)
  | negatedOperator (token : String)
  | unknownOperator (token : Datum)
  /-- An operand is a node that is no literal. -/
  | operandNotLiteral (kind : String)
  /-- An operand is plain data that is no scalar. -/
  | operandNotScalar (kindName : String)

namespace Rejection

def kind : Rejection → ErrorKind
  | malformed _ => .invalidExpression
  | unsupportedClause _ => .unsupportedConstruct
  | leftNotColumn .. | rightNotList _ | likeNotText _ | betweenNotPair | containsNotScalar _ => .shape
  | unsupportedPattern .. => .unsupportedLike
  | negatedOperator _ => .unsupportedOperator
  | unknownOperator _ => .unknownOperator
  | operandNotLiteral _ | operandNotScalar _ => .shape

def message : Rejection → String
  | malformed _ => "Invalid WHERE expression"
  | unsupportedClause _ => "Unsupported WHERE clause"
  | leftNotColumn .. => "Unsupported WHERE type on left side."
  | rightNotList _ => "Unsupported WHERE type on right side."
  | likeNotText _ => "Only strings are supported with LIKE in WHERE clause."
  | betweenNotPair => "BETWEEN needs 2 values in WHERE clause."
  | containsNotScalar _ =>
    "Only strings, numbers, booleans, and null are supported with CONTAINS in WHERE clause."
  | unsupportedPattern .. =>
    "Only terms in the form of \"value%\" (string begins with value) and \"value\" " ++
      "(string equals value) are supported with LIKE in WHERE clause."
  | negatedOperator token => "\"" ++ token ++ "\" WHERE operator unsupported"
  | unknownOperator _ => "Unknown WHERE operator"
  | operandNotLiteral _ => "Only literal values are supported in WHERE clause."
  | operandNotScalar _ => "Unsupported value in WHERE clause."

def details : Rejection → List (String × Datum)
  | malformed faults => [("errors", .list (faults.map fun f => .text f.message))]
  | unsupportedClause kind => [("node_type", .text kind)]
  | leftNotColumn operator kind => [("operator", .text operator), ("node_type", .text kind)]
  | rightNotList operator => [("operator", .text operator)]
  | likeNotText kind => [("node_type", .text kind)]
  | betweenNotPair => []
  | containsNotScalar kind => [("node_type", .text kind)]
  | unsupportedPattern pattern shape => [("pattern", .text pattern), ("shape", .text shape.shapeName)]
  | negatedOperator token => [("operator", .text token)]
  | unknownOperator token => [("operator", token)]
  | operandNotLiteral kind => [("node_type", .text kind)]
  | operandNotScalar kindName => [("value_type", .text kindName)]

def report (cause : Rejection) : Report := ⟨cause.kind, .text cause.message, cause.details⟩

end Rejection

/-- What can stop an operation. -/
inductive Failure where
  | rejected (cause : Rejection)
  /-- A node, a filter or the settings cannot be made from the given values. -/
  | invalid (faults : List Fault)
  /-- A list or a record stands where a name should. -/
  | notKey (container : Container)
  /-- Neither a node nor a record stands where a WHERE clause should. -/
  | notExpression (kindName : String)
  /-- No literal is made of the value. -/
  | notLiteral (kindName : String)
  /-- The query takes no filters. -/
  | sealed

namespace Failure

def message : Failure → String
  | rejected cause => cause.report.text
  | invalid faults => commaJoin (faults.map Fault.message)
  | notKey c => "unhashable type: '" ++ c.kindName ++ "'"
  | notExpression kindName => "where must be an expression node or dict, got " ++ kindName
  | notLiteral kindName => "Unsupported literal type: " ++ kindName
  | sealed => ""

end Failure

/-- A construction that must not have faults. -/
def Checked.orInvalid {α : Type} : Checked α → Except Failure α
  | .ok a => .ok a
  | .faulty fs => .error (.invalid fs)
  | .notKey c => .error (.notKey c)

end WhereClause
