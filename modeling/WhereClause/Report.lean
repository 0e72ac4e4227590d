import WhereClause.Entries
import WhereClause.Expr.Render

/-! # Error reports

A report has a kind, a message and named details in the order given. The message is a text as a rule,
but any value can stand for it.
-/

namespace WhereClause

inductive ErrorKind where
  | base
  | clause
  | shape
  | invalidExpression
  | unsupportedConstruct
  | unsupportedLike
  | unsupportedOperator
  | unknownOperator
  deriving DecidableEq

namespace ErrorKind

def name : ErrorKind → String
  | base => "FireSQLError"
  | clause => "TranslationError"
  | shape => "ShapeError"
  | invalidExpression => "InvalidExpressionError"
  | unsupportedConstruct => "UnsupportedConstructError"
  | unsupportedLike => "UnsupportedLikeError"
  | unsupportedOperator => "UnsupportedOperatorError"
  | unknownOperator => "UnknownOperatorError"

def all : List ErrorKind :=
  [base, clause, shape, invalidExpression, unsupportedConstruct, unsupportedLike,
   unsupportedOperator, unknownOperator]

def ofName? (text : String) : Option ErrorKind := all.find? fun kind => kind.name == text

/-- The kind and the more general kinds it belongs to, up to the base. -/
def lineage : ErrorKind → List ErrorKind
  | base => [base]
  | clause => [clause, base]
  | shape => [shape, clause, base]
  | invalidExpression => [invalidExpression, shape, clause, base]
  | unsupportedConstruct => [unsupportedConstruct, clause, base]
  | unsupportedLike => [unsupportedLike, unsupportedConstruct, clause, base]
  | unsupportedOperator => [unsupportedOperator, unsupportedConstruct, clause, base]
  | unknownOperator => [unknownOperator, clause, base]

theorem ofName?_name (kind : ErrorKind) : ofName? kind.name = some kind := by
  cases kind <;> decide

end ErrorKind

/-- Why no report can be made. -/
inductive Misuse where
  /-- A name is given in its own place and once more among the details. -/
  | givenTwice (maker name : String)
  /-- A plain value stands where the kind of the report should. -/
  | notKind (kindName : String)
  deriving DecidableEq

namespace Misuse

def message : Misuse → String
  | givenTwice maker name => maker ++ "() got multiple values for argument '" ++ name ++ "'"
  | notKind kindName => "'" ++ kindName ++ "' object is not callable"

/-- The first detail with a name that is taken. -/
def taken? (maker : String) (taken : List String) (details : List (String × Datum)) : Option Misuse :=
  (details.find? fun detail => taken.contains detail.1).map fun detail => givenTwice maker detail.1

end Misuse

structure Report where
  kind : ErrorKind
  message : Datum
  details : List (String × Datum)

namespace Report

/-- A report of the given details, of which one given again takes the later value. Where there is no
message, the detail of that name is the message. -/
def ofPairs (kind : ErrorKind) (message : Option Datum) (pairs : List (String × Datum)) :
    Except Misuse Report :=
  let details := Entries.ofPairs pairs
  let taken := if message.isSome then ["self", "message"] else ["self"]
  match Misuse.taken? "FireSQLError.__init__" taken details with
  | some m => .error m
  | none =>
    let text := message <|> details.lookup "message"
    .ok ⟨kind, text.getD (.text ""), details.filter (·.1 != "message")⟩

def detailsText (r : Report) : String :=
  commaJoin (r.details.map fun (name, d) => name ++ "=" ++ d.render)

/-- The message, followed by the details in parentheses if there are both. -/
def text (r : Report) : String :=
  if r.details.isEmpty then r.message.display
  else if r.message.isMet then r.message.display ++ " (" ++ r.detailsText ++ ")"
  else r.detailsText

def render (r : Report) : String :=
  r.kind.name ++ "(message=" ++ r.message.render ++ ", details=" ++ (Datum.record r.details).render ++ ")"

/-- The report of a condition that does not count as met. Where no kind is given, a detail named
`error` stands for it; no detail can be a kind, but this shows only where there is something to report. -/
def unlessMet (condition : Datum) (kind : Option ErrorKind) (message : Datum)
    (pairs : List (String × Datum)) : Except Misuse (Option Report) :=
  let details := Entries.ofPairs pairs
  let taken := ["condition", "message"] ++ if kind.isSome then ["error"] else []
  match Misuse.taken? "assert_that" taken details with
  | some m => .error m
  | none =>
    if condition.isMet then .ok none
    else match kind, details.lookup "error" with
      | none, some d => .error (.notKind d.kindName)
      | _, _ => (ofPairs (kind.getD .shape) (some message) details).map some

end Report

end WhereClause
