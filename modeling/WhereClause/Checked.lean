import WhereClause.Expr.Basic
import WhereClause.Text.Quoted

/-! # The outcome of a check

A check goes on after a fault, so that every fault is told, in the order of the parts checked. Only
a list or a record in the place of a name ends it at once.
-/

namespace WhereClause

/-- What can be wrong with one value. -/
inductive Fault where
  | missing
  | notText
  | notTag (tag : String)
  | notNull
  | notTruth
  /-- A text or whole number that is no truth value. -/
  | unknownTruth
  | notInteger
  | notNumber
  | unreadableNumber (text : String)
  | notSequence
  | notNode (form : Form)
  | frozen
  deriving DecidableEq

def Fault.message : Fault → String
  | missing => "Field required"
  | notText => "Input should be a valid string"
  | notTag tag => "Input should be '" ++ tag ++ "'"
  | notNull => "Input should be None"
  | notTruth => "Input should be a valid boolean"
  | unknownTruth => "Input should be a valid boolean, unable to interpret input"
  | notInteger => "Input should be a valid integer"
  | notNumber => "Input should be a valid number"
  | unreadableNumber text => "Value error, could not convert string to float: " ++ Text.quoted text
  | notSequence => "Input should be a valid tuple"
  | notNode form => "Input should be a valid dictionary or instance of " ++ form.title
  | frozen => "Instance is frozen"

/-- The kinds of value that cannot be looked up by. -/
inductive Container where
  | list
  | record
  deriving DecidableEq

def Container.kindName : Container → String
  | list => "list"
  | record => "dict"

inductive Checked (α : Type) where
  | ok (value : α)
  | faulty (faults : List Fault)
  | notKey (container : Container)

namespace Checked

variable {α β γ : Type}

def fault (f : Fault) : Checked α := .faulty [f]

/-- A value that was made keeps all of its fields. -/
def assign (_made : α) (_field : String) (_value : Datum) : Checked α := fault .frozen

def map (f : α → β) : Checked α → Checked β
  | ok a => ok (f a)
  | faulty fs => faulty fs
  | notKey c => notKey c

/-- Checks both, the first one first. -/
def both (f : α → β → γ) : Checked α → Checked β → Checked γ
  | notKey c, _ => notKey c
  | ok _, notKey c => notKey c
  | faulty _, notKey c => notKey c
  | ok a, ok b => ok (f a b)
  | ok _, faulty gs => faulty gs
  | faulty fs, ok _ => faulty fs
  | faulty fs, faulty gs => faulty (fs ++ gs)

/-- The value of the second, if the first has no fault. -/
def also (x : Checked Unit) (y : Checked α) : Checked α := both (fun _ a => a) x y

/-- Checks a list from left to right. -/
def all : List (Checked α) → Checked (List α)
  | [] => ok []
  | x :: xs => both List.cons x (all xs)

end Checked

end WhereClause
