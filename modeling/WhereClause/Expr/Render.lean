import WhereClause.Expr.Basic
import WhereClause.Text.Quoted

/-! # The written form of data -/

namespace WhereClause

def boolText (b : Bool) : String := if b then "True" else "False"

/-- The parts with a comma and a space between neighbours. -/
def commaJoin (parts : List String) : String := ", ".intercalate parts

def bracketed (parts : List String) : String := "[" ++ commaJoin parts ++ "]"

def braced (parts : List String) : String := "\x7b" ++ commaJoin parts ++ "\x7d"

mutual

/-- A node shows as the name of its form. -/
def Datum.render : Datum → String
  | .null => "None"
  | .bool b => boolText b
  | .number n => n.text
  | .text s => Text.quoted s
  | .list items => bracketed (renderItems items)
  | .record entries => braced (renderEntries entries)
  | .expr e => e.form.title

def renderItems : List Datum → List String
  | [] => []
  | x :: xs => x.render :: renderItems xs

def renderEntries : List (String × Datum) → List String
  | [] => []
  | (key, x) :: es => (Text.quoted key ++ ": " ++ x.render) :: renderEntries es

end

/-- A text stands for itself outside a list or a record. -/
def Datum.display : Datum → String
  | .text s => s
  | d => d.render

end WhereClause
