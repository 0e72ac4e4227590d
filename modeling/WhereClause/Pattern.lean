/-! # The shapes of a LIKE pattern

Only a `%` at the very start and a `%` at the very end count as wildcards.
-/

namespace WhereClause

inductive Pattern where
  | equals (text : String)
  | beginsWith (text : String)
  | endsWith (text : String)
  | contains (text : String)
  deriving DecidableEq

namespace Pattern

def wildcard : Char := '%'

/-- A lone wildcard is both the first and the last character. -/
def ofString (pattern : String) : Pattern :=
  let cs := pattern.toList
  if cs.head? = some wildcard then
    if cs.getLast? = some wildcard then contains (String.ofList cs.tail.dropLast)
    else endsWith (String.ofList cs.tail)
  else if cs.getLast? = some wildcard then beginsWith (String.ofList cs.dropLast)
  else equals pattern

/-- The text that the wildcards leave. -/
def text : Pattern → String
  | equals t | beginsWith t | endsWith t | contains t => t

def shapeName : Pattern → String
  | equals _ => "equals"
  | beginsWith _ => "begins_with"
  | endsWith _ => "ends_with"
  | contains _ => "contains"

/-! ## Parts -/

/-- A pattern taken apart, with a place for the text of each shape. -/
structure Parts where
  equals : Option String := none
  beginsWith : Option String := none
  endsWith : Option String := none
  contains : Option String := none
  deriving DecidableEq

def parts : Pattern → Parts
  | equals t => { equals := some t }
  | beginsWith t => { beginsWith := some t }
  | endsWith t => { endsWith := some t }
  | contains t => { contains := some t }

namespace Parts

/-- The shape whose place is filled. Of several the one with the most wildcards counts. -/
def kind (p : Parts) : String :=
  if p.contains.isSome then "contains"
  else if p.endsWith.isSome then "ends_with"
  else if p.beginsWith.isSome then "begins_with"
  else "equals"

/-- The places, each with the name of its shape. -/
def places (p : Parts) : List (String × Option String) :=
  [("equals", p.equals), ("begins_with", p.beginsWith), ("ends_with", p.endsWith), ("contains", p.contains)]

end Parts

theorem kind_parts (p : Pattern) : p.parts.kind = p.shapeName := by
  cases p <;> rfl

theorem places_parts (p : Pattern) : p.parts.places.filter (·.2.isSome) = [(p.shapeName, some p.text)] := by
  cases p <;> rfl

end Pattern

end WhereClause
