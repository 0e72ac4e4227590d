import WhereClause.Entries
import WhereClause.Settings.EnvFile

/-! # References in environment files

A value can refer to a name that was bound before it, or that the environment has. A reference is a `$`
and, in braces, the name; a default can follow the name after `:-`.
-/

namespace WhereClause.EnvFile

structure Reference where
  name : List Char
  default : List Char

/-- What stands between the braces. -/
def Reference.ofBody? (body : List Char) : Option Reference :=
  let name := body.takeWhile (· != ':')
  match body.dropWhile (· != ':') with
  | [] => some ⟨name, []⟩
  | ':' :: '-' :: default => some ⟨name, default⟩
  | _ => none

/-- The reference that a text up to a closing brace is. -/
def Reference.ofText? : List Char → Option Reference
  | '$' :: '\x7b' :: body => ofBody? body
  | _ => none

/-- A text up to a closing brace, with its first reference replaced. The brace stays where there is no
reference for it to close. -/
def expandPiece (value : Reference → List Char) : List Char → List Char
  | [] => ['\x7d']
  | c :: cs =>
    match Reference.ofText? (c :: cs) with
    | some r => value r
    | none => c :: expandPiece value cs

/-- A text with its references replaced. A reference ends at the first closing brace after its start,
and what stands for it is not searched again. -/
def expand (value : Reference → List Char) (cs : List Char) : List Char :=
  let pieces := Text.pieces (· == '\x7d') cs
  pieces.dropLast.flatMap (expandPiece value) ++ pieces.getLastD []

/-- A name that is bound without a value stands for nothing. The environment counts for names that are
not bound, and the default for names that are in neither. -/
def referenceValue (environment : List (String × String)) (bound : List Binding) (r : Reference) :
    List Char :=
  let name := String.ofList r.name
  match bound.lookup name with
  | some value => (value.getD "").toList
  | none => (((Entries.ofPairs environment).lookup name).map String.toList).getD r.default

/-- The names bound so far with one more binding, which can refer to them. -/
def bind (environment : List (String × String)) (bound : List Binding) (binding : Binding) :
    List Binding :=
  let expanded := fun value : String =>
    String.ofList (expand (referenceValue environment bound) value.toList)
  Entries.put bound (binding.1, binding.2.map expanded)

/-- The names that a file binds, each with its last value. -/
def entries (environment : List (String × String)) (text : String) : List Binding :=
  (bindings (content text)).foldl (bind environment) []

end WhereClause.EnvFile
