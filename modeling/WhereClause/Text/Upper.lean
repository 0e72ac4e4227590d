import WhereClause.Text.UpperTable

/-! # Upper case -/

namespace WhereClause.Text

/-- The image of a code point in a run, if the run holds it. -/
def CaseRun.image? (run : CaseRun) (code : Nat) : Option Nat :=
  if run.first ≤ code ∧ code ≤ run.last ∧ (code - run.first) % run.step = 0 then
    some (run.target + (code - run.first))
  else none

/-- The full upper case of a code point, which may be several code points. -/
def upperCode (code : Nat) : List Nat :=
  match caseExpansions.lookup code with
  | some codes => codes
  | none => match caseRuns.findSome? fun run => run.image? code with
    | some image => [image]
    | none => [code]

def upperChar (c : Char) : List Char := (upperCode c.toNat).map Char.ofNat

def upper (cs : List Char) : List Char := cs.flatMap upperChar

theorem upper_append (cs ds : List Char) : upper (cs ++ ds) = upper cs ++ upper ds := by
  simp [upper]

end WhereClause.Text
