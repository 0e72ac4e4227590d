import WhereClause.Checked
import WhereClause.Number.Numeral
import WhereClause.Text.Blank

/-! # Reading the fields of a node -/

namespace WhereClause

namespace Datum

def asText : Datum → Checked String
  | text s => .ok s
  | _ => .fault .notText

/-- An absent text is null. -/
def asOptionalText : Datum → Checked (Option String)
  | null => .ok none
  | text s => .ok (some s)
  | _ => .fault .notText

def asNull : Datum → Checked Unit
  | null => .ok ()
  | _ => .fault .notNull

/-- Accepts the one text that marks a form. -/
def asTag (tag : String) (d : Datum) : Checked Unit :=
  match d with
  | text s => if s = tag then .ok () else .fault (.notTag tag)
  | _ => .fault (.notTag tag)

/-! ## Truth values -/

def falseWords : List String := ["0", "off", "f", "false", "n", "no"]

def trueWords : List String := ["1", "on", "t", "true", "y", "yes"]

/-- The case of ASCII letters does not matter. -/
def truthOfText (s : String) : Checked Bool :=
  let word := String.ofList (Text.lowerAscii s.toList)
  if falseWords.contains word then .ok false
  else if trueWords.contains word then .ok true
  else .fault .unknownTruth

def truthOfInt (n : Int) : Checked Bool :=
  if n = 0 then .ok false
  else if n = 1 then .ok true
  else if -2 ^ 63 ≤ n ∧ n < 2 ^ 63 then .fault .unknownTruth
  else .fault .notTruth

/-- A double is taken for a whole number only strictly between the bounds of 64 bits. -/
def truthOfDouble (x : Double) : Checked Bool :=
  match x.toInt? with
  | some n => if -2 ^ 63 < n then truthOfInt n else .fault .notTruth
  | none => .fault .notTruth

def asTruth : Datum → Checked Bool
  | bool b => .ok b
  | number (.int n) => truthOfInt n
  | number (.double x) => truthOfDouble x
  | text s => truthOfText s
  | _ => .fault .notTruth

/-! ## Numbers -/

/-- A text is read as a numeral after white space is taken off its ends. -/
def numberOfText (s : String) : Checked Number :=
  let numeral := Text.trim s.toList
  match Numeral.read? numeral with
  | some n => .ok n
  | none => .fault (.unreadableNumber (String.ofList numeral))

def asNumber : Datum → Checked Number
  | number n => .ok n
  | bool b => .ok (.int (if b then 1 else 0))
  | text s => numberOfText s
  | _ => .faulty [.notInteger, .notNumber]

end Datum

end WhereClause
