import WhereClause.Number.Basic
import WhereClause.Text.Digit
import WhereClause.Text.Lower

/-! # Numbers read from text

A numeral is read as a whole number if it has that form, and as a double otherwise. Digits of any
script count, and a single `_` may stand between two digits.
-/

namespace WhereClause.Numeral

open Text

/-! ## Runs of digits -/

/-- The digits of a text that is one run of digits. -/
def digitRun? : List Char → Option (List Nat)
  | [] => none
  | [c] => (digit? c).map fun d => [d]
  | c :: '_' :: cs => do
    let d ← digit? c
    let ds ← digitRun? cs
    return d :: ds
  | c :: cs => do
    let d ← digit? c
    let ds ← digitRun? cs
    return d :: ds

/-- A run of digits or nothing at all. -/
def optionalRun? (cs : List Char) : Option (List Nat) := if cs.isEmpty then some [] else digitRun? cs

/-- Takes a sign off. The first part says whether it was a minus. -/
def unsign : List Char → Bool × List Char
  | '-' :: cs => (true, cs)
  | '+' :: cs => (false, cs)
  | cs => (false, cs)

def withSign (negative : Bool) (n : Nat) : Int := if negative then -n else n

/-! ## Whole numbers -/

/-- Longer runs are not read as whole numbers. -/
def maxDigits : Nat := 4300

def int? (cs : List Char) : Option Int := do
  let (negative, body) := unsign cs
  let digits ← digitRun? body
  guard (digits.length ≤ maxDigits)
  return withSign negative (positional digits)

/-! ## Doubles -/

/-- The text before and after the first character with the property, if there is one. -/
def cut (p : Char → Bool) (cs : List Char) : List Char × Option (List Char) :=
  (cs.takeWhile (!p ·), (cs.dropWhile (!p ·)).tail?)

def exponent? : Option (List Char) → Option Int
  | none => some 0
  | some cs => do
    let (negative, body) := unsign cs
    let digits ← digitRun? body
    return withSign negative (positional digits)

/-- Digits with an optional point, at least one digit beside it, and an optional exponent. -/
def decimal? (negative : Bool) (cs : List Char) : Option Double := do
  let (mantissa, power) := cut (fun c => c == 'e' || c == 'E') cs
  let (wholeText, fractionText) := cut (· == '.') mantissa
  let whole ← optionalRun? wholeText
  let fraction ← optionalRun? (fractionText.getD [])
  guard (!(whole ++ fraction).isEmpty)
  let exponent ← exponent? power
  return Double.ofDecimal negative (positional (whole ++ fraction)) (exponent - fraction.length)

def double? (cs : List Char) : Option Double :=
  let (negative, body) := unsign cs
  let word := lowerAscii body
  if word = ['n', 'a', 'n'] then some .nan
  else if word = ['i', 'n', 'f'] ∨ word = ['i', 'n', 'f', 'i', 'n', 'i', 't', 'y'] then
    some (.infinity negative)
  else decimal? negative body

/-- Reads a text that has no white space at its ends. -/
def read? (cs : List Char) : Option Number :=
  match int? cs with
  | some n => some (.int n)
  | none => (double? cs).map .double

end WhereClause.Numeral
