import WhereClause.Text.Blank
import WhereClause.Text.Upper

/-! # The normal form of an operator

Upper case, one space between words, none at the ends.
-/

namespace WhereClause.Operator

def normalChars (cs : List Char) : List Char := Text.joinWords (Text.words (Text.upper cs))

def normal (operator : String) : String := String.ofList (normalChars operator.toList)

end WhereClause.Operator
