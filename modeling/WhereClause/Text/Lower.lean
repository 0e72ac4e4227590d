/-! # Lower case of ASCII letters -/

namespace WhereClause.Text

/-- Any character but an ASCII capital is kept. -/
def lowerAscii (cs : List Char) : List Char := cs.map Char.toLower

end WhereClause.Text
