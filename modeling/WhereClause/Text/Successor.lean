/-! # The end of a prefix range

Texts are ordered by code point. The texts that start with `p` are those from `p` up to, and
without, the successor of `p`.
-/

namespace WhereClause.Text

def maxCode : Nat := 0x10FFFF

/-- The next code point that is a character: the surrogates are skipped. -/
def nextChar (c : Char) : Char :=
  let code := c.toNat + 1
  Char.ofNat (if 0xD800 ≤ code ∧ code ≤ 0xDFFF then 0xE000 else code)

/-- Raises the last character that can be raised and drops what follows it. -/
def successorChars? : List Char → Option (List Char)
  | [] => none
  | c :: cs =>
    match successorChars? cs with
    | some raised => some (c :: raised)
    | none => if c.toNat = maxCode then none else some [nextChar c]

/-- The least text above every text that starts with `start`, if there is one. -/
def successor? (start : String) : Option String := (successorChars? start.toList).map String.ofList

theorem successorChars?_eq_none_iff (cs : List Char) :
    successorChars? cs = none ↔ ∀ c ∈ cs, c.toNat = maxCode := by
  induction cs with
  | nil => simp [successorChars?]
  | cons c cs ih =>
    unfold successorChars?
    cases h : successorChars? cs with
    | some raised => simp_all
    | none =>
      rw [h] at ih
      have hall := ih.mp rfl
      by_cases hc : c.toNat = maxCode <;> simp [hc]
      exact hall

end WhereClause.Text
