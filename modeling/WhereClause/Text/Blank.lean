import WhereClause.Text.Range

/-! # White space -/

namespace WhereClause.Text

def blankRanges : List (Nat × Nat) :=
  [(0x9, 0xD), (0x1C, 0x20), (0x85, 0x85), (0xA0, 0xA0), (0x1680, 0x1680), (0x2000, 0x200A),
   (0x2028, 0x2029), (0x202F, 0x202F), (0x205F, 0x205F), (0x3000, 0x3000)]

def isBlank (c : Char) : Bool := inRanges blankRanges c.toNat

theorem isBlank_space : isBlank ' ' = true := by decide

/-! ## The ends of a text -/

def dropEndBlanks (cs : List Char) : List Char := (cs.reverse.dropWhile isBlank).reverse

/-- The text without the white space at its two ends. -/
def trim (cs : List Char) : List Char := dropEndBlanks (cs.dropWhile isBlank)

/-! ## Words -/

/-- The pieces between the characters at which the text breaks. Some are empty when two of those touch
each other, or one touches an end. -/
def pieces (isBreak : Char → Bool) : List Char → List (List Char)
  | [] => [[]]
  | c :: cs =>
    if isBreak c then [] :: pieces isBreak cs
    else match pieces isBreak cs with
      | [] => [[c]]
      | piece :: rest => (c :: piece) :: rest

def words (cs : List Char) : List (List Char) := (pieces isBlank cs).filter fun piece => !piece.isEmpty

/-- The words with one space between neighbours. -/
def joinWords : List (List Char) → List Char
  | [] => []
  | [word] => word
  | word :: rest => word ++ ' ' :: joinWords rest

theorem pieces_ne_nil (isBreak : Char → Bool) (cs : List Char) : pieces isBreak cs ≠ [] := by
  cases cs with
  | nil => simp [pieces]
  | cons c cs =>
    unfold pieces
    split
    · simp
    · split <;> simp

theorem pieces_not_break (isBreak : Char → Bool) (cs : List Char) :
    ∀ piece ∈ pieces isBreak cs, ∀ c ∈ piece, isBreak c = false := by
  induction cs with
  | nil => simp [pieces]
  | cons c cs ih =>
    unfold pieces
    split
    · simpa using ih
    · rename_i hc
      split
      · simpa using hc
      · rename_i piece rest hp
        rw [hp] at ih
        simp only [List.forall_mem_cons] at ih ⊢
        exact ⟨⟨by simpa using hc, ih.1⟩, ih.2⟩

theorem words_not_blank (cs : List Char) : ∀ word ∈ words cs, ∀ c ∈ word, isBlank c = false :=
  fun word hw => pieces_not_break isBlank cs word (List.mem_filter.mp hw).1

theorem words_ne_nil (cs : List Char) : ∀ word ∈ words cs, word ≠ [] := by
  intro word hw
  have := (List.mem_filter.mp hw).2
  simpa using this

end WhereClause.Text
