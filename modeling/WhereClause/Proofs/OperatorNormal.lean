import WhereClause.Expr.Operator
import WhereClause.Proofs.UpperCase

/-! # The normal form of an operator is kept

The words of a normal form are those that it was joined from, and their characters are in upper case.
-/

namespace WhereClause.Text

/-! ## Words joined and taken apart -/

theorem pieces_append_of_forall {isBreak : Char → Bool} {front : List Char}
    (h : ∀ c ∈ front, isBreak c = false) {cs piece : List Char} {rest : List (List Char)}
    (hp : pieces isBreak cs = piece :: rest) : pieces isBreak (front ++ cs) = (front ++ piece) :: rest := by
  induction front with
  | nil => exact hp
  | cons c front ih =>
    rw [List.forall_mem_cons] at h
    rw [List.cons_append, pieces, if_neg (by simp [h.1]), ih h.2]
    rfl

theorem pieces_append_break {isBreak : Char → Bool} (front : List Char) {b : Char} (hb : isBreak b = true)
    (rest : List Char) : pieces isBreak (front ++ b :: rest) = pieces isBreak front ++ pieces isBreak rest := by
  induction front with
  | nil =>
    change pieces isBreak (b :: rest) = [] :: pieces isBreak rest
    rw [pieces, if_pos hb]
  | cons c front ih =>
    rw [List.cons_append, pieces, pieces, ih]
    obtain ⟨piece, others, hp⟩ := List.exists_cons_of_ne_nil (pieces_ne_nil isBreak front)
    rw [hp]
    split <;> rfl

/-- Neither empty nor broken by white space. -/
def IsWord (word : List Char) : Prop := word ≠ [] ∧ ∀ c ∈ word, isBlank c = false

theorem isWord_of_mem_words {cs word : List Char} (h : word ∈ words cs) : IsWord word :=
  ⟨words_ne_nil cs word h, words_not_blank cs word h⟩

theorem words_append_blank (front : List Char) {b : Char} (hb : isBlank b = true) (rest : List Char) :
    words (front ++ b :: rest) = words front ++ words rest := by
  unfold words
  rw [pieces_append_break front hb, List.filter_append]

theorem words_of_isWord {word : List Char} (h : IsWord word) : words word = [word] := by
  have hempty : pieces isBlank [] = [[]] := rfl
  have hp := pieces_append_of_forall h.2 hempty
  rw [List.append_nil] at hp
  rw [words, hp, List.filter_cons_of_pos (by simpa using h.1)]
  rfl

theorem words_joinWords {ws : List (List Char)} (h : ∀ word ∈ ws, IsWord word) :
    words (joinWords ws) = ws := by
  induction ws with
  | nil => rfl
  | cons word rest ih =>
    rw [List.forall_mem_cons] at h
    cases rest with
    | nil => exact words_of_isWord h.1
    | cons next rest =>
      have hjoin : joinWords (word :: next :: rest) = word ++ ' ' :: joinWords (next :: rest) := rfl
      rw [hjoin, words_append_blank word isBlank_space, words_of_isWord h.1, ih h.2]
      rfl

theorem mem_joinWords {ws : List (List Char)} {c : Char} (h : c ∈ joinWords ws) :
    c = ' ' ∨ ∃ word ∈ ws, c ∈ word := by
  induction ws with
  | nil => cases h
  | cons word rest ih =>
    cases rest with
    | nil => exact .inr ⟨word, List.mem_singleton_self _, h⟩
    | cons next rest =>
      have hjoin : joinWords (word :: next :: rest) = word ++ ' ' :: joinWords (next :: rest) := rfl
      rw [hjoin, List.mem_append, List.mem_cons] at h
      rcases h with hc | rfl | hc
      · exact .inr ⟨word, List.mem_cons_self .., hc⟩
      · exact .inl rfl
      · rcases ih hc with hspace | ⟨w, hw, hcw⟩
        · exact .inl hspace
        · exact .inr ⟨w, List.mem_cons_of_mem _ hw, hcw⟩

theorem mem_of_mem_pieces {isBreak : Char → Bool} {cs piece : List Char} {c : Char}
    (hp : piece ∈ pieces isBreak cs) (hc : c ∈ piece) : c ∈ cs := by
  induction cs generalizing piece with
  | nil =>
    rw [pieces, List.mem_singleton] at hp
    rw [hp] at hc
    exact hc
  | cons d cs ih =>
    rw [pieces] at hp
    split at hp
    · rcases List.mem_cons.mp hp with rfl | hp
      · cases hc
      · exact List.mem_cons_of_mem _ (ih hp hc)
    -- The character starts the first piece of the others.
    · split at hp
      · rw [List.mem_singleton] at hp
        rw [hp] at hc
        exact List.mem_cons.mpr (.inl (List.mem_singleton.mp hc))
      · rename_i first rest hpieces
        rcases List.mem_cons.mp hp with rfl | hp
        · rcases List.mem_cons.mp hc with rfl | hc
          · exact List.mem_cons_self ..
          · exact List.mem_cons_of_mem _ (ih (by simp [hpieces]) hc)
        · exact List.mem_cons_of_mem _ (ih (by simp [hpieces, hp]) hc)

end WhereClause.Text

namespace WhereClause.Operator

open Text

theorem upper_normalChars (cs : List Char) : upper (normalChars cs) = normalChars cs := by
  apply upper_of_forall
  intro c hc
  rcases mem_joinWords hc with rfl | ⟨word, hword, hmem⟩
  · decide
  · exact upperChar_of_mem_upper (mem_of_mem_pieces (List.mem_filter.mp hword).1 hmem)

theorem normalChars_normalChars (cs : List Char) : normalChars (normalChars cs) = normalChars cs := by
  have hwords : words (normalChars cs) = words (upper cs) :=
    words_joinWords fun word h => isWord_of_mem_words h
  rw [normalChars, upper_normalChars, hwords]
  rfl

theorem normal_normal (operator : String) : normal (normal operator) = normal operator := by
  unfold normal
  rw [String.toList_ofList, normalChars_normalChars]

end WhereClause.Operator
