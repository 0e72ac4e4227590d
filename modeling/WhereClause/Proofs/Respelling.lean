import Mathlib.Data.List.Chain
import WhereClause.Proofs.RoundTrip

/-! # Operators spelt in other ways

The case of ASCII letters and the amount of white space do not count in an operator. Its normal form has the words
of the operator in upper case, with single spaces between them.
-/

namespace WhereClause.Text

/-! ## Upper case keeps words apart -/

def blankCodes : List Nat := blankRanges.flatMap fun range => List.range' range.1 (range.2 + 1 - range.1)

theorem mem_blankCodes {c : Char} (h : isBlank c = true) : c.toNat ∈ blankCodes := by
  obtain ⟨range, hrange, hlow, hhigh⟩ := (inRanges_iff _ _).mp h
  refine List.mem_flatMap.mpr ⟨range, hrange, List.mem_range'.mpr ⟨c.toNat - range.1, ?_, ?_⟩⟩
  · omega
  · omega

theorem codeMask_blank_changed : codeMask blankCodes &&& codeMask changedCodes = 0 := by
  decide +kernel

theorem codeMask_blank_image : codeMask blankCodes &&& codeMask imageCodes = 0 := by
  decide +kernel

theorem expansions_ne_nil : ∀ expansion ∈ caseExpansions, expansion.2 ≠ [] := by
  decide

theorem upperChar_of_isBlank {c : Char} (h : isBlank c = true) : upperChar c = [c] := by
  unfold upperChar
  rw [upperCode_of_not_mem (not_mem_of_codeMask codeMask_blank_changed (mem_blankCodes h))]
  simp

theorem not_isBlank_of_mem_upperChar {c d : Char} (h : isBlank c = false) (hd : d ∈ upperChar c) :
    isBlank d = false := by
  obtain ⟨code, hcode, rfl⟩ := List.mem_map.mp hd
  rcases upperCode_cases c.toNat with hsame | himages
  · rw [hsame, List.mem_singleton] at hcode
    rwa [hcode, Char.ofNat_toNat]
  · rw [← Bool.not_eq_true]
    intro hblank
    have hmem := mem_blankCodes hblank
    rw [toNat_ofNat_of_mem hcode] at hmem
    exact not_mem_of_codeMask codeMask_blank_image hmem (himages code hcode)

theorem upperChar_ne_nil (c : Char) : upperChar c ≠ [] := by
  unfold upperChar upperCode
  cases hexpansion : caseExpansions.lookup c.toNat with
  | some codes =>
    obtain ⟨front, back, hsplit, -⟩ := List.lookup_eq_some_iff.mp hexpansion
    have hne := expansions_ne_nil (c.toNat, codes) (by rw [hsplit]; simp)
    simpa using hne
  | none => cases caseRuns.findSome? fun run => run.image? c.toNat <;> simp

theorem upper_cons (c : Char) (cs : List Char) : upper (c :: cs) = upperChar c ++ upper cs := rfl

theorem upper_isEmpty (cs : List Char) : (upper cs).isEmpty = cs.isEmpty := by
  cases cs with
  | nil => rfl
  | cons c cs => simp [upper_cons, upperChar_ne_nil c]

theorem upper_of_blanks {cs : List Char} (h : ∀ c ∈ cs, isBlank c = true) : upper cs = cs :=
  upper_of_forall fun c hc => upperChar_of_isBlank (h c hc)

theorem pieces_upper (cs : List Char) : pieces isBlank (upper cs) = (pieces isBlank cs).map upper := by
  induction cs with
  | nil => rfl
  | cons c cs ih =>
    rw [upper_cons]
    cases hc : isBlank c with
    | true => rw [upperChar_of_isBlank hc, List.singleton_append, pieces, pieces, if_pos hc, if_pos hc, ih]; rfl
    | false =>
      obtain ⟨piece, rest, hp⟩ := List.exists_cons_of_ne_nil (pieces_ne_nil isBlank cs)
      rw [hp, List.map_cons] at ih
      rw [pieces_append_of_forall (fun d hd => not_isBlank_of_mem_upperChar hc hd) ih]
      rw [pieces, if_neg (by simp [hc]), hp]
      rfl

theorem words_upper (cs : List Char) : words (upper cs) = (words cs).map upper := by
  unfold words
  rw [pieces_upper, List.filter_map]
  simp [Function.comp_def, upper_isEmpty]

/-! ## White space between words -/

/-- White space is single spaces between other characters. -/
structure Spaced (cs : List Char) : Prop where
  space : ∀ c ∈ cs, isBlank c = true → c = ' '
  first : ∀ c ∈ cs.head?, isBlank c = false
  last : ∀ c ∈ cs.getLast?, isBlank c = false
  apart : cs.IsChain fun c d => ¬ (isBlank c = true ∧ isBlank d = true)

theorem IsWord.spaced {word : List Char} (h : IsWord word) : Spaced word where
  space c hc hb := by simp [h.2 c hc] at hb
  first c hc := h.2 c (List.mem_of_mem_head? hc)
  last c hc := h.2 c (List.mem_of_mem_getLast? hc)
  apart := by
    apply List.Pairwise.isChain
    apply List.pairwise_of_forall_mem_list
    intro c hc d _ hb
    simp [h.2 c hc] at hb

theorem joinWords_ne_nil {word : List Char} (h : IsWord word) (rest : List (List Char)) :
    joinWords (word :: rest) ≠ [] := by
  cases rest <;> simp [joinWords, h.1]

theorem spaced_joinWords {ws : List (List Char)} (h : ∀ word ∈ ws, IsWord word) : Spaced (joinWords ws) := by
  induction ws with
  | nil => exact ⟨by simp [joinWords], by simp [joinWords], by simp [joinWords], .nil⟩
  | cons word rest ih =>
    rw [List.forall_mem_cons] at h
    have hword := h.1.spaced
    cases rest with
    | nil => exact hword
    | cons next rest =>
      have hrest := ih h.2
      have hne := joinWords_ne_nil (List.forall_mem_cons.mp h.2).1 rest
      have hjoin : joinWords (word :: next :: rest) = word ++ ' ' :: joinWords (next :: rest) := rfl
      rw [hjoin]
      refine ⟨?_, ?_, ?_, ?_⟩
      · intro c hc hb
        rw [List.mem_append, List.mem_cons] at hc
        rcases hc with hc | hc | hc
        · exact hword.space c hc hb
        · exact hc
        · exact hrest.space c hc hb
      · rw [List.head?_append_of_ne_nil _ h.1.1]
        exact hword.first
      · rw [List.getLast?_append_of_ne_nil _ (List.cons_ne_nil _ _), List.getLast?_cons_of_ne_nil hne]
        exact hrest.last
      · rw [List.isChain_append, List.isChain_cons]
        refine ⟨hword.apart, ⟨?_, hrest.apart⟩, ?_⟩
        · intro c hc hb
          simp [hrest.first c hc] at hb
        · intro c hc d _ hb
          simp [hword.last c hc] at hb

theorem words_append_blanks (front : List Char) {blanks : List Char} (hne : blanks ≠ [])
    (h : ∀ c ∈ blanks, isBlank c = true) (back : List Char) :
    words (front ++ blanks ++ back) = words front ++ words back := by
  induction blanks generalizing front with
  | nil => exact absurd rfl hne
  | cons b blanks ih =>
    rw [List.forall_mem_cons] at h
    rw [List.append_assoc, List.cons_append, words_append_blank front h.1]
    congr 1
    cases blanks with
    | nil => rfl
    | cons c blanks => exact ih [] (List.cons_ne_nil _ _) h.2

theorem words_between_blanks {before after : List Char} (hb : ∀ c ∈ before, isBlank c = true)
    (ha : ∀ c ∈ after, isBlank c = true) (cs : List Char) : words (before ++ cs ++ after) = words cs := by
  have hfront : words (before ++ cs) = words cs := by
    cases before with
    | nil => rfl
    | cons b before => exact words_append_blanks [] (List.cons_ne_nil _ _) hb cs
  cases after with
  | nil => rw [List.append_nil, hfront]
  | cons a after =>
    have hback := words_append_blanks (before ++ cs) (List.cons_ne_nil _ _) ha []
    rw [List.append_nil] at hback
    rw [hback, hfront]
    exact List.append_nil _

/-! ## The case of ASCII letters -/

theorem upperCode_of_letter : ∀ code ∈ List.range' 65 26, upperCode (code + 32) = upperCode code := by
  decide +kernel

theorem upperChar_toLower (c : Char) : upperChar c.toLower = upperChar c := by
  unfold Char.toLower
  split
  · rename_i h
    obtain ⟨hlow, hhigh⟩ := h
    have hmem : c.toNat ∈ List.range' 65 26 := List.mem_range'_1.mpr ⟨hlow, Nat.lt_succ_of_le hhigh⟩
    have hcode : (c.val + ('a'.val - 'A'.val)).toNat = c.toNat + 32 := by
      have hlt : c.toNat < 91 := Nat.lt_succ_of_le hhigh
      rw [UInt32.toNat_add]
      exact Nat.mod_eq_of_lt (by change c.toNat + 32 < 2 ^ 32; omega)
    unfold upperChar
    rw [← upperCode_of_letter _ hmem, ← hcode]
    rfl
  · rfl

theorem upper_lowerAscii (cs : List Char) : upper (lowerAscii cs) = upper cs := by
  unfold upper lowerAscii
  rw [List.flatMap_map]
  exact List.flatMap_congr fun c _ => upperChar_toLower c

end WhereClause.Text

namespace WhereClause

/-- One spelling is another one but for the case of ASCII letters and the amount of white space. -/
inductive Respelt : List Char → List Char → Prop
  | case {cs ds : List Char} (h : Text.lowerAscii cs = Text.lowerAscii ds) : Respelt cs ds
  | gap (front back : List Char) {old new : List Char} (hold : old ≠ []) (hnew : new ≠ [])
    (ho : ∀ c ∈ old, Text.isBlank c = true) (hn : ∀ c ∈ new, Text.isBlank c = true) :
    Respelt (front ++ old ++ back) (front ++ new ++ back)
  | ends (before after : List Char) (hb : ∀ c ∈ before, Text.isBlank c = true)
    (ha : ∀ c ∈ after, Text.isBlank c = true) (cs : List Char) : Respelt cs (before ++ cs ++ after)
  | symm {cs ds : List Char} (h : Respelt cs ds) : Respelt ds cs
  | trans {cs ds es : List Char} (h : Respelt cs ds) (h' : Respelt ds es) : Respelt cs es

theorem Respelt.words_upper {cs ds : List Char} (h : Respelt cs ds) :
    Text.words (Text.upper cs) = Text.words (Text.upper ds) := by
  induction h with
  | case h => rw [← Text.upper_lowerAscii, h, Text.upper_lowerAscii]
  | gap front back hold hnew ho hn =>
    simp only [Text.upper_append, Text.upper_of_blanks ho, Text.upper_of_blanks hn]
    rw [Text.words_append_blanks _ hold ho, Text.words_append_blanks _ hnew hn]
  | ends before after hb ha cs =>
    simp only [Text.upper_append, Text.upper_of_blanks hb, Text.upper_of_blanks ha]
    rw [Text.words_between_blanks hb ha]
  | symm _ ih => exact ih.symm
  | trans _ _ ih ih' => exact ih.trans ih'

namespace Operator

theorem normal_of_respelt {s t : String} (h : Respelt s.toList t.toList) : normal t = normal s := by
  unfold normal normalChars
  rw [h.words_upper]

theorem spaced_normal (s : String) : Text.Spaced (normal s).toList := by
  rw [normal, String.toList_ofList]
  exact Text.spaced_joinWords fun word h => Text.isWord_of_mem_words h

theorem words_normal (s : String) :
    Text.words (normal s).toList = (Text.words s.toList).map Text.upper := by
  rw [normal, String.toList_ofList, ← Text.words_upper]
  exact Text.words_joinWords fun word h => Text.isWord_of_mem_words h

theorem stored_normal {entries : List (String × Datum)} {s : String} {e : Expr}
    (ho : entries.lookup "operator" = some (.text s)) (h : Expr.ofFields .binary entries = .ok e) :
    ∃ left right, e = .binary (normal s) left right := by
  have hf : Form.binary.tag? = some "binary_expr" := rfl
  have hnode := node_of_construct hf (ofFields_eq_ok_iff.mp h)
  obtain ⟨operator, left, right, hop, -, -, rfl⟩ := (Datum.node_binary_eq_ok_iff rfl).mp hnode
  change entries.lookup "operator" = some (.text operator) at hop
  rw [ho] at hop
  cases hop
  exact ⟨left, right, rfl⟩

/-- What a binary node stores for an operator is its normal form. The normal form has the words of the operator in
upper case with single spaces between them, it is its own normal form, and other spellings have the same. -/
theorem stored_form_is_canonical (s : String) :
    (∀ entries e, entries.lookup "operator" = some (Datum.text s) → Expr.ofFields .binary entries = .ok e →
      ∃ left right, e = .binary (normal s) left right) ∧
    Text.words (normal s).toList = (Text.words s.toList).map Text.upper ∧
    Text.Spaced (normal s).toList ∧ normal (normal s) = normal s ∧
    ∀ t : String, Respelt s.toList t.toList → normal t = normal s :=
  ⟨fun _ _ => stored_normal, words_normal s, spaced_normal s, normal_normal s, fun _ => normal_of_respelt⟩

theorem stored_form_is_canonical_of_not_in :
    let entries : List (String × Datum) := [("operator", .text " not\tin"),
      ("left", .expr (.column "a" none)), ("right", .expr (.list []))]
    (∃ left right, Expr.ofFields .binary entries = .ok (.binary "NOT IN" left right)) ∧
      normal "NOT  In" = "NOT IN" := by
  intro entries
  obtain ⟨hstored, -, -, -, hother⟩ := stored_form_is_canonical " not\tin"
  have hnormal : normal " not\tin" = "NOT IN" := by decide +kernel
  have hcase : Respelt " not\tin".toList " NOT\tIn".toList := .case (by decide)
  have htab : Text.isBlank '\t' = true := by decide
  have hblank : ∀ c ∈ [' '], Text.isBlank c = true := List.forall_mem_singleton.mpr Text.isBlank_space
  have hgap : Respelt " NOT\tIn".toList " NOT  In".toList :=
    .gap " NOT".toList "In".toList (List.cons_ne_nil _ _) (List.cons_ne_nil _ _)
      (List.forall_mem_singleton.mpr htab) (List.forall_mem_cons.mpr ⟨Text.isBlank_space, hblank⟩)
  have hends : Respelt "NOT  In".toList " NOT  In".toList :=
    .ends [' '] [] hblank (List.forall_mem_nil _) _
  constructor
  · obtain ⟨e, he⟩ : ∃ e, Expr.ofFields .binary entries = .ok e := ⟨_, rfl⟩
    obtain ⟨left, right, rfl⟩ := hstored entries e rfl he
    exact ⟨left, right, by rw [he, hnormal]⟩
  · rw [hother "NOT  In" ((hcase.trans hgap).trans hends.symm), hnormal]

end Operator

end WhereClause
