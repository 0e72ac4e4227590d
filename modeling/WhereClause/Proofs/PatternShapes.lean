import Mathlib.Data.List.Basic
import WhereClause.Pattern

/-! # The shape of a pattern and what the pattern matches

A matcher gives a wildcard all the ways to take characters, wherever it stands. Where wildcards stand at the two
ends only, the shape of the pattern tells the same by looking at the ends.
-/

namespace WhereClause.Pattern

/-! ## The matcher -/

/-- A wildcard takes no character, or takes one and goes on. Any other character takes itself. -/
def matchChars : List Char → List Char → Bool
  | [], cs => cs.isEmpty
  | p :: ps, [] => p == wildcard && matchChars ps []
  | p :: ps, c :: cs =>
    if p = wildcard then matchChars ps (c :: cs) || matchChars (p :: ps) cs
    else p == c && matchChars ps cs
termination_by ps cs => ps.length + cs.length

/-- The text matches the pattern. -/
def Matches (pattern text : String) : Prop := matchChars pattern.toList text.toList = true

theorem matchChars_nil {cs : List Char} : matchChars [] cs = true ↔ cs = [] := by
  rw [matchChars, List.isEmpty_iff]

theorem matchChars_wildcard {ps cs : List Char} :
    matchChars (wildcard :: ps) cs = true ↔ ∃ rest, rest <:+ cs ∧ matchChars ps rest = true := by
  induction cs with
  | nil => simp [matchChars]
  | cons c cs ih =>
    rw [matchChars, if_pos rfl, Bool.or_eq_true, ih]
    constructor
    · rintro (h | ⟨rest, hrest, h⟩)
      · exact ⟨c :: cs, List.suffix_refl _, h⟩
      · exact ⟨rest, hrest.trans (List.suffix_cons c cs), h⟩
    · rintro ⟨rest, hrest, h⟩
      rcases List.suffix_cons_iff.mp hrest with rfl | hrest
      · exact .inl h
      · exact .inr ⟨rest, hrest, h⟩

theorem matchChars_append {front : List Char} (h : wildcard ∉ front) {ps cs : List Char} :
    matchChars (front ++ ps) cs = true ↔ ∃ rest, cs = front ++ rest ∧ matchChars ps rest = true := by
  induction front generalizing cs with
  | nil => simp
  | cons p front ih =>
    rw [List.mem_cons, not_or] at h
    have hp : p ≠ wildcard := Ne.symm h.1
    cases cs with
    | nil => simp [matchChars, hp]
    | cons c cs =>
      rw [List.cons_append, matchChars, if_neg hp, Bool.and_eq_true, ih h.2, beq_iff_eq]
      simp only [List.cons_append, List.cons.injEq, eq_comm (a := c)]
      constructor
      · rintro ⟨hc, rest, hcs, hrest⟩
        exact ⟨rest, ⟨hc, hcs⟩, hrest⟩
      · rintro ⟨rest, ⟨hc, hcs⟩, hrest⟩
        exact ⟨hc, rest, hcs, hrest⟩

theorem matchChars_literal {front cs : List Char} (h : wildcard ∉ front) :
    matchChars front cs = true ↔ cs = front := by
  have happend : matchChars (front ++ []) cs = true ↔ ∃ rest, cs = front ++ rest ∧ matchChars [] rest = true :=
    matchChars_append h
  rw [List.append_nil] at happend
  simp [happend, matchChars_nil]

theorem matchChars_before_wildcard {front cs : List Char} (h : wildcard ∉ front) :
    matchChars (front ++ [wildcard]) cs = true ↔ front <+: cs := by
  rw [matchChars_append h]
  constructor
  · rintro ⟨rest, hcs, -⟩
    exact ⟨rest, hcs.symm⟩
  · rintro ⟨rest, hcs⟩
    exact ⟨rest, hcs.symm, matchChars_wildcard.mpr ⟨[], List.nil_suffix, matchChars_nil.mpr rfl⟩⟩

/-! ## Shapes -/

/-- The pattern that a shape was read from: its text with the wildcards around it. -/
def written : Pattern → String
  | equals t => t
  | beginsWith t => t ++ wildcard.toString
  | endsWith t => wildcard.toString ++ t
  | contains t => wildcard.toString ++ t ++ wildcard.toString

/-- The texts of a shape. -/
def Covers : Pattern → String → Prop
  | equals t, s => s = t
  | beginsWith t, s => t.toList <+: s.toList
  | endsWith t, s => t.toList <:+ s.toList
  | contains t, s => t.toList <:+: s.toList

instance : (shape : Pattern) → (s : String) → Decidable (shape.Covers s)
  | equals t, s => inferInstanceAs (Decidable (s = t))
  | beginsWith t, s => inferInstanceAs (Decidable (t.toList <+: s.toList))
  | endsWith t, s => inferInstanceAs (Decidable (t.toList <:+ s.toList))
  | contains t, s => inferInstanceAs (Decidable (t.toList <:+: s.toList))

theorem matches_written {shape : Pattern} (h : wildcard ∉ shape.text.toList) (s : String) :
    Matches shape.written s ↔ shape.Covers s := by
  cases shape with
  | equals t =>
    rw [Matches, written, Covers, ← String.toList_inj]
    exact matchChars_literal h
  | beginsWith t =>
    have hw : (t ++ wildcard.toString).toList = t.toList ++ [wildcard] := by simp
    rw [Matches, written, hw]
    exact matchChars_before_wildcard h
  | endsWith t =>
    have hw : (wildcard.toString ++ t).toList = wildcard :: t.toList := by simp
    rw [Matches, written, hw, matchChars_wildcard]
    constructor
    · rintro ⟨rest, hrest, hmatch⟩
      rwa [(matchChars_literal h).mp hmatch] at hrest
    · intro hs
      exact ⟨t.toList, hs, (matchChars_literal h).mpr rfl⟩
  | contains t =>
    have hw : (wildcard.toString ++ t ++ wildcard.toString).toList = wildcard :: (t.toList ++ [wildcard]) := by simp
    rw [Matches, written, hw, matchChars_wildcard, Covers, List.infix_iff_prefix_suffix]
    constructor
    · rintro ⟨rest, hrest, hmatch⟩
      exact ⟨rest, (matchChars_before_wildcard h).mp hmatch, hrest⟩
    · rintro ⟨rest, hfront, hrest⟩
      exact ⟨rest, hrest, (matchChars_before_wildcard h).mpr hfront⟩

/-! ## The shape that is read -/

/-- Wildcards stand nowhere between the first character and the last one. -/
def OuterOnly (pattern : String) : Prop := wildcard ∉ pattern.toList.tail.dropLast

instance (pattern : String) : Decidable (OuterOnly pattern) := inferInstanceAs (Decidable (¬ _))

theorem written_ofString (pattern : String) :
    (ofString pattern).written = if pattern = "%" then "%%" else pattern := by
  apply String.toList_inj.mp
  unfold ofString
  by_cases hhead : pattern.toList.head? = some wildcard
  · have hcons := List.cons_head?_tail hhead
    rw [if_pos hhead]
    by_cases hlast : pattern.toList.getLast? = some wildcard
    · rw [if_pos hlast]
      cases htail : pattern.toList.tail with
      | nil =>
        have hp : pattern = "%" := by rw [← String.toList_inj, ← hcons, htail]; rfl
        rw [if_pos hp]
        rfl
      | cons c cs =>
        have hp : pattern ≠ "%" := by rintro rfl; cases htail
        rw [← hcons, htail, List.getLast?_cons_cons] at hlast
        have hrest := List.dropLast_append_getLast? _ hlast
        rw [if_neg hp, ← hcons, htail]
        simp [written, hrest]
    · have hp : pattern ≠ "%" := by rintro rfl; exact hlast rfl
      rw [if_neg hlast, if_neg hp, ← hcons]
      simp [written]
  · have hp : pattern ≠ "%" := by rintro rfl; exact hhead rfl
    rw [if_neg hhead, if_neg hp]
    by_cases hlast : pattern.toList.getLast? = some wildcard
    · rw [if_pos hlast]
      simp [written, List.dropLast_append_getLast? _ hlast]
    · rw [if_neg hlast]
      rfl

theorem mem_dropLast_or_last {c : Char} {cs : List Char} (h : c ∈ cs) : c ∈ cs.dropLast ∨ cs.getLast? = some c := by
  rcases List.eq_nil_or_concat cs with rfl | ⟨front, last, rfl⟩
  · cases h
  · rw [List.concat_eq_append] at h ⊢
    simpa [eq_comm] using h

theorem mem_middle {c : Char} {cs : List Char} (h : c ∈ cs.dropLast) (hhead : cs.head? ≠ some c) :
    c ∈ cs.tail.dropLast := by
  cases cs with
  | nil => cases h
  | cons d ds =>
    cases ds with
    | nil => cases h
    | cons e es =>
      rw [List.dropLast_cons_cons, List.mem_cons] at h
      exact h.resolve_left fun hc => hhead (congrArg some hc.symm)

theorem not_mem_text {pattern : String} (h : OuterOnly pattern) :
    wildcard ∉ (ofString pattern).text.toList := by
  unfold ofString
  by_cases hhead : pattern.toList.head? = some wildcard
  · rw [if_pos hhead]
    by_cases hlast : pattern.toList.getLast? = some wildcard
    · rw [if_pos hlast, text, String.toList_ofList]
      exact h
    · rw [if_neg hlast]
      intro hmem
      rw [text, String.toList_ofList] at hmem
      rcases mem_dropLast_or_last hmem with hmem | htail
      · exact h hmem
      · exact hlast (by rw [← List.cons_head?_tail hhead, List.getLast?_cons, htail]; rfl)
  · rw [if_neg hhead]
    by_cases hlast : pattern.toList.getLast? = some wildcard
    · rw [if_pos hlast]
      intro hmem
      rw [text, String.toList_ofList] at hmem
      exact h (mem_middle hmem hhead)
    · rw [if_neg hlast]
      intro hmem
      rcases mem_dropLast_or_last hmem with hmem | hmem
      · exact h (mem_middle hmem hhead)
      · exact hlast hmem

theorem matches_percent (s : String) : Matches "%" s ↔ (ofString "%").Covers s := by
  have hshape : ofString "%" = contains "" := rfl
  rw [hshape]
  exact iff_of_true (matchChars_wildcard.mpr ⟨[], List.nil_suffix, matchChars_nil.mpr rfl⟩) List.nil_infix

theorem matches_iff_covers {pattern : String} (h : OuterOnly pattern) (s : String) :
    Matches pattern s ↔ (ofString pattern).Covers s := by
  by_cases hp : pattern = "%"
  · rw [hp]
    exact matches_percent s
  · have hwritten := written_ofString pattern
    rw [if_neg hp] at hwritten
    rw [← matches_written (not_mem_text h), hwritten]

/-- A pattern read from a text has one place filled, the one of its kind. Where wildcards stand at the ends only, its
shape covers the texts that the pattern matches. Written again it is the pattern, but a lone wildcard is
written twice. -/
theorem shape_agrees_with_matches (pattern : String) :
    (ofString pattern).parts.places.filter (·.2.isSome) =
        [((ofString pattern).parts.kind, some (ofString pattern).text)] ∧
      (OuterOnly pattern → ∀ s, Matches pattern s ↔ (ofString pattern).Covers s) ∧
      (ofString pattern).written = if pattern = "%" then "%%" else pattern := by
  refine ⟨?_, matches_iff_covers, written_ofString pattern⟩
  rw [kind_parts]
  exact places_parts _

theorem shape_agrees_with_matches_around_ab :
    OuterOnly "%ab%" ∧ OuterOnly "%ab" ∧ Matches "%ab%" "xabx" ∧ ¬ Matches "%ab" "xabx" := by
  obtain ⟨-, hboth, -⟩ := shape_agrees_with_matches "%ab%"
  obtain ⟨-, hfirst, -⟩ := shape_agrees_with_matches "%ab"
  have houter : OuterOnly "%ab%" := by decide
  have houter' : OuterOnly "%ab" := by decide
  refine ⟨houter, houter', (hboth houter "xabx").mpr ⟨['x'], ['x'], rfl⟩, ?_⟩
  rw [hfirst houter' "xabx"]
  decide

/-- A wildcard inside counts for the matcher alone. -/
example : ofString "a%b" = .equals "a%b" ∧ Matches "a%b" "axb" := by
  refine ⟨rfl, ?_⟩
  simp [Matches, matchChars, wildcard]

end WhereClause.Pattern
