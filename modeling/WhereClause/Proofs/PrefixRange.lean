import WhereClause.Text.Successor

/-! # The range of a prefix

The texts that start with `p` are those from `p` up to the successor of `p`, which is the least text
above them. Where there is no successor, nothing is above them.
-/

namespace WhereClause.Text

/-! ## Characters -/

theorem char_lt_iff (c d : Char) : c < d ↔ c.toNat < d.toNat := Iff.rfl

theorem char_toNat_cases (c : Char) :
    c.toNat < 0xD800 ∨ (0xDFFF < c.toNat ∧ c.toNat ≤ maxCode) := by
  have h := c.valid
  simp only [UInt32.isValidChar, Nat.isValidChar, maxCode, Char.toNat] at h ⊢
  omega

theorem toNat_ofNat_of_lt {n : Nat} (h : n < 0xD800 ∨ (0xDFFF < n ∧ n < 0x110000)) :
    (Char.ofNat n).toNat = n := by
  rw [Char.ofNat, dif_pos h]
  rfl

theorem toNat_nextChar {c : Char} (h : c.toNat ≠ maxCode) :
    (nextChar c).toNat = if c.toNat = 0xD7FF then 0xE000 else c.toNat + 1 := by
  have hc := char_toNat_cases c
  simp only [maxCode] at h hc
  rw [nextChar, toNat_ofNat_of_lt]
  · split <;> split <;> omega
  · split <;> omega

theorem lt_nextChar_iff {c : Char} (h : c.toNat ≠ maxCode) (d : Char) : d < nextChar c ↔ d ≤ c := by
  have hd := char_toNat_cases d
  rw [← Char.not_lt, char_lt_iff, char_lt_iff, toNat_nextChar h]
  split <;> omega

theorem not_maxCode_lt {c : Char} (h : c.toNat = maxCode) (d : Char) : ¬ c < d := by
  have hd := char_toNat_cases d
  rw [char_lt_iff]
  simp only [maxCode] at h hd
  omega

/-! ## Rows of characters -/

theorem not_cons_lt_cons_iff {c d : Char} {cs ds : List Char} :
    ¬ d :: ds < c :: cs ↔ c < d ∨ c = d ∧ ¬ ds < cs := by
  rw [List.cons_lt_cons_iff, not_or, not_and]
  constructor
  · rintro ⟨hdc, hrest⟩
    by_cases hcd : c = d
    · exact .inr ⟨hcd, hrest hcd.symm⟩
    · exact .inl (Std.lt_of_le_of_ne (Char.not_lt.mp hdc) hcd)
  · rintro (hcd | ⟨rfl, hrest⟩)
    · exact ⟨Char.lt_asymm hcd, fun he => absurd (he ▸ hcd) (Char.lt_irrefl _)⟩
    · exact ⟨Char.lt_irrefl _, fun _ => hrest⟩

theorem prefix_iff_not_lt_of_maxCode {cs : List Char} (h : ∀ c ∈ cs, c.toNat = maxCode)
    (ds : List Char) : cs <+: ds ↔ ¬ ds < cs := by
  induction cs generalizing ds with
  | nil => simp
  | cons c cs ih =>
    rw [List.forall_mem_cons] at h
    cases ds with
    | nil => simp
    | cons d ds =>
      rw [List.cons_prefix_cons, not_cons_lt_cons_iff, ih h.2]
      have hcd := not_maxCode_lt h.1 d
      simp [hcd]

theorem prefix_iff_between {cs raised : List Char} (h : successorChars? cs = some raised)
    (ds : List Char) : cs <+: ds ↔ ¬ ds < cs ∧ ds < raised := by
  induction cs generalizing raised ds with
  | nil => cases h
  | cons c cs ih =>
    rw [successorChars?] at h
    cases ds with
    | nil => simp
    | cons d ds =>
      rw [List.cons_prefix_cons, not_cons_lt_cons_iff]
      cases hs : successorChars? cs with
      | some rest =>
        rw [hs] at h
        cases h
        rw [ih hs, List.cons_lt_cons_iff]
        constructor
        · rintro ⟨rfl, hl, hu⟩
          exact ⟨.inr ⟨rfl, hl⟩, .inr ⟨rfl, hu⟩⟩
        · rintro ⟨hl | ⟨rfl, hl⟩, hu | ⟨he, hu⟩⟩
          · exact absurd hu (Char.lt_asymm hl)
          · exact absurd (he ▸ hl) (Char.lt_irrefl _)
          · exact absurd hu (Char.lt_irrefl _)
          · exact ⟨rfl, hl, hu⟩
      | none =>
        rw [hs] at h
        dsimp only at h
        split at h
        · cases h
        · rename_i hc
          cases h
          have hmax := (successorChars?_eq_none_iff cs).mp hs
          rw [prefix_iff_not_lt_of_maxCode hmax, List.cons_lt_cons_iff, lt_nextChar_iff hc]
          constructor
          · rintro ⟨rfl, hl⟩
            exact ⟨.inr ⟨rfl, hl⟩, .inl (Char.le_refl _)⟩
          · rintro ⟨hl | ⟨rfl, hl⟩, hu⟩
            · rcases hu with hu | ⟨_, hu⟩
              · exact absurd hl (Char.not_lt.mpr hu)
              · exact absurd hu (List.not_lt_nil _)
            · exact ⟨rfl, hl⟩

/-! ## Texts -/

theorem prefix_iff_le_lt_successor {start bound : String} (h : successor? start = some bound)
    (s : String) : start.toList <+: s.toList ↔ start ≤ s ∧ s < bound := by
  rw [successor?, Option.map_eq_some_iff] at h
  obtain ⟨raised, hr, rfl⟩ := h
  rw [prefix_iff_between hr, ← String.not_lt]
  change _ ↔ ¬ s.toList < start.toList ∧ s.toList < (String.ofList raised).toList
  rw [String.toList_ofList]

theorem prefix_iff_le_of_no_successor {start : String} (h : successor? start = none) (s : String) :
    start.toList <+: s.toList ↔ start ≤ s := by
  rw [successor?, Option.map_eq_none_iff, successorChars?_eq_none_iff] at h
  rw [← String.not_lt]
  exact prefix_iff_not_lt_of_maxCode h s.toList

/-! ## The least bound -/

/-- A code point that is a character: not above the greatest one, and no surrogate. -/
def IsScalar (code : Nat) : Prop := code < 0xD800 ∨ (0xDFFF < code ∧ code ≤ maxCode)

/-- The last character that is not the greatest one moves to the next code, over the surrogates, and
nothing follows it. -/
def Raised (start bound : List Char) : Prop :=
  ∃ front c d tail, start = front ++ c :: tail ∧ bound = front ++ [d] ∧
    (∀ m ∈ tail, m.toNat = maxCode) ∧ c.toNat ≠ maxCode ∧
    d.toNat = if c.toNat = 0xD7FF then 0xE000 else c.toNat + 1

theorem raised_of_successorChars? {cs raised : List Char} (h : successorChars? cs = some raised) :
    Raised cs raised := by
  induction cs generalizing raised with
  | nil => cases h
  | cons c cs ih =>
    rw [successorChars?] at h
    cases hs : successorChars? cs with
    | some rest =>
      rw [hs] at h
      cases h
      obtain ⟨front, last, next, tail, rfl, rfl, hraised⟩ := ih hs
      exact ⟨c :: front, last, next, tail, rfl, rfl, hraised⟩
    | none =>
      rw [hs] at h
      dsimp only at h
      split at h
      · cases h
      · rename_i hc
        cases h
        have hmax := (successorChars?_eq_none_iff cs).mp hs
        exact ⟨[], c, nextChar c, cs, rfl, rfl, hmax, hc, toNat_nextChar hc⟩

theorem raised_of_successor? {start bound : String} (h : successor? start = some bound) :
    Raised start.toList bound.toList := by
  rw [successor?, Option.map_eq_some_iff] at h
  obtain ⟨raised, hr, rfl⟩ := h
  rw [String.toList_ofList]
  exact raised_of_successorChars? hr

theorem successor?_eq_none_iff (start : String) :
    successor? start = none ↔ ∀ c ∈ start.toList, c.toNat = maxCode := by
  rw [successor?, Option.map_eq_none_iff, successorChars?_eq_none_iff]

/-- The successor of a text is the least text above all that start with it, and those are the texts
between the two. Texts of greatest characters alone have no successor: what is not below such a text
starts with it. -/
theorem least_bound_of_prefixed (start : String) :
    (∀ bound, successor? start = some bound →
      Raised start.toList bound.toList ∧ (∀ c ∈ bound.toList, IsScalar c.toNat) ∧ start < bound ∧
      (∀ s : String, start.toList <+: s.toList ↔ start ≤ s ∧ s < bound) ∧
      ∀ above : String, (∀ s : String, start.toList <+: s.toList → s < above) → bound ≤ above) ∧
    (successor? start = none ↔ ∀ c ∈ start.toList, c.toNat = maxCode) ∧
    (successor? start = none →
      (∀ s : String, start.toList <+: s.toList ↔ start ≤ s) ∧
      ∀ above : String, ¬ ∀ s : String, start.toList <+: s.toList → s < above) := by
  refine ⟨?_, successor?_eq_none_iff start, ?_⟩
  · intro bound h
    have hexact := prefix_iff_le_lt_successor h
    have hself := (hexact start).mp (List.prefix_refl _)
    refine ⟨raised_of_successor? h, fun c _ => char_toNat_cases c, hself.2, hexact, ?_⟩
    intro above habove
    rw [← String.not_lt]
    intro hlt
    -- A text between the two would start with `start`, and so be below itself.
    have hstart : start < above := habove start (List.prefix_refl _)
    have hprefix := (hexact above).mpr ⟨Std.le_of_lt hstart, hlt⟩
    exact String.lt_irrefl above (habove above hprefix)
  · intro h
    have hexact := prefix_iff_le_of_no_successor h
    refine ⟨hexact, ?_⟩
    intro above habove
    have hstart : start < above := habove start (List.prefix_refl _)
    have hprefix := (hexact above).mpr (Std.le_of_lt hstart)
    exact String.lt_irrefl above (habove above hprefix)

theorem least_bound_before_surrogates :
    let top := Char.ofNat maxCode
    let start := String.ofList ['Z', '\ud7ff', top, top]
    successor? start = some "Z\ue000" ∧ start < "Z\ue000" ∧
    (∀ above : String, (∀ s : String, start.toList <+: s.toList → s < above) → "Z\ue000" ≤ above) ∧
    successor? (String.ofList [top, top]) = none ∧
    ¬ ∀ s : String, (String.ofList [top, top]).toList <+: s.toList → s < String.ofList [top, top, top] := by
  intro top start
  have hsome : successor? start = some "Z\ue000" := by decide
  have hnone : successor? (String.ofList [top, top]) = none := by decide
  obtain ⟨-, -, hlt, -, hleast⟩ := (least_bound_of_prefixed start).1 _ hsome
  have hnot := ((least_bound_of_prefixed (String.ofList [top, top])).2.2 hnone).2
  exact ⟨hsome, hlt, hleast, hnone, hnot _⟩

end WhereClause.Text
