import WhereClause.Proofs.PrefixRange
import WhereClause.Text.Upper

/-! # Upper case keeps what is in upper case

The table names the code points that change, and the code points that they change to. No code point
is both, so a second pass changes nothing.
-/

namespace WhereClause.Text

/-! ## Sets of code points as masks

The two sets have some thousand members. They are compared as two numbers with one bit for each
code point.
-/

def codeMask : List Nat → Nat
  | [] => 0
  | code :: codes => 1 <<< code ||| codeMask codes

theorem testBit_codeMask (codes : List Nat) (code : Nat) :
    (codeMask codes).testBit code = decide (code ∈ codes) := by
  induction codes with
  | nil => simp [codeMask]
  | cons first codes ih => simp [codeMask, Nat.one_shiftLeft, Nat.testBit_two_pow, ih, eq_comm]

theorem not_mem_of_codeMask {xs ys : List Nat} (h : codeMask xs &&& codeMask ys = 0) {code : Nat}
    (hx : code ∈ xs) : code ∉ ys := by
  intro hy
  have hbit := congrArg (Nat.testBit · code) h
  simp [testBit_codeMask, hx, hy] at hbit

/-! ## The members of a run -/

namespace CaseRun

def count (run : CaseRun) : Nat := (run.last - run.first) / run.step + 1

def codes (run : CaseRun) : List Nat := List.range' run.first run.count run.step

def images (run : CaseRun) : List Nat := List.range' run.target run.count run.step

theorem mem_of_image? {run : CaseRun} {code image : Nat} (h : run.image? code = some image) :
    code ∈ run.codes ∧ image ∈ run.images := by
  unfold image? at h
  split at h
  · rename_i hrun
    obtain ⟨hfirst, hlast, hstep⟩ := hrun
    cases h
    -- The code point and its image stand at the same place of the two lists.
    have hdiv : (code - run.first) / run.step < run.count := by
      have := Nat.div_le_div_right (c := run.step) (Nat.sub_le_sub_right hlast run.first)
      unfold count
      omega
    have hmul : run.step * ((code - run.first) / run.step) = code - run.first := by
      have := Nat.div_add_mod (code - run.first) run.step
      omega
    unfold codes images
    rw [List.mem_range', List.mem_range']
    refine ⟨⟨_, hdiv, ?_⟩, ⟨_, hdiv, ?_⟩⟩
    · omega
    · omega
  · cases h

end CaseRun

/-! ## The two sets -/

def changedCodes : List Nat := caseExpansions.map Prod.fst ++ caseRuns.flatMap CaseRun.codes

def imageCodes : List Nat := caseExpansions.flatMap Prod.snd ++ caseRuns.flatMap CaseRun.images

theorem codeMask_image_changed : codeMask imageCodes &&& codeMask changedCodes = 0 := by
  decide +kernel

theorem imageCodes_valid : ∀ code ∈ imageCodes, code < 0xD800 ∨ (0xDFFF < code ∧ code < 0x110000) := by
  decide +kernel

theorem upperCode_of_not_mem {code : Nat} (h : code ∉ changedCodes) : upperCode code = [code] := by
  unfold changedCodes at h
  rw [List.mem_append, not_or] at h
  have hexpansion : caseExpansions.lookup code = none := by
    rw [List.lookup_eq_none_iff]
    intro entry hentry
    have hne : entry.1 ≠ code := fun he => h.1 (List.mem_map.mpr ⟨entry, hentry, he⟩)
    simpa using hne.symm
  have hrun : caseRuns.findSome? (fun run => run.image? code) = none := by
    rw [List.findSome?_eq_none_iff]
    intro run hrun
    cases himage : run.image? code with
    | none => rfl
    | some image =>
      have hmem := (CaseRun.mem_of_image? himage).1
      exact absurd (List.mem_flatMap.mpr ⟨run, hrun, hmem⟩) h.2
  unfold upperCode
  rw [hexpansion, hrun]

theorem upperCode_cases (code : Nat) :
    upperCode code = [code] ∨ ∀ image ∈ upperCode code, image ∈ imageCodes := by
  unfold upperCode imageCodes
  cases hexpansion : caseExpansions.lookup code with
  | some codes =>
    right
    intro image himage
    obtain ⟨front, back, hsplit, -⟩ := List.lookup_eq_some_iff.mp hexpansion
    have hmem : (code, codes) ∈ caseExpansions := by rw [hsplit]; simp
    exact List.mem_append_left _ (List.mem_flatMap.mpr ⟨_, hmem, himage⟩)
  | none =>
    cases hrun : caseRuns.findSome? (fun run => run.image? code) with
    | none => exact .inl rfl
    | some image =>
      right
      intro x hx
      rw [List.mem_singleton.mp hx]
      obtain ⟨run, hmem, himage⟩ := List.exists_of_findSome?_eq_some hrun
      have := (CaseRun.mem_of_image? himage).2
      exact List.mem_append_right _ (List.mem_flatMap.mpr ⟨run, hmem, this⟩)

theorem upperCode_of_mem {code image : Nat} (h : image ∈ upperCode code) : upperCode image = [image] := by
  rcases upperCode_cases code with hsame | himages
  · rw [hsame, List.mem_singleton] at h
    rw [h, hsame]
  · exact upperCode_of_not_mem (not_mem_of_codeMask codeMask_image_changed (himages image h))

/-! ## Characters and texts -/

theorem toNat_ofNat_of_mem {c : Char} {code : Nat} (h : code ∈ upperCode c.toNat) :
    (Char.ofNat code).toNat = code := by
  rcases upperCode_cases c.toNat with hsame | himages
  · rw [hsame, List.mem_singleton] at h
    rw [h, Char.ofNat_toNat]
  · exact toNat_ofNat_of_lt (imageCodes_valid code (himages code h))

theorem upperChar_of_mem {c d : Char} (h : d ∈ upperChar c) : upperChar d = [d] := by
  unfold upperChar at h ⊢
  obtain ⟨code, hcode, rfl⟩ := List.mem_map.mp h
  rw [toNat_ofNat_of_mem hcode, upperCode_of_mem hcode]
  rfl

theorem upper_of_forall {cs : List Char} (h : ∀ c ∈ cs, upperChar c = [c]) : upper cs = cs := by
  induction cs with
  | nil => rfl
  | cons c cs ih =>
    rw [List.forall_mem_cons] at h
    unfold upper at ih ⊢
    rw [List.flatMap_cons, h.1, ih h.2]
    rfl

theorem upperChar_of_mem_upper {cs : List Char} {d : Char} (h : d ∈ upper cs) : upperChar d = [d] := by
  obtain ⟨c, -, hc⟩ := List.mem_flatMap.mp h
  exact upperChar_of_mem hc

end WhereClause.Text
