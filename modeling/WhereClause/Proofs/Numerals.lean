import Mathlib.Data.List.Induction
import Mathlib.Data.List.TakeWhile
import Mathlib.Data.Nat.Digits.Defs
import WhereClause.Number.Numeral

/-! # The grammar of numerals

A text is a whole number, or a double, by rules that do not tell how it is read. A numeral is read as a
double only where it is no whole number.
-/

namespace WhereClause

namespace Text

/-! ## Digits among the other characters -/

theorem exists_start_of_digit? {c : Char} {d : Nat} (h : digit? c = some d) :
    ∃ start ∈ digitZeros, start ≤ c.toNat ∧ c.toNat < start + 10 := by
  obtain ⟨start, hs, hd⟩ := List.exists_of_findSome?_eq_some h
  split at hd
  · exact ⟨start, hs, ‹_›⟩
  · cases hd

theorem toLower_of_digit? {c : Char} {d : Nat} (h : digit? c = some d) : c.toLower = c := by
  have hapart : ∀ start ∈ digitZeros, start + 10 ≤ 'A'.toNat ∨ 'Z'.toNat < start := by decide
  obtain ⟨start, hs, hlow, hhigh⟩ := exists_start_of_digit? h
  have hcapital : ¬ ('A'.toNat ≤ c.toNat ∧ c.toNat ≤ 'Z'.toNat) := by
    have := hapart start hs
    omega
  exact dif_neg hcapital

theorem positional_eq_ofDigits (digits : List Nat) : positional digits = Nat.ofDigits 10 digits.reverse := by
  induction digits using List.reverseRecOn with
  | nil => rfl
  | append_singleton digits d ih =>
    rw [positional_append_one, ih, List.reverse_concat, Nat.ofDigits_cons]
    simp [Nat.add_comm]

end Text

namespace Numeral

open Text

/-! ## Rules -/

/-- A run of digits. A single low line may stand between two of them. -/
inductive IsRun : List Char → List Nat → Prop
  | one {c : Char} {d : Nat} (h : digit? c = some d) : IsRun [c] [d]
  | next {c : Char} {d : Nat} {cs : List Char} {ds : List Nat} (h : digit? c = some d) (hr : IsRun cs ds) :
    IsRun (c :: cs) (d :: ds)
  | gap {c : Char} {d : Nat} {cs : List Char} {ds : List Nat} (h : digit? c = some d) (hr : IsRun cs ds) :
    IsRun (c :: '_' :: cs) (d :: ds)

/-- A run of digits or nothing. -/
inductive IsOptionalRun : List Char → List Nat → Prop
  | nothing : IsOptionalRun [] []
  | run {cs : List Char} {ds : List Nat} (h : IsRun cs ds) : IsOptionalRun cs ds

/-- A sign that may be left out, and whether it is a minus. -/
inductive IsSign : List Char → Bool → Prop
  | nothing : IsSign [] false
  | plus : IsSign ['+'] false
  | minus : IsSign ['-'] true

/-- A sign and at most 4300 digits, for the number that they are in the decimal system. -/
inductive IsWhole : List Char → Int → Prop
  | intro {sign cs : List Char} {negative : Bool} {ds : List Nat} (hs : IsSign sign negative)
    (hr : IsRun cs ds) (hl : ds.length ≤ 4300) :
    IsWhole (sign ++ cs) (withSign negative (Nat.ofDigits 10 ds.reverse))

/-- The digits after a point, where there is one. -/
inductive IsFraction : List Char → List Nat → Prop
  | nothing : IsFraction [] []
  | point {cs : List Char} {ds : List Nat} (h : IsOptionalRun cs ds) : IsFraction ('.' :: cs) ds

/-- The power of ten after an `e`, where there is one. -/
inductive IsExponent : List Char → Int → Prop
  | nothing : IsExponent [] 0
  | power {letter : Char} {sign cs : List Char} {negative : Bool} {ds : List Nat}
    (hl : letter = 'e' ∨ letter = 'E') (hs : IsSign sign negative) (hr : IsRun cs ds) :
    IsExponent (letter :: (sign ++ cs)) (withSign negative (Nat.ofDigits 10 ds.reverse))

/-- A sign and a name in any case of its letters, or a sign and digits with a point and a power of ten, of
which each may be left out. -/
inductive IsDouble : List Char → Double → Prop
  | nan {sign word : List Char} {negative : Bool} (hs : IsSign sign negative)
    (hw : lowerAscii word = ['n', 'a', 'n']) : IsDouble (sign ++ word) .nan
  | infinity {sign word : List Char} {negative : Bool} (hs : IsSign sign negative)
    (hw : lowerAscii word = ['i', 'n', 'f'] ∨ lowerAscii word = ['i', 'n', 'f', 'i', 'n', 'i', 't', 'y']) :
    IsDouble (sign ++ word) (.infinity negative)
  | decimal {sign whole fraction power : List Char} {negative : Bool} {ds fs : List Nat} {exponent : Int}
    (hs : IsSign sign negative) (hd : IsOptionalRun whole ds) (hf : IsFraction fraction fs)
    (hne : ds ++ fs ≠ []) (he : IsExponent power exponent) :
    IsDouble (sign ++ (whole ++ fraction ++ power))
      (.ofDecimal negative (Nat.ofDigits 10 (ds ++ fs).reverse) (exponent - fs.length))

/-! ## Runs -/

theorem IsRun.head {cs : List Char} {ds : List Nat} (h : IsRun cs ds) :
    ∃ c d rest, cs = c :: rest ∧ digit? c = some d := by
  cases h with
  | one h | next h _ | gap h _ => exact ⟨_, _, _, rfl, h⟩

theorem IsRun.mem {cs : List Char} {ds : List Nat} (h : IsRun cs ds) :
    ∀ c ∈ cs, c = '_' ∨ ∃ d, digit? c = some d := by
  induction h with
  | one h => simpa using .inr ⟨_, h⟩
  | next h _ ih => exact List.forall_mem_cons.mpr ⟨.inr ⟨_, h⟩, ih⟩
  | gap h _ ih => exact List.forall_mem_cons.mpr ⟨.inr ⟨_, h⟩, List.forall_mem_cons.mpr ⟨.inl rfl, ih⟩⟩

theorem digitRun?_of_isRun {cs : List Char} {ds : List Nat} (h : IsRun cs ds) : digitRun? cs = some ds := by
  induction h with
  | one h => simp [digitRun?, h]
  | next h hr ih =>
    obtain ⟨c, d, rest, rfl, hc⟩ := hr.head
    have hline : c ≠ '_' := by
      rintro rfl
      cases hc
    rw [digitRun?, h, ih]
    · rfl
    · simp
    · simp [hline]
  | gap h _ ih =>
    rw [digitRun?, h, ih]
    rfl

theorem isRun_of_digitRun? {cs : List Char} {ds : List Nat} (h : digitRun? cs = some ds) : IsRun cs ds := by
  induction cs using digitRun?.induct generalizing ds with
  | case1 => cases h
  | case2 c =>
    simp only [digitRun?, Option.map_eq_some_iff] at h
    obtain ⟨d, hd, rfl⟩ := h
    exact .one hd
  | case3 c cs ih =>
    simp only [digitRun?, bind, Option.bind_eq_some_iff, pure, Option.some.injEq] at h
    obtain ⟨d, hd, rest, hrest, rfl⟩ := h
    exact .gap hd (ih hrest)
  | case4 c cs hnil hline ih =>
    rw [digitRun?] at h
    · simp only [bind, Option.bind_eq_some_iff, pure, Option.some.injEq] at h
      obtain ⟨d, hd, rest, hrest, rfl⟩ := h
      exact .next hd (ih hrest)
    · exact hnil
    · exact hline

theorem digitRun?_eq_some_iff {cs : List Char} {ds : List Nat} : digitRun? cs = some ds ↔ IsRun cs ds :=
  ⟨isRun_of_digitRun?, digitRun?_of_isRun⟩

theorem optionalRun?_eq_some_iff {cs : List Char} {ds : List Nat} :
    optionalRun? cs = some ds ↔ IsOptionalRun cs ds := by
  unfold optionalRun?
  constructor
  · intro h
    split at h
    · rw [List.isEmpty_iff] at *
      cases h
      subst cs
      exact .nothing
    · exact .run (digitRun?_eq_some_iff.mp h)
  · intro h
    cases h with
    | nothing => rfl
    | run h =>
      obtain ⟨c, d, rest, rfl, -⟩ := h.head
      exact digitRun?_eq_some_iff.mpr h

/-! ## Signs -/

theorem exists_isSign (cs : List Char) : ∃ sign, IsSign sign (unsign cs).1 ∧ cs = sign ++ (unsign cs).2 := by
  unfold unsign
  split
  · exact ⟨_, .minus, rfl⟩
  · exact ⟨_, .plus, rfl⟩
  · exact ⟨_, .nothing, rfl⟩

theorem unsign_append {sign cs : List Char} {negative : Bool} (hs : IsSign sign negative)
    (hplus : cs.head? ≠ some '+') (hminus : cs.head? ≠ some '-') : unsign (sign ++ cs) = (negative, cs) := by
  cases hs with
  | plus | minus => rfl
  | nothing =>
    rw [List.nil_append]
    unfold unsign
    split
    · exact absurd rfl hminus
    · exact absurd rfl hplus
    · rfl

theorem IsRun.unsign {sign cs : List Char} {negative : Bool} {ds : List Nat} (h : IsRun cs ds)
    (hs : IsSign sign negative) : unsign (sign ++ cs) = (negative, cs) := by
  obtain ⟨c, d, rest, rfl, hc⟩ := h.head
  apply unsign_append hs
  · rintro ⟨⟩
    cases hc
  · rintro ⟨⟩
    cases hc

/-! ## Whole numbers -/

theorem int?_of_unsign {cs body : List Char} {negative : Bool} (hu : unsign cs = (negative, body)) {n : Int} :
    int? cs = some n ↔ ∃ ds, IsRun body ds ∧ ds.length ≤ maxDigits ∧ withSign negative (positional ds) = n := by
  simp [int?, hu, digitRun?_eq_some_iff, Option.bind_eq_some_iff, guard]

theorem int?_eq_some_iff {cs : List Char} {n : Int} : int? cs = some n ↔ IsWhole cs n := by
  constructor
  · intro h
    obtain ⟨sign, hs, hcs⟩ := exists_isSign cs
    generalize hu : unsign cs = parts at hs hcs
    obtain ⟨ds, hr, hl, rfl⟩ := (int?_of_unsign hu).mp h
    rw [hcs, positional_eq_ofDigits]
    exact .intro hs hr hl
  · intro h
    cases h with
    | intro hs hr hl =>
      rw [int?_of_unsign (hr.unsign hs)]
      exact ⟨_, hr, hl, by rw [positional_eq_ofDigits]⟩

/-! ## Cuts -/

section Cut

variable {p : Char → Bool} {front back : List Char} {c : Char}

theorem cut_of_forall (h : ∀ x ∈ front, p x = false) : cut p front = (front, none) := by
  have hkeep : ∀ x ∈ front, (!p x) = true := by simpa using h
  have htake : front.takeWhile (!p ·) = front := by simpa using hkeep
  have hdrop : front.dropWhile (!p ·) = [] := List.dropWhile_eq_nil_iff.mpr hkeep
  rw [cut, htake, hdrop]
  rfl

theorem cut_append (h : ∀ x ∈ front, p x = false) (hc : p c = true) :
    cut p (front ++ c :: back) = (front, some back) := by
  have hkeep : ∀ x ∈ front, (!p x) = true := by simpa using h
  rw [cut, List.takeWhile_append_of_pos hkeep, List.dropWhile_append_of_pos hkeep]
  simp [hc]

theorem cut_cases (p : Char → Bool) (cs : List Char) :
    cut p cs = (cs, none) ∨ ∃ front c back, cs = front ++ c :: back ∧ p c = true ∧
      cut p cs = (front, some back) := by
  induction cs with
  | nil => exact .inl rfl
  | cons c cs ih =>
    cases hc : p c with
    | true => exact .inr ⟨[], c, cs, rfl, hc, cut_append (List.forall_mem_nil _) hc⟩
    | false =>
      have hcons : cut p (c :: cs) = (c :: (cut p cs).1, (cut p cs).2) := by
        simp [cut, hc]
      rw [hcons]
      rcases ih with h | ⟨front, b, back, rfl, hb, h⟩
      · exact .inl (by rw [h])
      · exact .inr ⟨c :: front, b, back, rfl, hb, by rw [h]⟩

end Cut

/-! ## Doubles -/

theorem exponent?_of_unsign {cs body : List Char} {negative : Bool} (hu : unsign cs = (negative, body))
    {n : Int} : exponent? (some cs) = some n ↔ ∃ ds, IsRun body ds ∧ withSign negative (positional ds) = n := by
  simp [exponent?, hu, digitRun?_eq_some_iff, Option.bind_eq_some_iff]

theorem isExponent_of_exponent? {letter : Char} {cs : List Char} {n : Int} (hl : letter = 'e' ∨ letter = 'E')
    (h : exponent? (some cs) = some n) : IsExponent (letter :: cs) n := by
  obtain ⟨sign, hs, hcs⟩ := exists_isSign cs
  generalize hu : unsign cs = parts at hs hcs
  obtain ⟨ds, hr, rfl⟩ := (exponent?_of_unsign hu).mp h
  rw [hcs, positional_eq_ofDigits]
  exact .power hl hs hr

theorem exists_power (cs : List Char) :
    ∃ front back, cs = front ++ back ∧ ∃ power, cut (fun c => c == 'e' || c == 'E') cs = (front, power) ∧
      ∀ n, exponent? power = some n → IsExponent back n := by
  rcases cut_cases (fun c => c == 'e' || c == 'E') cs with h | ⟨front, letter, back, rfl, hl, h⟩
  · refine ⟨cs, [], by simp, none, h, ?_⟩
    rintro n ⟨⟩
    exact .nothing
  · have hletter : letter = 'e' ∨ letter = 'E' := by simpa using hl
    exact ⟨front, letter :: back, rfl, some back, h, fun n hn => isExponent_of_exponent? hletter hn⟩

theorem exists_fraction (cs : List Char) :
    ∃ front back, cs = front ++ back ∧ ∃ text, cut (· == '.') cs = (front, text) ∧
      ∀ fs, optionalRun? (text.getD []) = some fs → IsFraction back fs := by
  rcases cut_cases (· == '.') cs with h | ⟨front, point, back, rfl, hp, h⟩
  · refine ⟨cs, [], by simp, none, h, ?_⟩
    rintro fs ⟨⟩
    exact .nothing
  · obtain rfl : point = '.' := by simpa using hp
    exact ⟨front, '.' :: back, rfl, some back, h, fun fs hf => .point (optionalRun?_eq_some_iff.mp hf)⟩

theorem IsOptionalRun.mem {cs : List Char} {ds : List Nat} (h : IsOptionalRun cs ds) :
    ∀ c ∈ cs, c = '_' ∨ ∃ d, digit? c = some d := by
  cases h with
  | nothing => simp
  | run h => exact h.mem

theorem IsOptionalRun.ne_of_mem {cs : List Char} {ds : List Nat} (h : IsOptionalRun cs ds) {other : Char}
    (hline : other ≠ '_') (hdigit : digit? other = none) : ∀ c ∈ cs, (c == other) = false := by
  intro c hc
  rw [beq_eq_false_iff_ne]
  rintro rfl
  rcases h.mem c hc with rfl | ⟨d, hd⟩
  · exact hline rfl
  · rw [hdigit] at hd
    cases hd

theorem cut_fraction {whole fraction : List Char} {ds fs : List Nat} (hd : IsOptionalRun whole ds)
    (hf : IsFraction fraction fs) :
    ∃ text, cut (· == '.') (whole ++ fraction) = (whole, text) ∧ optionalRun? (text.getD []) = some fs := by
  have hwhole : ∀ c ∈ whole, (c == '.') = false := hd.ne_of_mem (by decide) (by decide)
  cases hf with
  | nothing => exact ⟨none, by rw [List.append_nil, cut_of_forall hwhole], rfl⟩
  | point h => exact ⟨_, cut_append hwhole rfl, optionalRun?_eq_some_iff.mpr h⟩

theorem IsFraction.ne_of_mem {cs : List Char} {ds : List Nat} (h : IsFraction cs ds) {other : Char}
    (hline : other ≠ '_') (hdigit : digit? other = none) (hpoint : other ≠ '.') :
    ∀ c ∈ cs, (c == other) = false := by
  cases h with
  | nothing => simp
  | point h => exact List.forall_mem_cons.mpr ⟨by simpa using hpoint.symm, h.ne_of_mem hline hdigit⟩

theorem cut_power {mantissa power : List Char} {n : Int}
    (hm : ∀ c ∈ mantissa, (c == 'e' || c == 'E') = false) (hp : IsExponent power n) :
    ∃ text, cut (fun c => c == 'e' || c == 'E') (mantissa ++ power) = (mantissa, text) ∧
      exponent? text = some n := by
  cases hp with
  | nothing => exact ⟨none, by rw [List.append_nil, cut_of_forall hm], rfl⟩
  | power hl hs hr =>
    refine ⟨_, cut_append hm (by simpa using hl), ?_⟩
    rw [exponent?_of_unsign (hr.unsign hs)]
    exact ⟨_, hr, by rw [positional_eq_ofDigits]⟩

theorem decimal?_of_cuts {cs mantissa whole : List Char} {power fraction : Option (List Char)}
    (hp : cut (fun c => c == 'e' || c == 'E') cs = (mantissa, power))
    (hf : cut (· == '.') mantissa = (whole, fraction)) {negative : Bool} {x : Double} :
    decimal? negative cs = some x ↔ ∃ ds, optionalRun? whole = some ds ∧
      ∃ fs, optionalRun? (fraction.getD []) = some fs ∧ ds ++ fs ≠ [] ∧
        ∃ n, exponent? power = some n ∧
          .ofDecimal negative (positional (ds ++ fs)) (n - fs.length) = x := by
  simp [decimal?, hp, hf, Option.bind_eq_some_iff, guard]

theorem decimal?_eq_some_iff {negative : Bool} {cs : List Char} {x : Double} :
    decimal? negative cs = some x ↔ ∃ whole fraction power ds fs exponent,
      cs = whole ++ fraction ++ power ∧ IsOptionalRun whole ds ∧ IsFraction fraction fs ∧ ds ++ fs ≠ [] ∧
        IsExponent power exponent ∧
        x = .ofDecimal negative (Nat.ofDigits 10 (ds ++ fs).reverse) (exponent - fs.length) := by
  constructor
  · intro h
    obtain ⟨mantissa, power, rfl, powerText, hp, hpower⟩ := exists_power cs
    obtain ⟨whole, fraction, rfl, fractionText, hf, hfraction⟩ := exists_fraction mantissa
    obtain ⟨ds, hds, fs, hfs, hne, n, hn, rfl⟩ := (decimal?_of_cuts hp hf).mp h
    exact ⟨whole, fraction, power, ds, fs, n, rfl, optionalRun?_eq_some_iff.mp hds, hfraction fs hfs, hne,
      hpower n hn, by rw [positional_eq_ofDigits]⟩
  · rintro ⟨whole, fraction, power, ds, fs, n, rfl, hd, hf, hne, he, rfl⟩
    have hmantissa : ∀ c ∈ whole ++ fraction, (c == 'e' || c == 'E') = false := by
      intro c hc
      rw [Bool.or_eq_false_iff]
      rcases List.mem_append.mp hc with hc | hc
      · exact ⟨hd.ne_of_mem (by decide) (by decide) c hc, hd.ne_of_mem (by decide) (by decide) c hc⟩
      · exact ⟨hf.ne_of_mem (by decide) (by decide) (by decide) c hc,
          hf.ne_of_mem (by decide) (by decide) (by decide) c hc⟩
    obtain ⟨powerText, hp, hpower⟩ := cut_power hmantissa he
    obtain ⟨fractionText, hcut, hfraction⟩ := cut_fraction hd hf
    rw [decimal?_of_cuts hp hcut]
    exact ⟨ds, optionalRun?_eq_some_iff.mpr hd, fs, hfraction, hne, n, hpower,
      by rw [positional_eq_ofDigits]⟩

/-! ## Names and decimals -/

theorem double?_of_unsign {cs body : List Char} {negative : Bool} (hu : unsign cs = (negative, body)) :
    double? cs =
      if lowerAscii body = ['n', 'a', 'n'] then some .nan
      else if lowerAscii body = ['i', 'n', 'f'] ∨ lowerAscii body = ['i', 'n', 'f', 'i', 'n', 'i', 't', 'y'] then
        some (.infinity negative)
      else decimal? negative body := by
  rw [double?, hu]

theorem unsign_word {sign word letters : List Char} {letter : Char} {negative : Bool}
    (hs : IsSign sign negative) (hw : lowerAscii word = letter :: letters)
    (hplus : letter ≠ '+') (hminus : letter ≠ '-') : unsign (sign ++ word) = (negative, word) := by
  have hhead : word.head?.map Char.toLower = some letter := by
    rw [← List.head?_map, ← lowerAscii, hw]
    rfl
  apply unsign_append hs
  · intro h
    rw [h] at hhead
    exact hplus (Option.some.inj hhead).symm
  · intro h
    rw [h] at hhead
    exact hminus (Option.some.inj hhead).symm

theorem exists_lead {whole fraction : List Char} {ds fs : List Nat} (hd : IsOptionalRun whole ds)
    (hf : IsFraction fraction fs) (hne : ds ++ fs ≠ []) (power : List Char) :
    ∃ c rest, whole ++ fraction ++ power = c :: rest ∧ (c = '.' ∨ ∃ d, digit? c = some d) := by
  cases hd with
  | run hr =>
    obtain ⟨c, d, rest, rfl, hc⟩ := hr.head
    exact ⟨c, _, rfl, .inr ⟨d, hc⟩⟩
  | nothing =>
    cases hf with
    | nothing => exact absurd rfl hne
    | point _ => exact ⟨'.', _, rfl, .inl rfl⟩

theorem lead_ne {c other : Char} (h : c = '.' ∨ ∃ d, digit? c = some d) (hpoint : other ≠ '.')
    (hdigit : digit? other = none) : c ≠ other := by
  rintro rfl
  rcases h with rfl | ⟨d, hd⟩
  · exact hpoint rfl
  · rw [hdigit] at hd
    cases hd

theorem toLower_lead {c : Char} (h : c = '.' ∨ ∃ d, digit? c = some d) : c.toLower = c := by
  rcases h with rfl | ⟨d, hd⟩
  · rfl
  · exact toLower_of_digit? hd

theorem double?_of_lead {sign rest : List Char} {c : Char} {negative : Bool} (hs : IsSign sign negative)
    (h : c = '.' ∨ ∃ d, digit? c = some d) : double? (sign ++ c :: rest) = decimal? negative (c :: rest) := by
  have hplus : c ≠ '+' := lead_ne h (by decide) (by decide)
  have hminus : c ≠ '-' := lead_ne h (by decide) (by decide)
  have hn : c ≠ 'n' := lead_ne h (by decide) (by decide)
  have hi : c ≠ 'i' := lead_ne h (by decide) (by decide)
  have hlower : lowerAscii (c :: rest) = c :: lowerAscii rest := by
    rw [lowerAscii, List.map_cons, toLower_lead h]
    rfl
  rw [double?_of_unsign (unsign_append hs (by simpa using hplus) (by simpa using hminus)), hlower]
  simp [hn, hi]

theorem double?_eq_some_iff {cs : List Char} {x : Double} : double? cs = some x ↔ IsDouble cs x := by
  constructor
  · intro h
    obtain ⟨sign, hs, hcs⟩ := exists_isSign cs
    generalize hu : unsign cs = parts at hs hcs
    rw [double?_of_unsign hu] at h
    rw [hcs]
    split at h
    · cases h
      exact .nan hs ‹_›
    · split at h
      · cases h
        exact .infinity hs ‹_›
      · obtain ⟨whole, fraction, power, ds, fs, n, hparts, hd, hf, hne, he, rfl⟩ := decimal?_eq_some_iff.mp h
        rw [hparts]
        exact .decimal hs hd hf hne he
  · intro h
    cases h with
    | nan hs hw =>
      rw [double?_of_unsign (unsign_word hs hw (by decide) (by decide)), if_pos hw]
    | infinity hs hw =>
      have hu := hw.elim (unsign_word hs · (by decide) (by decide)) (unsign_word hs · (by decide) (by decide))
      rw [double?_of_unsign hu, if_neg, if_pos hw]
      rcases hw with hw | hw
      · simp [hw]
      · simp [hw]
    | decimal hs hd hf hne he =>
      obtain ⟨c, rest, hparts, hlead⟩ := exists_lead hd hf hne _
      rw [hparts, double?_of_lead hs hlead, ← hparts]
      exact decimal?_eq_some_iff.mpr ⟨_, _, _, _, _, _, rfl, hd, hf, hne, he, rfl⟩

/-! ## One of two grammars -/

theorem read?_eq_int_iff {cs : List Char} {n : Int} : read? cs = some (.int n) ↔ IsWhole cs n := by
  rw [← int?_eq_some_iff, read?]
  cases int? cs with
  | some m => simp
  | none => cases double? cs <;> simp

theorem read?_eq_double_iff {cs : List Char} {x : Double} :
    read? cs = some (.double x) ↔ (¬ ∃ n, IsWhole cs n) ∧ IsDouble cs x := by
  simp only [← int?_eq_some_iff, ← double?_eq_some_iff, read?]
  cases int? cs with
  | some m => simp
  | none => cases double? cs <;> simp

theorem read?_eq_none_iff {cs : List Char} :
    read? cs = none ↔ (¬ ∃ n, IsWhole cs n) ∧ ¬ ∃ x, IsDouble cs x := by
  simp only [← int?_eq_some_iff, ← double?_eq_some_iff, read?]
  cases int? cs with
  | some m => simp
  | none => cases double? cs <;> simp

end Numeral

end WhereClause
