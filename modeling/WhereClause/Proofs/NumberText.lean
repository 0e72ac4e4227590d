import Mathlib.Data.Nat.Digits.Lemmas
import WhereClause.Proofs.Grammar
import WhereClause.Proofs.Numerals
import WhereClause.Proofs.QuotedText

/-! # Numbers given as texts

White space around a numeral does not count. What is left is read by one of two grammars, or named in the
one fault.
-/

namespace WhereClause

namespace Text

/-! ## White space around a text -/

theorem not_isBlank_of_digit? {c : Char} {d : Nat} (h : digit? c = some d) : isBlank c = false := by
  have hapart : ∀ start ∈ digitZeros, ∀ range ∈ blankRanges, start + 10 ≤ range.1 ∨ range.2 < start := by
    decide
  obtain ⟨start, hs, hlow, hhigh⟩ := exists_start_of_digit? h
  rw [isBlank, ← Bool.not_eq_true, inRanges_iff]
  rintro ⟨range, hr, hl, hh⟩
  have := hapart start hs range hr
  omega

theorem trim_append {before cs after : List Char} (hb : ∀ c ∈ before, isBlank c = true)
    (hc : ∀ c ∈ cs, isBlank c = false) (ha : ∀ c ∈ after, isBlank c = true) :
    trim (before ++ cs ++ after) = cs := by
  have hfront : (cs ++ after).dropWhile isBlank = if cs = [] then [] else cs ++ after := by
    cases cs with
    | nil => simpa using ha
    | cons c cs => simp [hc c (List.mem_cons_self ..)]
  have hback : dropEndBlanks (cs ++ after) = cs := by
    have hrev : ∀ c ∈ after.reverse, isBlank c = true := by simpa using ha
    have hkeep : cs.reverse.dropWhile isBlank = cs.reverse := by
      rw [List.dropWhile_eq_self_iff]
      intro hl
      simp [hc]
    rw [dropEndBlanks, List.reverse_append, List.dropWhile_append_of_pos hrev, hkeep, List.reverse_reverse]
  rw [trim, List.append_assoc, List.dropWhile_append_of_pos hb, hfront]
  split
  · rename_i hnil
    rw [hnil]
    rfl
  · exact hback

end Text

namespace Numeral

open Text

theorem IsSign.not_blank {sign : List Char} {negative : Bool} (h : IsSign sign negative) :
    ∀ c ∈ sign, isBlank c = false := by
  cases h with
  | nothing => exact List.forall_mem_nil _
  | plus => exact List.forall_mem_singleton.mpr rfl
  | minus => exact List.forall_mem_singleton.mpr rfl

theorem IsWhole.not_blank {cs : List Char} {n : Int} (h : IsWhole cs n) : ∀ c ∈ cs, isBlank c = false := by
  cases h with
  | intro hs hr _ =>
    intro c hc
    rcases List.mem_append.mp hc with hc | hc
    · exact hs.not_blank c hc
    · rcases hr.mem c hc with rfl | ⟨d, hd⟩
      · decide
      · exact not_isBlank_of_digit? hd

/-! ## The numbers that have a numeral -/

theorem IsRun.digit_lt {cs : List Char} {ds : List Nat} (h : IsRun cs ds) : ∀ d ∈ ds, d < 10 := by
  induction h with
  | one h => simpa using digit?_lt h
  | next h _ ih | gap h _ ih => exact List.forall_mem_cons.mpr ⟨digit?_lt h, ih⟩

/-- The ASCII digit. -/
def digitChar (d : Nat) : Char := Char.ofNat (0x30 + d)

theorem digit?_digitChar {d : Nat} (h : d < 10) : digit? (digitChar d) = some d := by
  have hall : ∀ d < 10, digit? (digitChar d) = some d := by decide
  exact hall d h

theorem isRun_map_digitChar {ds : List Nat} (hne : ds ≠ []) (h : ∀ d ∈ ds, d < 10) :
    IsRun (ds.map digitChar) ds := by
  induction ds with
  | nil => exact absurd rfl hne
  | cons d ds ih =>
    rw [List.forall_mem_cons] at h
    cases ds with
    | nil => exact .one (digit?_digitChar h.1)
    | cons next ds => exact .next (digit?_digitChar h.1) (ih (by simp) h.2)

theorem exists_isRun_iff {k : Nat} (hk : 0 < k) (m : Nat) :
    (∃ cs ds, IsRun cs ds ∧ ds.length ≤ k ∧ Nat.ofDigits 10 ds.reverse = m) ↔ m < 10 ^ k := by
  constructor
  · rintro ⟨cs, ds, hr, hl, rfl⟩
    have hdigits : ∀ d ∈ ds.reverse, d < 10 := by simpa using hr.digit_lt
    calc Nat.ofDigits 10 ds.reverse
      _ < 10 ^ ds.reverse.length := Nat.ofDigits_lt_base_pow_length (by decide) hdigits
      _ ≤ 10 ^ k := Nat.pow_le_pow_right (by decide) (by simpa using hl)
  · intro hm
    by_cases h0 : m = 0
    · exact ⟨['0'], [0], .one rfl, hk, by simp [h0]⟩
    · have hne : (Nat.digits 10 m).reverse ≠ [] :=
        List.reverse_ne_nil_iff.mpr (Nat.digits_ne_nil_iff_ne_zero.mpr h0)
      have hdigits : ∀ d ∈ (Nat.digits 10 m).reverse, d < 10 := by
        simpa using fun d => Nat.digits_lt_base (by decide)
      have hl : (Nat.digits 10 m).reverse.length ≤ k := by
        rw [List.length_reverse]
        exact (Nat.digits_length_le_iff (by decide) m).mpr hm
      exact ⟨_, _, isRun_map_digitChar hne hdigits, hl, by rw [List.reverse_reverse, Nat.ofDigits_digits]⟩

theorem natAbs_withSign (negative : Bool) (m : Nat) : (withSign negative m).natAbs = m := by
  cases negative <;> simp [withSign]

theorem exists_isWhole_iff (n : Int) : (∃ cs, IsWhole cs n) ↔ n.natAbs < 10 ^ 4300 := by
  rw [← exists_isRun_iff (by decide)]
  constructor
  · rintro ⟨cs, h⟩
    cases h with
    | intro _ hr hl => exact ⟨_, _, hr, hl, (natAbs_withSign _ _).symm⟩
  · rintro ⟨cs, ds, hr, hl, hn⟩
    rcases n.natAbs_eq with h | h
    · rw [h, ← hn]
      exact ⟨_, .intro .nothing hr hl⟩
    · rw [h, ← hn]
      exact ⟨_, .intro .minus hr hl⟩

end Numeral

/-! ## Records of numbers -/

section Read

variable {entries : List (String × Datum)} {s : String}

theorem node_number_text (ht : entries.lookup "type" = some (.text "number"))
    (hv : entries.lookup "value" = some (.text s)) :
    (Datum.record entries).node = (Datum.numberOfText s).map Expr.number := by
  have hf : Form.number.tag? = some "number" := rfl
  rw [Datum.node_of_tagged ht hf]
  simp only [Expr.assemble, Datum.checkTag_eq_ok ht hf, Checked.ok_also, lookup_partsOf_some hv,
    Part.required, Datum.part_value, Datum.asNumber]

theorem construct_number_text (s : String) :
    Expr.construct .number [("value", .text s)] = (Datum.numberOfText s).map Expr.number := by
  change (Checked.ok ()).also ((Datum.numberOfText s).map Expr.number) = _
  rw [Checked.ok_also]

theorem parse_number_text (ht : entries.lookup "type" = some (.text "number"))
    (hv : entries.lookup "value" = some (.text s)) :
    Expr.parse (.record entries) =
      match Numeral.read? (Text.trim s.toList) with
      | some n => .ok (.number n)
      | none => .error (.rejected (.malformed [.unreadableNumber (String.ofList (Text.trim s.toList))])) := by
  simp only [Expr.parse, node_number_text ht hv, Datum.numberOfText]
  cases Numeral.read? (Text.trim s.toList) <;> rfl

theorem parse_number_text_eq_ok_iff (ht : entries.lookup "type" = some (.text "number"))
    (hv : entries.lookup "value" = some (.text s)) {n : Number} :
    Expr.parse (.record entries) = .ok (.number n) ↔ Numeral.read? (Text.trim s.toList) = some n := by
  rw [parse_number_text ht hv]
  cases Numeral.read? (Text.trim s.toList) <;> simp

end Read

open Numeral in
/-- A text in the place of a number is read by one of two grammars once white space is taken off its ends: as
the whole number that it spells, and only where it spells none as a double. The one fault of any other text
names it. The whole numbers with a spelling are those of at most 4300 digits. A node made by hand and a record
below the top have the text read alike. -/
theorem number_text_read_once {entries : List (String × Datum)} {s : String}
    (ht : entries.lookup "type" = some (.text "number"))
    (hv : entries.lookup "value" = some (.text s)) :
    (∀ n, Expr.parse (.record entries) = .ok (.number (.int n)) ↔ IsWhole (Text.trim s.toList) n) ∧
    (∀ x, Expr.parse (.record entries) = .ok (.number (.double x)) ↔
      (¬ ∃ n, IsWhole (Text.trim s.toList) n) ∧ IsDouble (Text.trim s.toList) x) ∧
    ((¬ ∃ n, IsWhole (Text.trim s.toList) n) → (¬ ∃ x, IsDouble (Text.trim s.toList) x) →
      ∃ cause, Expr.parse (.record entries) = .error (.rejected cause) ∧
        cause.report.kind = .invalidExpression ∧
        cause.report.details = [("errors", .list [.text ("Value error, could not convert string to float: " ++
          Text.quoted (String.ofList (Text.trim s.toList)))])] ∧
        Text.unquote? (Text.quoted (String.ofList (Text.trim s.toList))) =
          some (String.ofList (Text.trim s.toList)) ∧
        ((∀ c ∈ Text.trim s.toList, Text.IsPlain c) →
          Text.quoted (String.ofList (Text.trim s.toList)) =
            "'" ++ String.ofList (Text.trim s.toList) ++ "'")) ∧
    (∀ before numeral after n, s.toList = before ++ numeral ++ after →
      (∀ c ∈ before, Text.isBlank c = true) → (∀ c ∈ after, Text.isBlank c = true) → IsWhole numeral n →
        Expr.parse (.record entries) = .ok (.number (.int n))) ∧
    (∀ n : Int, (∃ numeral, IsWhole numeral n) ↔ n.natAbs < 10 ^ 4300) ∧
    (Datum.record entries).node = Expr.construct .number [("value", .text s)] := by
  have hwhole : ∀ n, Expr.parse (.record entries) = .ok (.number (.int n)) ↔
      IsWhole (Text.trim s.toList) n := by
    intro n
    rw [parse_number_text_eq_ok_iff ht hv, read?_eq_int_iff]
  have hmade : (Datum.record entries).node = Expr.construct .number [("value", .text s)] := by
    rw [node_number_text ht hv, construct_number_text]
  refine ⟨hwhole, ?_, ?_, ?_, exists_isWhole_iff, hmade⟩
  · intro x
    rw [parse_number_text_eq_ok_iff ht hv, read?_eq_double_iff]
  · intro hw hd
    rw [parse_number_text ht hv, read?_eq_none_iff.mpr ⟨hw, hd⟩]
    refine ⟨_, rfl, rfl, rfl, Text.unquote?_quoted _, ?_⟩
    intro hplain
    exact Text.quoted_of_isPlain (by rwa [String.toList_ofList])
  · intro before numeral after n hs hb ha hn
    rw [hwhole, hs, Text.trim_append hb hn.not_blank ha]
    exact hn

/-- The record of a number that is given as a text. -/
def numberEntries (s : String) : List (String × Datum) := [("type", .text "number"), ("value", .text s)]

open Numeral in
theorem number_text_read_once_in_two_scripts :
    Expr.parse (.record (numberEntries "\u3000-\u0661_02 ")) = .ok (.number (.int (-102))) ∧
      ∃ cause, Expr.parse (.record (numberEntries "1__2\n")) = .error (.rejected cause) ∧
        cause.report.details = [("errors", .list
          [.text "Value error, could not convert string to float: '1__2'"])] := by
  have ht (s : String) : (numberEntries s).lookup "type" = some (.text "number") := rfl
  have hv (s : String) : (numberEntries s).lookup "value" = some (.text s) := rfl
  constructor
  · have hrun : IsRun ['\u0661', '_', '0', '2'] [1, 0, 2] := .gap rfl (.next rfl (.one rfl))
    have hnumeral : IsWhole (['-'] ++ ['\u0661', '_', '0', '2']) (-102) := .intro .minus hrun (by decide)
    obtain ⟨-, -, -, hspell, -⟩ := number_text_read_once (ht "\u3000-\u0661_02 ") (hv _)
    exact hspell ['\u3000'] _ [' '] (-102) (by decide) (List.forall_mem_singleton.mpr rfl)
      (List.forall_mem_singleton.mpr rfl) hnumeral
  · have hnone : read? (Text.trim "1__2\n".toList) = none := by decide
    obtain ⟨hwhole, hdouble⟩ := read?_eq_none_iff.mp hnone
    obtain ⟨-, -, htold, -⟩ := number_text_read_once (ht "1__2\n") (hv _)
    obtain ⟨cause, hparse, -, hdetails, -, hplain⟩ := htold hwhole hdouble
    have htrim : Text.trim "1__2\n".toList = ['1', '_', '_', '2'] := by decide
    have hone : ∀ c ∈ Text.trim "1__2\n".toList, Text.IsPlain c := by
      rw [htrim]
      -- One by one, since `decide` may also go through all characters there are.
      simp only [List.forall_mem_cons, List.not_mem_nil, false_imp_iff, implies_true, and_true]
      decide +kernel
    rw [hplain hone] at hdetails
    exact ⟨cause, hparse, hdetails⟩

end WhereClause
