import Mathlib.Data.List.Basic
import Mathlib.Data.Nat.Digits.Defs
import WhereClause.Number.Double
import WhereClause.Proofs.PrefixRange
import WhereClause.Text.Quoted

/-! # Quoted text can be read back

What stands between the quote marks is read as a string literal is, escapes included. The reader gives the
text that was quoted, so a message with a quoted text in it names that text and no other.
-/

namespace WhereClause.Text

/-! ## Hexadecimal digits -/

def hexDigit (c : Char) : Nat := if c.isDigit then c.toNat - 48 else c.toNat - 87

def hexValue (cs : List Char) : Nat := cs.foldl (fun n c => 16 * n + hexDigit c) 0

theorem hexValue_append_singleton (cs : List Char) (c : Char) :
    hexValue (cs ++ [c]) = 16 * hexValue cs + hexDigit c := by
  rw [hexValue, List.foldl_append]
  rfl

theorem hexDigit_digitChar {d : Nat} (h : d < 16) : hexDigit d.digitChar = d := by
  have hall : ∀ d < 16, hexDigit d.digitChar = d := by decide
  exact hall d h

theorem hexValue_toDigits (n : Nat) : hexValue (Nat.toDigits 16 n) = n := by
  induction n using Nat.strongRecOn with
  | ind n ih =>
    rcases Nat.lt_or_ge n 16 with h | h
    · rw [Nat.toDigits_of_lt_base h]
      simp [hexValue, hexDigit_digitChar h]
    · rw [Nat.toDigits_of_base_le (by decide) h, hexValue_append_singleton, ih (n / 16) (by omega),
        hexDigit_digitChar (Nat.mod_lt n (by decide))]
      omega

theorem hexValue_zeros_append (k : Nat) (cs : List Char) :
    hexValue (List.replicate k '0' ++ cs) = hexValue cs := by
  induction k with
  | zero => rfl
  | succ k ih => exact ih

theorem hexValue_hexDigits (width n : Nat) : hexValue (hexDigits width n) = n := by
  rw [hexDigits, hexValue_zeros_append, hexValue_toDigits]

theorem length_hexDigits {width n : Nat} (hw : 0 < width) (h : n < 16 ^ width) :
    (hexDigits width n).length = width := by
  have := Nat.toDigits_length 16 n width hw h
  rw [hexDigits, List.length_append, List.length_replicate]
  omega

/-! ## Reading a literal -/

/-- How many digits the number after a backslash has. -/
def numberWidth? : Char → Option Nat
  | 'x' => some 2
  | 'u' => some 4
  | 'U' => some 8
  | _ => none

def shortEscape? : Char → Option Char
  | 'n' => some '\n'
  | 'r' => some '\r'
  | 't' => some '\t'
  | c => if c = '\'' ∨ c = '"' ∨ c = '\\' then some c else none

/-- The reader goes up to the closing mark, and the closing mark is the end. -/
def unescape? (mark : Char) : List Char → Option (List Char)
  | [] => none
  | c :: cs =>
    if c = mark then if cs = [] then some [] else none
    else if c = '\\' then
      match cs with
      | [] => none
      | kind :: rest =>
        match numberWidth? kind with
        | some width =>
          (unescape? mark (rest.drop width)).map (Char.ofNat (hexValue (rest.take width)) :: ·)
        | none => (shortEscape? kind).bind fun short => (unescape? mark rest).map (short :: ·)
    else (unescape? mark cs).map (c :: ·)
termination_by cs => cs.length

def unquote? (text : String) : Option String :=
  match text.toList with
  | [] => none
  | mark :: cs => if mark = '\'' ∨ mark = '"' then (unescape? mark cs).map String.ofList else none

/-! ## What was quoted is read -/

section Reads

variable {mark : Char}

theorem unescape?_close : unescape? mark [mark] = some [] := by
  rw [unescape?, if_pos rfl, if_pos rfl]

theorem unescape?_plain {c : Char} (hm : c ≠ mark) (hb : c ≠ '\\') (cs : List Char) :
    unescape? mark (c :: cs) = (unescape? mark cs).map (c :: ·) := by
  rw [unescape?.eq_def]
  simp only [if_neg hm, if_neg hb]

theorem unescape?_short {kind c : Char} (hm : mark ≠ '\\') (hw : numberWidth? kind = none)
    (hs : shortEscape? kind = some c) (cs : List Char) :
    unescape? mark ('\\' :: kind :: cs) = (unescape? mark cs).map (c :: ·) := by
  rw [unescape?.eq_def]
  simp only [if_neg hm.symm, if_pos, hw, hs, Option.bind_some]

theorem unescape?_numbered {kind c : Char} {width : Nat} (hm : mark ≠ '\\') (hk : 0 < width)
    (hw : numberWidth? kind = some width) (hc : c.toNat < 16 ^ width) (cs : List Char) :
    unescape? mark ('\\' :: kind :: hexDigits width c.toNat ++ cs) = (unescape? mark cs).map (c :: ·) := by
  have hlen := length_hexDigits hk hc
  have htake : (hexDigits width c.toNat ++ cs).take width = hexDigits width c.toNat := List.take_left' hlen
  have hdrop : (hexDigits width c.toNat ++ cs).drop width = cs := List.drop_left' hlen
  rw [List.cons_append, List.cons_append, unescape?.eq_def]
  simp only [if_neg hm.symm, if_pos, hw, htake, hdrop, hexValue_hexDigits, Char.ofNat_toNat]

theorem unescape?_escape (hm : mark = '\'' ∨ mark = '"') (c : Char) (cs : List Char) :
    unescape? mark (escape mark c ++ cs) = (unescape? mark cs).map (c :: ·) := by
  have hb : mark ≠ '\\' := by rcases hm with rfl | rfl <;> decide
  rw [escape]
  -- The cases stand in the order in which `escape` tries them.
  split_ifs with hself hn hr ht hprint hx hu
  · have hc : c = '\'' ∨ c = '"' ∨ c = '\\' := by
      rcases hself with rfl | rfl
      · exact hm.imp_right .inl
      · exact .inr (.inr rfl)
    have hw : numberWidth? c = none := by rcases hc with rfl | rfl | rfl <;> rfl
    have hs : shortEscape? c = some c := by rcases hc with rfl | rfl | rfl <;> rfl
    exact unescape?_short hb hw hs cs
  · subst hn
    exact unescape?_short hb rfl rfl cs
  · subst hr
    exact unescape?_short hb rfl rfl cs
  · subst ht
    exact unescape?_short hb rfl rfl cs
  · rw [not_or] at hself
    exact unescape?_plain hself.1 hself.2 cs
  · exact unescape?_numbered hb (by decide) rfl hx cs
  · exact unescape?_numbered hb (by decide) rfl hu cs
  · have hc : c.toNat < 16 ^ 8 := by
      have := char_toNat_cases c
      simp only [maxCode] at this
      omega
    exact unescape?_numbered hb (by decide) rfl hc cs

theorem unescape?_flatMap_escape (hm : mark = '\'' ∨ mark = '"') (cs : List Char) :
    unescape? mark (cs.flatMap (escape mark) ++ [mark]) = some cs := by
  induction cs with
  | nil => exact unescape?_close
  | cons c cs ih => rw [List.flatMap_cons, List.append_assoc, unescape?_escape hm, ih, Option.map_some]

end Reads

theorem quoteMark_eq (cs : List Char) : quoteMark cs = '\'' ∨ quoteMark cs = '"' := by
  rw [quoteMark]
  split
  · exact .inr rfl
  · exact .inl rfl

theorem unquote?_quoted (text : String) : unquote? (quoted text) = some text := by
  have hm := quoteMark_eq text.toList
  simp only [unquote?, quoted, String.toList_ofList, List.cons_append, if_pos hm,
    unescape?_flatMap_escape hm, Option.map_some, String.ofList_toList]

/-! ## Texts that need no escape -/

def IsPlain (c : Char) : Prop := isPrintable c = true ∧ c ≠ '\'' ∧ c ≠ '\\'

instance : DecidablePred IsPlain := fun _ => inferInstanceAs (Decidable (_ ∧ _ ∧ _))

theorem escape_of_isPlain {c : Char} (h : IsPlain c) : escape '\'' c = [c] := by
  obtain ⟨hprint, hmark, hback⟩ := h
  have hn : c ≠ '\n' := by
    rintro rfl
    exact absurd hprint (by decide)
  have hr : c ≠ '\r' := by
    rintro rfl
    exact absurd hprint (by decide)
  have ht : c ≠ '\t' := by
    rintro rfl
    exact absurd hprint (by decide)
  rw [escape, if_neg (not_or.mpr ⟨hmark, hback⟩), if_neg hn, if_neg hr, if_neg ht, if_pos hprint]

theorem quoted_of_isPlain {text : String} (h : ∀ c ∈ text.toList, IsPlain c) :
    quoted text = "'" ++ text ++ "'" := by
  have hmark : quoteMark text.toList = '\'' := by
    have hnot : ¬ '\'' ∈ text.toList := fun hmem => (h _ hmem).2.1 rfl
    rw [quoteMark, if_neg (by simp [hnot])]
  have hself : text.toList.flatMap (escape '\'') = text.toList :=
    (List.flatMap_congr fun c hc => escape_of_isPlain (h c hc)).trans (List.flatMap_singleton' _)
  rw [← String.toList_inj, quoted, hmark, hself]
  simp

end WhereClause.Text
