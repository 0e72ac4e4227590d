import WhereClause.Proofs.Meaning

/-! # Texts in the order of their bytes

UTF-8 keeps the order of code points. A store that compares bytes therefore orders texts as one that
compares characters does, and the range of a prefix is exact in it.
-/

namespace WhereClause

namespace Text

/-- The bytes of a text in UTF-8. -/
def bytes (s : String) : List UInt8 := s.toUTF8.data.toList

theorem bytes_eq_flatMap (s : String) : bytes s = s.toList.flatMap String.utf8EncodeChar := by
  unfold bytes
  rw [String.toUTF8_eq_toByteArray, ← String.utf8Encode_toList]
  simp [List.utf8Encode, List.data_toByteArray]

/-! ## Bytes given as numbers -/

theorem ofNat_lt_ofNat_iff {m n : Nat} (hm : m < 256) (hn : n < 256) :
    UInt8.ofNat m < UInt8.ofNat n ↔ m < n := by
  rw [UInt8.lt_iff_toNat_lt, UInt8.toNat_ofNat_of_lt' hm, UInt8.toNat_ofNat_of_lt' hn]

theorem ofNat_eq_ofNat_iff {m n : Nat} (hm : m < 256) (hn : n < 256) :
    UInt8.ofNat m = UInt8.ofNat n ↔ m = n := by
  rw [← UInt8.toNat_inj, UInt8.toNat_ofNat_of_lt' hm, UInt8.toNat_ofNat_of_lt' hn]

/-! ## One character -/

theorem div_4096 (n : Nat) : n / 4096 = n / 64 / 64 := (Nat.div_div_eq_div_mul n 64 64).symm

theorem div_262144 (n : Nat) : n / 262144 = n / 64 / 64 / 64 := by
  rw [Nat.div_div_eq_div_mul, Nat.div_div_eq_div_mul]

theorem val_toNat_le_maxCode (c : Char) : c.val.toNat ≤ 0x10FFFF := by
  have h := char_toNat_cases c
  change c.val.toNat < 0xD800 ∨ 0xDFFF < c.val.toNat ∧ c.val.toNat ≤ 0x10FFFF at h
  omega

theorem encode_append_lt {c d : Char} (h : c < d) (xs ys : List UInt8) :
    String.utf8EncodeChar c ++ xs < String.utf8EncodeChar d ++ ys := by
  have hlt : c.val.toNat < d.val.toNat := h
  have hmax := val_toNat_le_maxCode d
  unfold String.utf8EncodeChar
  generalize c.val.toNat = m at hlt ⊢
  generalize d.val.toNat = n at hlt hmax ⊢
  dsimp only
  -- A longer encoding starts with a greater byte. In one length the bytes are digits to the base 64.
  repeat' split
  all_goals
    simp (disch := omega) only [List.cons_append, List.nil_append, List.cons_lt_cons_iff,
      ofNat_lt_ofNat_iff, ofNat_eq_ofNat_iff, div_262144, div_4096]
    omega

theorem encode_ne_nil (c : Char) : String.utf8EncodeChar c ≠ [] := by
  unfold String.utf8EncodeChar
  dsimp only
  repeat' split
  all_goals simp

/-! ## Whole texts -/

theorem encodeAll_lt {cs ds : List Char} (h : cs < ds) :
    cs.flatMap String.utf8EncodeChar < ds.flatMap String.utf8EncodeChar := by
  induction cs generalizing ds with
  | nil =>
    cases ds with
    | nil => exact absurd h (List.not_lt_nil _)
    | cons d ds =>
      rw [List.flatMap_cons, List.flatMap_nil]
      obtain ⟨b, bs, hb⟩ := List.exists_cons_of_ne_nil (encode_ne_nil d)
      rw [hb]
      exact List.nil_lt_cons _ _
  | cons c cs ih =>
    cases ds with
    | nil => exact absurd h (List.not_lt_nil _)
    | cons d ds =>
      rw [List.flatMap_cons, List.flatMap_cons]
      rcases List.cons_lt_cons_iff.mp h with hcd | ⟨rfl, hrest⟩
      · exact encode_append_lt hcd _ _
      · exact List.append_left_lt (ih hrest)

theorem bytes_lt_of_lt {s t : String} (h : s < t) : bytes s < bytes t := by
  rw [bytes_eq_flatMap, bytes_eq_flatMap]
  exact encodeAll_lt h

theorem bytes_lt_iff {s t : String} : bytes s < bytes t ↔ s < t := by
  constructor
  · intro h
    by_cases hst : s < t
    · exact hst
    · by_cases hts : t < s
      · exact absurd (bytes_lt_of_lt hts) (List.lt_asymm h)
      · have he := String.le_antisymm (String.not_lt.mp hts) (String.not_lt.mp hst)
        rw [he] at h
        exact absurd h (List.lt_irrefl _)
  · exact bytes_lt_of_lt

theorem bytes_inj {s t : String} : bytes s = bytes t ↔ s = t := by
  constructor
  · intro h
    have hst : ¬ s < t := by rw [← bytes_lt_iff, h]; exact List.lt_irrefl _
    have hts : ¬ t < s := by rw [← bytes_lt_iff, h]; exact List.lt_irrefl _
    exact String.le_antisymm (String.not_lt.mp hts) (String.not_lt.mp hst)
  · rintro rfl
    rfl

end Text

/-! ## A store of bytes -/

def byteOrder? (s : String) : Datum → Option Ordering
  | .text t => some (compareOfLessAndEq (Text.bytes s) (Text.bytes t))
  | _ => none

theorem byteOrder?_text (s t : String) : byteOrder? s (.text t) = some (compare s t) := by
  change some (compareOfLessAndEq _ _) = some (compareOfLessAndEq s t)
  simp only [compareOfLessAndEq, Text.bytes_lt_iff, Text.bytes_inj]

/-- A store of texts that compares their bytes one by one. -/
def byteStore : TypedStore String where
  order? := byteOrder?
  special _ _ _ := False
  text? s := some s
  truth? _ := none
  order?_text := byteOrder?_text
  order?_bool _ _ := rfl

/-! ## The range of a prefix -/

/-- The filters of the range: the lower bound, and the upper one where there is a successor. -/
def startBounds (name start : String) : List Filter :=
  ⟨name, ">=", .text start, none⟩ ::
    ((Text.successor? start).map fun bound => ⟨name, "<", .text bound, none⟩).toList

theorem map_filter_startClause (name start : String) :
    (startClause name start).map Condition.filter = startBounds name start := by
  unfold startClause startBounds
  cases Text.successor? start <;> rfl

theorem patternClause_append_wildcard (name start : String) :
    patternClause name (start ++ "%") = startClause name start := by
  have hlist : (start ++ "%").toList = start.toList ++ [Pattern.wildcard] := String.toList_append
  have hlast : (start ++ "%").toList.getLast? = some Pattern.wildcard := by
    rw [hlist, List.getLast?_concat]
  unfold patternClause
  rw [if_pos hlast, hlist, List.dropLast_concat, String.ofList_toList]

theorem plan_start_pattern {start : String}
    (h : (start ++ "%").toList.head? ≠ some Pattern.wildcard) (warn : Bool)
    (collection : Option String) (name : String) (table : Option String) :
    (planDatum warn [.filtered collection []]
      (.expr (.binary "LIKE" (.column name table) (.string (start ++ "%"))))).result =
        .ok [.filtered collection (startBounds name start)] := by
  have hclauses : (Expr.binary "LIKE" (.column name table) (.string (start ++ "%"))).clauses =
      [startClause name start] := by
    rw [← patternClause_append_wildcard]
    rfl
  rw [planDatum_ok_of_supported (.pattern name table h) warn (by simp), hclauses, spread_one]
  simp [Query.narrow, map_filter_startClause]

theorem prefix_iff_bounds (name start s : String) :
    start.toList <+: s.toList ↔ ∀ f ∈ startBounds name start, byteStore.test f.op s f.value := by
  have haccepts : byteStore.accepts s (startClause name start) ↔
      ∃ t, byteStore.text? s = some t ∧ start.toList <+: t.toList :=
    TypedStore.accepts_startClause name start s
  rw [← map_filter_startClause, List.forall_mem_map]
  refine Iff.trans ?_ haccepts.symm
  simp [byteStore]

/-- A pattern with one wildcard, at its end, is planned as one query. Its bounds hold of the bytes of
a text exactly if the text starts with what stands before the wildcard. -/
theorem start_pattern_exact_in_bytes {start : String}
    (h : (start ++ "%").toList.head? ≠ some Pattern.wildcard) (warn : Bool)
    (collection : Option String) (name : String) (table : Option String) :
    (∃ bounds : List Filter,
      (planDatum warn [.filtered collection []]
        (.expr (.binary "LIKE" (.column name table) (.string (start ++ "%"))))).result =
          .ok [.filtered collection bounds] ∧
      bounds = startBounds name start ∧
      ∀ s : String, start.toList <+: s.toList ↔ ∀ f ∈ bounds, byteStore.test f.op s f.value) ∧
    ∀ s t : String, Text.bytes s < Text.bytes t ↔ s < t := by
  refine ⟨⟨startBounds name start, ?_, rfl, ?_⟩, ?_⟩
  · exact plan_start_pattern h warn collection name table
  · exact prefix_iff_bounds name start
  · intro s t
    exact Text.bytes_lt_iff

theorem start_pattern_before_surrogates :
    ("a\ud7ff" ++ "%").toList.head? ≠ some Pattern.wildcard ∧
    (planDatum true [.filtered none []]
      (.expr (.binary "LIKE" (.column "name" none) (.string ("a\ud7ff" ++ "%"))))).result =
        .ok [.filtered none [⟨"name", ">=", .text "a\ud7ff", none⟩, ⟨"name", "<", .text "a\ue000", none⟩]] ∧
    (∀ f ∈ startBounds "name" "a\ud7ff", byteStore.test f.op "a\ud7ffé" f.value) ∧
    Text.bytes "\uffff" < Text.bytes "😀" := by
  have hhead : ("a\ud7ff" ++ "%").toList.head? ≠ some Pattern.wildcard := by decide
  have hbounds : startBounds "name" "a\ud7ff" =
      [⟨"name", ">=", .text "a\ud7ff", none⟩, ⟨"name", "<", .text "a\ue000", none⟩] := rfl
  obtain ⟨⟨bounds, hplan, hb, hexact⟩, horder⟩ :=
    start_pattern_exact_in_bytes hhead true none "name" none
  rw [hb] at hplan hexact
  refine ⟨hhead, ?_, ?_, ?_⟩
  · rw [hplan, hbounds]
  · rw [← hexact]
    decide
  · rw [horder]
    decide

end WhereClause
