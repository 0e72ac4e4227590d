import Mathlib.Data.List.Induction
import WhereClause.Proofs.FanOut

/-! # Warnings about range filters

A planner that warns tells of every query of the store that has range filters on several fields, and
names these fields in the order in which the query first bounds them.
-/

namespace WhereClause

/-! ## Fields with a range filter -/

namespace Filter

def Bounds (f : Filter) (field : String) : Prop := f.op ∈ ["<", "<=", ">", ">="] ∧ f.field = field

instance (f : Filter) (field : String) : Decidable (f.Bounds field) :=
  inferInstanceAs (Decidable (_ ∧ _))

theorem isRange_iff {f : Filter} : f.isRange = true ↔ f.Bounds f.field := by
  simp [isRange, Bounds, StoreOp.rangeTexts, StoreOp.text]

end Filter

/-- The place of the first range filter on a field. -/
def firstBound (filters : List Filter) (field : String) : Nat :=
  filters.findIdx fun f => decide (f.Bounds field)

/-- The fields with a range filter, in the order of the first one on each of them. No field stands before
itself, so each is there once. -/
structure RangeFields (filters : List Filter) (fields : List String) : Prop where
  mem : ∀ field, field ∈ fields ↔ ∃ f ∈ filters, f.Bounds field
  ordered : fields.Pairwise fun a b => firstBound filters a < firstBound filters b

section

variable {fs : List Filter} {field : String}

theorem firstBound_lt_length (h : ∃ f ∈ fs, f.Bounds field) : firstBound fs field < fs.length := by
  apply List.findIdx_lt_length_of_exists
  simpa using h

theorem firstBound_append (h : ∃ f ∈ fs, f.Bounds field) (gs : List Filter) :
    firstBound (fs ++ gs) field = firstBound fs field := by
  unfold firstBound
  rw [List.findIdx_append]
  exact if_pos (firstBound_lt_length h)

theorem firstBound_concat (h : ¬ ∃ f ∈ fs, f.Bounds field) {g : Filter} (hg : g.Bounds field) :
    firstBound (fs ++ [g]) field = fs.length := by
  have hnone : firstBound fs field = fs.length := by
    rw [firstBound, List.findIdx_eq_length]
    simpa using h
  unfold firstBound at hnone ⊢
  rw [List.findIdx_append, hnone, if_neg (Nat.lt_irrefl _)]
  simp [List.findIdx_cons, hg]

end

namespace RangeFields

variable {fs : List Filter} {fields : List String}

theorem ordered_append (h : RangeFields fs fields) (gs : List Filter) :
    fields.Pairwise fun a b => firstBound (fs ++ gs) a < firstBound (fs ++ gs) b := by
  refine h.ordered.imp_of_mem fun ha hb hab => ?_
  rwa [firstBound_append ((h.mem _).mp ha), firstBound_append ((h.mem _).mp hb)]

theorem concat_old (h : RangeFields fs fields) {f : Filter} (hf : ∀ x, f.Bounds x → x ∈ fields) :
    RangeFields (fs ++ [f]) fields where
  mem x := by
    simp only [List.mem_append, List.mem_singleton, or_and_right, exists_or, exists_eq_left, h.mem]
    constructor
    · exact Or.inl
    · rintro (hx | hx)
      · exact hx
      · exact (h.mem x).mp (hf x hx)
  ordered := h.ordered_append [f]

theorem concat_new (h : RangeFields fs fields) {f : Filter} {field : String} (hf : f.Bounds field)
    (hnew : field ∉ fields) : RangeFields (fs ++ [f]) (fields ++ [field]) where
  mem x := by
    have hx : f.Bounds x ↔ x = field := ⟨fun hb => hb.2.symm.trans hf.2, fun he => he ▸ hf⟩
    simp only [List.mem_append, List.mem_singleton, or_and_right, exists_or, exists_eq_left, h.mem, hx]
  ordered := by
    rw [List.pairwise_append]
    refine ⟨h.ordered_append [f], List.pairwise_singleton _ _, ?_⟩
    intro a ha b hb
    rw [List.mem_singleton.mp hb, firstBound_concat (mt (h.mem field).mpr hnew) hf,
      firstBound_append ((h.mem a).mp ha)]
    exact firstBound_lt_length ((h.mem a).mp ha)

end RangeFields

/-! ## The fields that a query tells -/

theorem boundedFields_concat (collection : Option String) (fs : List Filter) (f : Filter) :
    (Query.filtered collection (fs ++ [f])).boundedFields =
      if f.isRange ∧ f.field ∉ (Query.filtered collection fs).boundedFields then
        (Query.filtered collection fs).boundedFields ++ [f.field]
      else (Query.filtered collection fs).boundedFields := by
  simp only [Query.boundedFields, List.filter_append, List.map_append, List.eraseDups_append,
    List.mem_eraseDups]
  by_cases hr : f.isRange = true
  · by_cases hm : f.field ∈ (fs.filter Filter.isRange).map Filter.field
    · simp [hr, hm, List.cons_removeAll]
    · simp [hr, hm, List.cons_removeAll, List.eraseDups_cons]
  · simp [hr]

theorem rangeFields_boundedFields (collection : Option String) (filters : List Filter) :
    RangeFields filters (Query.filtered collection filters).boundedFields := by
  induction filters using List.reverseRecOn with
  | nil => exact ⟨by simp [Query.boundedFields], .nil⟩
  | append_singleton fs f ih =>
    rw [boundedFields_concat]
    split
    · rename_i h
      exact ih.concat_new (Filter.isRange_iff.mp h.1) h.2
    · rename_i h
      refine ih.concat_old fun x hx => ?_
      by_contra hnot
      obtain ⟨hop, rfl⟩ := hx
      exact h ⟨Filter.isRange_iff.mpr ⟨hop, rfl⟩, hnot⟩

/-! ## Warnings of a list of queries -/

/-- One warning for each query of the store with range filters on several fields, in the order of the
queries, and none for any other. -/
inductive Warned : List Query → List Event → Prop
  | none : Warned [] []
  | several {filters : List Filter} {fields : List String} {qs : List Query} {ws : List Event}
    (collection : Option String) (hf : RangeFields filters fields) (hn : 2 ≤ fields.length)
    (h : Warned qs ws) :
    Warned (.filtered collection filters :: qs) (.severalBoundedFields fields :: ws)
  | atMostOne {filters : List Filter} {fields : List String} {qs : List Query} {ws : List Event}
    (collection : Option String) (hf : RangeFields filters fields) (hn : fields.length ≤ 1)
    (h : Warned qs ws) : Warned (.filtered collection filters :: qs) ws
  | other {q : Query} {qs : List Query} {ws : List Event}
    (hq : ∀ collection filters, q ≠ .filtered collection filters) (h : Warned qs ws) :
    Warned (q :: qs) ws

theorem warned_boundsWarnings (queries : List Query) : Warned queries (boundsWarnings true queries) := by
  change Warned queries (queries.filterMap boundsWarning?)
  induction queries with
  | nil => exact .none
  | cons q qs ih =>
    rw [List.filterMap_cons]
    cases q with
    | filtered collection filters =>
      have hf := rangeFields_boundedFields collection filters
      by_cases hn : 1 < (Query.filtered collection filters).boundedFields.length
      · rw [boundsWarning?, if_pos hn]
        exact .several collection hf hn ih
      · rw [boundsWarning?, if_neg hn]
        exact .atMostOne collection hf (Nat.le_of_not_lt hn) ih
    | recorder name notes => exact .other (by simp) ih
    | sealed => exact .other (by simp) ih

theorem mem_spread {q : Query} {clauses : List Clause} {qs : List Query} (h : q ∈ spread clauses qs) :
    ∃ seed ∈ qs, ∃ clause, q = seed.narrow clause := by
  simp only [spread, List.mem_flatMap, List.mem_map] at h
  obtain ⟨clause, -, seed, hseed, rfl⟩ := h
  exact ⟨seed, hseed, clause, rfl⟩

namespace Session

/-- The warnings in a list of records. -/
def warningsIn (records : List Event) : List Event := records.filter fun r => r.severity = .warning

theorem warningsIn_shownAt {level : Severity} (h : level.weight ≤ Severity.warning.weight)
    (events : List Event) : warningsIn (Event.shownAt level events) = warningsIn events := by
  unfold warningsIn Event.shownAt
  rw [List.filter_filter]
  apply List.filter_congr
  intro r _
  by_cases hr : r.severity = .warning
  · simpa [hr, Severity.shownAt] using h
  · simp [hr]

theorem warningsIn_of_steps {events : List Event} (h : ∀ r ∈ events, r.IsStep) :
    warningsIn events = [] := by
  unfold warningsIn
  rw [List.filter_eq_nil_iff]
  intro r hr
  simp [(h r hr).severity]

theorem warningsIn_boundsWarnings (warn : Bool) (queries : List Query) :
    warningsIn (boundsWarnings warn queries) = boundsWarnings warn queries := by
  unfold warningsIn
  rw [List.filter_eq_self]
  intro r hr
  simp [severity_of_mem_boundsWarnings hr]

/-- A planner that warns gives one warning for each returned query of the store with range filters on
several fields, those of its seed among them, and a planner that does not warn gives none. The text of a
warning lists the fields. -/
theorem range_warnings_recorded {s : Session} {index : Nat} {qs out : List Query} {clause : Datum}
    (hlevel : s.plannerLevel.weight ≤ Severity.warning.weight)
    (hout : (s.plan index qs clause).result = .ok out) :
    (s.warns index = true → Warned out (warningsIn (s.records index qs clause))) ∧
      (s.warns index = false → warningsIn (s.records index qs clause) = []) ∧
      (∀ r ∈ warningsIn (s.records index qs clause), ∃ fields, r = .severalBoundedFields fields ∧
        r.text = "Query has range filters on several fields (" ++ ", ".intercalate fields ++
          "); the store accepts only one") ∧
      ∀ q ∈ out, ∃ seed ∈ qs, ∃ added, q = seed.narrow added := by
  obtain ⟨e, -, hplan, hevents⟩ := planDatum_of_ok hout
  have hwarnings : warningsIn (s.records index qs clause) = boundsWarnings (s.warns index) out := by
    rw [records, shown, warningsIn_shownAt hlevel, plan, hevents]
    unfold warningsIn
    rw [List.filter_append, List.filter_cons_of_neg (by simp [Event.severity])]
    exact congrArg₂ (· ++ ·) (warningsIn_of_steps (e.plan_steps qs)) (warningsIn_boundsWarnings _ out)
  rw [hwarnings]
  refine ⟨?_, ?_, ?_, ?_⟩
  · intro hw
    rw [hw]
    exact warned_boundsWarnings out
  · intro hw
    rw [hw]
    rfl
  · intro r hr
    obtain ⟨fields, rfl⟩ := eq_severalBoundedFields_of_mem hr
    exact ⟨fields, rfl, rfl⟩
  · have ho := e.plan_outcome qs
    rw [hplan] at ho
    rw [ho.eq_spread]
    exact fun q hq => mem_spread hq

/-- `(rating > 2 AND name LIKE "T%") OR rating >= 4` on a query that bounds the age, on one without filters
and on a recorder. Only the first two get warnings, and the second one not for the second side. -/
theorem range_warnings_recorded_on_bounded_seed :
    let rating (operator : String) (n : Int) : Expr :=
      .binary operator (.column "rating" none) (.number (.int n))
    let name : Expr := .binary "LIKE" (.column "name" none) (.string "T%")
    let clause : Datum := .expr (.binary "OR" (.binary "AND" (rating ">" 2) name) (rating ">=" 4))
    let young : Filter := ⟨"age", "<", .number (.int 9), none⟩
    let seeds : List Query := [.filtered none [young], .filtered none [], .recorder "log" []]
    let named : List (List String) := [["age", "rating", "name"], ["rating", "name"], ["age", "rating"]]
    initial.plannerLevel.weight ≤ Severity.warning.weight ∧ initial.warns 0 = true ∧
      ∃ out, (initial.plan 0 seeds clause).result = .ok out ∧ out.length = 6 ∧
        Warned out (named.map Event.severalBoundedFields) ∧
        (warningsIn (initial.records 0 seeds clause)).map Event.text =
          ["Query has range filters on several fields (age, rating, name); the store accepts only one",
            "Query has range filters on several fields (rating, name); the store accepts only one",
            "Query has range filters on several fields (age, rating); the store accepts only one"] := by
  intro rating name clause young seeds named
  have hlevel : initial.plannerLevel.weight ≤ Severity.warning.weight := by decide
  have hwarns : initial.warns 0 = true := rfl
  obtain ⟨out, hout⟩ : ∃ out, (initial.plan 0 seeds clause).result = .ok out := ⟨_, rfl⟩
  have hlength : out.length = 6 := by
    cases hout
    rfl
  have hnamed : warningsIn (initial.records 0 seeds clause) = named.map Event.severalBoundedFields := rfl
  have hwarned := (range_warnings_recorded hlevel hout).1 hwarns
  rw [hnamed] at hwarned ⊢
  exact ⟨hlevel, hwarns, out, hout, hlength, hwarned, rfl⟩

end Session

end WhereClause
