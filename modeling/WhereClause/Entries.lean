/-! # Named entries -/

namespace WhereClause.Entries

variable {α : Type}

/-- A name put again takes the later value and keeps its place. -/
def put (entries : List (String × α)) (entry : String × α) : List (String × α) :=
  if entries.any (·.1 == entry.1) then entries.map fun e => if e.1 == entry.1 then entry else e
  else entries ++ [entry]

/-- The pairs with each name once. -/
def ofPairs (pairs : List (String × α)) : List (String × α) := pairs.foldl put []

theorem lookup_put (entries : List (String × α)) (name other : String) (value : α) :
    (put entries (name, value)).lookup other =
      if other = name then some value else entries.lookup other := by
  unfold put
  split
  · rename_i hany
    induction entries with
    | nil => simp at hany
    | cons entry rest ih =>
      obtain ⟨key, old⟩ := entry
      by_cases hk : key = name
      · subst hk
        by_cases ho : other = key
        · simp [ho]
        · have hb : (other == key) = false := by simpa using ho
          simp only [List.map_cons, beq_self_eq_true, ↓reduceIte, List.lookup_cons, hb, if_neg ho]
          by_cases hrest : rest.any (·.1 == key) = true
          · simpa [ho] using ih hrest
          · congr 1
            rw [List.map_congr_left (g := id)]
            · simp
            · intro e he
              have : (e.1 == key) = false := by
                simp only [List.any_eq_true, not_exists, not_and] at hrest
                simpa using hrest e he
              simp [this]
      · have hkb : (key == name) = false := by simpa using hk
        simp only [List.any_cons, hkb, Bool.false_or] at hany
        simp only [List.map_cons, hkb, Bool.false_eq_true, ↓reduceIte, List.lookup_cons]
        by_cases ho : other = key
        · subst ho; simp [hk]
        · have hb : (other == key) = false := by simpa using ho
          simpa [hb] using ih hany
  · rename_i hany
    induction entries with
    | nil =>
      by_cases ho : other = name
      · simp [ho]
      · have hb : (other == name) = false := by simpa using ho
        simp [List.lookup_cons, hb, ho]
    | cons entry rest ih =>
      obtain ⟨key, old⟩ := entry
      simp only [List.any_cons, Bool.or_eq_true, not_or] at hany
      have hk : key ≠ name := by simpa using hany.1
      simp only [List.cons_append, List.lookup_cons]
      by_cases ho : other = key
      · subst ho; simp [hk]
      · have hb : (other == key) = false := by simpa using ho
        simpa [hb] using ih hany.2

theorem lookup_put_self (entries : List (String × α)) (name : String) (value : α) :
    (put entries (name, value)).lookup name = some value := by
  rw [lookup_put, if_pos rfl]

theorem lookup_put_of_ne {entries : List (String × α)} {name other : String} {old : α}
    (h : other ≠ name) (ho : entries.lookup other = some old) (value : α) :
    (put entries (name, value)).lookup other = some old := by
  rw [lookup_put, if_neg h, ho]

end WhereClause.Entries
