import WhereClause.Text.Blank

/-! # Environment files

An environment file binds names to values. A binding ends with its line, but a quoted name or value can
go on over several lines. Blank lines, comments and lines of any other form bind nothing. Main
statement: reading a binding leaves an end of the text (`read_suffix`), so the reading of a file ends.
-/

namespace WhereClause.EnvFile

open Text

/-! ## Lines -/

/-- The text with every line ended by a line feed. -/
def unifyEnds : List Char → List Char
  | '\r' :: '\n' :: cs => '\n' :: unifyEnds cs
  | '\r' :: cs => '\n' :: unifyEnds cs
  | c :: cs => c :: unifyEnds cs
  | [] => []

/-- What a file holds after the byte order mark that it can start with. -/
def content (text : String) : List Char :=
  match text.toList with
  | '\ufeff' :: cs => unifyEnds cs
  | cs => unifyEnds cs

/-- White space within a line. -/
def isGap (c : Char) : Bool := isBlank c && c != '\n'

def lineOf (cs : List Char) : List Char := cs.takeWhile (· != '\n')

def endOfLine (cs : List Char) : List Char := cs.dropWhile (· != '\n')

def nextLine (cs : List Char) : List Char := (endOfLine cs).drop 1

/-- Nothing but white space and a comment up to the end of the line. -/
def isRemark (cs : List Char) : Bool :=
  match cs.dropWhile isGap with
  | [] => true
  | c :: _ => c == '#' || c == '\n'

/-! ## Names -/

/-- Takes off the word `export`, if white space follows it on its line. -/
def dropExport (cs : List Char) : List Char :=
  let word := ['e', 'x', 'p', 'o', 'r', 't']
  if word.isPrefixOf cs then
    match cs.drop word.length with
    | c :: rest => if isGap c then rest.dropWhile isGap else cs
    | [] => cs
  else cs

def inName (c : Char) : Bool := c != '=' && c != '#' && !isBlank c

/-- A name is quoted, or it ends before white space, a `#` or a `=`. -/
def name? (cs : List Char) : Option (List Char × List Char) :=
  match cs with
  | '\'' :: cs =>
    match cs.dropWhile (· != '\'') with
    | _ :: rest =>
      let name := cs.takeWhile (· != '\'')
      if name.isEmpty then none else some (name, rest)
    | [] => none
  | cs =>
    let name := cs.takeWhile inName
    if name.isEmpty then none else some (name, cs.dropWhile inName)

/-! ## Values -/

/-- What an escape after a backslash stands for. Only the quote mark and the backslash are escaped in
single quotes. -/
def escaped? (mark c : Char) : Option Char :=
  if c = '\\' ∨ c = '\'' then some c
  else if mark = '\'' then none
  else match c with
    | '"' => some '"'
    | 'a' => some '\x07'
    | 'b' => some '\x08'
    | 'f' => some '\x0c'
    | 'n' => some '\n'
    | 'r' => some '\r'
    | 't' => some '\t'
    | 'v' => some '\x0b'
    | _ => none

def unescape (mark : Char) : List Char → List Char
  | [] => []
  | [c] => [c]
  | c :: d :: cs =>
    match if c = '\\' then escaped? mark d else none with
    | some e => e :: unescape mark cs
    | none => c :: unescape mark (d :: cs)

/-- The text up to the closing quote mark, and the rest. A character after a backslash does not close. -/
def closing? (mark : Char) : List Char → Option (List Char × List Char)
  | [] => none
  | '\\' :: c :: cs => (closing? mark cs).map fun (body, rest) => ('\\' :: c :: body, rest)
  | c :: cs =>
    if c = mark then some ([], cs)
    else (closing? mark cs).map fun (body, rest) => (c :: body, rest)

/-- The text up to a `#` that follows white space. -/
def beforeRemark : List Char → List Char
  | [] => []
  | c :: cs => if isBlank c && (cs.dropWhile isBlank).head? == some '#' then [] else c :: beforeRemark cs

def plainValue (cs : List Char) : List Char := trim (beforeRemark (lineOf cs))

/-- The value after an equals sign, and the rest. Only an open quote has none. -/
def value? (cs : List Char) : Option (List Char × List Char) :=
  match cs.dropWhile isGap with
  | [] => some ([], [])
  | c :: rest =>
    if c = '\'' ∨ c = '"' then (closing? c rest).map fun (body, rest) => (unescape c body, rest)
    else some (plainValue cs, endOfLine cs)

/-! ## Bindings -/

/-- A name and its value, which it lacks without an equals sign. -/
abbrev Binding := String × Option String

/-- A binding, if nothing else follows on the line. -/
def alone (name : List Char) (value : Option (List Char)) (rest : List Char) :
    Option Binding × List Char :=
  (if isRemark rest then some (String.ofList name, value.map String.ofList) else none, rest)

/-- The binding at the start of a text, and the text after it or at the place that breaks its form. -/
def read (cs : List Char) : Option Binding × List Char :=
  let start := dropExport cs
  match name? start with
  | none => (none, start)
  | some (name, rest) =>
    match rest.dropWhile isGap with
    | '=' :: after =>
      match value? after with
      | none => (none, after)
      | some (value, rest) => alone name (some value) rest
    | _ => alone name none rest

theorem dropExport_suffix (cs : List Char) : dropExport cs <:+ cs := by
  unfold dropExport
  dsimp only
  split
  · split
    · rename_i c rest h
      split
      · have hs : c :: rest <:+ cs := h ▸ List.drop_suffix _ _
        exact (List.dropWhile_suffix _).trans ((List.suffix_cons c rest).trans hs)
      · exact List.suffix_rfl
    · exact List.suffix_rfl
  · exact List.suffix_rfl

theorem name?_suffix {cs name rest : List Char} (h : name? cs = some (name, rest)) : rest <:+ cs := by
  unfold name? at h
  split at h
  · rename_i tail
    split at h
    · rename_i c after hd
      dsimp only at h
      split at h
      · simp at h
      · simp only [Option.some.injEq, Prod.mk.injEq] at h
        obtain ⟨-, rfl⟩ := h
        have hs : c :: after <:+ tail := hd ▸ List.dropWhile_suffix _
        exact (List.suffix_cons c after).trans (hs.trans (List.suffix_cons _ _))
    · simp at h
  · dsimp only at h
    split at h
    · simp at h
    · simp only [Option.some.injEq, Prod.mk.injEq] at h
      exact h.2 ▸ List.dropWhile_suffix _

theorem closing?_suffix {mark : Char} {cs body rest : List Char}
    (h : closing? mark cs = some (body, rest)) : rest <:+ cs := by
  fun_induction closing? mark cs generalizing body rest with
  | case1 => simp at h
  | case2 c cs ih =>
    obtain ⟨found, hf, he⟩ := Option.map_eq_some_iff.mp h
    simp only [Prod.mk.injEq] at he
    exact he.2 ▸ (ih hf).trans ((List.suffix_cons c cs).trans (List.suffix_cons _ _))
  | case3 cs =>
    simp only [Option.some.injEq, Prod.mk.injEq] at h
    exact h.2 ▸ List.suffix_cons _ _
  | case4 c cs _ _ ih =>
    obtain ⟨found, hf, he⟩ := Option.map_eq_some_iff.mp h
    simp only [Prod.mk.injEq] at he
    exact he.2 ▸ (ih hf).trans (List.suffix_cons c cs)

theorem value?_suffix {cs value rest : List Char} (h : value? cs = some (value, rest)) : rest <:+ cs := by
  unfold value? at h
  split at h
  · simp only [Option.some.injEq, Prod.mk.injEq] at h
    exact h.2 ▸ List.nil_suffix
  · rename_i c after hd
    have hs : c :: after <:+ cs := hd ▸ List.dropWhile_suffix _
    split at h
    · obtain ⟨found, hf, he⟩ := Option.map_eq_some_iff.mp h
      simp only [Prod.mk.injEq] at he
      exact he.2 ▸ (closing?_suffix hf).trans ((List.suffix_cons c after).trans hs)
    · simp only [Option.some.injEq, Prod.mk.injEq] at h
      exact h.2 ▸ List.dropWhile_suffix _

theorem read_suffix (cs : List Char) : (read cs).2 <:+ cs := by
  unfold read
  dsimp only
  have hstart := dropExport_suffix cs
  split
  · exact hstart
  · rename_i name rest hn
    have hrest := (name?_suffix hn).trans hstart
    split
    · rename_i after hd
      have hafter : after <:+ cs :=
        (List.suffix_cons '=' after).trans ((hd ▸ List.dropWhile_suffix _).trans hrest)
      split
      · exact hafter
      · rename_i value last hv
        exact (value?_suffix hv).trans hafter
    · exact hrest

theorem nextLine_length {cs rest : List Char} (h : rest <:+ cs) (hne : cs ≠ []) :
    (nextLine rest).length < cs.length := by
  have hrest := h.length_le
  have hend : (endOfLine rest).length ≤ rest.length := (List.dropWhile_suffix _).length_le
  have hpos : 0 < cs.length := List.length_pos_iff.mpr hne
  simp only [nextLine, List.length_drop]
  omega

/-- The bindings of a text in order. -/
def bindings (cs : List Char) : List Binding :=
  match _h : cs.dropWhile isBlank with
  | [] => []
  | c :: rest =>
    let found := read (c :: rest)
    found.1.toList ++ bindings (nextLine found.2)
termination_by cs.length
decreasing_by
  have hs : (c :: rest).length ≤ cs.length := _h ▸ (List.dropWhile_suffix _).length_le
  exact Nat.lt_of_lt_of_le (nextLine_length (read_suffix _) (List.cons_ne_nil _ _)) hs

end WhereClause.EnvFile
