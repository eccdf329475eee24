import QueryGateway.Text.Csv

/-! # Reading comma-separated rows

Rows are separated by line feeds and fields by commas. A field may stand in quotes; then everything
up to the closing quote belongs to it, and a quote inside it is written twice. A reader that goes by
these rules finds in written rows what was written, whatever the fields hold.
-/

namespace QueryGateway.Text.Csv

/-! ## The reader -/

/-- Where a reader stands. -/
inductive Place where
  /-- At the start of a field. -/
  | start
  /-- In a field without quotes. -/
  | plain
  | quoted
  /-- Behind a quote that ends the field, unless a second quote follows. -/
  | closing
  deriving DecidableEq

/-- The fields of rows, as characters. -/
abbrev Cells := List (List (List Char))

/-- Puts characters in front of the first field. -/
def extend (cs : List Char) : Cells → Cells
  | (field :: fields) :: rows => ((cs ++ field) :: fields) :: rows
  | cells => cells

/-- Puts an empty field in front of the first row. -/
def addField : Cells → Cells
  | row :: rows => ([] :: row) :: rows
  | [] => []

/-- Reads what follows a place. The first field that is found goes on with what was read before. Any
text in or behind quotes that are not closed or doubled is refused, and so are a quote and a carriage
return in a field without quotes. -/
def readFrom : Place → List Char → Option Cells
  | .quoted, [] => none
  | _, [] => some [[[]]]
  | .quoted, c :: cs =>
    if c = '"' then readFrom .closing cs else (readFrom .quoted cs).map (extend [c])
  | place, c :: cs =>
    if c = ',' then (readFrom .start cs).map addField
    else if c = '\n' then (readFrom .start cs).map ([[]] :: ·)
    else if c = '"' then
      match place with
      | .start => readFrom .quoted cs
      | .closing => (readFrom .quoted cs).map (extend [c])
      | _ => none
    else if place = .closing ∨ c = '\r' then none
    else (readFrom .plain cs).map (extend [c])

/-- The rows of a text. -/
def read? (s : String) : Option (List (List String)) :=
  (readFrom .start s.toList).map fun rows => rows.map fun row => row.map String.ofList

variable {cs rest : List Char}

@[simp] theorem extend_nil (cells : Cells) : extend [] cells = cells := by
  match cells with
  | [] => rfl
  | [] :: _ => rfl
  | (_ :: _) :: _ => rfl

theorem map_extend_nil (cells? : Option Cells) : cells?.map (extend []) = cells? := by
  cases cells? with
  | none => rfl
  | some cells => simp

theorem extend_comp (first second : List Char) :
    extend first ∘ extend second = extend (first ++ second) := by
  funext cells
  match cells with
  | [] => rfl
  | [] :: _ => rfl
  | (_ :: _) :: _ => simp [extend]

/-! ## Fields -/

theorem isSpecial_eq_false {c : Char} (h : isSpecial c = false) :
    c ≠ ',' ∧ c ≠ '"' ∧ c ≠ '\n' ∧ c ≠ '\r' := by
  simpa [isSpecial, and_assoc] using h

/-- A field ends here. -/
def Ends (rest : List Char) : Prop :=
  ∀ c ∈ rest.head?, c = ',' ∨ c = '\n'

/-- Where a field ends, it does not matter how it was written. -/
theorem readFrom_of_ends (h : Ends rest) {place : Place} (hplace : place ≠ .quoted) :
    readFrom place rest = readFrom .start rest := by
  cases rest with
  | nil =>
      cases place with
      | quoted => exact absurd rfl hplace
      | start => rfl
      | plain => rfl
      | closing => rfl
  | cons c rest =>
      cases place with
      | quoted => exact absurd rfl hplace
      | start => rfl
      | plain =>
          rcases h c rfl with rfl | rfl
          · simp [readFrom]
          · simp [readFrom]
      | closing =>
          rcases h c rfl with rfl | rfl
          · simp [readFrom]
          · simp [readFrom]

theorem readFrom_plain (hplain : ∀ c ∈ cs, isSpecial c = false) (rest : List Char) :
    readFrom .plain (cs ++ rest) = (readFrom .plain rest).map (extend cs) := by
  induction cs with
  | nil => simp [map_extend_nil]
  | cons c cs ih =>
      obtain ⟨hc, hcs⟩ := List.forall_mem_cons.mp hplain
      obtain ⟨hcomma, hquote, hfeed, hreturn⟩ := isSpecial_eq_false hc
      rw [List.cons_append, readFrom.eq_def]
      simp only [hcomma, hquote, hfeed, hreturn, if_false, reduceCtorEq, or_self]
      rw [ih hcs, Option.map_map, extend_comp]
      rfl

theorem readFrom_quoted (cs rest : List Char) :
    readFrom .quoted (doubleQuotes cs ++ '"' :: rest) =
      (readFrom .closing rest).map (extend cs) := by
  induction cs with
  | nil => simp [doubleQuotes, readFrom, map_extend_nil]
  | cons c cs ih =>
      rw [doubleQuotes] at ih
      by_cases hquote : c = '"'
      · subst hquote
        simp [doubleQuotes, readFrom, ih, Option.map_map, extend_comp]
      · simp [doubleQuotes, readFrom, hquote, ih, Option.map_map, extend_comp]

/-- A written field is read as it was, if it ends there. -/
theorem readFrom_encodeField (cs : List Char) (h : Ends rest) :
    readFrom .start (encodeField cs ++ rest) = (readFrom .start rest).map (extend cs) := by
  by_cases hspecial : cs.any isSpecial = true
  · rw [encodeField, if_pos hspecial]
    have hopen : readFrom .start ('"' :: doubleQuotes cs ++ ['"'] ++ rest) =
        readFrom .quoted (doubleQuotes cs ++ '"' :: rest) := by
      simp [readFrom]
    rw [hopen, readFrom_quoted, readFrom_of_ends h (by decide)]
  · rw [encodeField, if_neg hspecial]
    have hplain : ∀ c ∈ cs, isSpecial c = false := by simpa using hspecial
    have hstart : readFrom .start (cs ++ rest) = readFrom .plain (cs ++ rest) := by
      cases cs with
      | nil => exact (readFrom_of_ends h (by decide)).symm
      | cons c cs =>
          obtain ⟨-, hquote, -, -⟩ := isSpecial_eq_false (hplain c List.mem_cons_self)
          simp [readFrom, hquote]
    rw [hstart, readFrom_plain hplain, readFrom_of_ends h (by decide)]

/-! ## Rows -/

/-- The characters of a row. -/
def rowChars (fields : List (List Char)) : List Char :=
  [','].intercalate (fields.map encodeField)

/-- What follows a row: nothing, or a line feed and more rows. -/
def rowsBehind : List Char → Option Cells
  | [] => some []
  | _ :: cs => readFrom .start cs

/-- A written row is read as it was, if the line ends there. -/
theorem readFrom_rowChars {fields : List (List Char)} (hsome : fields ≠ []) (rest : List Char)
    (h : ∀ c ∈ rest.head?, c = '\n') :
    readFrom .start (rowChars fields ++ rest) = (rowsBehind rest).map (fields :: ·) := by
  have hends : Ends rest := fun c hc => .inr (h c hc)
  induction fields with
  | nil => exact absurd rfl hsome
  | cons field more ih =>
      cases more with
      | nil =>
          have hrest : readFrom .start rest = (rowsBehind rest).map ([[]] :: ·) := by
            cases rest with
            | nil => rfl
            | cons c cs =>
                obtain rfl := h c rfl
                simp [readFrom, rowsBehind]
          rw [rowChars, List.map_singleton, List.intercalate_singleton,
            readFrom_encodeField field hends, hrest, Option.map_map]
          apply congrArg (Option.map · _)
          funext rows
          simp [extend]
      | cons next more =>
          have hcomma : rowChars (field :: next :: more) ++ rest =
              encodeField field ++ ',' :: (rowChars (next :: more) ++ rest) := by
            simp [rowChars]
          have hfield : Ends (',' :: (rowChars (next :: more) ++ rest)) := by
            intro c hc
            exact .inl (Option.some.inj hc).symm
          have hnext : readFrom .start (',' :: (rowChars (next :: more) ++ rest)) =
              (readFrom .start (rowChars (next :: more) ++ rest)).map addField := by
            simp [readFrom]
          rw [hcomma, readFrom_encodeField field hfield, hnext, ih (List.cons_ne_nil _ _),
            Option.map_map, Option.map_map]
          apply congrArg (Option.map · _)
          funext rows
          simp [extend, addField]

/-- Written rows are read as they were. -/
theorem readFrom_intercalate {rows : Cells} (hsome : rows ≠ []) (hrows : ∀ row ∈ rows, row ≠ []) :
    readFrom .start (['\n'].intercalate (rows.map rowChars)) = some rows := by
  induction rows with
  | nil => exact absurd rfl hsome
  | cons row more ih =>
      obtain ⟨hrow, hmore⟩ := List.forall_mem_cons.mp hrows
      cases more with
      | nil =>
          have hread := readFrom_rowChars hrow [] (by simp)
          rw [List.append_nil] at hread
          rw [List.map_singleton, List.intercalate_singleton, hread]
          rfl
      | cons next more =>
          have hfeed : ['\n'].intercalate ((row :: next :: more).map rowChars) =
              rowChars row ++ '\n' :: ['\n'].intercalate ((next :: more).map rowChars) := by
            simp
          rw [hfeed, readFrom_rowChars hrow _ (by simp), rowsBehind,
            ih (List.cons_ne_nil _ _) hmore]
          rfl

theorem toList_row (fields : List String) :
    (row fields).toList = rowChars (fields.map String.toList) := by
  rw [row, rowChars, String.toList_intercalate, List.map_map, List.map_map]
  apply congrArg
  apply List.map_congr_left
  intro field _
  simp

/-- What is written for rows is read as these rows. -/
theorem read?_rows {rows : List (List String)} (hsome : rows ≠ []) (hrows : ∀ row ∈ rows, row ≠ []) :
    read? ("\n".intercalate (rows.map row)) = some rows := by
  have hchars : ("\n".intercalate (rows.map row)).toList =
      ['\n'].intercalate ((rows.map (List.map String.toList)).map rowChars) := by
    rw [String.toList_intercalate, List.map_map, List.map_map]
    exact congrArg _ (List.map_congr_left fun fields _ => toList_row fields)
  have hsome' : rows.map (List.map String.toList) ≠ [] := by simpa using hsome
  have hrows' : ∀ row ∈ rows.map (List.map String.toList), row ≠ [] := by simpa using hrows
  rw [read?, hchars, readFrom_intercalate hsome' hrows']
  simp [Function.comp_def]

/-- Text behind a closing quote, and a quote that is not closed, are refused. -/
example : read? "a,\"b,\"\"\nc\"\n," = some [["a", "b,\"\nc"], ["", ""]] ∧
    read? "\"a\"b" = none ∧ read? "a\"b\"" = none ∧ read? "\"a" = none := by
  decide

end QueryGateway.Text.Csv
