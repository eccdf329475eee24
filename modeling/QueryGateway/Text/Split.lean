/-! # Cutting a text at separators

`splitOn` cuts at every occurrence of a character, `cut` at the first one, `cutLast` at the last
one, and `cutAt` at the first occurrence of a longer pattern. None of them trims.
-/

namespace QueryGateway.Text

/-- Puts one more character in front of the pieces of a text. -/
def splitStep (sep c : Char) : List (List Char) → List (List Char)
  | [] => [[c]]
  | piece :: pieces => if c = sep then [] :: piece :: pieces else (c :: piece) :: pieces

/-- The pieces between the occurrences of `sep`, in order. There is always at least one. -/
def splitList (sep : Char) (cs : List Char) : List (List Char) :=
  cs.foldr (splitStep sep) [[]]

/-- What stands before and after the first `sep`. -/
def cutList (sep : Char) (cs : List Char) : Option (List Char × List Char) :=
  match cs.dropWhile (· != sep) with
  | [] => none
  | _ :: after => some (cs.takeWhile (· != sep), after)

/-- Looks for `pattern` in a text, the `passed` characters before it already seen. -/
def cutListFrom (pattern passed : List Char) : List Char → Option (List Char × List Char)
  | [] => if pattern.isEmpty then some (passed.reverse, []) else none
  | c :: cs =>
    match pattern.isPrefixOf? (c :: cs) with
    | some after => some (passed.reverse, after)
    | none => cutListFrom pattern (c :: passed) cs

/-- What stands before and after the first occurrence of `pattern`. -/
def cutListAt (pattern cs : List Char) : Option (List Char × List Char) :=
  cutListFrom pattern [] cs

/-- The pieces of a text between the occurrences of `sep`. -/
def splitOn (sep : Char) (s : String) : List String :=
  (splitList sep s.toList).map String.ofList

/-- The text before and the text after the first `sep`. -/
def cut (sep : Char) (s : String) : Option (String × String) :=
  (cutList sep s.toList).map fun (before, after) => (String.ofList before, String.ofList after)

/-- The text before and the text after the last `sep`. -/
def cutLast (sep : Char) (s : String) : Option (String × String) :=
  (cutList sep s.toList.reverse).map fun (after, before) =>
    (String.ofList before.reverse, String.ofList after.reverse)

/-- The text before and the text after the first occurrence of `pattern`. -/
def cutAt (pattern s : String) : Option (String × String) :=
  (cutListAt pattern.toList s.toList).map fun (before, after) =>
    (String.ofList before, String.ofList after)

/-- The text before `ending`, if it ends so. -/
def dropEnding? (ending s : String) : Option String :=
  (ending.toList.isSuffixOf? s.toList).map String.ofList

@[simp] theorem splitList_nil (sep : Char) : splitList sep [] = [[]] := rfl

theorem splitList_cons (sep c : Char) (cs : List Char) :
    splitList sep (c :: cs) = splitStep sep c (splitList sep cs) := rfl

theorem splitList_ne_nil (sep : Char) (cs : List Char) : splitList sep cs ≠ [] := by
  induction cs with
  | nil => simp
  | cons c cs ih =>
    rw [splitList_cons]
    cases h : splitList sep cs with
    | nil => exact absurd h ih
    | cons piece pieces =>
      simp only [splitStep]
      split <;> simp

/-- No piece holds the separator. -/
theorem notMem_of_mem_splitList {sep : Char} {cs piece : List Char}
    (h : piece ∈ splitList sep cs) : sep ∉ piece := by
  induction cs generalizing piece with
  | nil => simp_all
  | cons c cs ih =>
    rw [splitList_cons] at h
    cases hs : splitList sep cs with
    | nil => exact absurd hs (splitList_ne_nil sep cs)
    | cons head rest =>
      rw [hs] at h ih
      simp only [splitStep] at h
      split at h
      · rcases List.mem_cons.mp h with rfl | h
        · simp
        · exact ih h
      · next hc =>
        rcases List.mem_cons.mp h with rfl | h
        · simpa [Ne.symm hc] using ih (List.mem_cons_self ..)
        · exact ih (List.mem_cons_of_mem _ h)

@[simp] theorem cutList_nil (sep : Char) : cutList sep [] = none := rfl

@[simp] theorem cutList_cons_self (sep : Char) (cs : List Char) :
    cutList sep (sep :: cs) = some ([], cs) := by
  simp [cutList]

theorem cutList_cons_of_ne {sep c : Char} (h : c ≠ sep) (cs : List Char) :
    cutList sep (c :: cs) =
      (cutList sep cs).map fun (before, after) => (c :: before, after) := by
  have hc : (c != sep) = true := by simpa using h
  simp only [cutList, List.dropWhile_cons, List.takeWhile_cons, hc, if_true]
  cases cs.dropWhile (· != sep) <;> rfl

theorem cutList_eq_none_iff {sep : Char} {cs : List Char} : cutList sep cs = none ↔ sep ∉ cs := by
  induction cs with
  | nil => simp
  | cons c cs ih =>
    by_cases h : c = sep
    · subst h; simp
    · simp [cutList_cons_of_ne h, ih, Ne.symm h]

/-- The cut is at the first separator. -/
theorem cutList_eq_some_iff {sep : Char} {cs before after : List Char} :
    cutList sep cs = some (before, after) ↔ cs = before ++ sep :: after ∧ sep ∉ before := by
  induction cs generalizing before with
  | nil => simp
  | cons c cs ih =>
    by_cases h : c = sep
    · subst h
      constructor
      · intro heq
        simp only [cutList_cons_self, Option.some.injEq, Prod.mk.injEq] at heq
        obtain ⟨rfl, rfl⟩ := heq
        simp
      · rintro ⟨heq, hmem⟩
        cases before with
        | nil => simp_all
        | cons b before => simp_all
    · cases before with
      | nil => simp [cutList_cons_of_ne h, h]
      | cons b before =>
        constructor
        · intro heq
          simp only [cutList_cons_of_ne h, Option.map_eq_some_iff, Prod.exists, Prod.mk.injEq,
            List.cons.injEq] at heq
          obtain ⟨x, y, hxy, ⟨rfl, rfl⟩, rfl⟩ := heq
          have := ih.mp hxy
          simp [this.1, this.2, Ne.symm h]
        · rintro ⟨heq, hmem⟩
          simp only [List.cons_append, List.cons.injEq] at heq
          obtain ⟨rfl, rfl⟩ := heq
          simp only [List.mem_cons, not_or] at hmem
          simp [cutList_cons_of_ne h, ih.mpr ⟨rfl, hmem.2⟩]

end QueryGateway.Text
