import Mathlib.Data.List.Forall2
import QueryGateway.Text.Blank
import QueryGateway.Text.Split

/-! # Texts put together and taken apart

Pieces that were joined with a separator are found again by splitting at it, the first of them by
cutting there, and a text that starts and ends with text that has no blanks around it has none
either.
-/

namespace QueryGateway.Text

variable {sep : Char} {names : List String}

/-! ## Pieces -/

theorem splitList_eq_splitOn (sep : Char) (cs : List Char) : splitList sep cs = cs.splitOn sep := by
  induction cs with
  | nil => rfl
  | cons c cs ih =>
      rw [splitList_cons, ih, List.splitOn_cons_eq_if_modifyHead]
      cases h : cs.splitOn sep with
      | nil => exact absurd (ih.trans h) (splitList_ne_nil sep cs)
      | cons piece pieces =>
          by_cases hc : c = sep
          · simp [splitStep, hc]
          · simp [splitStep, hc]

theorem splitOn_of_notMem {s : String} (h : sep ∉ s.toList) : splitOn sep s = [s] := by
  rw [splitOn, splitList_eq_splitOn, List.splitOn_eq_singleton h]
  simp

theorem splitOn_intercalate (hne : names ≠ []) (h : ∀ name ∈ names, sep ∉ name.toList) :
    splitOn sep ((String.singleton sep).intercalate names) = names := by
  have hlist : ((String.singleton sep).intercalate names).toList =
      [sep].intercalate (names.map String.toList) := by
    simp
  have hpieces : ∀ piece ∈ names.map String.toList, sep ∉ piece := by
    intro piece hpiece
    obtain ⟨name, hname, rfl⟩ := List.mem_map.mp hpiece
    exact h name hname
  rw [splitOn, hlist, splitList_eq_splitOn,
    List.splitOn_intercalate sep hpieces (by simpa using hne)]
  simp

theorem splitOn_append (sep : Char) (before after : String) :
    splitOn sep (before ++ String.singleton sep ++ after) =
      splitOn sep before ++ splitOn sep after := by
  have hlist : (before ++ String.singleton sep ++ after).toList =
      before.toList ++ sep :: after.toList := by
    simp [String.toList_append]
  rw [splitOn, splitOn, splitOn, hlist, splitList_eq_splitOn, splitList_eq_splitOn,
    splitList_eq_splitOn, List.splitOn_append_cons_self, List.map_append]

theorem notMem_intercalate {c : Char} (hsep : c ≠ sep) (h : ∀ name ∈ names, c ∉ name.toList) :
    c ∉ ((String.singleton sep).intercalate names).toList := by
  induction names with
  | nil => simp
  | cons name rest ih =>
      have hname := h name List.mem_cons_self
      have hrest := ih fun name' hname' => h name' (List.mem_cons_of_mem _ hname')
      cases rest with
      | nil => simpa using hname
      | cons next more =>
          rw [String.intercalate_cons_cons]
          simp only [String.toList_append, List.mem_append, not_or]
          exact ⟨⟨hname, by simpa using hsep⟩, hrest⟩

theorem subset_of_mem_splitList {cs piece : List Char} (h : piece ∈ splitList sep cs) :
    piece ⊆ cs := by
  induction cs generalizing piece with
  | nil =>
      obtain rfl := List.mem_singleton.mp h
      exact List.Subset.refl _
  | cons c cs ih =>
      rw [splitList_cons] at h
      generalize splitList sep cs = pieces at h ih
      cases pieces with
      | nil =>
          obtain rfl := List.mem_singleton.mp h
          exact List.cons_subset_cons c (List.nil_subset cs)
      | cons first more =>
          rw [splitStep] at h
          split at h
          · rcases List.mem_cons.mp h with rfl | hmem
            · exact List.nil_subset _
            · exact List.Subset.trans (ih hmem) (List.subset_cons_self c cs)
          · rcases List.mem_cons.mp h with rfl | hmem
            · exact List.cons_subset_cons c (ih List.mem_cons_self)
            · exact List.Subset.trans (ih (List.mem_cons_of_mem first hmem))
                (List.subset_cons_self c cs)

/-- A piece of a text holds no separator, and nothing that the text does not hold. -/
theorem notMem_of_mem_splitOn {s piece : String} (h : piece ∈ splitOn sep s) :
    sep ∉ piece.toList ∧ piece.toList ⊆ s.toList := by
  obtain ⟨chars, hchars, rfl⟩ := List.mem_map.mp h
  rw [String.toList_ofList]
  exact ⟨notMem_of_mem_splitList hchars, subset_of_mem_splitList hchars⟩

/-! ## Cuts -/

theorem cut_append {before after : String} (h : sep ∉ before.toList) :
    cut sep (before ++ String.singleton sep ++ after) = some (before, after) := by
  have hlist : (before ++ String.singleton sep ++ after).toList =
      before.toList ++ sep :: after.toList := by
    simp [String.toList_append]
  have hcut : cutList sep (before.toList ++ sep :: after.toList) =
      some (before.toList, after.toList) :=
    cutList_eq_some_iff.mpr ⟨rfl, h⟩
  rw [cut, hlist, hcut]
  simp

theorem cut_eq_some_iff {s before after : String} :
    cut sep s = some (before, after) ↔
      s = before ++ String.singleton sep ++ after ∧ sep ∉ before.toList := by
  constructor
  · intro h
    obtain ⟨⟨front, back⟩, hcut, hpair⟩ := Option.map_eq_some_iff.mp h
    obtain ⟨rfl, rfl⟩ := Prod.mk.inj hpair
    obtain ⟨hchars, hnot⟩ := cutList_eq_some_iff.mp hcut
    refine ⟨?_, by simpa using hnot⟩
    apply String.toList_inj.mp
    simpa using hchars
  · rintro ⟨rfl, hnot⟩
    exact cut_append hnot

theorem cut_eq_none_iff {s : String} : cut sep s = none ↔ sep ∉ s.toList := by
  rw [cut, Option.map_eq_none_iff, cutList_eq_none_iff]

/-- The first piece of a text and what follows it, which is nothing where there is no separator. -/
theorem getD_cut_eq_iff {s before after : String} :
    (cut sep s).getD (s, "") = (before, after) ↔
      sep ∉ before.toList ∧
        (s = before ++ String.singleton sep ++ after ∨ s = before ∧ after = "") := by
  constructor
  · intro h
    cases hcut : cut sep s with
    | none =>
        rw [hcut, Option.getD_none] at h
        obtain ⟨rfl, rfl⟩ := Prod.mk.inj h
        exact ⟨cut_eq_none_iff.mp hcut, .inr ⟨rfl, rfl⟩⟩
    | some parts =>
        rw [hcut, Option.getD_some] at h
        subst h
        obtain ⟨hs, hnot⟩ := cut_eq_some_iff.mp hcut
        exact ⟨hnot, .inl hs⟩
  · rintro ⟨hnot, rfl | ⟨rfl, rfl⟩⟩
    · rw [cut_append hnot, Option.getD_some]
    · rw [cut_eq_none_iff.mpr hnot, Option.getD_none]

/-! ## Ends -/

theorem dropWhile_eq_self_iff {p : Char → Bool} {cs : List Char} :
    cs.dropWhile p = cs ↔ ∀ c ∈ cs.head?, p c = false := by
  cases cs with
  | nil => simp
  | cons c cs =>
      by_cases hc : p c = true
      · have hlength := (List.dropWhile_sublist p (l := cs)).length_le
        constructor
        · intro heq
          rw [List.dropWhile_cons, if_pos hc] at heq
          rw [heq, List.length_cons] at hlength
          omega
        · intro h
          rw [h c rfl] at hc
          cases hc
      · simp [hc]

theorem dropEndWhile_eq_self_iff {p : Char → Bool} {cs : List Char} :
    dropEndWhile p cs = cs ↔ ∀ c ∈ cs.getLast?, p c = false := by
  rw [dropEndWhile, List.reverse_eq_iff, dropWhile_eq_self_iff, List.head?_reverse]

/-- Neither the first nor the last character is blank. -/
theorem trimList_eq_self_iff {cs : List Char} :
    trimList cs = cs ↔
      (∀ c ∈ cs.head?, isBlank c = false) ∧ ∀ c ∈ cs.getLast?, isBlank c = false := by
  constructor
  · intro h
    obtain ⟨dropped, hdropped, -⟩ := exists_dropEndWhile_append isBlank (cs.dropWhile isBlank)
    have hfront : cs.dropWhile isBlank = cs := by
      apply List.Sublist.eq_of_length_le (List.dropWhile_sublist isBlank)
      have hlength := congrArg List.length hdropped
      rw [List.length_append] at hlength
      rw [trimList] at h
      rw [hlength, h]
      omega
    rw [trimList, hfront] at h
    exact ⟨dropWhile_eq_self_iff.mp hfront, dropEndWhile_eq_self_iff.mp h⟩
  · rintro ⟨hfirst, hlast⟩
    rw [trimList, dropWhile_eq_self_iff.mpr hfirst, dropEndWhile_eq_self_iff.mpr hlast]

theorem getLast?_dropEndWhile {p : Char → Bool} {cs : List Char} {c : Char}
    (h : c ∈ (dropEndWhile p cs).getLast?) : p c = false := by
  have hhead := List.head?_dropWhile_not p cs.reverse
  rw [dropEndWhile, List.getLast?_reverse] at h
  rw [h] at hhead
  exact hhead

theorem dropEndWhile_subset (p : Char → Bool) (cs : List Char) : dropEndWhile p cs ⊆ cs := by
  obtain ⟨dropped, hdropped, -⟩ := exists_dropEndWhile_append p cs
  intro c hc
  rw [hdropped]
  exact List.mem_append_left dropped hc

theorem trimList_subset (cs : List Char) : trimList cs ⊆ cs :=
  List.Subset.trans (dropEndWhile_subset isBlank _) (List.dropWhile_subset isBlank)

@[simp] theorem trimList_trimList (cs : List Char) : trimList (trimList cs) = trimList cs := by
  rw [trimList_eq_self_iff]
  refine ⟨?_, fun c hc => getLast?_dropEndWhile hc⟩
  intro c hc
  obtain ⟨dropped, hdropped, -⟩ := exists_dropEndWhile_append isBlank (cs.dropWhile isBlank)
  have hfirst : c ∈ (cs.dropWhile isBlank).head? := by
    rw [hdropped, List.head?_append]
    rw [trimList] at hc
    rw [hc]
    rfl
  have hhead := List.head?_dropWhile_not isBlank cs
  rw [hfirst] at hhead
  exact hhead

/-- Carriage returns at the end are blank, so a line is blank with them if it is without. -/
theorem isBlankText_trimEnd (line : String) :
    isBlankText (trimEnd (· = '\r') line) = isBlankText line := by
  obtain ⟨dropped, hline, hdropped⟩ := exists_dropEndWhile_append (· = '\r') line.toList
  have hblank : dropped.all isBlank = true := by
    rw [List.all_eq_true]
    intro c hc
    rw [of_decide_eq_true (hdropped c hc)]
    decide
  have hall := congrArg (List.all · isBlank) hline
  simp only [List.all_append, hblank, Bool.and_true] at hall
  rw [isBlankText, isBlankText, trimEnd, String.toList_ofList, hall]

theorem eq_append_of_dropEnding? {ending s rest : String} (h : dropEnding? ending s = some rest) :
    s = rest ++ ending := by
  obtain ⟨cs, hcs, rfl⟩ := Option.map_eq_some_iff.mp h
  rw [List.isSuffixOf?_eq_some_iff_append_eq] at hcs
  apply String.toList_inj.mp
  rw [String.toList_append, String.toList_ofList, hcs]

/-- Blanks at the end do not count. -/
theorem trimList_append_blanks {cs blanks : List Char} (h : ∀ c ∈ blanks, isBlank c = true) :
    trimList (cs ++ blanks) = trimList cs := by
  have hend : ∀ front, dropEndWhile isBlank (front ++ blanks) = dropEndWhile isBlank front := by
    intro front
    rw [dropEndWhile, List.reverse_append, List.dropWhile_append_of_pos]
    · rfl
    · intro c hc
      exact h c (List.mem_reverse.mp hc)
  rw [trimList, trimList, List.dropWhile_append]
  by_cases hnone : (cs.dropWhile isBlank).isEmpty = true
  · rw [if_pos hnone, List.isEmpty_iff.mp hnone]
    have hblanks : (blanks ++ []).dropWhile isBlank = [] := List.dropWhile_append_of_pos h
    rw [List.append_nil] at hblanks
    rw [hblanks]
  · rw [if_neg hnone, hend]

theorem trimList_of_forall {cs : List Char} (h : ∀ c ∈ cs, isBlank c = true) :
    trimList cs = [] := by
  have hall : trimList ([] ++ cs) = [] := trimList_append_blanks h
  exact hall

/-- Only from a blank text nothing is left. -/
theorem trim_eq_empty_iff {s : String} : trim s = "" ↔ isBlankText s = true := by
  rw [isBlankText, List.all_eq_true]
  constructor
  · intro h c hc
    have hnone : trimList s.toList = [] := by
      simpa [trim] using congrArg String.toList h
    have hfront : ∀ c ∈ s.toList.dropWhile isBlank, isBlank c = true := by
      obtain ⟨dropped, hdropped, hblank⟩ :=
        exists_dropEndWhile_append isBlank (s.toList.dropWhile isBlank)
      rw [trimList] at hnone
      rw [hdropped, hnone, List.nil_append]
      exact hblank
    rw [← List.takeWhile_append_dropWhile (p := isBlank) (l := s.toList)] at hc
    rcases List.mem_append.mp hc with hc | hc
    · exact List.all_eq_true.mp List.all_takeWhile c hc
    · exact hfront c hc
  · intro h
    rw [trim, trimList_of_forall h]

/-- What is written after a text goes to its last piece, if it holds no separator. -/
theorem splitList_append_forall₂ {more : List Char} (h : sep ∉ more) (cs : List Char) :
    List.Forall₂ (fun piece piece' => ∃ end', end' ⊆ more ∧ piece = piece' ++ end')
      (splitList sep (cs ++ more)) (splitList sep cs) := by
  induction cs with
  | nil =>
      rw [List.nil_append, splitList_eq_splitOn, List.splitOn_eq_singleton h]
      exact .cons ⟨more, List.Subset.refl more, rfl⟩ .nil
  | cons c cs ih =>
      rw [List.cons_append, splitList_cons, splitList_cons]
      generalize splitList sep (cs ++ more) = pieces, splitList sep cs = pieces' at ih
      cases ih with
      | nil => exact .cons ⟨[], List.nil_subset more, rfl⟩ .nil
      | cons hpiece hpieces =>
          rw [splitStep, splitStep]
          by_cases hc : c = sep
          · rw [if_pos hc, if_pos hc]
            exact .cons ⟨[], List.nil_subset more, rfl⟩ (.cons hpiece hpieces)
          · rw [if_neg hc, if_neg hc]
            obtain ⟨end', hsub, rfl⟩ := hpiece
            exact .cons ⟨end', hsub, rfl⟩ hpieces

theorem trim_eq_self_iff {s : String} : trim s = s ↔ trimList s.toList = s.toList := by
  rw [trim]
  constructor
  · intro h
    rw [← String.toList_ofList (l := trimList s.toList), h]
  · intro h
    rw [h, String.ofList_toList]

@[simp] theorem trim_trim (s : String) : trim (trim s) = trim s := by
  simp [trim]

theorem trim_subset (s : String) : (trim s).toList ⊆ s.toList := by
  rw [trim, String.toList_ofList]
  exact trimList_subset s.toList

/-- A text that has no blanks around it keeps its end, whichever blanks are taken from there. -/
theorem trimEnd_of_trim {p : Char → Bool} (hp : ∀ c, p c = true → isBlank c = true) {s : String}
    (h : trim s = s) : trimEnd p s = s := by
  rw [trim_eq_self_iff, trimList_eq_self_iff] at h
  have hkept : dropEndWhile p s.toList = s.toList := by
    rw [dropEndWhile_eq_self_iff]
    intro c hc
    have hnot := h.2 c hc
    rw [← Bool.not_eq_true] at hnot ⊢
    exact fun htrue => hnot (hp c htrue)
  rw [trimEnd, hkept, String.ofList_toList]

theorem trim_eq_self_of_forall {s : String} (h : ∀ c ∈ s.toList, isBlank c = false) :
    trim s = s := by
  rw [trim_eq_self_iff, trimList_eq_self_iff]
  exact ⟨fun c hc => h c (List.mem_of_mem_head? hc), fun c hc => h c (List.mem_of_mem_getLast? hc)⟩

/-- The blanks around a text are those before its first part and after its last one. -/
theorem trim_append {first last : String} (hfirst : trim first = first) (hlast : trim last = last)
    (hne : first ≠ "") (hne' : last ≠ "") (middle : String) :
    trim (first ++ middle ++ last) = first ++ middle ++ last := by
  have hchars : first.toList ≠ [] := by simpa using hne
  have hchars' : last.toList ≠ [] := by simpa using hne'
  rw [trim_eq_self_iff, trimList_eq_self_iff] at hfirst hlast ⊢
  simp only [String.toList_append]
  constructor
  · intro c hc
    rw [List.append_assoc, List.head?_append, List.head?_eq_some_head hchars, Option.some_or,
      ← List.head?_eq_some_head hchars] at hc
    exact hfirst.1 c hc
  · intro c hc
    rw [List.getLast?_append, List.getLast?_eq_some_getLast hchars', Option.some_or,
      ← List.getLast?_eq_some_getLast hchars'] at hc
    exact hlast.2 c hc

theorem intercalate_ne_empty (hsome : names ≠ []) (hne : ∀ name ∈ names, name ≠ "") :
    (String.singleton sep).intercalate names ≠ "" := by
  obtain ⟨name, rest, rfl⟩ := List.exists_cons_of_ne_nil hsome
  cases rest with
  | nil => simpa using hne
  | cons next more =>
      rw [String.intercalate_cons_cons]
      simp

theorem trim_intercalate (hne : ∀ name ∈ names, name ≠ "")
    (htrim : ∀ name ∈ names, trim name = name) :
    trim ((String.singleton sep).intercalate names) = (String.singleton sep).intercalate names := by
  induction names with
  | nil => rfl
  | cons name rest ih =>
      have hname := htrim name List.mem_cons_self
      cases rest with
      | nil => simpa using hname
      | cons next more =>
          rw [String.intercalate_cons_cons]
          have hrest := ih (fun name' h => hne name' (List.mem_cons_of_mem _ h))
            fun name' h => htrim name' (List.mem_cons_of_mem _ h)
          have hnext : (String.singleton sep).intercalate (next :: more) ≠ "" :=
            intercalate_ne_empty (List.cons_ne_nil _ _) fun name' h =>
              hne name' (List.mem_cons_of_mem _ h)
          exact trim_append hname hrest (hne name List.mem_cons_self) hnext _

end QueryGateway.Text
