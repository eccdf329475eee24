/-! # Finite tables

A table keeps its entries in the order in which their keys were first put in. No key occurs twice.
`get?` is the view by which the laws below describe each operation.
-/

namespace QueryGateway

/-- A finite map that remembers the order of its keys. -/
structure Table (κ : Type u) (ν : Type v) where
  entries : List (κ × ν)
  nodup : (entries.map Prod.fst).Nodup
  deriving DecidableEq

namespace Table

variable {κ : Type u} {ν : Type v} [DecidableEq κ]

/-- The value of `k` among the entries. -/
def find (k : κ) : List (κ × ν) → Option ν
  | [] => none
  | (k', v) :: rest => if k' = k then some v else find k rest

/-- Replaces the value of `k` where it stands, or adds the pair at the end. -/
def put (k : κ) (v : ν) : List (κ × ν) → List (κ × ν)
  | [] => [(k, v)]
  | (k', v') :: rest => if k' = k then (k, v) :: rest else (k', v') :: put k v rest

/-- The entries whose key is not `k`. -/
def without (k : κ) (entries : List (κ × ν)) : List (κ × ν) :=
  entries.filter (·.1 ≠ k)

theorem mem_keys_put {k k' : κ} {v : ν} {entries : List (κ × ν)} :
    k' ∈ (put k v entries).map Prod.fst ↔ k' = k ∨ k' ∈ entries.map Prod.fst := by
  induction entries with
  | nil => simp [put]
  | cons entry rest ih =>
    obtain ⟨k₀, v₀⟩ := entry
    simp only [put]
    split
    · next h => simp [h]
    · simp only [List.map_cons, List.mem_cons, ih]
      constructor
      · rintro (h | h | h) <;> simp [h]
      · rintro (h | h | h) <;> simp [h]

theorem nodup_put {k : κ} {v : ν} {entries : List (κ × ν)}
    (h : (entries.map Prod.fst).Nodup) : ((put k v entries).map Prod.fst).Nodup := by
  induction entries with
  | nil => simp [put]
  | cons entry rest ih =>
    obtain ⟨k₀, v₀⟩ := entry
    simp only [List.map_cons, List.nodup_cons] at h
    simp only [put]
    split
    · next hk => subst hk; simpa using h
    · next hk =>
      simp only [List.map_cons, List.nodup_cons]
      refine ⟨fun hmem => ?_, ih h.2⟩
      rcases mem_keys_put.mp hmem with heq | hmem
      · exact hk heq
      · exact h.1 hmem

theorem nodup_without {k : κ} {entries : List (κ × ν)}
    (h : (entries.map Prod.fst).Nodup) : ((without k entries).map Prod.fst).Nodup :=
  h.sublist (List.filter_sublist.map _)

theorem find_put (k k' : κ) (v : ν) (entries : List (κ × ν)) :
    find k' (put k v entries) = if k = k' then some v else find k' entries := by
  induction entries with
  | nil => simp [put, find]
  | cons entry rest ih =>
    obtain ⟨k₀, v₀⟩ := entry
    simp only [put]
    split
    · next h =>
      subst h
      simp only [find]
      split <;> simp_all
    · next h =>
      simp only [find, ih]
      split <;> split <;> simp_all

theorem find_without (k k' : κ) (entries : List (κ × ν)) :
    find k' (without k entries) = if k = k' then none else find k' entries := by
  induction entries with
  | nil => simp [without, find]
  | cons entry rest ih =>
    obtain ⟨k₀, v₀⟩ := entry
    simp only [without] at ih
    by_cases h : k₀ = k
    · subst h
      simp only [without, List.filter_cons, ne_eq, not_true_eq_false, decide_false,
        Bool.false_eq_true, if_false, ih, find]
      split <;> simp_all
    · simp only [without, List.filter_cons, ne_eq, h, not_false_eq_true, decide_true, if_true,
        find, ih]
      split <;> split <;> simp_all

/-- The table without entries. -/
def empty : Table κ ν :=
  ⟨[], by simp⟩

instance : Inhabited (Table κ ν) := ⟨empty⟩

/-- The value of a key. -/
def get? (t : Table κ ν) (k : κ) : Option ν :=
  find k t.entries

/-- Gives a key a value; the key keeps its place if it had one. -/
def insert (t : Table κ ν) (k : κ) (v : ν) : Table κ ν :=
  ⟨put k v t.entries, nodup_put t.nodup⟩

/-- Takes a key out. -/
def erase (t : Table κ ν) (k : κ) : Table κ ν :=
  ⟨without k t.entries, nodup_without t.nodup⟩

/-- The number of keys. -/
def size (t : Table κ ν) : Nat :=
  t.entries.length

/-- The keys in order. -/
def keys (t : Table κ ν) : List κ :=
  t.entries.map Prod.fst

/-- The values in the order of their keys. -/
def values (t : Table κ ν) : List ν :=
  t.entries.map Prod.snd

/-- A key is in the table. -/
def contains (t : Table κ ν) (k : κ) : Bool :=
  (t.get? k).isSome

/-- Puts in pairs one after another; of two pairs with one key the later one counts. -/
def ofList (pairs : List (κ × ν)) : Table κ ν :=
  pairs.foldl (fun t (k, v) => t.insert k v) empty

@[simp] theorem get?_empty (k : κ) : (empty : Table κ ν).get? k = none := rfl

@[simp] theorem get?_insert (t : Table κ ν) (k k' : κ) (v : ν) :
    (t.insert k v).get? k' = if k = k' then some v else t.get? k' :=
  find_put k k' v t.entries

@[simp] theorem get?_erase (t : Table κ ν) (k k' : κ) :
    (t.erase k).get? k' = if k = k' then none else t.get? k' :=
  find_without k k' t.entries

end Table

end QueryGateway
