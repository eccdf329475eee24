import QueryGateway.Proofs.Program.Success
import QueryGateway.Routing.Multiplicity

/-! # Look-ups in built tables

Routes become tables only if no pair of query and entity has two of them and no count is zero. The
look-ups of tables that were built therefore describe exactly one route each.
-/

namespace QueryGateway

/-! ## Tables -/

namespace Table

variable {κ : Type u} {ν : Type v} [DecidableEq κ]

theorem mem_of_find_eq_some {k : κ} {v : ν} {entries : List (κ × ν)}
    (h : find k entries = some v) : (k, v) ∈ entries := by
  induction entries with
  | nil => cases h
  | cons entry rest ih =>
      obtain ⟨k₀, v₀⟩ := entry
      by_cases hk : k₀ = k
      · rw [find, if_pos hk] at h
        cases h
        rw [hk]
        exact List.mem_cons_self
      · rw [find, if_neg hk] at h
        exact List.mem_cons_of_mem _ (ih h)

theorem mem_entries_of_get? {t : Table κ ν} {k : κ} {v : ν} (h : t.get? k = some v) :
    (k, v) ∈ t.entries :=
  mem_of_find_eq_some h

/-- A value that was put in under a key of its own is found, and so is what was there before under
any other key. -/
theorem get?_foldl_insert {pairs : List (κ × ν)} (hnodup : (pairs.map Prod.fst).Nodup)
    (t : Table κ ν) (k : κ) (v : ν) :
    (pairs.foldl (fun t (k, v) => t.insert k v) t).get? k = some v ↔
      (k, v) ∈ pairs ∨ (k ∉ pairs.map Prod.fst ∧ t.get? k = some v) := by
  induction pairs generalizing t with
  | nil => simp
  | cons pair rest ih =>
      obtain ⟨k₀, v₀⟩ := pair
      have hnot : k₀ ∉ rest.map Prod.fst := (List.nodup_cons.mp hnodup).1
      have hrest : (rest.map Prod.fst).Nodup := (List.nodup_cons.mp hnodup).2
      rw [List.foldl_cons, ih hrest, get?_insert]
      by_cases hk : k₀ = k
      · subst hk
        have hmem : (k₀, v) ∉ rest := fun h => hnot (List.mem_map_of_mem h)
        simp [hmem, hnot, eq_comm]
      · have hk' : k ≠ k₀ := Ne.symm hk
        simp [hk, hk']

theorem get?_ofList {pairs : List (κ × ν)} (hnodup : (pairs.map Prod.fst).Nodup) (k : κ) (v : ν) :
    (ofList pairs).get? k = some v ↔ (k, v) ∈ pairs := by
  rw [ofList, get?_foldl_insert hnodup]
  simp

end Table

/-! ## Counts -/

namespace Multiplicity

theorem zeroCount?_eq_none_iff (key : κ → QueryId) (counts : List (κ × Nat)) :
    zeroCount? key counts = none ↔ ∀ entry ∈ counts, entry.2 ≠ 0 := by
  simp [zeroCount?]

/-- Counts form a multiplicity only if none is zero. -/
theorem ofCounts_eq_ok_iff {ingest : Table RouteKey Nat} {results : Table QueryId Nat}
    {m : Multiplicity} :
    ofCounts ingest results = .ok m ↔
      m = ⟨ingest, results⟩ ∧ (∀ entry ∈ ingest.entries, entry.2 ≠ 0) ∧
        ∀ entry ∈ results.entries, entry.2 ≠ 0 := by
  rw [← zeroCount?_eq_none_iff Prod.fst, ← zeroCount?_eq_none_iff id, ofCounts]
  split
  · next h => simp [h]
  · next h₁ h₂ => simp [h₂]
  · next h₁ h₂ => simp [h₁, h₂, eq_comm]

theorem ingest?_pos {ingest : Table RouteKey Nat} {results : Table QueryId Nat}
    {m : Multiplicity} (h : ofCounts ingest results = .ok m) {query : QueryId} {entity : Entity}
    {n : Nat} (hn : m.ingest? query entity = some n) : 1 ≤ n := by
  obtain ⟨rfl, hingest, -⟩ := ofCounts_eq_ok_iff.mp h
  have hne : n ≠ 0 := hingest _ (Table.mem_entries_of_get? hn)
  omega

theorem resultCount_pos {ingest : Table RouteKey Nat} {results : Table QueryId Nat}
    {m : Multiplicity} (h : ofCounts ingest results = .ok m) (query : QueryId) :
    1 ≤ m.resultCount query := by
  obtain ⟨rfl, -, hresults⟩ := ofCounts_eq_ok_iff.mp h
  rw [resultCount]
  cases hget : results.get? query with
  | none => simp
  | some n =>
      have hne : n ≠ 0 := hresults _ (Table.mem_entries_of_get? hget)
      simp only [Option.getD_some]
      omega

end Multiplicity

/-! ## Routes -/

namespace RoutingTable

/-- Adding a route keeps the routes that were there and finds the new one; its key was free. -/
theorem addRoute_eq_ok_iff {table table' : Table RouteKey String} {r : Route} :
    addRoute table r = .ok table' ↔
      Text.isBlankText r.queue = false ∧ table.get? r.key = none ∧
        table' = table.insert r.key r.queue := by
  rw [addRoute]
  by_cases hblank : Text.isBlankText r.queue = true
  · simp [hblank]
  · by_cases hthere : table.contains r.key = true
    · have hsome : table.get? r.key ≠ none := by
        simpa [Table.contains, Option.isSome_iff_ne_none] using hthere
      simp [hblank, hthere, hsome]
    · have hnone : table.get? r.key = none := by
        simpa [Table.contains] using hthere
      simp [hblank, hthere, hnone, eq_comm]

/-- Routes are added only if their keys are distinct and free. -/
theorem foldlM_addRoute {routes : List Route} {table table' : Table RouteKey String}
    (h : routes.foldlM addRoute table = .ok table') :
    (routes.map Route.key).Nodup ∧ (∀ r ∈ routes, table.get? r.key = none) ∧
      ∀ key queue, table'.get? key = some queue ↔
        (∃ r ∈ routes, r.key = key ∧ r.queue = queue) ∨ table.get? key = some queue := by
  induction routes generalizing table with
  | nil =>
      cases h
      simp
  | cons r rest ih =>
      rw [List.foldlM_cons, Success.bind_eq_ok] at h
      obtain ⟨next, hadd, h⟩ := h
      obtain ⟨-, hfree, rfl⟩ := addRoute_eq_ok_iff.mp hadd
      obtain ⟨hnodup, hrest, hget⟩ := ih h
      have hne : ∀ r' ∈ rest, r.key ≠ r'.key := by
        intro r' hr' heq
        have hnone := hrest r' hr'
        rw [Table.get?_insert, if_pos heq] at hnone
        cases hnone
      refine ⟨?_, ?_, ?_⟩
      · rw [List.map_cons, List.nodup_cons]
        refine ⟨fun hmem => ?_, hnodup⟩
        obtain ⟨r', hr', heq⟩ := List.mem_map.mp hmem
        exact hne r' hr' heq.symm
      · intro r' hr'
        rcases List.mem_cons.mp hr' with rfl | hr'
        · exact hfree
        · have hnone := hrest r' hr'
          rwa [Table.get?_insert, if_neg (hne r' hr')] at hnone
      · intro key queue
        rw [hget, Table.get?_insert]
        by_cases hkey : r.key = key
        · subst hkey
          have hgone : ¬∃ r' ∈ rest, r'.key = r.key ∧ r'.queue = queue := by
            rintro ⟨r', hr', heq, -⟩
            exact hne r' hr' heq.symm
          simp [hgone, hfree]
        · simp [hkey]

end RoutingTable

/-! ## Both tables -/

namespace Tables

variable {routes : List Route} {counts : List (QueryId × Nat)} {tables : Tables}

theorem build_eq_ok (h : build routes counts = .ok tables) :
    routes.foldlM RoutingTable.addRoute .empty = .ok tables.routing.queues ∧
      Multiplicity.ofCounts (Table.ofList (routes.map fun r => (r.key, r.endCount)))
        (Table.ofList counts) = .ok tables.multiplicity := by
  simp only [build, RoutingTable.ofRoutes, Success.bind_eq_ok, Success.map_eq_ok,
    Success.pure_eq_ok] at h
  obtain ⟨_, ⟨queues, hroutes, rfl⟩, m, hcounts, rfl⟩ := h
  exact ⟨hroutes, hcounts⟩

/-- What a route says is found under its key. -/
theorem lookup_of_mem (h : build routes counts = .ok tables) {r : Route} (hr : r ∈ routes) :
    tables.routing.queues.get? r.key = some r.queue ∧
      tables.multiplicity.ingest.get? r.key = some r.endCount := by
  obtain ⟨hroutes, hcounts⟩ := build_eq_ok h
  obtain ⟨hnodup, -, hget⟩ := RoutingTable.foldlM_addRoute hroutes
  obtain ⟨hmultiplicity, -, -⟩ := Multiplicity.ofCounts_eq_ok_iff.mp hcounts
  have hkeys : ((routes.map fun r => (r.key, r.endCount)).map Prod.fst).Nodup := by
    simpa [List.map_map, Function.comp_def] using hnodup
  refine ⟨(hget _ _).mpr (Or.inl ⟨r, hr, rfl, rfl⟩), ?_⟩
  rw [hmultiplicity]
  exact (Table.get?_ofList hkeys _ _).mpr (List.mem_map_of_mem hr)

/-- A pair whose queue is found has one route, which gives both the queue and the count. -/
theorem exists_route (h : build routes counts = .ok tables) {query : QueryId} {entity : Entity}
    {queue : String} (hqueue : tables.routing.queue? query entity = some queue) :
    ∃ r ∈ routes, r.key = (query, entity) ∧ r.queue = queue ∧
      tables.multiplicity.ingest? query entity = some r.endCount := by
  obtain ⟨-, -, hget⟩ := RoutingTable.foldlM_addRoute (build_eq_ok h).1
  rcases (hget _ _).mp hqueue with ⟨r, hr, hkey, hname⟩ | hempty
  · refine ⟨r, hr, hkey, hname, ?_⟩
    rw [Multiplicity.ingest?, ← hkey]
    exact (lookup_of_mem h hr).2
  · cases hempty

theorem isSome_queue?_iff (h : build routes counts = .ok tables) {query : QueryId}
    {entity : Entity} :
    (tables.routing.queue? query entity).isSome ↔ ∃ r ∈ routes, r.key = (query, entity) := by
  rw [Option.isSome_iff_exists]
  constructor
  · rintro ⟨queue, hqueue⟩
    obtain ⟨r, hr, hkey, -⟩ := exists_route h hqueue
    exact ⟨r, hr, hkey⟩
  · rintro ⟨r, hr, hkey⟩
    refine ⟨r.queue, ?_⟩
    rw [RoutingTable.queue?, ← hkey]
    exact (lookup_of_mem h hr).1

theorem ingest?_pos (h : build routes counts = .ok tables) {query : QueryId} {entity : Entity}
    {n : Nat} (hn : tables.multiplicity.ingest? query entity = some n) : 1 ≤ n :=
  Multiplicity.ingest?_pos (build_eq_ok h).2 hn

theorem resultCount_pos (h : build routes counts = .ok tables) (query : QueryId) :
    1 ≤ tables.multiplicity.resultCount query :=
  Multiplicity.resultCount_pos (build_eq_ok h).2 query

end Tables

end QueryGateway
