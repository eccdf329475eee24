import Mathlib.Data.List.Induction
import Mathlib.Data.List.Nodup
import Mathlib.Data.String.Basic
import QueryGateway.Config.Basic
import QueryGateway.Proofs.Routing.Lookup

/-! # From settings to tables

The routes are looked at one after the other, and the first one that cannot be taken is reported.
Only then the counts are looked at. What is found in tables that were built is what the settings
say.
-/

namespace QueryGateway

/-! ## Entries of tables -/

namespace Table

variable {κ : Type u} {ν : Type v} [DecidableEq κ]

theorem find_of_mem {k : κ} {v : ν} {entries : List (κ × ν)}
    (hnodup : (entries.map Prod.fst).Nodup) (h : (k, v) ∈ entries) : find k entries = some v := by
  induction entries with
  | nil => cases h
  | cons entry rest ih =>
      obtain ⟨hnot, hrest⟩ := List.nodup_cons.mp hnodup
      rcases List.mem_cons.mp h with rfl | h
      · exact if_pos rfl
      · have hne : entry.1 ≠ k := fun heq => hnot (heq ▸ List.mem_map_of_mem h)
        rw [find, if_neg hne]
        exact ih hrest h

theorem mem_entries_iff {t : Table κ ν} {k : κ} {v : ν} :
    (k, v) ∈ t.entries ↔ t.get? k = some v :=
  ⟨find_of_mem t.nodup, mem_entries_of_get?⟩

theorem mem_values_iff {t : Table κ ν} {v : ν} : v ∈ t.values ↔ ∃ k, t.get? k = some v := by
  simp [values, ← mem_entries_iff]

/-- Of several values for a key the last one counts. -/
theorem get?_ofList_eq_lookup (pairs : List (κ × ν)) (k : κ) :
    (ofList pairs).get? k = pairs.reverse.lookup k := by
  rw [ofList]
  induction pairs using List.reverseRecOn with
  | nil => rfl
  | append_singleton pairs pair ih =>
      obtain ⟨k', v⟩ := pair
      rw [List.foldl_append, List.foldl_cons, List.foldl_nil, get?_insert, ih, List.reverse_append,
        List.reverse_singleton, List.singleton_append, List.lookup_cons]
      by_cases hk : k' = k
      · simp [hk]
      · have hk' : (k == k') = false := beq_eq_false_iff_ne.mpr (Ne.symm hk)
        simp only [hk, if_false, hk']

end Table

/-! ## Routes -/

/-- Routes that can all be taken. -/
structure Route.Clean (routes : List Route) : Prop where
  named : ∀ r ∈ routes, Text.isBlankText r.queue = false
  distinct : (routes.map Route.key).Nodup

/-- A route cannot be taken after others, with what is reported then. -/
inductive Route.Refused (before : List Route) (r : Route) : RoutingError → Prop where
  | blank : Text.isBlankText r.queue = true → Refused before r (.emptyQueue r.query r.entity)
  | repeated : Text.isBlankText r.queue = false → r.key ∈ before.map Route.key →
      Refused before r (.duplicateRoute r.query r.entity)

namespace RoutingTable

variable {before : List Route} {r : Route} {table : Table RouteKey String}

theorem clean_concat_iff : Route.Clean (before ++ [r]) ↔
    Route.Clean before ∧ Text.isBlankText r.queue = false ∧ r.key ∉ before.map Route.key := by
  constructor
  · rintro ⟨hnamed, hdistinct⟩
    rw [List.map_append, List.nodup_append] at hdistinct
    obtain ⟨hbefore, -, hapart⟩ := hdistinct
    refine ⟨⟨fun r' hr' => hnamed r' (List.mem_append_left _ hr'), hbefore⟩,
      hnamed r (List.mem_append_right _ List.mem_cons_self), ?_⟩
    exact fun hmem => hapart _ hmem _ List.mem_cons_self rfl
  · rintro ⟨hbefore, hname, hnot⟩
    refine ⟨?_, ?_⟩
    · intro r' hr'
      rcases List.mem_append.mp hr' with hr' | hr'
      · exact hbefore.named r' hr'
      · rwa [List.mem_singleton.mp hr']
    · rw [List.map_append, List.map_singleton, List.nodup_append_comm, List.singleton_append]
      exact List.nodup_cons.mpr ⟨hnot, hbefore.distinct⟩

/-- All routes are taken, or the first one that cannot be is reported. -/
theorem foldlM_addRoute_cases (hclean : Route.Clean before)
    (hkeys : ∀ key, table.contains key = true ↔ key ∈ before.map Route.key) (rest : List Route) :
    (Route.Clean (before ++ rest) ∧ ∃ table', rest.foldlM addRoute table = .ok table') ∨
      ∃ taken r after e, rest = taken ++ r :: after ∧ Route.Clean (before ++ taken) ∧
        r.Refused (before ++ taken) e ∧ rest.foldlM addRoute table = .error e := by
  induction rest generalizing before table with
  | nil =>
      rw [List.append_nil]
      exact .inl ⟨hclean, table, rfl⟩
  | cons r rest ih =>
      rw [List.foldlM_cons]
      by_cases hblank : Text.isBlankText r.queue = true
      · refine .inr ⟨[], r, rest, _, rfl, ?_, .blank hblank, ?_⟩
        · rwa [List.append_nil]
        · rw [addRoute, if_pos hblank]
          rfl
      · have hname : Text.isBlankText r.queue = false := (Bool.not_eq_true _).mp hblank
        by_cases hthere : table.contains r.key = true
        · refine .inr ⟨[], r, rest, _, rfl, ?_, .repeated hname ?_, ?_⟩
          · rwa [List.append_nil]
          · rw [List.append_nil]
            exact (hkeys r.key).mp hthere
          · rw [addRoute, if_neg hblank, if_pos hthere]
            rfl
        · have hnext : Route.Clean (before ++ [r]) :=
            clean_concat_iff.mpr ⟨hclean, hname, mt (hkeys r.key).mpr hthere⟩
          have hkeys' : ∀ key, (table.insert r.key r.queue).contains key = true ↔
              key ∈ (before ++ [r]).map Route.key := by
            intro key
            rw [List.map_append, List.mem_append, ← hkeys, Table.contains, Table.get?_insert]
            by_cases hkey : r.key = key
            · simp [hkey]
            · simp [hkey, Ne.symm hkey, Table.contains]
          have hadd : addRoute table r = .ok (table.insert r.key r.queue) := by
            rw [addRoute, if_neg hblank, if_neg hthere]
          rw [hadd]
          rcases ih hnext hkeys' with ⟨hall, htable⟩ | ⟨taken, r', after, e, rfl, htaken, href, he⟩
          · rw [List.append_assoc] at hall
            exact .inl ⟨hall, htable⟩
          · rw [List.append_assoc] at htaken href
            exact .inr ⟨r :: taken, r', after, e, rfl, htaken, href, he⟩

theorem not_clean_of_refused {e : RoutingError} {after : List Route} (h : r.Refused before e) :
    ¬Route.Clean (before ++ r :: after) := by
  intro hclean
  have hprefix : Route.Clean (before ++ [r]) := by
    have hsub : (before ++ [r]).Sublist (before ++ r :: after) :=
      (List.singleton_sublist.mpr List.mem_cons_self).append_left before
    exact ⟨fun r' hr' => hclean.named r' (hsub.subset hr'), hclean.distinct.sublist (hsub.map _)⟩
  obtain ⟨-, hname, hnot⟩ := clean_concat_iff.mp hprefix
  cases h with
  | blank hblank => exact absurd hblank (by simp [hname])
  | repeated _ hmem => exact hnot hmem

theorem ofRoutes_cases (routes : List Route) :
    (Route.Clean routes ∧ ∃ table, ofRoutes routes = .ok table) ∨
      ∃ before r after e, routes = before ++ r :: after ∧ Route.Clean before ∧
        r.Refused before e ∧ ofRoutes routes = .error e := by
  have hnone : Route.Clean [] := ⟨nofun, .nil⟩
  have hempty : ∀ key, (Table.empty : Table RouteKey String).contains key = true ↔
      key ∈ ([] : List Route).map Route.key := by simp [Table.contains]
  rw [ofRoutes]
  rcases foldlM_addRoute_cases hnone hempty routes with
    ⟨hclean, table, htable⟩ | ⟨before, r, after, e, hroutes, hclean, href, he⟩
  · exact .inl ⟨hclean, ⟨table⟩, by rw [htable]; rfl⟩
  · exact .inr ⟨before, r, after, e, hroutes, hclean, href, by rw [he]; rfl⟩

/-! ## Names of queues -/

theorem mem_insertName {name other : String} {names : List String} :
    other ∈ insertName name names ↔ other = name ∨ other ∈ names := by
  induction names with
  | nil => simp [insertName]
  | cons n rest ih =>
      rw [insertName]
      split
      · simp
      · split
        · next heq => simp [heq]
        · simp only [List.mem_cons, ih]
          exact or_left_comm

theorem pairwise_insertName {name : String} {names : List String} (h : names.Pairwise (· < ·)) :
    (insertName name names).Pairwise (· < ·) := by
  induction names with
  | nil => simp [insertName]
  | cons n rest ih =>
      obtain ⟨hfirst, hrest⟩ := List.pairwise_cons.mp h
      rw [insertName]
      split
      · next hlt =>
          refine List.pairwise_cons.mpr ⟨?_, h⟩
          intro other hother
          rcases List.mem_cons.mp hother with rfl | hother
          · exact hlt
          · exact lt_trans hlt (hfirst other hother)
      · next hle =>
          split
          · exact h
          · next hne =>
              refine List.pairwise_cons.mpr ⟨?_, ih hrest⟩
              intro other hother
              rcases mem_insertName.mp hother with rfl | hother
              · exact lt_of_le_of_ne (le_of_not_gt hle) (Ne.symm hne)
              · exact hfirst other hother

theorem sorted_queueNames (t : RoutingTable) : t.queueNames.Pairwise (· < ·) := by
  rw [queueNames]
  induction t.queues.values with
  | nil => exact .nil
  | cons name names ih => exact pairwise_insertName ih

theorem mem_queueNames_iff {t : RoutingTable} {name : String} :
    name ∈ t.queueNames ↔ ∃ query entity, t.queue? query entity = some name := by
  have hvalues : name ∈ t.queueNames ↔ name ∈ t.queues.values := by
    rw [queueNames]
    induction t.queues.values with
    | nil => rfl
    | cons first names ih => rw [List.foldr_cons, mem_insertName, ih, List.mem_cons]
  rw [hvalues, Table.mem_values_iff, Prod.exists]
  rfl

end RoutingTable

/-! ## Counts -/

/-- The count that is set for the results of a query. Of several ones the last counts. -/
def Config.resultCount? (c : Config) (query : QueryId) : Option Nat :=
  c.output.endCounts.reverse.lookup query.text

theorem Config.get?_endCounts (c : Config) (query : QueryId) :
    (Table.ofList (c.output.endCounts.map fun (name, count) =>
      ((⟨name⟩ : QueryId), count))).get? query = c.resultCount? query := by
  rw [Table.get?_ofList_eq_lookup, ← List.map_reverse, resultCount?]
  induction c.output.endCounts.reverse with
  | nil => rfl
  | cons entry rest ih =>
      obtain ⟨name, count⟩ := entry
      rw [List.map_cons, List.lookup_cons, List.lookup_cons, ih]
      have hsame : (query == ⟨name⟩) = (query.text == name) := by
        rw [Bool.eq_iff_iff, beq_iff_eq, beq_iff_eq]
        constructor
        · rintro rfl
          rfl
        · rintro rfl
          rfl
      rw [hsame]

namespace Multiplicity

theorem mem_of_zeroCount? {key : κ → QueryId} {entries : List (κ × Nat)} {query : QueryId}
    (h : zeroCount? key entries = some query) : ∃ k, key k = query ∧ (k, 0) ∈ entries := by
  obtain ⟨⟨k, n⟩, hfind, rfl⟩ := Option.map_eq_some_iff.mp h
  obtain rfl : n = 0 := by simpa using List.find?_some hfind
  exact ⟨k, rfl, List.mem_of_find?_eq_some hfind⟩

/-- Counts form no multiplicity only if one is zero. -/
theorem ofCounts_cases (ingest : Table RouteKey Nat) (results : Table QueryId Nat) :
    ofCounts ingest results = .ok ⟨ingest, results⟩ ∨
      ∃ query, ofCounts ingest results = .error (.zeroMultiplicity query) ∧
        ((∃ entity, ingest.get? (query, entity) = some 0) ∨ results.get? query = some 0) := by
  rw [ofCounts]
  split
  · next query _ h =>
      obtain ⟨⟨_, entity⟩, rfl, hmem⟩ := mem_of_zeroCount? h
      exact .inr ⟨_, rfl, .inl ⟨entity, Table.mem_entries_iff.mp hmem⟩⟩
  · next query _ h =>
      obtain ⟨_, rfl, hmem⟩ := mem_of_zeroCount? h
      exact .inr ⟨_, rfl, .inr (Table.mem_entries_iff.mp hmem)⟩
  · exact .inl rfl

end Multiplicity

/-! ## Settings -/

namespace Config

/-- No count of the settings is zero. -/
structure Counted (c : Config) : Prop where
  routes : ∀ r ∈ c.routes, 1 ≤ r.endCount
  results : ∀ query n, c.resultCount? query = some n → 1 ≤ n

/-- A count for a query is zero, on the way to its workers or on the way back. -/
def HasZero (c : Config) (query : QueryId) : Prop :=
  (∃ r ∈ c.routes, r.query = query ∧ r.endCount = 0) ∨ c.resultCount? query = some 0

variable {c : Config}

theorem Counted.not_hasZero (h : c.Counted) (query : QueryId) : ¬c.HasZero query := by
  rintro (⟨r, hr, -, hzero⟩ | hzero)
  · have hpos := h.routes r hr
    omega
  · have hpos := h.results query 0 hzero
    omega

theorem get?_ingest (hclean : Route.Clean c.routes) (key : RouteKey) (n : Nat) :
    (Table.ofList (c.routes.map fun r => (r.key, r.endCount))).get? key = some n ↔
      ∃ r ∈ c.routes, r.key = key ∧ r.endCount = n := by
  have hkeys : ((c.routes.map fun r => (r.key, r.endCount)).map Prod.fst).Nodup := by
    simpa [List.map_map, Function.comp_def] using hclean.distinct
  rw [Table.get?_ofList hkeys]
  simp

theorem tables_of_routes {e : RoutingError} (h : RoutingTable.ofRoutes c.routes = .error e) :
    c.tables = .error e := by
  rw [tables, Tables.build, h]
  rfl

theorem tables_of_counts {table : RoutingTable} (h : RoutingTable.ofRoutes c.routes = .ok table) :
    c.tables = (Multiplicity.ofCounts (Table.ofList (c.routes.map fun r => (r.key, r.endCount)))
      (Table.ofList (c.output.endCounts.map fun (query, count) => (⟨query⟩, count)))).map
        (⟨table, ·⟩) := by
  rw [tables, Tables.build, h]
  rfl

/-- The settings form tables, or a route is refused, or a count is zero. -/
theorem tables_cases (c : Config) :
    (Route.Clean c.routes ∧ c.Counted ∧ ∃ t, c.tables = .ok t) ∨
      (∃ before r after e, c.routes = before ++ r :: after ∧ Route.Clean before ∧
        r.Refused before e ∧ c.tables = .error e) ∨
      Route.Clean c.routes ∧
        ∃ query, c.HasZero query ∧ c.tables = .error (.zeroMultiplicity query) := by
  rcases RoutingTable.ofRoutes_cases c.routes with
    ⟨hclean, table, htable⟩ | ⟨before, r, after, e, hroutes, hbefore, href, he⟩
  · rw [tables_of_counts htable]
    rcases Multiplicity.ofCounts_cases (Table.ofList (c.routes.map fun r => (r.key, r.endCount)))
      (Table.ofList (c.output.endCounts.map fun (query, count) => (⟨query⟩, count))) with
      hcounts | ⟨query, hcounts, hzero⟩
    · obtain ⟨-, hingest, hresults⟩ := Multiplicity.ofCounts_eq_ok_iff.mp hcounts
      refine .inl ⟨hclean, ⟨?_, ?_⟩, _, by rw [hcounts]; rfl⟩
      · intro r hr
        have hget := (get?_ingest hclean r.key r.endCount).mpr ⟨r, hr, rfl, rfl⟩
        exact Nat.one_le_iff_ne_zero.mpr (hingest _ (Table.mem_entries_iff.mpr hget))
      · intro query n hn
        rw [← get?_endCounts] at hn
        exact Nat.one_le_iff_ne_zero.mpr (hresults _ (Table.mem_entries_iff.mpr hn))
    · refine .inr (.inr ⟨hclean, query, ?_, by rw [hcounts]; rfl⟩)
      rw [get?_endCounts] at hzero
      apply hzero.imp_left
      rintro ⟨entity, hget⟩
      obtain ⟨r, hr, hkey, hcount⟩ := (get?_ingest hclean _ _).mp hget
      exact ⟨r, hr, congrArg Prod.fst hkey, hcount⟩
  · exact .inr (.inl ⟨before, r, after, e, hroutes, hbefore, href, tables_of_routes he⟩)

theorem exists_tables_iff (c : Config) :
    (∃ t, c.tables = .ok t) ↔ Route.Clean c.routes ∧ c.Counted := by
  rcases c.tables_cases with ⟨hclean, hcounted, ht⟩ | ⟨before, r, after, e, hroutes, -, href, he⟩ |
    ⟨-, query, hzero, he⟩
  · exact ⟨fun _ => ⟨hclean, hcounted⟩, fun _ => ht⟩
  · constructor
    · rintro ⟨t, ht⟩
      rw [he] at ht
      cases ht
    · rintro ⟨hclean, -⟩
      rw [hroutes] at hclean
      exact absurd hclean (RoutingTable.not_clean_of_refused href)
  · constructor
    · rintro ⟨t, ht⟩
      rw [he] at ht
      cases ht
    · rintro ⟨-, hcounted⟩
      exact absurd hzero (hcounted.not_hasZero query)

/-- A route that cannot be taken is reported, whatever the counts are. -/
theorem tables_of_not_clean (h : ¬Route.Clean c.routes) :
    ∃ before r after e, c.routes = before ++ r :: after ∧ Route.Clean before ∧
      r.Refused before e ∧ c.tables = .error e := by
  rcases c.tables_cases with ⟨hclean, -⟩ | hrefused | ⟨hclean, -⟩
  · exact absurd hclean h
  · exact hrefused
  · exact absurd hclean h

theorem tables_of_not_counted (hclean : Route.Clean c.routes) (h : ¬c.Counted) :
    ∃ query, c.HasZero query ∧ c.tables = .error (.zeroMultiplicity query) := by
  rcases c.tables_cases with ⟨-, hcounted, -⟩ | ⟨_, _, _, _, hroutes, -, href, -⟩ | ⟨-, hzero⟩
  · exact absurd hcounted h
  · rw [hroutes] at hclean
    exact absurd hclean (RoutingTable.not_clean_of_refused href)
  · exact hzero

/-! ## Look-ups -/

variable {t : Tables}

theorem queue?_eq_some_iff (h : c.tables = .ok t) {query : QueryId} {entity : Entity}
    {name : String} : t.routing.queue? query entity = some name ↔
      ∃ r ∈ c.routes, r.key = (query, entity) ∧ r.queue = name := by
  obtain ⟨-, -, hget⟩ := RoutingTable.foldlM_addRoute (Tables.build_eq_ok h).1
  rw [RoutingTable.queue?, hget]
  simp

theorem ingest?_eq_some_iff (h : c.tables = .ok t) {query : QueryId} {entity : Entity}
    {n : Nat} : t.multiplicity.ingest? query entity = some n ↔
      ∃ r ∈ c.routes, r.key = (query, entity) ∧ r.endCount = n := by
  obtain ⟨hmultiplicity, -, -⟩ := Multiplicity.ofCounts_eq_ok_iff.mp (Tables.build_eq_ok h).2
  rw [Multiplicity.ingest?, hmultiplicity]
  exact get?_ingest (c.exists_tables_iff.mp ⟨t, h⟩).1 _ _

theorem resultCount_eq (h : c.tables = .ok t) (query : QueryId) :
    t.multiplicity.resultCount query = (c.resultCount? query).getD 1 := by
  obtain ⟨hmultiplicity, -, -⟩ := Multiplicity.ofCounts_eq_ok_iff.mp (Tables.build_eq_ok h).2
  rw [Multiplicity.resultCount, hmultiplicity, ← get?_endCounts]

theorem mem_queueNames_iff (h : c.tables = .ok t) {name : String} :
    name ∈ t.routing.queueNames ↔ ∃ r ∈ c.routes, r.queue = name := by
  rw [RoutingTable.mem_queueNames_iff]
  constructor
  · rintro ⟨query, entity, hqueue⟩
    obtain ⟨r, hr, -, hname⟩ := (queue?_eq_some_iff h).mp hqueue
    exact ⟨r, hr, hname⟩
  · rintro ⟨r, hr, hname⟩
    exact ⟨r.query, r.entity, (queue?_eq_some_iff h).mpr ⟨r, hr, rfl, hname⟩⟩

end Config

end QueryGateway
