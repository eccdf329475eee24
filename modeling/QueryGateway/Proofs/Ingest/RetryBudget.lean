import QueryGateway.Config.Check
import QueryGateway.Proofs.Ingest.Blocks

/-! # The budget of retries

A message that tells the end of a stream has a budget of one attempt more than there are retries.
The budget is counted in the same word as the retries are, so the most retries that the settings
accept leave no attempt at all.
-/

namespace QueryGateway

open Ingest

/-! ## One query -/

/-- How many messages were begun: those that were published, and the one that was given up. -/
def FanOutReport.begun (report : FanOutReport) : Nat :=
  report.published + if report.isComplete then 0 else 1

/-- Every message that was begun has an attempt, and at most one more than there are retries. -/
def FanOutReport.Spends (retries : Nat) (h : Header) (report : FanOutReport)
    (block : List Attempt) : Prop :=
  ∃ rounds : List (List Bool), rounds.length = report.begun ∧
    (∀ round ∈ rounds, 1 ≤ round.length ∧ round.length ≤ retries + 1) ∧
    block = tries report.queue (.endOfStream report.query h.client h.entity) rounds.flatten

namespace Course

variable {retries expected published : Nat} {rounds : List (List Bool)}

theorem length_eq (h : Course retries expected published rounds) :
    rounds.length = published + if published = expected then 0 else 1 := by
  induction h with
  | complete => rfl
  | abandoned expected => simp
  | delivered _ _ ih =>
      rw [List.length_cons, ih]
      simp only [Nat.add_right_cancel_iff]
      omega

theorem length_of_mem (h : Course retries expected published rounds) :
    ∀ round ∈ rounds, 1 ≤ round.length ∧ round.length ≤ retries + 1 := by
  induction h with
  | complete => simp
  | abandoned expected => simp
  | delivered hfailures _ ih =>
      refine List.forall_mem_cons.mpr ⟨?_, ih⟩
      simpa [deliveredAfter] using hfailures

/-- Nothing is missing if no attempt fails. -/
theorem published_eq_of_accepted (h : Course retries expected published rounds)
    (haccepted : ∀ accepted ∈ rounds.flatten, accepted = true) : published = expected := by
  induction h with
  | complete => rfl
  | abandoned expected => simpa using haccepted false (by simp)
  | delivered _ _ ih =>
      rw [List.flatten_cons, List.forall_mem_append] at haccepted
      rw [ih haccepted.2]

end Course

namespace FanOutReport.Tells

variable {retries : Nat} {h : Header} {report : FanOutReport} {reports : List FanOutReport}
  {block : List Attempt} {blocks : List (List Attempt)}

theorem spends (htells : report.Tells retries h block) : report.Spends retries h block := by
  obtain ⟨rounds, hcourse, rfl⟩ := htells
  refine ⟨rounds, ?_, hcourse.length_of_mem, rfl⟩
  rw [hcourse.length_eq, begun, isComplete]
  simp only [decide_eq_true_eq]

/-- The reports are complete if no attempt fails. -/
theorem published_eq (htells : List.Forall₂ (FanOutReport.Tells retries h) reports blocks)
    (haccepted : ∀ a ∈ blocks.flatten, a.accepted = true) :
    ∀ report ∈ reports, report.published = report.expected := by
  induction htells with
  | nil => simp
  | cons hhead _ ih =>
      rw [List.flatten_cons, List.forall_mem_append] at haccepted
      refine List.forall_mem_cons.mpr ⟨?_, ih haccepted.2⟩
      obtain ⟨rounds, hcourse, rfl⟩ := hhead
      apply hcourse.published_eq_of_accepted
      intro accepted hmem
      exact haccepted.1 _ (List.mem_map_of_mem hmem)

end FanOutReport.Tells

/-! ## One header -/

namespace Router

variable {r : Router} {h : Header} {log : List (Exchange Ingest)} {reports : List FanOutReport}
  {result : Except RouterFault (List FanOutReport)}

/-- What the budget of retries is for. -/
structure KeepsBudget (r : Router) (h : Header) : Prop where
  /-- There is a result, and every message that is begun is tried, within the budget. -/
  spent : ∀ log result, (r.fanOut h).run.Run log result →
    ∃ reports blocks, result = .ok reports ∧ tried log = blocks.flatten ∧
      List.Forall₂ (FanOutReport.Spends r.retries.toNat h) reports blocks
  /-- If the broker takes every message, then every worker is told. -/
  told : ∀ log reports, (r.fanOut h).run.Run log (.ok reports) →
    (∀ a ∈ tried log, a.accepted = true) →
    ∀ report ∈ reports, report.published = report.expected

theorem keepsBudget_of_not_breaksOff (hkept : ¬r.BreaksOff h) : r.KeepsBudget h := by
  have htells : ∀ log result, (r.fanOut h).run.Run log result →
      ∃ reports blocks, result = .ok reports ∧ tried log = blocks.flatten ∧
        List.Forall₂ (FanOutReport.Tells r.retries.toNat h) reports blocks := by
    intro log result hrun
    rcases run_fanOut hrun with ⟨-, reports, hreports, hannounces⟩ | ⟨hbreaks, -⟩
    · obtain ⟨blocks, hblocks, htells⟩ := hannounces.courses
      exact ⟨reports, blocks, hreports, hblocks, htells⟩
    · exact absurd hbreaks hkept
  constructor
  · intro log result hrun
    obtain ⟨reports, blocks, hreports, hblocks, htold⟩ := htells _ _ hrun
    exact ⟨reports, blocks, hreports, hblocks, htold.imp fun _ _ => FanOutReport.Tells.spends⟩
  · intro log reports hrun haccepted
    obtain ⟨_, blocks, hreports, hblocks, htold⟩ := htells _ _ hrun
    obtain rfl := Except.ok.inj hreports
    rw [hblocks] at haccepted
    exact FanOutReport.Tells.published_eq htold haccepted

/-- A router that breaks off has no result. -/
theorem not_keepsBudget_of_breaksOff (hbreaks : r.BreaksOff h) : ¬r.KeepsBudget h := by
  intro hkeeps
  obtain ⟨reports, blocks, hreports, -⟩ := hkeeps.spent [] (.error .overflow) (by
    rw [run_fanOut_eq_error hbreaks]
    exact .done _)
  cases hreports

/-- The law of the budget: what becomes of it for every count of retries, in view of the routes that
the tables were built from. -/
structure RetryLaw (routes : List Route) (r : Router) (h : Header) : Prop where
  /-- There is a report for each routed query, in the order of the header, with the count of its
  route. -/
  reported : ∀ log reports, (r.fanOut h).run.Run log (.ok reports) →
    reports.map FanOutReport.query =
      h.queries.filter (fun query => ∃ route ∈ routes, route.key = (query, h.entity)) ∧
    ∀ report ∈ reports, 1 ≤ report.expected ∧ ∃ route ∈ routes,
      route.key = (report.query, h.entity) ∧ route.queue = report.queue ∧
        route.endCount = report.expected
  /-- The budget is kept unless it leaves its word and there is somebody to tell. -/
  kept_iff : r.KeepsBudget h ↔ r.retries.toNat + 1 < UInt32.size ∨
    ∀ query ∈ h.queries, ∀ route ∈ routes, route.key ≠ (query, h.entity)
  /-- If it is not kept, then nothing is tried and there are no reports: the router breaks off. -/
  lost : ¬r.KeepsBudget h → ∀ log result, (r.fanOut h).run.Run log result →
    log = [] ∧ result = .error .overflow

variable {c : Config} {tables : Tables}

theorem reported_of_tables (htables : c.tables = .ok tables) {retries : UInt32}
    (hrun : (Router.fanOut ⟨tables, retries⟩ h).run.Run log (.ok reports)) :
    reports.map FanOutReport.query =
      h.queries.filter (fun query => ∃ route ∈ c.routes, route.key = (query, h.entity)) ∧
    ∀ report ∈ reports, 1 ≤ report.expected ∧ ∃ route ∈ c.routes,
      route.key = (report.query, h.entity) ∧ route.queue = report.queue ∧
        route.endCount = report.expected := by
  rcases run_fanOut hrun with ⟨-, _, hreports, hannounces⟩ | ⟨-, herror, -⟩
  · obtain rfl := Except.ok.inj hreports
    constructor
    · rw [hannounces.queries]
      apply List.filter_congr
      intro query _
      rw [Bool.eq_iff_iff, decide_eq_true_iff]
      exact Tables.isSome_queue?_iff htables
    · intro report hreport
      obtain ⟨hqueue, hexpected⟩ := hannounces.routed report hreport
      obtain ⟨route, hroute, hkey, hname, hcount⟩ := Tables.exists_route htables hqueue
      have hend : route.endCount = report.expected := by
        rw [hexpected, hcount, Option.getD_some]
      refine ⟨?_, route, hroute, hkey, hname, hend⟩
      rw [← hend]
      exact Tables.ingest?_pos htables hcount
  · cases herror

theorem keepsBudget_iff : r.KeepsBudget h ↔ ¬r.BreaksOff h :=
  ⟨fun hkeeps hbreaks => not_keepsBudget_of_breaksOff hbreaks hkeeps, keepsBudget_of_not_breaksOff⟩

/-- Every message that tells the end of a stream is tried at least once and at most once more than
there are retries, as long as that number fits into the word that counts it. -/
theorem retry_budget (htables : c.tables = .ok tables) (h : Header) :
    RetryLaw c.routes ⟨tables, c.input.fanOutRetries⟩ h := by
  have hword : c.input.fanOutRetries.toNat + 1 ≤ UInt32.size := c.input.fanOutRetries.toNat_lt_size
  refine ⟨fun _ _ => reported_of_tables htables, ?_, ?_⟩
  · rw [keepsBudget_iff, BreaksOff, not_and_or, hasWorkers_iff htables]
    refine or_congr ⟨fun hne => Nat.lt_of_le_of_ne hword hne, Nat.ne_of_lt⟩ ?_
    simp only [not_exists, not_and, ne_eq]
  · intro hlost log result hrun
    rw [keepsBudget_iff, not_not] at hlost
    rw [run_fanOut_eq_error hlost] at hrun
    obtain ⟨hlog, hresult⟩ := Program.Run.done_iff.mp hrun
    exact ⟨hlog, hresult⟩

/-- Settings with one route and a count of retries. -/
def oneRoute (retries : UInt32) : Config :=
  { input := { fanOutRetries := retries }, routes := [⟨⟨"q"⟩, .movies, "work", 1⟩] }

/-- A settings file with the most retries that a word can say. -/
def largestRetries : String :=
  "[input]\nfan_out_retries = 4294967295\n" ++
    "[[routes]]\nquery = \"q\"\nentity = \"movies\"\nqueue = \"work\"\n"

theorem retry_budget_of_two_retries :
    ∃ tables, (oneRoute 2).tables = .ok tables ∧
      RetryLaw (oneRoute 2).routes ⟨tables, 2⟩ ⟨[⟨"q"⟩], .movies, ⟨"c"⟩, .endOfStream⟩ :=
  have htables : (oneRoute 2).tables = .ok _ := rfl
  ⟨_, htables, retry_budget htables _⟩

/-- The settings are accepted, but then the router breaks off before it has tried to tell the worker
of the route, although the broker takes every message. -/
theorem budget_lost_of_largest_retries :
    Config.ofContent "gateway.toml" (.ok largestRetries) = .ok (oneRoute 4294967295) ∧
    Header.parse "q,MOVIES,c,EOF" = .ok ⟨[⟨"q"⟩], .movies, ⟨"c"⟩, .endOfStream⟩ ∧
    ∃ tables, (oneRoute 4294967295).tables = .ok tables ∧
      World.play (fun _ => success) [] (Router.fanOut ⟨tables, 4294967295⟩
        ⟨[⟨"q"⟩], .movies, ⟨"c"⟩, .endOfStream⟩).run = (.error .overflow, []) := by
  have htables : (oneRoute 4294967295).tables = .ok _ := rfl
  exact ⟨by decide +kernel, rfl, _, htables, rfl⟩

end Router

end QueryGateway
