import QueryGateway.Proofs.Config.LeftOut
import QueryGateway.Proofs.Queue.Declared

/-! # The listeners of the gateway

The gateway asks for its listeners one after another, and serves when it has all of them. Which
ones it asks for is up to the settings, and no settings file leaves out the one that hands out
client names.
-/

namespace QueryGateway

namespace Gateway

variable {α β : Type} {log : Log} {b b' : Broker} {c : Config} {tables : Tables}
  {pairs : List (Listener × String)} {exchanges : List (Exchange Host)}
  {result : Except GatewayError Unit}

/-- The listener that a request opens, with its address. -/
def bound? (e : Exchange Host) : Option (Listener × String) :=
  match e.request with
  | .bind listener address => some (listener, address)
  | _ => none

/-- The listeners that were asked for, with their addresses. -/
def bound (exchanges : List (Exchange Host)) : List (Listener × String) :=
  exchanges.filterMap bound?

@[simp] theorem bound_append (first second : List (Exchange Host)) :
    bound (first ++ second) = bound first ++ bound second :=
  List.filterMap_append

@[simp] theorem bound_cons_serve (site : Site) (final : Broker) (exchanges : List (Exchange Host)) :
    bound (⟨.serve site, final⟩ :: exchanges) = bound exchanges := rfl

/-- What the gateway works with from a request on, if the request is to serve. -/
def served? (e : Exchange Host) : Option Site :=
  match e.request with
  | .serve site => some site
  | _ => none

/-! ## Requests in sequence -/

theorem run_bind_iff {x : Run α} {f : α → Run β} {result : Except GatewayError β} :
    ((x >>= f).run.run b).Run exchanges (result, b') ↔
      (∃ e, (x.run.run b).Run exchanges (.error e, b') ∧ result = .error e) ∨
        ∃ a b₁ first second, exchanges = first ++ second ∧ (x.run.run b).Run first (.ok a, b₁) ∧
          ((f a).run.run b₁).Run second (result, b') := by
  rw [run_bind, Program.Run.bind_iff]
  constructor
  · rintro ⟨⟨r, b₁⟩, first, second, rfl, hfirst, hsecond⟩
    cases r with
    | error e =>
        obtain ⟨rfl, hdone⟩ := Program.Run.done_iff.mp hsecond
        obtain ⟨rfl, rfl⟩ := Prod.mk.inj hdone
        rw [List.append_nil]
        exact .inl ⟨e, hfirst, rfl⟩
    | ok a => exact .inr ⟨a, b₁, first, second, rfl, hfirst, hsecond⟩
  · rintro (⟨e, hrun, rfl⟩ | ⟨a, b₁, first, second, rfl, hfirst, hsecond⟩)
    · exact ⟨(.error e, b'), exchanges, [], (List.append_nil _).symm, hrun, .done _⟩
    · exact ⟨(.ok a, b₁), first, second, rfl, hfirst, hsecond⟩

theorem run_host_iff {p : Program Host α} {result : Except GatewayError α} :
    ((host p).run.run b).Run exchanges (result, b') ↔
      ∃ a, p.Run exchanges a ∧ result = .ok a ∧ b' = b := by
  rw [run_host, Program.Run.bind_iff]
  constructor
  · rintro ⟨a, first, second, rfl, hfirst, hsecond⟩
    obtain ⟨rfl, hdone⟩ := Program.Run.done_iff.mp hsecond
    obtain ⟨rfl, rfl⟩ := Prod.mk.inj hdone
    rw [List.append_nil]
    exact ⟨a, hfirst, rfl, rfl⟩
  · rintro ⟨a, hrun, rfl, rfl⟩
    exact ⟨a, exchanges, [], (List.append_nil _).symm, hrun, .done _⟩

theorem run_host_bind {p : Program Host α} {f : α → Run β} {result : Except GatewayError β}
    (h : ((host p >>= f).run.run b).Run exchanges (result, b')) :
    ∃ a first second, exchanges = first ++ second ∧ p.Run first a ∧
      ((f a).run.run b).Run second (result, b') := by
  rcases run_bind_iff.mp h with ⟨e, hfirst, -⟩ | ⟨a, b₁, first, second, rfl, hfirst, hsecond⟩
  · obtain ⟨_, -, hok, -⟩ := run_host_iff.mp hfirst
    cases hok
  · obtain ⟨_, hrun, hok, rfl⟩ := run_host_iff.mp hfirst
    cases hok
    exact ⟨a, first, second, rfl, hrun, hsecond⟩

/-! ## Lines of the log -/

/-- Nothing is asked for but lines of the log. -/
def OnlyLogs (exchanges : List (Exchange Host)) : Prop :=
  ∀ e ∈ exchanges, ∃ sink level line, e.request = .log sink level line

namespace OnlyLogs

theorem append {first second : List (Exchange Host)} (hfirst : OnlyLogs first)
    (hsecond : OnlyLogs second) : OnlyLogs (first ++ second) :=
  List.forall_mem_append.mpr ⟨hfirst, hsecond⟩

theorem bound_eq_nil (h : OnlyLogs exchanges) : bound exchanges = [] := by
  apply List.filterMap_eq_nil_iff.mpr
  intro e he
  obtain ⟨sink, level, line, hrequest⟩ := h e he
  rw [bound?, hrequest]

theorem served_eq_nil (h : OnlyLogs exchanges) : exchanges.filterMap served? = [] := by
  apply List.filterMap_eq_nil_iff.mpr
  intro e he
  obtain ⟨sink, level, line, hrequest⟩ := h e he
  rw [served?, hrequest]

theorem of_log {level : LogLevel} {line : String} {u : Unit}
    (h : (Host.log log level line).Run exchanges u) : OnlyLogs exchanges := by
  by_cases hadmits : log.admits level = true
  · have hlog : Host.log log level line = .ask (I := Host) (.log log.sink level line) :=
      if_pos hadmits
    rw [hlog] at h
    obtain ⟨_, _, rfl, hdone⟩ := Program.Run.perform_iff.mp h
    obtain ⟨rfl, -⟩ := Program.Run.done_iff.mp hdone
    intro e he
    obtain rfl := List.mem_singleton.mp he
    exact ⟨_, _, _, rfl⟩
  · have hlog : Host.log log level line = .done () := if_neg hadmits
    rw [hlog] at h
    obtain ⟨rfl, -⟩ := Program.Run.done_iff.mp h
    exact fun _ he => absurd he List.not_mem_nil

theorem of_declare {name : String} (hopen : b.closed = false)
    (h : ((declare log name).run.run b).Run exchanges (result, b')) : OnlyLogs exchanges := by
  obtain ⟨broker, hdeclare, -⟩ := declare_of_open hopen name
  rw [run_declare hdeclare] at h
  split at h
  · obtain ⟨u, hlog, -⟩ := run_host_iff.mp h
    exact of_log hlog
  · obtain ⟨rfl, -⟩ := Program.Run.done_iff.mp h
    exact fun _ he => absurd he List.not_mem_nil

theorem of_forM_declare {names : List String} (hopen : b.closed = false)
    (h : ((names.forM (declare log)).run.run b).Run exchanges (result, b')) :
    OnlyLogs exchanges := by
  induction names generalizing b exchanges with
  | nil =>
      obtain ⟨rfl, -⟩ := Program.Run.done_iff.mp h
      exact fun _ he => absurd he List.not_mem_nil
  | cons name rest ih =>
      rcases run_bind_iff.mp h with ⟨e, hfirst, -⟩ | ⟨_, b₁, first, second, rfl, hfirst, hrest⟩
      · exact of_declare hopen hfirst
      · have hopen₁ := (declared_of_declare hopen hfirst).2.isOpen
        exact (of_declare hopen hfirst).append (ih hopen₁ hrest)

end OnlyLogs

/-! ## Opening the listeners -/

/-- Listeners are asked for in order, up to the first that cannot be opened. -/
inductive Binds :
    List (Listener × String) → List (Exchange Host) → Except GatewayError Unit → Prop where
  | nil : Binds [] [] (.ok ())
  | refused {listener : Listener} {address : String} {rest : List (Listener × String)}
      (fault : Fault) : Binds ((listener, address) :: rest)
        [⟨.bind listener address, .error fault⟩] (.error (.bind listener address fault))
  | opened {listener : Listener} {address : String} {rest : List (Listener × String)}
      {exchanges : List (Exchange Host)} {result : Except GatewayError Unit} :
      Binds rest exchanges result →
      Binds ((listener, address) :: rest) (⟨.bind listener address, .ok ()⟩ :: exchanges) result

namespace Binds

theorem isPrefix_bound (h : Binds pairs exchanges result) : bound exchanges <+: pairs := by
  induction h with
  | nil => exact List.nil_prefix
  | refused fault => exact (List.prefix_append _ _ : [_] <+: [_] ++ _)
  | opened _ ih => exact (List.prefix_cons_inj _).mpr ih

/-- Without a refusal every listener was asked for. -/
theorem bound_eq (h : Binds pairs exchanges (.ok ())) : bound exchanges = pairs := by
  generalize hresult : (.ok () : Except GatewayError Unit) = result at h
  induction h with
  | nil => rfl
  | refused fault => cases hresult
  | opened _ ih => exact congrArg (_ :: ·) (ih hresult)

theorem served_eq_nil (h : Binds pairs exchanges result) : exchanges.filterMap served? = [] := by
  induction h with
  | nil => rfl
  | refused fault => rfl
  | opened _ ih => exact ih

/-- The failure is that of a listener which could not be opened. -/
theorem exists_refused {e : GatewayError} (h : Binds pairs exchanges (.error e)) :
    ∃ listener address fault, ⟨.bind listener address, .error fault⟩ ∈ exchanges ∧
      e = .bind listener address fault := by
  generalize hresult : (.error e : Except GatewayError Unit) = result at h
  induction h with
  | nil => cases hresult
  | refused fault =>
      cases hresult
      exact ⟨_, _, fault, List.mem_singleton.mpr rfl, rfl⟩
  | opened _ ih =>
      obtain ⟨listener, address, fault, hmem, rfl⟩ := ih hresult
      exact ⟨listener, address, fault, List.mem_cons_of_mem _ hmem, rfl⟩

end Binds

theorem run_bind_listener {listener : Listener} {address : String}
    (h : ((bind listener address).run.run b).Run exchanges (result, b')) :
    ∃ answer, exchanges = [⟨.bind listener address, answer⟩] ∧
      result = answer.mapError (.bind listener address) ∧ b' = b := by
  rcases run_bind_iff.mp h with ⟨e, hfirst, -⟩ | ⟨answer, b₁, first, second, rfl, hfirst, hnext⟩
  · obtain ⟨_, -, hok, -⟩ := run_host_iff.mp hfirst
    cases hok
  · obtain ⟨_, hrun, hok, rfl⟩ := run_host_iff.mp hfirst
    cases hok
    obtain ⟨answer, rest, rfl, hdone⟩ := Program.Run.perform_iff.mp hrun
    obtain ⟨rfl, rfl⟩ := Program.Run.done_iff.mp hdone
    cases answer with
    | error fault =>
        obtain ⟨rfl, heq⟩ := Program.Run.done_iff.mp hnext
        obtain ⟨rfl, rfl⟩ := Prod.mk.inj heq
        exact ⟨.error fault, rfl, rfl, rfl⟩
    | ok u =>
        obtain ⟨rfl, heq⟩ := Program.Run.done_iff.mp hnext
        obtain ⟨rfl, rfl⟩ := Prod.mk.inj heq
        exact ⟨.ok u, rfl, rfl, rfl⟩

theorem binds_of_forM
    (h : ((pairs.forM fun (listener, address) => bind listener address).run.run b).Run
      exchanges (result, b')) : Binds pairs exchanges result ∧ b' = b := by
  induction pairs generalizing b exchanges with
  | nil =>
      obtain ⟨rfl, heq⟩ := Program.Run.done_iff.mp h
      obtain ⟨rfl, rfl⟩ := Prod.mk.inj heq
      exact ⟨.nil, rfl⟩
  | cons pair rest ih =>
      obtain ⟨listener, address⟩ := pair
      rcases run_bind_iff.mp h with ⟨e, hfirst, rfl⟩ | ⟨u, b₁, first, second, rfl, hfirst, hrest⟩
      · obtain ⟨answer, rfl, hresult, rfl⟩ := run_bind_listener hfirst
        cases answer with
        | error fault =>
            rw [hresult]
            exact ⟨.refused fault, rfl⟩
        | ok _ => cases hresult
      · obtain ⟨answer, rfl, hresult, rfl⟩ := run_bind_listener hfirst
        cases answer with
        | error fault => cases hresult
        | ok _ =>
            obtain ⟨hbinds, rfl⟩ := ih hrest
            exact ⟨.opened hbinds, rfl⟩

/-- The runs of the gateway that come to an end, as far as the listeners are concerned. -/
inductive Course (c : Config) : List (Exchange Host) → Except GatewayError Unit → Prop where
  | refused {before opening : List (Exchange Host)} {e : GatewayError} : OnlyLogs before →
      Binds (listeners c) opening (.error e) → Course c (before ++ opening) (.error e)
  | served {before opening after : List (Exchange Host)} {site : Site} {final : Broker} :
      OnlyLogs before → Binds (listeners c) opening (.ok ()) → OnlyLogs after → site.config = c →
      Course c (before ++ opening ++ ⟨.serve site, final⟩ :: after) (.ok ())

theorem course_of_run (htables : c.tables = .ok tables) (hopen : b.closed = false)
    (h : ((run c log).run.run b).Run exchanges (result, b')) : Course c exchanges result := by
  rw [run, htables] at h
  obtain ⟨_, started, _, rfl, hstarted, hcount⟩ := run_host_bind h
  obtain ⟨_, counted, _, rfl, hcounted, hqueues⟩ := run_host_bind hcount
  rcases run_bind_iff.mp hqueues with
    ⟨e, hdeclared, -⟩ | ⟨_, b₁, declared, _, rfl, hdeclared, hlisteners⟩
  · obtain ⟨hok, -⟩ := declared_of_forM hopen hdeclared
    cases hok
  have hlogs : OnlyLogs (started ++ counted ++ declared) :=
    ((OnlyLogs.of_log hstarted).append (.of_log hcounted)).append (.of_forM_declare hopen hdeclared)
  have hassoc : ∀ rest : List (Exchange Host),
      started ++ (counted ++ (declared ++ rest)) = started ++ counted ++ declared ++ rest := by simp
  rcases run_bind_iff.mp hlisteners with
    ⟨e, hopening, rfl⟩ | ⟨_, b₂, opening, _, rfl, hopening, hserve⟩
  · rw [hassoc]
    exact .refused hlogs (binds_of_forM hopening).1
  · rw [run_get_bind] at hserve
    obtain ⟨final, serving, stopping, rfl, hserving, hstop⟩ := run_host_bind hserve
    obtain ⟨_, _, rfl, hdone⟩ := Program.Run.perform_iff.mp hserving
    obtain ⟨rfl, rfl⟩ := Program.Run.done_iff.mp hdone
    have hstopped : ((host (Host.log log .info "Gateway stopped")).run.run final.close).Run
        stopping (result, b') := hstop
    obtain ⟨_, hlast, rfl, -⟩ := run_host_iff.mp hstopped
    rw [hassoc, ← List.append_assoc]
    exact .served hlogs (binds_of_forM hopening).1 (.of_log hlast) rfl

namespace Course

/-- The gateway serves unless it fails. -/
theorem served_of_ok (h : Course c exchanges (.ok ())) :
    ∃ site, site.config = c ∧ exchanges.filterMap served? = [site] := by
  generalize hresult : (.ok () : Except GatewayError Unit) = result at h
  cases h with
  | refused => cases hresult
  | @served _ _ _ site _ hlogs hbinds hafter hsite =>
      refine ⟨site, hsite, ?_⟩
      rw [List.filterMap_append, List.filterMap_append, hlogs.served_eq_nil, hbinds.served_eq_nil]
      simpa [served?] using hafter.served_eq_nil

/-- A gateway that serves has opened every listener that its settings ask for. -/
theorem bound_eq_of_ok (h : Course c exchanges (.ok ())) : bound exchanges = listeners c := by
  generalize hresult : (.ok () : Except GatewayError Unit) = result at h
  cases h with
  | refused => cases hresult
  | served hlogs hbinds hafter _ =>
      rw [bound_append, bound_append, hlogs.bound_eq_nil, hbinds.bound_eq, bound_cons_serve,
        hafter.bound_eq_nil, List.nil_append, List.append_nil]

theorem isPrefix_bound (h : Course c exchanges result) : bound exchanges <+: listeners c := by
  cases h with
  | refused hlogs hbinds =>
      rw [bound_append, hlogs.bound_eq_nil]
      exact hbinds.isPrefix_bound
  | served hlogs hbinds hafter hsite =>
      exact (served hlogs hbinds hafter hsite).bound_eq_of_ok ▸ List.prefix_rfl

/-- The gateway fails only because a listener could not be opened, and then it does not serve. -/
theorem refused_of_error {e : GatewayError} (h : Course c exchanges (.error e)) :
    exchanges.filterMap served? = [] ∧ ∃ listener address fault,
      ⟨.bind listener address, .error fault⟩ ∈ exchanges ∧ e = .bind listener address fault := by
  generalize hresult : (.error e : Except GatewayError Unit) = result at h
  cases h with
  | served => cases hresult
  | refused hlogs hbinds =>
      cases hresult
      obtain ⟨listener, address, fault, hmem, rfl⟩ := hbinds.exists_refused
      refine ⟨?_, listener, address, fault, List.mem_append_right _ hmem, rfl⟩
      rw [List.filterMap_append, hlogs.served_eq_nil, hbinds.served_eq_nil, List.nil_append]

end Course

/-- The gateway opens the listeners that its settings ask for, and no other one, with a broker that
takes any queue. -/
structure Opens (c : Config) : Prop where
  /-- The listeners are asked for in their order. -/
  asked : ∀ log b exchanges result b', b.CanDeclare →
    ((run c log).run.run b).Run exchanges (result, b') → bound exchanges <+: listeners c
  /-- A run without a failure serves, with all of them. -/
  serves : ∀ log b exchanges b', b.CanDeclare →
    ((run c log).run.run b).Run exchanges (.ok (), b') → bound exchanges = listeners c ∧
      ∃ site, site.config = c ∧ exchanges.filterMap served? = [site]
  /-- Only a listener that cannot be opened makes a run fail, and then it does not serve. -/
  fails : ∀ log b exchanges e b', b.CanDeclare →
    ((run c log).run.run b).Run exchanges (.error e, b') → exchanges.filterMap served? = [] ∧
      ∃ listener address fault, ⟨.bind listener address, .error fault⟩ ∈ exchanges ∧
        e = .bind listener address fault
  /-- Where every listener can be opened there is no failure. -/
  succeeds : ∀ (w : World Host) past log b, b.CanDeclare →
    (∀ past listener address, w past (.bind listener address) = (.ok () : Except Fault Unit)) →
    (w.play past ((run c log).run.run b)).1.1 = .ok ()

theorem opens_of_tables (htables : c.tables = .ok tables) : Opens c := by
  refine ⟨fun _ _ _ _ _ hb h => (course_of_run htables hb.isOpen h).isPrefix_bound, ?_,
    fun _ _ _ _ _ hb h => (course_of_run htables hb.isOpen h).refused_of_error, ?_⟩
  · intro log b exchanges b' hb h
    have hcourse := course_of_run htables hb.isOpen h
    exact ⟨hcourse.bound_eq_of_ok, hcourse.served_of_ok⟩
  · intro w past log b hb hgranted
    have hrun := w.run_play past ((run c log).run.run b)
    cases hresult : (w.play past ((run c log).run.run b)).1 with
    | mk result b' =>
        cases result with
        | ok u => rfl
        | error e =>
            rw [hresult] at hrun
            obtain ⟨-, listener, address, fault, hmem, -⟩ :=
              (course_of_run htables hb.isOpen hrun).refused_of_error
            obtain ⟨earlier, hanswer⟩ := World.exists_past_of_mem_play hmem
            have hnone := hanswer.trans (hgranted earlier listener address)
            cases hnone

end Gateway

/-! ## The listener that hands out client names -/

namespace Config

open Toml (lookup)

/-- What a settings file means for the listener that hands out client names. -/
structure NamesListener (content : String) (c : Config) : Prop where
  /-- A setting that the table `input` leaves out is the default, any other one is what it says. -/
  settings : ∀ table, inputTable? content = some table →
    c.input.entries = ({} : Input).entries.map fun setting =>
      (setting.1, (lookup setting.1 table).getD setting.2)
  /-- The listener is where it is by default, not off, if its address is left out. -/
  leftOut : ∀ table, inputTable? content = some table →
    lookup "connections_address" table = none →
    c.input.connectionsAddress = some "0.0.0.0:12344"
  /-- There is no file that turns the listener off. -/
  listed : ∃ address, c.input.connectionsAddress = some address ∧
    (.connections, address) ∈ Gateway.listeners c
  /-- The gateway opens all the listeners of the settings. -/
  opens : Gateway.Opens c

/-- The listener that hands out client names is opened whatever a settings file says or leaves
out. -/
theorem names_listener_open (path content : String) (c : Config)
    (h : ofContent path (.ok content) = .ok c) : NamesListener content c := by
  obtain ⟨entries, hread, hdecode, hcheck⟩ := exists_decode_of_ofContent h
  have hfollows : ∀ table, inputTable? content = some table →
      Input.Follows (.named table) c.input := fun table htable =>
    follows_of_lookup hdecode ((inputTable?_eq_some_iff hread).mp htable)
  refine ⟨fun table htable => (hfollows table htable).entries_eq, ?_, ?_, ?_⟩
  · intro table htable hnone
    obtain ⟨address, haddress, hget⟩ := (hfollows table htable).connections
    rw [Group.get, Group.value?, hnone] at hget
    cases hget
    exact haddress
  · obtain ⟨address, haddress⟩ := exists_connectionsAddress hdecode
    refine ⟨address, haddress, ?_⟩
    rw [Gateway.listeners, haddress]
    simp
  · obtain ⟨tables, htables⟩ := exists_tables_of_check hcheck
    exact Gateway.opens_of_tables htables

/-- A file with the address of the listener in a comment. -/
def commentedOut : String :=
  "[input]\n# connections_address = \"0.0.0.0:12344\"\nread_timeout_secs = 60\n"

theorem leftOut_of_comment : ∃ table, inputTable? commentedOut = some table ∧
    lookup "connections_address" table = none := by
  have hleftOut : (inputTable? commentedOut).any
      (fun table => (lookup "connections_address" table).isNone) = true := by
    decide +kernel
  cases htable : inputTable? commentedOut with
  | none =>
      rw [htable] at hleftOut
      cases hleftOut
  | some table =>
      rw [htable] at hleftOut
      exact ⟨table, rfl, Option.isNone_iff_eq_none.mp hleftOut⟩

theorem ofContent_commentedOut : ofContent "gateway.toml" (.ok commentedOut) =
    .ok { input := { readTimeout := 60 } } := by
  decide +kernel

theorem names_listener_open_of_comment :
    ofContent "gateway.toml" (.ok commentedOut) = .ok { input := { readTimeout := 60 } } ∧
      NamesListener commentedOut { input := { readTimeout := 60 } } :=
  ⟨ofContent_commentedOut, names_listener_open "gateway.toml" _ _ ofContent_commentedOut⟩

/-- With its address in a comment the listener is still opened, and the other setting is read. -/
theorem comment_leaves_listener_on :
    (∃ table, inputTable? commentedOut = some table ∧
      lookup "connections_address" table = none) ∧
    ofContent "gateway.toml" (.ok commentedOut) = .ok { input := { readTimeout := 60 } } ∧
    ({ input := { readTimeout := 60 } } : Config).input.connectionsAddress ≠ none ∧
    (.connections, "0.0.0.0:12344") ∈ Gateway.listeners { input := { readTimeout := 60 } } :=
  ⟨leftOut_of_comment, ofContent_commentedOut, by decide, by decide⟩

end Config

end QueryGateway
