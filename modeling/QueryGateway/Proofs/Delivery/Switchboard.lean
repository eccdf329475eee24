import QueryGateway.Proofs.Delivery.Turns
import QueryGateway.Proofs.Wire.Channel

/-! # The registry and the connections at work

While the delivery side handles a message, bytes arrive on all connections, and other tasks register
clients and take clients out. A handle stands for one connection, which is registered once; so a
handle that was taken out, or replaced, does not come back.
-/

namespace QueryGateway

namespace Registry

variable {r : Registry} {client client' : ClientId} {handle handle' : Handle}

theorem get?_insert (r : Registry) (client client' : ClientId) (handle : Handle) :
    (r.insert client handle).2.get? client' =
      if client = client' then some handle else r.get? client' :=
  Table.get?_insert ..

theorem get?_removeIfCurrent (r : Registry) (client client' : ClientId) (handle : Handle) :
    (r.removeIfCurrent client handle).2.get? client' =
      if client = client' ∧ r.get? client = some handle then none else r.get? client' := by
  rw [removeIfCurrent]
  by_cases hcurrent : r.get? client = some handle
  · rw [if_pos hcurrent]
    simp only [hcurrent, and_true]
    exact Table.get?_erase ..
  · simp [hcurrent]

theorem get?_of_removeIfCurrent
    (h : (r.removeIfCurrent client handle).2.get? client' = some handle') :
    r.get? client' = some handle' := by
  rw [get?_removeIfCurrent] at h
  split at h
  · cases h
  · exact h

theorem get?_removeIfCurrent_ne (r : Registry) (client : ClientId) (handle : Handle) :
    (r.removeIfCurrent client handle).2.get? client ≠ some handle := by
  rw [get?_removeIfCurrent]
  split
  · simp
  · next hcurrent => exact fun hget => hcurrent ⟨rfl, hget⟩

/-- The registry after a request of the delivery side. -/
def after (r : Registry) : Delivery.Request → Registry
  | .insert client handle => (r.insert client handle).2
  | .removeIfCurrent client handle => (r.removeIfCurrent client handle).2
  | .drain => r.drain.2
  | .lookup _ | .deliver _ _ _ | .close _ | .stopping => r

end Registry

/-- Who is registered, and the connections of all handles. -/
structure Switchboard where
  registry : Registry
  channels : Handle → Channel
  /-- The handles that have been registered. -/
  known : List Handle
  registered : ∀ client handle, registry.get? client = some handle → handle ∈ known

namespace Switchboard

/-- Changes the connection of a handle. -/
def update (s : Switchboard) (handle : Handle) (c : Channel) : Switchboard :=
  { s with channels := Function.update s.channels handle c }

/-- A client is registered with a new connection. -/
def join (s : Switchboard) (client : ClientId) (handle : Handle) : Switchboard where
  registry := (s.registry.insert client handle).2
  channels := s.channels
  known := handle :: s.known
  registered := by
    intro client' handle' h
    rw [Registry.get?_insert] at h
    by_cases hclient : client = client'
    · rw [if_pos hclient] at h
      obtain rfl := Option.some.inj h
      exact List.mem_cons_self
    · rw [if_neg hclient] at h
      exact List.mem_cons_of_mem _ (s.registered client' handle' h)

/-- Clients are taken out. -/
def leave (s : Switchboard) (registry : Registry)
    (h : ∀ client handle, registry.get? client = some handle →
      s.registry.get? client = some handle) : Switchboard where
  registry := registry
  channels := s.channels
  known := s.known
  registered client handle hget := s.registered client handle (h client handle hget)

/-- What happens apart from the requests of the delivery side. -/
inductive Drifts : Switchboard → Switchboard → Prop where
  | wire {s : Switchboard} {handle : Handle} {bytes : Bytes} {log : List (Exchange Wire)}
      {c : Channel} : (s.channels handle).Moves bytes log c → Drifts s (s.update handle c)
  | join {s : Switchboard} (client : ClientId) {handle : Handle} : handle ∉ s.known →
      Drifts s (s.join client handle)
  | leave (s : Switchboard) (registry : Registry)
      (h : ∀ client handle, registry.get? client = some handle →
        s.registry.get? client = some handle) : Drifts s (s.leave registry h)

/-- How a request of the delivery side is answered. -/
inductive Answers : Switchboard → Exchange Outlet → Switchboard → Prop where
  | wire {s : Switchboard} {handle : Handle} {bytes : Bytes} {exchange : Exchange Wire}
      {c : Channel} : (s.channels handle).Moves bytes [exchange] c →
        Answers s (Outlet.onWire handle exchange) (s.update handle c)
  | lookup (s : Switchboard) (client : ClientId) :
      Answers s ⟨.registry (.lookup client), s.registry.get? client⟩ s
  | removeIfCurrent (s : Switchboard) (client : ClientId) (handle : Handle) :
      Answers s ⟨.registry (.removeIfCurrent client handle),
        (s.registry.removeIfCurrent client handle).1⟩
        (s.leave (s.registry.removeIfCurrent client handle).2 fun _ _ => Registry.get?_of_removeIfCurrent)

/-- The requests of the delivery side are answered, and other things happen in between. -/
inductive Passes : Switchboard → List (Exchange Outlet) → Switchboard → Prop where
  | refl (s : Switchboard) : Passes s [] s
  | drift {s s' t : Switchboard} {log : List (Exchange Outlet)} :
      Drifts s s' → Passes s' log t → Passes s log t
  | answer {s s' t : Switchboard} {exchange : Exchange Outlet} {log : List (Exchange Outlet)} :
      Answers s exchange s' → Passes s' log t → Passes s (exchange :: log) t

variable {s s' t : Switchboard} {log : List (Exchange Outlet)} {exchange : Exchange Outlet}
  {client : ClientId} {handle : Handle}

theorem Passes.append {log' : List (Exchange Outlet)} (h : s.Passes log s')
    (h' : s'.Passes log' t) : s.Passes (log ++ log') t := by
  induction h with
  | refl => exact h'
  | drift hdrift _ ih => exact .drift hdrift (ih h')
  | answer hanswer _ ih => exact .answer hanswer (ih h')

theorem Passes.of_append {log' : List (Exchange Outlet)} (h : s.Passes (log ++ log') t) :
    ∃ u, s.Passes log u ∧ u.Passes log' t := by
  generalize hall : log ++ log' = all at h
  induction h generalizing log with
  | refl s =>
      obtain ⟨rfl, rfl⟩ := List.append_eq_nil_iff.mp hall
      exact ⟨s, .refl s, .refl s⟩
  | drift hdrift _ ih =>
      obtain ⟨u, hfirst, hsecond⟩ := ih hall
      exact ⟨u, .drift hdrift hfirst, hsecond⟩
  | @answer s _ _ _ _ hanswer hpasses ih =>
      cases log with
      | nil =>
          subst hall
          exact ⟨s, .refl s, .answer hanswer hpasses⟩
      | cons first rest =>
          obtain ⟨rfl, hrest⟩ := List.cons.inj hall
          obtain ⟨u, hfirst, hsecond⟩ := ih hrest
          exact ⟨u, .answer hanswer hfirst, hsecond⟩

theorem update_update (s : Switchboard) (handle : Handle) (c c' : Channel) :
    (s.update handle c).update handle c' = s.update handle c' := by
  simp [update]

/-- What happens on the connection of a handle happens on the switchboard. -/
theorem passes_of_channel (s : Switchboard) (handle : Handle) {bytes : Bytes}
    {inner : List (Exchange Wire)} {c' : Channel} (h : (s.channels handle).Passes bytes inner c') :
    s.Passes (inner.map (Outlet.onWire handle)) (s.update handle c') := by
  generalize hc : s.channels handle = c at h
  induction h generalizing s with
  | refl c =>
      have hsame : s.update handle c = s := by
        rw [← hc, update, Function.update_eq_self]
      rw [hsame]
      exact .refl s
  | @cons _ c₁ c₂ _ _ log _ hmoves _ ih =>
      subst hc
      have hrest := ih (s.update handle c₁) (Function.update_self ..)
      rw [update_update] at hrest
      match log with
      | [] => exact .drift (.wire hmoves) hrest
      | [exchange] => exact .answer (.wire hmoves) hrest
      | _ :: _ :: _ => exact absurd (Channel.length_le_of_moves hmoves) (by simp)

/-! ## Handles that have gone -/

/-- A handle was registered and is not the one of the client. -/
def Gone (s : Switchboard) (client : ClientId) (handle : Handle) : Prop :=
  handle ∈ s.known ∧ s.registry.get? client ≠ some handle

theorem known_of_drifts (h : s.Drifts s') (hknown : handle ∈ s.known) : handle ∈ s'.known := by
  cases h with
  | wire _ => exact hknown
  | join _ _ => exact List.mem_cons_of_mem _ hknown
  | leave _ _ => exact hknown

theorem known_of_answers (h : s.Answers exchange s') (hknown : handle ∈ s.known) :
    handle ∈ s'.known := by
  cases h with
  | wire _ => exact hknown
  | lookup => exact hknown
  | removeIfCurrent => exact hknown

theorem gone_of_drifts (h : s.Drifts s') (hgone : s.Gone client handle) :
    s'.Gone client handle := by
  refine ⟨known_of_drifts h hgone.1, ?_⟩
  cases h with
  | wire _ => exact hgone.2
  | leave _ hleave => exact fun hget => hgone.2 (hleave client handle hget)
  | @join client' handle' hnew =>
      intro hget
      change (s.registry.insert client' handle').2.get? client = some handle at hget
      rw [Registry.get?_insert] at hget
      split at hget
      · exact hnew (Option.some.inj hget ▸ hgone.1)
      · exact hgone.2 hget

theorem gone_of_answers (h : s.Answers exchange s') (hgone : s.Gone client handle) :
    s'.Gone client handle := by
  refine ⟨known_of_answers h hgone.1, ?_⟩
  cases h with
  | wire _ => exact hgone.2
  | lookup => exact hgone.2
  | removeIfCurrent => exact fun hget => hgone.2 (Registry.get?_of_removeIfCurrent hget)

theorem gone_of_passes (h : s.Passes log t) (hgone : s.Gone client handle) :
    t.Gone client handle := by
  induction h with
  | refl => exact hgone
  | drift hdrift _ ih => exact ih (gone_of_drifts hdrift hgone)
  | answer hanswer _ ih => exact ih (gone_of_answers hanswer hgone)

theorem gone_of_removeIfCurrent {removed : Bool} (hknown : handle ∈ s.known)
    (h : s.Answers ⟨.registry (.removeIfCurrent client handle), removed⟩ s') :
    s'.Gone client handle := by
  generalize hexchange : (⟨.registry (.removeIfCurrent client handle), removed⟩ :
    Exchange Outlet) = exchange at h
  cases h with
  | wire _ => cases hexchange
  | lookup => cases hexchange
  | removeIfCurrent =>
      cases hexchange
      exact ⟨hknown, Registry.get?_removeIfCurrent_ne _ _ _⟩

/-- A handle that was asked to be removed, once it was known, is gone for good. -/
theorem gone_of_mem {removed : Bool} (h : s.Passes log t) (hknown : handle ∈ s.known)
    (hmem : ⟨.registry (.removeIfCurrent client handle), removed⟩ ∈ log) :
    t.Gone client handle := by
  induction h with
  | refl => cases hmem
  | drift hdrift _ ih => exact ih (known_of_drifts hdrift hknown) hmem
  | answer hanswer hpasses ih =>
      rcases List.mem_cons.mp hmem with rfl | hmem
      · exact gone_of_passes hpasses (gone_of_removeIfCurrent hknown hanswer)
      · exact ih (known_of_answers hanswer hknown) hmem

/-- When a handle is found for a client, the client is registered with it. -/
theorem Passes.of_lookup
    (h : s.Passes (⟨.registry (.lookup client), some handle⟩ :: log) t) :
    ∃ u, s.Passes [] u ∧ u.registry.get? client = some handle ∧ u.Passes log t := by
  generalize hall : (⟨.registry (.lookup client), some handle⟩ : Exchange Outlet) :: log = all at h
  induction h with
  | refl => cases hall
  | drift hdrift _ ih =>
      obtain ⟨u, hbefore, hget, hafter⟩ := ih hall
      exact ⟨u, .drift hdrift hbefore, hget, hafter⟩
  | @answer s _ _ _ _ hanswer hpasses _ =>
      obtain ⟨rfl, rfl⟩ := List.cons.inj hall
      generalize hexchange : (⟨.registry (.lookup client), some handle⟩ : Exchange Outlet) =
        exchange at hanswer
      cases hanswer with
      | wire _ => cases hexchange
      | lookup =>
          injection hexchange with hrequest hanswer
          injection hrequest with hlookup
          injection hlookup with hclient
          subst hclient
          exact ⟨s, .refl s, hanswer.symm, hpasses⟩
      | removeIfCurrent => cases hexchange

/-- A handle that was found for a client and then asked to be removed is not the client's any
more, whatever else happens. -/
theorem gone_of_lookup {removed : Bool}
    (h : s.Passes (⟨.registry (.lookup client), some handle⟩ :: log) t)
    (hmem : ⟨.registry (.removeIfCurrent client handle), removed⟩ ∈ log) :
    t.Gone client handle := by
  obtain ⟨u, -, hget, hafter⟩ := h.of_lookup
  exact gone_of_mem hafter (u.registered client handle hget) hmem

/-! ## Handles that nobody has any more -/

/-- No two clients are registered with one handle. -/
def Unique (s : Switchboard) : Prop :=
  ∀ client client' handle, s.registry.get? client = some handle →
    s.registry.get? client' = some handle → client = client'

/-- A handle was registered, and no client has it. -/
def Retired (s : Switchboard) (handle : Handle) : Prop :=
  ∀ client, s.Gone client handle

theorem Unique.leave (h : s.Unique) {registry : Registry}
    (hleave : ∀ client handle, registry.get? client = some handle →
      s.registry.get? client = some handle) : (s.leave registry hleave).Unique :=
  fun client client' handle hget hget' =>
    h client client' handle (hleave client handle hget) (hleave client' handle hget')

theorem Unique.join (h : s.Unique) (hnew : handle ∉ s.known) : (s.join client handle).Unique := by
  have hcases : ∀ {client' handle'}, (s.join client handle).registry.get? client' = some handle' →
      client = client' ∧ handle = handle' ∨ s.registry.get? client' = some handle' := by
    intro client' handle' hget
    change (s.registry.insert client handle).2.get? client' = some handle' at hget
    rw [Registry.get?_insert] at hget
    split at hget
    · next hclient => exact .inl ⟨hclient, Option.some.inj hget⟩
    · exact .inr hget
  intro client₁ client₂ handle' hget₁ hget₂
  rcases hcases hget₁ with ⟨rfl, rfl⟩ | hold₁
  · rcases hcases hget₂ with ⟨rfl, -⟩ | hold₂
    · rfl
    · exact absurd (s.registered _ _ hold₂) hnew
  · rcases hcases hget₂ with ⟨rfl, rfl⟩ | hold₂
    · exact absurd (s.registered _ _ hold₁) hnew
    · exact h _ _ _ hold₁ hold₂

theorem Unique.passes (h : s.Unique) (hpasses : s.Passes log t) : t.Unique := by
  induction hpasses with
  | refl => exact h
  | drift hdrift _ ih =>
      cases hdrift with
      | wire _ => exact ih h
      | join client hnew => exact ih (h.join hnew)
      | leave registry hleave => exact ih (h.leave hleave)
  | answer hanswer _ ih =>
      cases hanswer with
      | wire _ => exact ih h
      | lookup => exact ih h
      | removeIfCurrent => exact ih (h.leave _)

theorem Retired.passes (h : s.Retired handle) (hpasses : s.Passes log t) : t.Retired handle :=
  fun client => gone_of_passes hpasses (h client)

/-- A handle that nobody has is not found again. -/
theorem Retired.not_lookup (h : s.Retired handle) :
    ¬s.Passes (⟨.registry (.lookup client), some handle⟩ :: log) t := by
  intro hpasses
  obtain ⟨u, hbefore, hget, -⟩ := hpasses.of_lookup
  exact (h.passes hbefore client).2 hget

/-- A handle that was found for a client and then asked to be removed is nobody's. -/
theorem Unique.retired_of_lookup {removed : Bool} (hunique : s.Unique)
    (h : s.Passes (⟨.registry (.lookup client), some handle⟩ :: log) t)
    (hmem : ⟨.registry (.removeIfCurrent client handle), removed⟩ ∈ log) : t.Retired handle := by
  intro client'
  by_cases hclient : client' = client
  · exact hclient ▸ gone_of_lookup h hmem
  · obtain ⟨u, hbefore, hget, hafter⟩ := h.of_lookup
    have hother : u.Gone client' handle := ⟨u.registered client handle hget,
      fun hget' => hclient (hunique.passes hbefore client' client handle hget' hget)⟩
    exact gone_of_passes hafter hother

/-! ## Failures on the connections -/

theorem exists_moves_of_mem {request : Wire.Request} {answer : Interface.Answer Wire request}
    (h : s.Passes log t) (hmem : ⟨.wire handle request, answer⟩ ∈ log) :
    ∃ (c c' : Channel) (bytes : Bytes), c.Moves bytes [⟨request, answer⟩] c' := by
  induction h with
  | refl => cases hmem
  | drift _ _ ih => exact ih hmem
  | answer hanswer _ ih =>
      rcases List.mem_cons.mp hmem with heq | hmem
      · cases hanswer with
        | @wire _ _ exchange c hmoves =>
            obtain ⟨request', answer'⟩ := exchange
            cases heq
            exact ⟨_, _, _, hmoves⟩
        | lookup => cases heq
        | removeIfCurrent => cases heq
      · exact ih hmem

/-- A read that fails on a connection that is not lost has met a payload that is no text. -/
theorem losesConnection_or_of_read {limit : Nat} {e : WireError} (h : s.Passes log t)
    (hmem : ⟨.wire handle (.readWithin limit), some (.error e)⟩ ∈ log) :
    e.losesConnection = true ∨ e = .invalidUtf8 := by
  obtain ⟨c, c', bytes, hmoves⟩ := exists_moves_of_mem h hmem
  exact hmoves.losesConnection_or_of_read

theorem invalidUtf8_of_read {limit : Nat} {e : WireError} (h : s.Passes log t)
    (hmem : ⟨.wire handle (.readWithin limit), some (.error e)⟩ ∈ log)
    (hkept : e.losesConnection = false) : e = .invalidUtf8 := by
  rcases losesConnection_or_of_read h hmem with hlost | hgarbled
  · rw [hkept] at hlost
    cases hlost
  · exact hgarbled

/-- A frame that fits is refused only by a connection that is lost. -/
theorem losesConnection_of_write {payload : String} {e : WireError} (hfits : Fits payload)
    (h : s.Passes log t) (hmem : ⟨.wire handle (.write payload), .error e⟩ ∈ log) :
    e.losesConnection = true := by
  obtain ⟨c, c', bytes, hmoves⟩ := exists_moves_of_mem h hmem
  exact hmoves.losesConnection_of_write hfits

end Switchboard

end QueryGateway
