import QueryGateway.Proofs.Program.Success
import QueryGateway.Queue.Message

/-! # Headers of the messages that gateways write

Setting one header leaves the other ones as they were, so what a message was built from can be read
back from it.
-/

namespace QueryGateway

theorem MessageHeader.name_inj {header header' : MessageHeader} :
    header.name = header'.name ↔ header = header' := by
  cases header <;> cases header' <;> decide

namespace Message

@[simp] theorem header?_raw (body : Bytes) (key : String) : (raw body).header? key = none := rfl

@[simp] theorem header?_set (m : Message) (header header' : MessageHeader) (value : String) :
    (m.set header value).header? header'.name =
      if header = header' then some value else m.header? header'.name := by
  rw [header?, set, withHeader, Table.get?_insert]
  by_cases h : header = header'
  · simp [h]
  · have hname : header.name ≠ header'.name := mt MessageHeader.name_inj.mp h
    simp [h, hname, header?]

@[simp] theorem body_raw (body : Bytes) : (raw body).body = body := rfl

@[simp] theorem body_set (m : Message) (header : MessageHeader) (value : String) :
    (m.set header value).body = m.body := rfl

/-! ## Messages to the workers -/

section

variable (query : QueryId) (client : ClientId) (entity : Entity)

@[simp] theorem query_endOfStream :
    (endOfStream query client entity).header? MessageHeader.query.name = some query.text := by
  simp [endOfStream]

@[simp] theorem client_endOfStream :
    (endOfStream query client entity).header? MessageHeader.client.name = some client.text := by
  simp [endOfStream]

@[simp] theorem type_endOfStream :
    (endOfStream query client entity).header? MessageHeader.type.name = some entity.endTag := by
  simp [endOfStream]

@[simp] theorem body_endOfStream : (endOfStream query client entity).body = [] := rfl

@[simp] theorem query_batch (id : UInt64) (body : Bytes) :
    (batch query client id entity body).header? MessageHeader.query.name = some query.text := by
  simp [batch]

@[simp] theorem client_batch (id : UInt64) (body : Bytes) :
    (batch query client id entity body).header? MessageHeader.client.name = some client.text := by
  simp [batch]

@[simp] theorem type_batch (id : UInt64) (body : Bytes) :
    (batch query client id entity body).header? MessageHeader.type.name = some entity.name := by
  simp [batch]

end

/-- The message is for the workers of a query. -/
def isFor (query : QueryId) (m : Message) : Bool :=
  m.header? MessageHeader.query.name = some query.text

theorem isFor_eq {m : Message} {query : QueryId}
    (h : m.header? MessageHeader.query.name = some query.text) (query' : QueryId) :
    m.isFor query' = decide (query = query') := by
  rw [isFor, h, Bool.eq_iff_iff, decide_eq_true_iff, decide_eq_true_iff]
  constructor
  · intro htext
    exact congrArg QueryId.mk (Option.some.inj htext)
  · rintro rfl
    rfl

/-! ## Messages from the workers -/

section

variable {query : QueryId} {client : ClientId}

theorem required_eq_ok_iff {m : Message} {header : MessageHeader} {value : String} :
    m.required header = .ok value ↔ m.header? header.name = some value ∧ value ≠ "" := by
  rw [required]
  cases m.header? header.name with
  | none => simp
  | some value' =>
      by_cases h : value' = ""
      · subst h
        simp only [if_true, Option.some.injEq]
        constructor
        · intro hok
          cases hok
        · rintro ⟨rfl, hne⟩
          exact absurd rfl hne
      · simp only [h, if_false, Except.ok.injEq, Option.some.injEq]
        constructor
        · rintro rfl
          exact ⟨rfl, h⟩
        · rintro ⟨rfl, -⟩
          rfl

theorem resultMeta_eq_ok_iff {m : Message} {kind : ResultKind} :
    m.resultMeta = .ok ⟨client, query, kind⟩ ↔
      m.header? MessageHeader.client.name = some client.text ∧ client.text ≠ "" ∧
      m.header? MessageHeader.query.name = some query.text ∧ query.text ≠ "" ∧
      (if m.header? MessageHeader.type.name = some resultEndType then .endOfStream else .rows) =
        kind := by
  simp only [resultMeta, Success.bind_eq_ok, Success.pure_eq_ok, required_eq_ok_iff,
    ResultMeta.mk.injEq]
  constructor
  · rintro ⟨_, ⟨hclient, hclient'⟩, _, ⟨hquery, hquery'⟩, rfl, rfl, hkind⟩
    exact ⟨hclient, hclient', hquery, hquery', hkind⟩
  · rintro ⟨hclient, hclient', hquery, hquery', hkind⟩
    exact ⟨_, ⟨hclient, hclient'⟩, _, ⟨hquery, hquery'⟩, rfl, rfl, hkind⟩

/-- What a message of the results queue turns out to be when it is read. -/
inductive Content (m : Message) : Prop where
  | malformed (e : MessageError) : m.resultMeta = .error e → Content m
  | badRows (client : ClientId) (query : QueryId) (e : MessageError) :
      m.resultMeta = .ok ⟨client, query, .rows⟩ → m.bodyText = .error e → Content m
  | rows (client : ClientId) (query : QueryId) (rows : String) :
      m.resultMeta = .ok ⟨client, query, .rows⟩ → m.bodyText = .ok rows → Content m
  | ends (client : ClientId) (query : QueryId) :
      m.resultMeta = .ok ⟨client, query, .endOfStream⟩ → Content m

theorem content (m : Message) : m.Content := by
  cases hmeta : m.resultMeta with
  | error e => exact .malformed e hmeta
  | ok info =>
      obtain ⟨client, query, kind⟩ := info
      cases kind with
      | rows =>
          cases hbody : m.bodyText with
          | error e => exact .badRows client query e hmeta hbody
          | ok rows => exact .rows client query rows hmeta hbody
      | endOfStream => exact .ends client query hmeta

theorem bodyText_result (rows : String) :
    (result query client (.ofText rows)).bodyText = .ok rows := by
  rw [bodyText, result, body_set, body_set, body_raw, Bytes.text?_ofText]
  rfl

variable (hquery : query.text ≠ "") (hclient : client.text ≠ "")

include hquery hclient

theorem resultMeta_result (rows : Bytes) :
    (result query client rows).resultMeta = .ok ⟨client, query, .rows⟩ := by
  rw [resultMeta_eq_ok_iff]
  simp [result, hquery, hclient]

theorem resultMeta_resultEnd :
    (resultEnd query client).resultMeta = .ok ⟨client, query, .endOfStream⟩ := by
  rw [resultMeta_eq_ok_iff]
  simp [resultEnd, result, hquery, hclient]

end

end Message

end QueryGateway
