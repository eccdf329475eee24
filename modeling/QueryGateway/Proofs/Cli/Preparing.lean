import QueryGateway.Proofs.Cli.Letters

/-! # Before a file is sent

A command reads its file, finds the name to send under and connects to the listener before it writes
anything there.
-/

namespace QueryGateway.Cli

variable {config : Config} {options : ProduceOptions} {content : String} {client : ClientId}
  {w : World Host} {past : List (Exchange Host)}

/-- The listener to connect to. -/
def ProduceOptions.target (config : Config) (options : ProduceOptions) : String :=
  options.address.getD (dialAddress (config.input.address options.entity))

/-- The bytes of a frame that are kept free for its header. -/
def ProduceOptions.reserve (options : ProduceOptions) (client : ClientId) : Nat :=
  (Producer.new options.entity client).headerReserve options.queries

/-- Reads the file, finds the name to send under, and opens the connection. -/
def prepare (config : Config) (options : ProduceOptions) : Command (String × ClientId) := do
  if options.queries = [] then
    throw .noQueries
  if !options.entity.isPrimary && 1 < options.queries.length then
    throw (.tooManyQueries options.entity options.queries.length)
  let content ← .attempt (Host.text options.file) (.readFile options.file)
  let client ← clientOf config options
  .host (Host.print client.text)
  .attempt (connectTo (options.target config)) (.connect (options.target config))
  return (content, client)

/-- Sends the records of a text under a name. -/
def transfer (options : ProduceOptions) (content : String) (client : ClientId) : Command Unit :=
  sendRecords (.new options.entity client) (.new options.batchSize (options.reserve client))
      options.queries (recordsOf options.skipHeader content) >>=
    sendRest options.queries

theorem produce_eq (config : Config) (options : ProduceOptions) :
    produce config options = prepare config options >>= fun (content, client) =>
      transfer options content client := by
  rw [produce, prepare]
  split
  · rfl
  split
  · rfl
  · simp only [bind_assoc, pure_bind]
    rfl

/-! ## Nothing is written yet -/

theorem isSilent_text (path : String) : IsSilent (Host.text path) := by
  apply isSilent_perform fun _ => rfl
  intro answer
  cases answer <;> exact isSilent_done _

theorem isSilent_connectTo (address : String) : IsSilent (connectTo address) := by
  apply isSilent_perform fun _ => rfl
  intro answer
  cases answer <;> exact isSilent_done _

theorem isSilent_requestClientId (address : String) : IsSilent (requestClientId address) := by
  apply (isSilent_connectTo address).bind
  intro result
  cases result with
  | error e => exact isSilent_done _
  | ok _ =>
      apply isSilent_perform fun _ => rfl
      intro answer
      cases answer <;> exact isSilent_done _

theorem isSilent_clientOf (config : Config) (options : ProduceOptions) :
    IsSilent (clientOf config options).run := by
  rw [clientOf]
  split
  · exact isSilent_done _
  · exact isSilent_done _
  · exact (isSilent_requestClientId _).attempt _

theorem isSilent_prepare (config : Config) (options : ProduceOptions) :
    IsSilent (prepare config options).run := by
  rw [prepare]
  split
  · exact isSilent_done _
  split
  · exact isSilent_done _
  · apply ((isSilent_text options.file).attempt _).run_bind
    intro content
    apply (isSilent_clientOf config options).run_bind
    intro client
    apply (IsSilent.host (isSilent_perform (fun _ => rfl) fun _ => isSilent_done _)).run_bind
    intro _
    apply ((isSilent_connectTo _).attempt _).run_bind
    intro _
    exact isSilent_done _

/-- The exchanges before the first frame, of which the last one has opened a connection to the
listener. -/
structure Reaches (config : Config) (options : ProduceOptions) (setup : List (Exchange Host)) :
    Prop where
  silent : sent setup = []
  connected : setup.getLast? = some ⟨.connect (options.target config), .ok ()⟩

theorem run_connectTo_of_ok {address : String} {log : List (Exchange Host)}
    (h : (connectTo address).Run log (.ok ())) : log = [⟨.connect address, .ok ()⟩] := by
  obtain ⟨answer, rest, rfl, hrest⟩ := Program.Run.perform_iff.mp h
  cases answer with
  | error fault => cases (Program.Run.done_iff.mp hrest).2
  | ok _ =>
      obtain ⟨rfl, -⟩ := Program.Run.done_iff.mp hrest
      rfl

/-- A command that is ready to send has just connected to the listener. -/
theorem reaches_of_prepare {log : List (Exchange Host)} {found : String × ClientId}
    (h : (prepare config options).run.Run log (.ok found)) : Reaches config options log := by
  refine ⟨isSilent_prepare config options _ _ h, ?_⟩
  rw [prepare] at h
  split at h
  · cases h
  split at h
  · cases h
  obtain ⟨_, _, _, rfl, -, h⟩ := Program.Run.of_except_bind_ok h
  obtain ⟨_, _, _, rfl, -, h⟩ := Program.Run.of_except_bind_ok h
  obtain ⟨_, _, _, rfl, -, h⟩ := Program.Run.of_except_bind_ok h
  obtain ⟨_, _, _, rfl, hconnect, h⟩ := Program.Run.of_except_bind_ok h
  obtain ⟨rfl, -⟩ := Program.Run.done_iff.mp h
  obtain ⟨result, hrun, hresult⟩ := Command.run_attempt_iff.mp hconnect
  cases result with
  | error e => cases hresult
  | ok _ => simp [run_connectTo_of_ok hrun]

/-! ## What is found -/

/-- What a command finds on the machine: the file and a name. -/
structure Finds (w : World Host) (past : List (Exchange Host)) (config : Config)
    (options : ProduceOptions) (content : String) (client : ClientId) : Prop where
  file : ∀ past, w past (.content options.file) = .ok (Bytes.ofText content)
  name : (w.play (past ++ [⟨.content options.file, .ok (Bytes.ofText content)⟩])
    (clientOf config options).run).1 = .ok client

namespace Finds

theorem play_text (h : Finds w past config options content client) :
    w.play past (Command.attempt (Host.text options.file) (.readFile options.file)).run =
      (.ok content, [⟨.content options.file, .ok (Bytes.ofText content)⟩]) := by
  have htext : w.play past (Host.text options.file) =
      (.ok content, [⟨.content options.file, .ok (Bytes.ofText content)⟩]) := by
    simp only [Host.text, World.play, h.file, Bytes.text?_ofText]
    rfl
  rw [Command.play_attempt, htext]
  rfl

/-- The file and the name are found, so the command is ready to send if the listener can be
reached. -/
theorem play_prepare (h : Finds w past config options content client)
    (hqueries : Header.CanName options.entity options.queries) :
    ∃ past', (w.play past (prepare config options).run).1 =
      ((w.play past' (connectTo (options.target config))).1.mapError
        (.connect (options.target config))).map fun _ => (content, client) := by
  have hguard : (!options.entity.isPrimary && decide (1 < options.queries.length)) = false := by
    cases hprimary : options.entity.isPrimary with
    | true => rfl
    | false => simp [hqueries.single hprimary]
  have hname : w.play (past ++ [⟨.content options.file, .ok (Bytes.ofText content)⟩])
      (clientOf config options).run = (.ok client, _) := Prod.ext h.name rfl
  have hprint : ∀ past', w.play past' (Command.host (Host.print client.text)).run =
      (.ok (), [⟨.print client.text, ()⟩]) := fun _ => rfl
  rw [prepare, if_neg hqueries.some, hguard, if_neg Bool.false_ne_true,
    Command.fst_play_bind h.play_text, Command.fst_play_bind hname, Command.fst_play_bind (hprint _)]
  exact ⟨_, Command.fst_play_attempt_bind _ _ _⟩

end Finds

/-! ## From then on -/

/-- A command that is ready goes on with the records. -/
theorem play_produce_of_ready
    (hready : (w.play past (prepare config options).run).1 = .ok (content, client)) :
    ∃ setup past', Reaches config options setup ∧ w.play past (produce config options).run =
      ((w.play past' (transfer options content client).run).1,
        setup ++ (w.play past' (transfer options content client).run).2) := by
  have hreaches := reaches_of_prepare (hready ▸ w.run_play past _)
  rw [produce_eq, Command.play_bind_of_ok (Prod.ext hready rfl)]
  exact ⟨_, _, hreaches, rfl⟩

namespace Finds

/-- A command that finds the file and a name fails before it writes anything, or it goes on with the
records. -/
theorem play_produce (h : Finds w past config options content client)
    (hqueries : Header.CanName options.entity options.queries) :
    (sent (w.play past (produce config options).run).2 = [] ∧
        ∃ e, (w.play past (produce config options).run).1 = .error e) ∨
      ∃ setup rest, (w.play past (produce config options).run).2 = setup ++ rest ∧
        Reaches config options setup ∧
        (transfer options content client).run.Run rest
          (w.play past (produce config options).run).1 := by
  obtain ⟨past', hresult⟩ := h.play_prepare hqueries
  cases hconnect : (w.play past' (connectTo (options.target config))).1 with
  | error e =>
      have hsilent := isSilent_prepare config options _ _ (w.run_play past _)
      rw [hconnect] at hresult
      rw [produce_eq, Command.play_bind_of_error (Prod.ext hresult rfl)]
      exact .inl ⟨hsilent, _, rfl⟩
  | ok _ =>
      rw [hconnect] at hresult
      obtain ⟨setup, past'', hreaches, hplay⟩ := play_produce_of_ready hresult
      rw [hplay]
      exact .inr ⟨setup, _, rfl, hreaches, w.run_play past'' _⟩

theorem play_produce_of_attentive (h : Finds w past config options content client)
    (hqueries : Header.CanName options.entity options.queries)
    (hw : Attentive w (options.target config)) :
    ∃ setup past', Reaches config options setup ∧ w.play past (produce config options).run =
      ((w.play past' (transfer options content client).run).1,
        setup ++ (w.play past' (transfer options content client).run).2) := by
  obtain ⟨past', hresult⟩ := h.play_prepare hqueries
  have hconnect : (w.play past' (connectTo (options.target config))).1 = .ok () :=
    fst_play_perform (hw.reached past')
  rw [hconnect] at hresult
  exact play_produce_of_ready hresult

end Finds

end QueryGateway.Cli
