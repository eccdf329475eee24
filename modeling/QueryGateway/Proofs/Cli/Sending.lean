import QueryGateway.Proofs.Cli.Preparing
import QueryGateway.Proofs.Wire.RoundTrip

/-! # Sending a file

A file is delivered in numbered batches, each acknowledged before the next one is sent, and the end
of the stream is announced behind the last of them. A line that fits into no frame stops the command
before that.
-/

namespace QueryGateway.Cli

open Text

variable {config : Config} {options : ProduceOptions} {content : String} {client : ClientId}
  {w : World Host} {past log : List (Exchange Host)}

/-! ## Records of a file -/

theorem notBreak_of_mem_lines {line : String} (h : line ∈ lines content) :
    '\n' ∉ line.toList := by
  rw [lines] at h
  rcases List.mem_append.mp h with hmem | hmem
  · obtain ⟨piece, hpiece, rfl⟩ := List.mem_map.mp hmem
    obtain ⟨hbreak, -⟩ := notMem_of_mem_splitOn (List.dropLast_subset _ hpiece)
    cases hdrop : dropEnding? "\r" piece with
    | none => exact hbreak
    | some rest =>
        rw [eq_append_of_dropEnding? hdrop, String.toList_append, List.mem_append, not_or] at hbreak
        exact hbreak.1
  · have hlast := (Option.mem_filter_iff.mp (Option.mem_toList.mp hmem)).1
    exact (notMem_of_mem_splitOn (List.mem_of_mem_getLast? hlast)).1

/-- A line that is sent as a record. -/
structure IsLine (line : String) : Prop where
  oneLine : '\n' ∉ line.toList
  notBlank : isBlankText line = false

theorem isLine_of_mem_recordsOf {skipHeader : Bool} {line : String}
    (h : line ∈ recordsOf skipHeader content) : IsLine line := by
  obtain ⟨hmem, hblank⟩ := List.mem_filter.mp h
  exact ⟨notBreak_of_mem_lines (List.mem_of_mem_drop hmem), by simpa using hblank⟩

/-- A reader finds every line that was sent, without the carriage returns at its end. -/
theorem reads_encode {h : Header} (hw : h.IsWritable) {records : List String}
    (hlines : ∀ record ∈ records, IsLine record) :
    Batch.Reads (Batch.encode h records) h (records.map (trimEnd (· = '\r'))) := by
  have hkept : Batch.legible records = records.map (trimEnd (· = '\r')) := by
    rw [Batch.legible, List.filter_eq_self]
    intro record hmem
    obtain ⟨line, hline, rfl⟩ := List.mem_map.mp hmem
    rw [isBlankText_trimEnd, (hlines line hline).notBlank]
    rfl
  refine ⟨_, Batch.parse_encode hw records, rfl, ?_⟩
  rw [Batch.records_eq fun record hmem => (hlines record hmem).oneLine, hkept]

/-! ## What a listener sees -/

/-- A frame that was taken, and what was read after it. -/
structure Round where
  frame : String
  reply : String

namespace Round

def exchanges (r : Round) : List (Exchange Host) :=
  [⟨.wire (.write r.frame), .ok ()⟩, ⟨.wire .read, .ok r.reply⟩]

theorem sent_exchanges (rounds : List Round) :
    sent (rounds.flatMap exchanges) = rounds.map frame := by
  induction rounds with
  | nil => rfl
  | cons r rest ih => exact congrArg (r.frame :: ·) ih

/-- Records are delivered as a batch of this number. -/
structure Delivers (options : ProduceOptions) (client : ClientId) (r : Round)
    (records : List String) (number : Nat) : Prop where
  read : Batch.Reads r.frame
    ⟨options.queries, options.entity, client, .batch (UInt64.ofNat number)⟩ records
  size : 1 ≤ records.length ∧ records.length ≤ max options.batchSize 1
  fits : r.frame.utf8ByteSize ≤ 65535
  acknowledged : Ack.parse r.reply = .ok ⟨options.entity, .batch (UInt64.ofNat number)⟩

/-- The end of the stream is announced for all the queries. -/
structure Ends (options : ProduceOptions) (client : ClientId) (r : Round) : Prop where
  read : Batch.Reads r.frame ⟨options.queries, options.entity, client, .endOfStream⟩ []
  fits : r.frame.utf8ByteSize ≤ 65535
  acknowledged : Ack.parse r.reply = .ok ⟨options.entity, .endOfStream⟩

end Round

/-- Lines are delivered in batches that are numbered from zero. Carriage returns at the end of a
line do not belong to its record. -/
def Delivered (options : ProduceOptions) (client : ClientId) (lines : List String)
    (rounds : List Round) : Prop :=
  ∃ batches : List (List String), batches.flatten = lines.map (trimEnd (· = '\r')) ∧
    List.Forall₂ (fun r batch => r.Delivers options client batch.1 batch.2) rounds batches.zipIdx

/-- A frame that announces the end of a stream. -/
def EndsStream (frame : String) : Prop :=
  ∃ batch, Batch.parse frame = .ok batch ∧ batch.header.marker = .endOfStream

/-- A line fits into a frame behind the header that room is kept for. -/
def IsShort (options : ProduceOptions) (client : ClientId) (line : String) : Prop :=
  options.reserve client + line.utf8ByteSize < 65535

instance (options : ProduceOptions) (client : ClientId) : DecidablePred (IsShort options client) :=
  fun _ => inferInstanceAs (Decidable (_ < _))

section

variable {batches : List (List String)}
  (hqueries : Header.CanName options.entity options.queries)
  (hclient : Header.IsName client.text)

include hqueries hclient

theorem isWritable_header (marker : Marker) :
    Header.IsWritable ⟨options.queries, options.entity, client, marker⟩ :=
  Header.CanName.isWritable (h := ⟨options.queries, options.entity, client, marker⟩)
    hqueries hclient

/-- Batches that have been acknowledged are delivered. -/
theorem exists_rounds {n : Nat}
    (hbatches : ∀ batch ∈ batches,
      (Batcher.new options.batchSize (options.reserve client)).IsBatch batch ∧
        ∀ line ∈ batch, IsLine line)
    (h : Letter.Posted
      (lettersFor ⟨options.entity, client, UInt64.ofNat n⟩ options.queries batches) log (.ok ())) :
    ∃ rounds, log = rounds.flatMap Round.exchanges ∧
      List.Forall₂ (fun r batch => r.Delivers options client batch.1 batch.2) rounds
        ((batches.map (·.map (trimEnd (· = '\r')))).zipIdx n) := by
  induction batches generalizing n log with
  | nil =>
      cases h
      exact ⟨[], rfl, .nil⟩
  | cons batch rest ih =>
      obtain ⟨⟨hbatch, hlines⟩, hrest⟩ := List.forall_mem_cons.mp hbatches
      cases h with
      | @acknowledged _ _ later _ reply hack hlater =>
          have hnext : (UInt64.ofNat n + 1) = UInt64.ofNat (n + 1) := by
            simp
          rw [hnext] at hlater
          obtain ⟨rounds, rfl, hrounds⟩ := ih hrest hlater
          refine ⟨⟨_, reply⟩ :: rounds, rfl, .cons ⟨?_, ?_, ?_, hack⟩ hrounds⟩
          · exact reads_encode (isWritable_header hqueries hclient _) hlines
          · rw [List.length_map]
            exact ⟨List.length_pos_iff.mpr hbatch.some, hbatch.count⟩
          · exact hbatch.fits_encode (Producer.utf8ByteSize_header_le _ _ _)

end

/-! ## The run of a command -/

/-- The batches of a text, and why one of its lines is refused. -/
def ProduceOptions.plan (options : ProduceOptions) (content : String) (client : ClientId) :
    List (List String) × Option ClientError :=
  (Batcher.new options.batchSize (options.reserve client)).plan
    (recordsOf options.skipHeader content)

def ProduceOptions.letters (options : ProduceOptions) (content : String) (client : ClientId) :
    List Letter :=
  lettersFor (.new options.entity client) options.queries (options.plan content client).1

def ProduceOptions.ending (options : ProduceOptions) (client : ClientId) : Letter :=
  lastLetter (.new options.entity client) options.queries

theorem isBatch_of_mem_plan {batch : List String}
    (h : batch ∈ (options.plan content client).1) :
    (Batcher.new options.batchSize (options.reserve client)).IsBatch batch ∧
      ∀ line ∈ batch, IsLine line := by
  have hsound := Batcher.sound_new options.batchSize (options.reserve client)
  refine ⟨hsound.isBatch_of_mem_plan h, fun line hline => ?_⟩
  have hgiven := hsound.isPrefix_plan (recordsOf options.skipHeader content)
  exact isLine_of_mem_recordsOf (hgiven.subset (List.mem_flatten_of_mem h hline))

section

variable {result : Except Failure Unit} (hqueries : Header.CanName options.entity options.queries)

include hqueries

theorem transfer_eq (content : String) (client : ClientId) :
    transfer options content client =
      Letter.postAll (options.letters content client) >>= fun _ =>
        match (options.plan content client).2 with
        | some e => throw (.client e)
        | none => (options.ending client).post := by
  have hcheck : (Producer.new options.entity client).checkQueries options.queries = .ok () :=
    Producer.checkQueries_eq_ok hqueries.single
  exact sendRecords_eq hcheck _ _

/-- If no line is refused, then the last letter ends the stream. -/
theorem posted_of_fits (hplan : (options.plan content client).2 = none)
    (hrun : (transfer options content client).run.Run log result) :
    Letter.Posted (options.letters content client ++ [options.ending client]) log result := by
  rw [transfer_eq hqueries, hplan] at hrun
  apply Letter.posted_of_run
  rw [Letter.postAll_append, Letter.postAll_singleton]
  exact hrun

end

/-! ## What is delivered -/

theorem isShort_iff (hreserve : options.reserve client < 65535) (line : String) :
    IsShort options client line ↔
      Batcher.cost line ≤ (Batcher.new options.batchSize (options.reserve client)).maxBytes := by
  simp only [IsShort, Batcher.cost, Batcher.new, maxFrameLength]
  omega

theorem plan_of_short (hreserve : options.reserve client < 65535)
    (hshort : ∀ line ∈ recordsOf options.skipHeader content, IsShort options client line) :
    (options.plan content client).2 = none ∧
      (options.plan content client).1.flatten = recordsOf options.skipHeader content := by
  have hsound := Batcher.sound_new options.batchSize (options.reserve client)
  exact hsound.plan_of_fits fun line hline => (isShort_iff hreserve line).mp (hshort line hline)

theorem plan_of_large (hreserve : options.reserve client < 65535) {before after : List String}
    {line : String} (hlines : recordsOf options.skipHeader content = before ++ line :: after)
    (hshort : ∀ earlier ∈ before, IsShort options client earlier)
    (hlarge : ¬IsShort options client line) :
    (options.plan content client).2 =
        some (.recordTooLarge line.utf8ByteSize (65535 - options.reserve client - 1)) ∧
      (options.plan content client).1.flatten <+: before := by
  have hsound := Batcher.sound_new options.batchSize (options.reserve client)
  rw [isShort_iff hreserve, Nat.not_le] at hlarge
  rw [ProduceOptions.plan, hlines]
  exact hsound.plan_of_refused
    (fun earlier h => (isShort_iff hreserve earlier).mp (hshort earlier h)) hlarge after

/-- Either all lines are short, or there is a first one that is not. -/
theorem short_or_large (hreserve : options.reserve client < 65535) (lines : List String) :
    (∀ line ∈ lines, IsShort options client line) ∨
      ∃ before line after, lines = before ++ line :: after ∧
        (∀ earlier ∈ before, IsShort options client earlier) ∧ ¬IsShort options client line := by
  simp only [isShort_iff hreserve, Nat.not_le]
  exact Batcher.fits_or_large _ lines

section

variable {result : Except Failure Unit} (hqueries : Header.CanName options.entity options.queries)
  (hclient : Header.IsName client.text)

include hqueries hclient

theorem delivered_of_posted
    (h : Letter.Posted (options.letters content client) log (.ok ())) :
    ∃ rounds, log = rounds.flatMap Round.exchanges ∧
      Delivered options client (options.plan content client).1.flatten rounds := by
  obtain ⟨rounds, hlog, hrounds⟩ := exists_rounds (n := 0) hqueries hclient
    (fun batch hbatch => isBatch_of_mem_plan hbatch) h
  exact ⟨rounds, hlog, _, by rw [List.map_flatten], hrounds⟩

theorem not_endsStream_of_posted {frame : String}
    (h : Letter.Posted (options.letters content client) log result) (hframe : frame ∈ sent log) :
    ¬EndsStream frame := by
  rintro ⟨batch, hparse, hmarker⟩
  obtain ⟨l, hl, rfl⟩ := List.mem_map.mp (h.isPrefix_sent.subset hframe)
  obtain ⟨id, records, -, rfl⟩ := exists_of_mem_lettersFor hl
  have hread := Batch.parse_encode (isWritable_header hqueries hclient (.batch id)) records
  rw [Letter.frame, Producer.header, Producer.new, hread] at hparse
  cases hparse
  cases hmarker

theorem isProper_of_mem_letters {l : Letter} (h : l ∈ options.letters content client) :
    l.IsProper := by
  obtain ⟨id, batch, hbatch, rfl⟩ := exists_of_mem_lettersFor h
  exact ⟨isWritable_header hqueries hclient _,
    (isBatch_of_mem_plan hbatch).1.fits_encode (Producer.utf8ByteSize_header_le _ _ _)⟩

theorem isProper_ending (hreserve : options.reserve client < 65535) :
    (options.ending client).IsProper := by
  refine ⟨isWritable_header hqueries hclient _, ?_⟩
  have hheader := Producer.utf8ByteSize_header_le (.new options.entity client) options.queries
    .endOfStream
  rw [Fits, Letter.frame, Batch.utf8ByteSize_encode]
  exact Nat.le_of_lt (Nat.lt_of_le_of_lt hheader hreserve)

theorem ends_of_posted (hreserve : options.reserve client < 65535)
    (h : Letter.Posted [options.ending client] log result) :
    ∃ (answer : Except WireError Unit) (later : List (Exchange Host)),
      log = ⟨.wire (.write (options.ending client).frame), answer⟩ :: later ∧ sent later = [] ∧
      (result = .ok () → ∃ last : Round, last.Ends options client ∧ log = last.exchanges) := by
  have hread : Batch.Reads (options.ending client).frame
      ⟨options.queries, options.entity, client, .endOfStream⟩ [] :=
    reads_encode (isWritable_header hqueries hclient _) fun _ hmem => absurd hmem List.not_mem_nil
  have hfits := (isProper_ending hqueries hclient hreserve).fits
  cases h with
  | acknowledged reply hack hdone =>
      cases hdone
      exact ⟨_, _, rfl, rfl, fun _ => ⟨⟨_, reply⟩, ⟨hread, hfits, hack⟩, rfl⟩⟩
  | failed answer e hsilent => exact ⟨answer, _, rfl, hsilent, fun h => by cases h⟩

/-- A line that is too long ends the command before the end of the stream is announced. -/
theorem run_transfer_of_large (hreserve : options.reserve client < 65535)
    {before after : List String} {line : String}
    (hlines : recordsOf options.skipHeader content = before ++ line :: after)
    (hshort : ∀ earlier ∈ before, IsShort options client earlier)
    (hlarge : ¬IsShort options client line)
    (hrun : (transfer options content client).run.Run log result) :
    (∃ e, result = .error e) ∧ ∀ frame ∈ sent log, ¬EndsStream frame := by
  obtain ⟨hrefused, -⟩ := plan_of_large hreserve hlines hshort hlarge
  rw [transfer_eq hqueries, hrefused] at hrun
  obtain ⟨outcome, hposted, e, rfl⟩ : ∃ outcome,
      Letter.Posted (options.letters content client) log outcome ∧ ∃ e, result = .error e := by
    rcases Program.Run.except_bind_iff.mp hrun with
      ⟨e, hfirst, rfl⟩ | ⟨_, first, second, rfl, hfirst, hrest⟩
    · exact ⟨_, Letter.posted_of_run hfirst, e, rfl⟩
    · obtain ⟨rfl, rfl⟩ := Program.Run.done_iff.mp hrest
      rw [List.append_nil]
      exact ⟨_, Letter.posted_of_run hfirst, _, rfl⟩
  exact ⟨⟨e, rfl⟩, fun frame => not_endsStream_of_posted hqueries hclient hposted⟩

/-- Either everything is delivered, and then the end of the stream is announced, or the command
fails before it announces that. -/
theorem run_transfer (hreserve : options.reserve client < 65535)
    (hrun : (transfer options content client).run.Run log result) :
    (∃ rounds last, log = rounds.flatMap Round.exchanges ++ last ∧
        Delivered options client (recordsOf options.skipHeader content) rounds ∧
        (∀ frame ∈ sent (rounds.flatMap Round.exchanges), ¬EndsStream frame) ∧
        Letter.Posted [options.ending client] last result) ∨
      (∃ e, result = .error e) ∧ ∀ frame ∈ sent log, ¬EndsStream frame := by
  rcases short_or_large hreserve (recordsOf options.skipHeader content) with
    hshort | ⟨before, line, after, hlines, hshort, hlarge⟩
  · obtain ⟨hnone, hall⟩ := plan_of_short hreserve hshort
    rcases (posted_of_fits hqueries hnone hrun).append with
      ⟨first, last, rfl, hfirst, hlast⟩ | ⟨e, rfl, hfailed⟩
    · obtain ⟨rounds, rfl, hdelivered⟩ := delivered_of_posted hqueries hclient hfirst
      rw [hall] at hdelivered
      exact .inl ⟨rounds, last, rfl, hdelivered,
        fun frame => not_endsStream_of_posted hqueries hclient hfirst, hlast⟩
    · exact .inr ⟨⟨_, rfl⟩, fun frame => not_endsStream_of_posted hqueries hclient hfailed⟩
  · exact .inr (run_transfer_of_large hqueries hclient hreserve hlines hshort hlarge hrun)

/-- The end of the stream is announced behind every line, and nothing is sent after it. -/
theorem delivered_of_ends (hreserve : options.reserve client < 65535)
    (hrun : (transfer options content client).run.Run log result) {frame : String}
    (hframe : frame ∈ sent log) (hends : EndsStream frame) :
    ∃ rounds answer later,
      log = rounds.flatMap Round.exchanges ++ ⟨.wire (.write frame), answer⟩ :: later ∧
        sent later = [] ∧
        Delivered options client (recordsOf options.skipHeader content) rounds := by
  rcases run_transfer hqueries hclient hreserve hrun with
    ⟨rounds, last, rfl, hdelivered, hbefore, hlast⟩ | ⟨-, hnone⟩
  · obtain ⟨answer, later, rfl, hlater, -⟩ := ends_of_posted hqueries hclient hreserve hlast
    have hlast : frame = (options.ending client).frame := by
      rw [sent_append, sent_cons_write, hlater, List.mem_append, List.mem_singleton] at hframe
      exact hframe.resolve_left fun hmem => hbefore frame hmem hends
    rw [hlast]
    exact ⟨rounds, answer, later, rfl, hlater, hdelivered⟩
  · exact absurd hends (hnone frame hframe)

theorem delivered_of_ok (hreserve : options.reserve client < 65535)
    (hrun : (transfer options content client).run.Run log (.ok ())) :
    ∃ rounds last, log = (rounds ++ [last]).flatMap Round.exchanges ∧
      Delivered options client (recordsOf options.skipHeader content) rounds ∧
      last.Ends options client := by
  rcases run_transfer hqueries hclient hreserve hrun with
    ⟨rounds, last, rfl, hdelivered, -, hlast⟩ | ⟨⟨e, herror⟩, -⟩
  · obtain ⟨-, -, -, -, hround⟩ := ends_of_posted hqueries hclient hreserve hlast
    obtain ⟨round, hends, rfl⟩ := hround rfl
    refine ⟨rounds, round, ?_, hdelivered, hends⟩
    rw [List.flatMap_append, List.flatMap_singleton]
  · cases herror

theorem fst_play_letters (hw : Attentive w (options.target config)) (content : String)
    (past : List (Exchange Host)) :
    (w.play past (Letter.postAll (options.letters content client)).run).1 = .ok () :=
  Letter.fst_play_postAll (fun _ hl => isProper_of_mem_letters hqueries hclient hl) hw past

/-- An attentive listener acknowledges every line, and then the end of the stream. -/
theorem fst_play_transfer_of_short (hreserve : options.reserve client < 65535)
    (hw : Attentive w (options.target config))
    (hshort : ∀ line ∈ recordsOf options.skipHeader content, IsShort options client line) :
    (w.play past (transfer options content client).run).1 = .ok () := by
  have hresult := fst_play_letters hqueries hclient hw content past
  rw [transfer_eq hqueries, (plan_of_short hreserve hshort).1,
    Command.fst_play_bind (Prod.ext hresult rfl)]
  exact (isProper_ending hqueries hclient hreserve).fst_play_post hw _

/-- An attentive listener acknowledges what was sent before the line that is too long. -/
theorem play_transfer_of_large (hreserve : options.reserve client < 65535)
    (hw : Attentive w (options.target config)) {before after : List String} {line : String}
    (hlines : recordsOf options.skipHeader content = before ++ line :: after)
    (hshort : ∀ earlier ∈ before, IsShort options client earlier)
    (hlarge : ¬IsShort options client line) (past : List (Exchange Host)) :
    (w.play past (transfer options content client).run).1 = .error (.client
        (.recordTooLarge line.utf8ByteSize (65535 - options.reserve client - 1))) ∧
      ∃ rounds delivered, delivered <+: before ∧ Delivered options client delivered rounds ∧
        (w.play past (transfer options content client).run).2 =
          rounds.flatMap Round.exchanges := by
  obtain ⟨hrefused, hgiven⟩ := plan_of_large hreserve hlines hshort hlarge
  have hresult := fst_play_letters hqueries hclient hw content past
  have hposted := Letter.posted_of_run
    (w.run_play past (Letter.postAll (options.letters content client)).run)
  rw [hresult] at hposted
  obtain ⟨rounds, hlog, hdelivered⟩ := delivered_of_posted hqueries hclient hposted
  rw [transfer_eq hqueries, hrefused, Command.play_bind_of_ok (Prod.ext hresult hlog)]
  exact ⟨rfl, rounds, _, hgiven, hdelivered, List.append_nil _⟩

end

/-- What is known of a command when it is over, whatever the listener has answered. -/
structure Transmission (w : World Host) (config : Config) (options : ProduceOptions)
    (content : String) (client : ClientId) (result : Except Failure Unit)
    (log : List (Exchange Host)) : Prop where
  /-- No frame is written before there is a connection to the listener. -/
  connects : sent log ≠ [] → ∃ setup rest, log = setup ++ rest ∧ Reaches config options setup
  /-- The end of the stream is announced behind every line of the file, and nothing is sent after
  it. -/
  ends : ∀ frame ∈ sent log, EndsStream frame → ∃ setup rounds answer later,
    log = setup ++ rounds.flatMap Round.exchanges ++ ⟨.wire (.write frame), answer⟩ :: later ∧
      Reaches config options setup ∧ sent later = [] ∧
      Delivered options client (recordsOf options.skipHeader content) rounds
  complete : result = .ok () → ∃ setup rounds last,
    log = setup ++ (rounds ++ [last]).flatMap Round.exchanges ∧ Reaches config options setup ∧
      Delivered options client (recordsOf options.skipHeader content) rounds ∧
      last.Ends options client
  succeeds : Attentive w (options.target config) →
    (∀ line ∈ recordsOf options.skipHeader content, IsShort options client line) → result = .ok ()
  /-- The first line that is too long ends the command. -/
  refuses : ∀ before line after,
    recordsOf options.skipHeader content = before ++ line :: after →
    (∀ earlier ∈ before, IsShort options client earlier) → ¬IsShort options client line →
    (∀ frame ∈ sent log, ¬EndsStream frame) ∧
      (Attentive w (options.target config) →
        result = .error (.client
          (.recordTooLarge line.utf8ByteSize (65535 - options.reserve client - 1))) ∧
        ∃ setup rounds delivered, log = setup ++ rounds.flatMap Round.exchanges ∧
          Reaches config options setup ∧ delivered <+: before ∧
          Delivered options client delivered rounds)

/-- A file is sent in order and without loss, and the end of its stream is announced if and only if
all of it was. -/
theorem produce_outcome (hqueries : Header.CanName options.entity options.queries)
    (hclient : Header.IsName client.text) (hreserve : options.reserve client < 65535)
    (hfinds : Finds w past config options content client) :
    Transmission w config options content client (w.play past (produce config options).run).1
      (w.play past (produce config options).run).2 := by
  refine ⟨?_, ?_, ?_, ?_, ?_⟩
  · intro hsome
    rcases hfinds.play_produce hqueries with ⟨hnone, -⟩ | ⟨setup, rest, hlog, hreaches, -⟩
    · exact absurd hnone hsome
    · exact ⟨setup, rest, hlog, hreaches⟩
  · intro frame hframe hends
    rcases hfinds.play_produce hqueries with ⟨hnone, -⟩ | ⟨setup, rest, hlog, hreaches, hrun⟩
    · rw [hnone] at hframe
      cases hframe
    rw [hlog, sent_append, hreaches.silent, List.nil_append] at hframe
    obtain ⟨rounds, answer, later, rfl, hlater, hdelivered⟩ :=
      delivered_of_ends hqueries hclient hreserve hrun hframe hends
    rw [hlog, ← List.append_assoc]
    exact ⟨setup, rounds, answer, later, rfl, hreaches, hlater, hdelivered⟩
  · intro hok
    rcases hfinds.play_produce hqueries with ⟨-, e, herror⟩ | ⟨setup, rest, hlog, hreaches, hrun⟩
    · rw [hok] at herror
      cases herror
    rw [hok] at hrun
    obtain ⟨rounds, last, rfl, hdelivered, hends⟩ := delivered_of_ok hqueries hclient hreserve hrun
    exact ⟨setup, rounds, last, hlog, hreaches, hdelivered, hends⟩
  · intro hw hshort
    obtain ⟨_, past', -, hplay⟩ := hfinds.play_produce_of_attentive hqueries hw
    rw [hplay]
    exact fst_play_transfer_of_short hqueries hclient hreserve hw hshort
  · intro before line after hlines hshort hlarge
    constructor
    · intro frame hframe
      rcases hfinds.play_produce hqueries with ⟨hnone, -⟩ | ⟨setup, rest, hlog, hreaches, hrun⟩
      · rw [hnone] at hframe
        cases hframe
      rw [hlog, sent_append, hreaches.silent, List.nil_append] at hframe
      exact (run_transfer_of_large hqueries hclient hreserve hlines hshort hlarge hrun).2 frame
        hframe
    · intro hw
      obtain ⟨setup, past', hreaches, hplay⟩ := hfinds.play_produce_of_attentive hqueries hw
      obtain ⟨hresult, rounds, delivered, hgiven, hdelivered, htalk⟩ :=
        play_transfer_of_large hqueries hclient hreserve hw hlines hshort hlarge past'
      rw [hplay, htalk]
      exact ⟨hresult, setup, rounds, delivered, rfl, hreaches, hgiven, hdelivered⟩

/-- A machine with one file, and a listener that gives out a name and acknowledges every frame. -/
def obliging (content name : String) : World Host
  | _, .content _ => .ok (.ofText content)
  | past, .wire .read =>
    let batch? :=
      (past.getLast?.bind Exchange.frame?).bind fun frame => (Batch.parse frame).toOption
    .ok (batch?.elim name fun batch => (Ack.ofHeader batch.header).text)
  | _, .wire (.write _) => .ok ()
  | _, .wire (.readWithin _) => none
  | _, .wire .shutdown => ()
  | _, .connect _ => .ok ()
  | _, .bind _ _ => .ok ()
  | _, .store _ _ => .ok ()
  | _, .createDirectory _ => .ok ()
  | _, .environment _ => none
  | _, .present _ => true
  | _, .print _ => ()
  | _, .openLog _ => ()
  | _, .log _ _ _ => ()
  | _, .serve site => site.broker

theorem attentive_obliging (content name address : String) :
    Attentive (obliging content name) address := by
  refine ⟨fun _ => rfl, fun _ _ _ => rfl, fun past frame batch hparse => ?_⟩
  refine ⟨_, ?_, Ack.parse_text _⟩
  simp only [obliging, List.getLast?_append, List.getLast?_singleton, Option.some_or,
    Option.bind_some, Exchange.frame?, hparse, Except.toOption]
  rfl

/-- Two records are sent alone, under a name that was asked for. The heading and the blank line are
no records. -/
theorem produce_outcome_of_two_batches :
    let options : ProduceOptions :=
      ⟨.movies, "movies.csv", [⟨"q1"⟩, ⟨"q2"⟩], none, none, 0, true⟩
    let w := obliging "id|title\n1|a\r\n \n2|b" " c7\n"
    (w.play [] (produce .default options).run).1 = .ok () ∧
      ∃ rounds last, Delivered options ⟨"c7"⟩ ["1|a", "2|b"] rounds ∧ last.Ends options ⟨"c7"⟩ ∧
        sent (w.play [] (produce .default options).run).2 =
          (rounds ++ [last]).map Round.frame := by
  intro options w
  have hqueries : Header.CanName options.entity options.queries :=
    ⟨by decide, by decide, by decide, by decide, by decide⟩
  have hclient : Header.IsName "c7" := by decide
  have hreserve : options.reserve ⟨"c7"⟩ < 65535 := by decide
  have hname : (w.play ([] ++ [⟨.content "movies.csv", .ok (Bytes.ofText "id|title\n1|a\r\n \n2|b")⟩])
      (clientOf .default options).run).1 = .ok ⟨"c7"⟩ := by
    decide +kernel
  have hlines : recordsOf true "id|title\n1|a\r\n \n2|b" = ["1|a", "2|b"] := by
    decide
  have hshort : ∀ line ∈ recordsOf true "id|title\n1|a\r\n \n2|b", IsShort options ⟨"c7"⟩ line := by
    rw [hlines]
    decide
  have hlaw := produce_outcome hqueries hclient hreserve ⟨fun _ => rfl, hname⟩
  have hok := hlaw.succeeds (attentive_obliging _ _ _) hshort
  obtain ⟨setup, rounds, last, hlog, hreaches, hdelivered, hends⟩ := hlaw.complete hok
  rw [show recordsOf options.skipHeader _ = _ from hlines] at hdelivered
  refine ⟨hok, rounds, last, hdelivered, hends, ?_⟩
  rw [hlog, sent_append, hreaches.silent, Round.sent_exchanges]
  rfl

end QueryGateway.Cli
