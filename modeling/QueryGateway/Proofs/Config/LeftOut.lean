import QueryGateway.Config.Check
import QueryGateway.Config.Encode
import QueryGateway.Proofs.Program.Success

/-! # Settings that are left out

A settings file sets some names of a table, and every name of the table that it leaves out keeps
its default. The defaults of the side that takes records in name an address for the listener that
hands out client names, so leaving that address out does not turn the listener off.
-/

namespace QueryGateway.Config

open Toml (Value Entries lookup)

/-! ## One setting -/

/-- A reader takes nothing for a value but what the value is written as. -/
def Reads {α : Type} (decode : Decoder α) (encode : α → Value) : Prop :=
  ∀ value a, decode value = .ok a → value = encode a

theorem reads_text : Reads text .string := by
  intro value s h
  cases value with
  | string text =>
      cases h
      rfl
  | _ => cases h

/-- A number that is read is written the same way, and is within its bound. -/
theorem eq_count_of_number {bound n : Nat} {value : Value} (h : number bound value = .ok n) :
    value = count n ∧ n ≤ bound := by
  cases value with
  | integer number =>
      cases number with
      | ofNat m =>
          rw [number] at h
          split at h
          · next hle =>
              cases h
              exact ⟨rfl, hle⟩
          · cases h
      | negSucc m => cases h
  | _ => cases h

theorem reads_number (bound : Nat) : Reads (number bound) count :=
  fun _ _ h => (eq_count_of_number h).1

section

variable {α : Type} {decode : Decoder α} {encode : α → Value} {table : Entries} {place : Nat}
  {name : String} {default a : α}

/-- A setting of a table is what the table sets it to, or else its default. -/
theorem getD_eq_of_get (hreads : Reads decode encode)
    (h : (Group.named table).get place name decode default = .ok a) :
    (lookup name table).getD (encode default) = encode a := by
  rw [Group.get, Group.value?] at h
  cases hlookup : lookup name table with
  | none =>
      rw [hlookup] at h
      cases h
      rfl
  | some value =>
      rw [hlookup] at h
      exact hreads value a h

/-- A number is within its bound if its default is. -/
theorem le_of_get {g : Group} {bound first n : Nat} (hfirst : first ≤ bound)
    (h : g.get place name (number bound) first = .ok n) : n ≤ bound := by
  rw [Group.get] at h
  cases hvalue : g.value? place name with
  | none =>
      rw [hvalue] at h
      cases h
      exact hfirst
  | some value =>
      rw [hvalue] at h
      exact (eq_count_of_number h).2

/-- A setting that need not be there is there when its default is. -/
theorem exists_of_get_some {g : Group} {found : Option α}
    (h : g.get place name (fun value => some <$> decode value) (some default) = .ok found) :
    ∃ a, found = some a ∧ g.get place name decode default = .ok a := by
  rw [Group.get] at h ⊢
  cases hvalue : g.value? place name with
  | none =>
      rw [hvalue] at h
      cases h
      exact ⟨default, rfl, rfl⟩
  | some value =>
      rw [hvalue] at h
      obtain ⟨a, hdecode, rfl⟩ := Success.map_eq_ok.mp h
      exact ⟨a, rfl, hdecode⟩

end

/-! ## The side that takes records in -/

/-- The settings that a group is read as. -/
structure Input.Follows (g : Group) (input : Input) : Prop where
  movies : g.get 0 "movies_address" text ({} : Input).moviesAddress = .ok input.moviesAddress
  credits : g.get 1 "credits_address" text ({} : Input).creditsAddress = .ok input.creditsAddress
  ratings : g.get 2 "ratings_address" text ({} : Input).ratingsAddress = .ok input.ratingsAddress
  connections : ∃ address, input.connectionsAddress = some address ∧
    g.get 3 "connections_address" text "0.0.0.0:12344" = .ok address
  readTimeout : g.get 4 "read_timeout_secs" (number Text.maxWord64) ({} : Input).readTimeout =
    .ok input.readTimeout
  retries : g.get 5 "fan_out_retries" (number Text.maxWord32) ({} : Input).fanOutRetries.toNat =
    .ok input.fanOutRetries.toNat

theorem follows_of_decode {value : Value} {input : Input} (h : Input.decode value = .ok input) :
    ∃ g, group value = .ok g ∧ Input.Follows g input := by
  simp only [Input.decode, Success.bind_eq_ok, Success.pure_eq_ok] at h
  obtain ⟨g, hgroup, movies, hmovies, credits, hcredits, ratings, hratings, connections,
    hconnections, readTimeout, hreadTimeout, retries, hretries, rfl⟩ := h
  refine ⟨g, hgroup, hmovies, hcredits, hratings, exists_of_get_some hconnections, hreadTimeout, ?_⟩
  have hle : retries ≤ Text.maxWord32 := le_of_get (by decide) hretries
  have hsame : (UInt32.ofNat retries).toNat = retries :=
    UInt32.toNat_ofNat_of_lt' (Nat.lt_of_le_of_lt hle (by decide))
  rw [hretries, hsame]

/-- The settings of a table are the defaults, with those replaced that the table sets. -/
theorem Input.Follows.entries_eq {table : Entries} {input : Input}
    (h : input.Follows (.named table)) :
    input.entries = ({} : Input).entries.map fun setting =>
      (setting.1, (lookup setting.1 table).getD setting.2) := by
  obtain ⟨address, haddress, hconnections⟩ := h.connections
  have hretries := getD_eq_of_get (reads_number _) h.retries
  rw [entries, haddress]
  simp [entries, optional, getD_eq_of_get reads_text h.movies, getD_eq_of_get reads_text h.credits,
    getD_eq_of_get reads_text h.ratings, getD_eq_of_get reads_text hconnections,
    getD_eq_of_get (reads_number _) h.readTimeout]
  exact hretries.symm

/-! ## A settings file -/

variable {path content : String} {entries table : Entries} {c : Config}

/-- The table `input` of a settings file, if the file has one. -/
def inputTable? (content : String) : Option Entries :=
  match (Toml.read content).toOption.bind (lookup "input") with
  | some (.table table) => some table
  | _ => none

theorem inputTable?_eq_some_iff (hread : Toml.read content = .ok entries) :
    inputTable? content = some table ↔ lookup "input" entries = some (.table table) := by
  rw [inputTable?, hread]
  change (match lookup "input" entries with
    | some (.table table) => some table
    | _ => none) = some table ↔ _
  split
  · next found hlookup =>
      rw [hlookup]
      simp
  · next hlookup =>
      constructor
      · intro h
        cases h
      · intro h
        exact absurd h (hlookup table)

/-- Settings that can be used were read from the values of the file, and passed the check. -/
theorem exists_decode_of_ofContent (h : ofContent path (.ok content) = .ok c) :
    ∃ entries, Toml.read content = .ok entries ∧ decode entries = .ok c ∧ c.check = .ok () := by
  rw [ofContent] at h
  cases hparse : parse content with
  | error e =>
      rw [hparse] at h
      cases h
  | ok config =>
      rw [hparse] at h
      simp only [Success.bind_eq_ok, Success.pure_eq_ok] at h
      obtain ⟨⟨⟩, hcheck, rfl⟩ := h
      obtain ⟨entries, hread, hdecode⟩ := Success.bind_eq_ok.mp hparse
      exact ⟨entries, hread, hdecode, hcheck⟩

theorem input_of_decode (h : decode entries = .ok c) :
    (Group.named entries).get 0 "input" Input.decode {} = .ok c.input := by
  simp only [decode, Success.bind_eq_ok, Success.pure_eq_ok] at h
  obtain ⟨input, hinput, -, -, -, -, -, -, -, -, rfl⟩ := h
  exact hinput

/-- Whatever a file says of the side that takes records in, names are handed out somewhere. -/
theorem exists_connectionsAddress (h : decode entries = .ok c) :
    ∃ address, c.input.connectionsAddress = some address := by
  have hinput := input_of_decode h
  rw [Group.get] at hinput
  cases hvalue : (Group.named entries).value? 0 "input" with
  | none =>
      rw [hvalue] at hinput
      rw [← Except.ok.inj hinput]
      exact ⟨_, rfl⟩
  | some value =>
      rw [hvalue] at hinput
      obtain ⟨g, -, hfollows⟩ := follows_of_decode hinput
      obtain ⟨address, haddress, -⟩ := hfollows.connections
      exact ⟨address, haddress⟩

/-- The table `input` of a file says what the settings of that side are. -/
theorem follows_of_lookup (h : decode entries = .ok c)
    (hinput : lookup "input" entries = some (.table table)) :
    Input.Follows (.named table) c.input := by
  have hget := input_of_decode h
  rw [Group.get, Group.value?, hinput] at hget
  obtain ⟨g, hgroup, hfollows⟩ := follows_of_decode hget
  cases hgroup
  exact hfollows

/-- Settings that pass the check form tables. -/
theorem exists_tables_of_check (h : c.check = .ok ()) : ∃ tables, c.tables = .ok tables := by
  cases htables : c.tables with
  | ok tables => exact ⟨tables, rfl⟩
  | error e =>
      -- The tables come last, whether there is an address to hand out names at or not.
      rw [check, htables] at h
      cases haddress : c.input.connectionsAddress with
      | none => simp [haddress] at h
      | some address => simp [haddress] at h

end QueryGateway.Config
