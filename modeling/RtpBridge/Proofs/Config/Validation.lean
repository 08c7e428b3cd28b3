-- SUMMARY: Validation reports the first server that offends, and only valid documents are accepted.
import RtpBridge.Error
import RtpBridge.Proofs.Json.Record
import RtpBridge.Proofs.Json.Typed

/-!
# Valid settings

A server is complete if it has a URL and, being one of TURN, credentials. Settings are valid when
all their servers are complete; otherwise the first one that is not is reported by its id, and an
empty URL goes before missing credentials. A document holds the settings that it writes, and these
are what is read from it, provided they are valid (`Config.validate_first_offence`).
-/

namespace RtpBridge

/-- That a server has what its type wants. -/
structure Ice.Server.IsComplete (server : Ice.Server) : Prop where
  url : server.url ≠ ""
  credentials : server.type = "turn" → server.username ≠ none ∧ server.credential ≠ none

namespace Config

variable {server : Ice.Server} {servers rest : List Ice.Server} {fault : Invalid}

/-! ## One server -/

/-- What a server is reported for: missing credentials only if it has a URL. -/
inductive Offends (server : Ice.Server) : Invalid → Prop where
  | url (hurl : server.url = "") : Offends server (.emptyUrl server.id)
  | credentials (hurl : server.url ≠ "") (htype : server.type = "turn")
      (hmissing : server.username = none ∨ server.credential = none) :
      Offends server (.missingCredentials server.id)

theorem checkServer_eq_error : checkServer server = .error fault ↔ Offends server fault := by
  unfold checkServer
  split
  · next hurl =>
    have hurl : server.url = "" := String.isEmpty_iff.1 hurl
    constructor
    · intro h
      cases h
      exact .url hurl
    · intro h
      cases h with
      | url => rfl
      | credentials hurl' => exact absurd hurl hurl'
  · next hurl =>
    have hurl : server.url ≠ "" := fun heq => hurl (String.isEmpty_iff.2 heq)
    split
    · next h =>
      obtain ⟨htype, hmissing⟩ := h
      simp only [Option.isNone_iff_eq_none] at hmissing
      constructor
      · intro h
        cases h
        exact .credentials hurl htype hmissing
      · intro h
        cases h with
        | url hurl' => exact absurd hurl' hurl
        | credentials => rfl
    · next h =>
      simp only [Option.isNone_iff_eq_none] at h
      refine iff_of_false nofun fun hoffends => ?_
      cases hoffends with
      | url hurl' => exact hurl hurl'
      | credentials _ htype hmissing => exact h ⟨htype, hmissing⟩

/-- A server is complete if there is nothing to report it for. -/
theorem isComplete_iff : server.IsComplete ↔ ∀ fault, ¬Offends server fault := by
  constructor
  · intro h fault hoffends
    cases hoffends with
    | url hurl => exact h.url hurl
    | credentials _ htype hmissing =>
      obtain ⟨husername, hcredential⟩ := h.credentials htype
      exact hmissing.elim husername hcredential
  · intro h
    have hurl : server.url ≠ "" := fun hurl => h _ (.url hurl)
    refine ⟨hurl, fun htype => not_or.1 fun hmissing => ?_⟩
    exact h _ (.credentials hurl htype hmissing)

theorem checkServer_eq_ok : checkServer server = .ok () ↔ server.IsComplete := by
  simp only [isComplete_iff, ← checkServer_eq_error]
  cases checkServer server with
  | error fault => exact iff_of_false nofun fun h => h fault rfl
  | ok _ => exact iff_of_true rfl fun _ => nofun

/-- The wording tells the server by its id. -/
theorem Offends.message_eq (h : Offends server fault) :
    (Error.config (.invalid fault)).message =
      if server.url = "" then "Configuration error: ICE server " ++ server.id ++ " has an empty URL"
      else "Configuration error: TURN server " ++ server.id ++
        " requires username and credential" := by
  cases h with
  | url hurl => rw [if_pos hurl]; rfl
  | credentials hurl => rw [if_neg hurl]; rfl

/-! ## Servers in their order -/

theorem checkServers_cons (server : Ice.Server) (rest : List Ice.Server) :
    checkServers (server :: rest) = checkServer server >>= fun _ => checkServers rest := by
  rw [checkServers]
  split
  · next h => rw [h]; rfl
  · next h => rw [h]; rfl

/-- The second part of a list is looked at when the first one is in order. -/
theorem checkServers_append (servers rest : List Ice.Server) :
    checkServers (servers ++ rest) = checkServers servers >>= fun _ => checkServers rest := by
  induction servers with
  | nil => rfl
  | cons server servers ih =>
    rw [List.cons_append, checkServers_cons, checkServers_cons, ih]
    cases checkServer server <;> rfl

theorem checkServers_eq_ok :
    checkServers servers = .ok () ↔ ∀ server ∈ servers, server.IsComplete := by
  induction servers with
  | nil => exact iff_of_true rfl fun _ h => absurd h List.not_mem_nil
  | cons server servers ih =>
    rw [checkServers_cons, List.forall_mem_cons, ← ih, ← checkServer_eq_ok]
    cases checkServer server with
    | error fault => exact iff_of_false nofun fun h => nomatch h.1
    | ok _ => exact (and_iff_right rfl).symm

/-- That the server at `i` is reported, and each one before it is complete. -/
structure IsFirstOffence (servers : List Ice.Server) (i : Nat) (fault : Invalid) : Prop where
  offends : ∃ server ∈ servers[i]?, Offends server fault
  before : ∀ j < i, ∀ server ∈ servers[j]?, server.IsComplete

theorem isFirstOffence_zero :
    IsFirstOffence (server :: rest) 0 fault ↔ Offends server fault := by
  constructor
  · rintro ⟨⟨first, hfirst, hoffends⟩, -⟩
    cases hfirst
    exact hoffends
  · exact fun h => ⟨⟨server, rfl, h⟩, fun j hj => absurd hj (Nat.not_lt_zero j)⟩

theorem isFirstOffence_succ {i : Nat} : IsFirstOffence (server :: rest) (i + 1) fault ↔
    server.IsComplete ∧ IsFirstOffence rest i fault := by
  constructor
  · rintro ⟨hoffends, hbefore⟩
    refine ⟨hbefore 0 (Nat.succ_pos i) server rfl, hoffends, fun j hj => ?_⟩
    exact hbefore (j + 1) (Nat.succ_lt_succ hj)
  · rintro ⟨hcomplete, hoffends, hbefore⟩
    refine ⟨hoffends, fun j hj later hlater => ?_⟩
    cases j with
    | zero =>
      cases hlater
      exact hcomplete
    | succ j => exact hbefore j (Nat.lt_of_succ_lt_succ hj) later hlater

theorem checkServers_eq_error :
    checkServers servers = .error fault ↔ ∃ i, IsFirstOffence servers i fault := by
  induction servers with
  | nil =>
    refine iff_of_false nofun ?_
    rintro ⟨i, ⟨_, hserver, -⟩, -⟩
    cases hserver
  | cons server servers ih =>
    rw [checkServers_cons, ← Nat.or_exists_add_one, isFirstOffence_zero, ← checkServer_eq_error]
    simp only [isFirstOffence_succ, exists_and_left, ← checkServer_eq_ok, ← ih]
    cases checkServer server with
    | error first => exact ⟨.inl, fun h => h.elim id fun h => nomatch h.1⟩
    | ok _ => exact ⟨fun h => .inr ⟨rfl, h⟩, fun h => h.elim nofun And.right⟩

/-! ## Documents -/

theorem serverFormat_isExact : ∀ field ∈ serverFormat.fields, field.reader.IsExact := by
  simp only [serverFormat, List.forall_mem_cons, List.not_mem_nil, false_implies, implies_true,
    and_true]
  exact ⟨Json.text_isExact.map _, Json.text_isExact.map _, Json.text_isExact.map _,
    Json.text_isExact.option.map _, Json.text_isExact.option.map _⟩

theorem format_isExact : ∀ field ∈ format.fields, field.reader.IsExact := by
  have hservers := (Json.Record.reader_isExact serverFormat_isExact).list
  simp only [format, List.forall_mem_cons, List.not_mem_nil, false_implies, implies_true,
    and_true]
  exact ⟨hservers.map _, Json.flag_isExact.map _, Json.natural_isExact.option.map _,
    Json.natural_isExact.map _⟩

/-- That a document writes the settings, valid or not, with nothing but blanks around them. -/
inductive IsWrittenIn (config : Config) : List UInt8 → Prop where
  | mk {w o w' : List UInt8} (hw : Json.Blanks w) (ho : format.Written config o)
      (hw' : Json.Blanks w') : IsWrittenIn config (w ++ (o ++ w'))

theorem document_eq_ok {config : Config} {octets : List UInt8} :
    format.reader.document octets = .ok config ↔ IsWrittenIn config octets := by
  rw [Json.Record.document_eq_ok format_isExact]
  constructor
  · rintro ⟨w, o, w', hw, ho, hw', rfl⟩
    exact ⟨hw, ho, hw'⟩
  · rintro ⟨hw, ho, hw'⟩
    exact ⟨_, _, _, hw, ho, hw', rfl⟩

theorem ofJson_eq_ok {config : Config} {octets : List UInt8} :
    ofJson octets = .ok config ↔ IsWrittenIn config octets ∧ config.validate = .ok () := by
  rw [← document_eq_ok, ofJson]
  split
  · next h => exact iff_of_false nofun fun heq => by rw [h] at heq; cases heq.1
  · next read h =>
    rw [h, Except.ok.injEq]
    split
    · next hvalid =>
      refine iff_of_false nofun ?_
      rintro ⟨rfl, hok⟩
      rw [hvalid] at hok
      cases hok
    · next hvalid =>
      rw [Except.ok.injEq]
      refine (and_iff_left_of_imp ?_).symm
      rintro rfl
      exact hvalid

theorem ofJson_eq_invalid {octets : List UInt8} : ofJson octets = .error (.invalid fault) ↔
    ∃ config, IsWrittenIn config octets ∧ config.validate = .error fault := by
  simp only [← document_eq_ok]
  rw [ofJson]
  split
  · next h => exact iff_of_false nofun fun ⟨_, heq, _⟩ => by rw [h] at heq; cases heq
  · next read h =>
    have hread : (∃ config, format.reader.document octets = .ok config ∧
        config.validate = .error fault) ↔ read.validate = .error fault := by
      simp only [h, Except.ok.injEq, exists_eq_left']
    rw [hread]
    split
    · next hvalid => rw [hvalid, Except.error.injEq, Except.error.injEq, Fault.invalid.injEq]
    · next hvalid => exact iff_of_false nofun fun heq => by rw [hvalid] at heq; cases heq

/-! ## Validation -/

/-- Valid settings are those of which each server is complete. Others are refused for the first
server that is not, by its id and for its URL before its credentials. So lists of servers one
after the other are valid together if each is, and the first of them that is not decides what is
reported. A document is accepted if it writes valid settings, which are then what is read. -/
theorem validate_first_offence (config : Config) (more : List Ice.Server) (octets : List UInt8) :
    (config.validate = .ok () ↔ ∀ server ∈ config.servers, server.IsComplete) ∧
    (∀ fault, config.validate = .error fault ↔ ∃ i, IsFirstOffence config.servers i fault) ∧
    (∀ server fault, Offends server fault → (Error.config (.invalid fault)).message =
      if server.url = "" then "Configuration error: ICE server " ++ server.id ++ " has an empty URL"
      else "Configuration error: TURN server " ++ server.id ++
        " requires username and credential") ∧
    ({ config with servers := config.servers ++ more }.validate = .ok () ↔
      config.validate = .ok () ∧ { config with servers := more }.validate = .ok ()) ∧
    (∀ fault, config.validate = .error fault →
      { config with servers := config.servers ++ more }.validate = .error fault) ∧
    (ofJson octets = .ok config ↔ IsWrittenIn config octets ∧ config.validate = .ok ()) ∧
    (∀ fault, ofJson octets = .error (.invalid fault) ↔
      ∃ read, IsWrittenIn read octets ∧ read.validate = .error fault) := by
  have happend : { config with servers := config.servers ++ more }.validate =
      config.validate >>= fun _ => { config with servers := more }.validate :=
    checkServers_append config.servers more
  refine ⟨checkServers_eq_ok, fun _ => checkServers_eq_error, fun _ _ => Offends.message_eq, ?_,
    fun fault h => ?_, ofJson_eq_ok, fun _ => ofJson_eq_invalid⟩
  · rw [happend]
    cases config.validate with
    | error fault => exact iff_of_false nofun fun h => nomatch h.1
    | ok _ => exact (and_iff_right rfl).symm
  · rw [happend, h]
    rfl

/-! ## One list with several offenders -/

/-- A TURN server with empty credentials, one with nothing but an id, and one without a
credential. -/
def spotty : Config :=
  ⟨[⟨"good", "turn", "turn:h", some "", some ""⟩, ⟨"bare", "turn", "", none, none⟩,
    ⟨"late", "turn", "turn:h", some "u", none⟩], false, none, 2000⟩

def spottyText : String :=
  "\x7b\"ice_servers\":[[\"good\",\"turn\",\"turn:h\",\"\",\"\"]," ++
    "\x7b\"type\":\"turn\",\"id\":\"bare\",\"url\":\"\"\x7d," ++
    "[\"late\",\"turn\",\"turn:h\",\"u\",null]]\x7d"

/-- The bare server is reported, and for its URL. -/
theorem first_offence_spotty :
    spotty.validate = .error (.emptyUrl "bare") ∧
    (Error.config (.invalid (.emptyUrl "bare"))).message =
      "Configuration error: ICE server bare has an empty URL" ∧
    validate { spotty with servers := spotty.servers ++ [⟨"void", "stun", "", none, none⟩] } =
      .error (.emptyUrl "bare") ∧
    ofJson (Utf8.encode spottyText.toList) = .error (.invalid (.emptyUrl "bare")) := by
  obtain ⟨-, hfirst, hmessage, -, happend, -, hrefused⟩ := validate_first_offence spotty
    [⟨"void", "stun", "", none, none⟩] (Utf8.encode spottyText.toList)
  have hgood : Ice.Server.IsComplete ⟨"good", "turn", "turn:h", some "", some ""⟩ :=
    ⟨by decide, fun _ => ⟨nofun, nofun⟩⟩
  have hbare : Offends ⟨"bare", "turn", "", none, none⟩ (.emptyUrl "bare") := .url rfl
  have hinvalid : spotty.validate = .error (.emptyUrl "bare") := by
    refine (hfirst _).2 ⟨1, ⟨_, rfl, hbare⟩, fun j hj server hserver => ?_⟩
    obtain rfl : j = 0 := Nat.lt_one_iff.1 hj
    cases hserver
    exact hgood
  have hwritten : IsWrittenIn spotty (Utf8.encode spottyText.toList) :=
    document_eq_ok.1 (by decide +kernel)
  exact ⟨hinvalid, hmessage _ _ hbare, happend _ hinvalid,
    (hrefused _).2 ⟨spotty, hwritten, hinvalid⟩⟩

end Config

end RtpBridge
