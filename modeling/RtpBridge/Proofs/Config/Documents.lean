-- SUMMARY: Every document that writes valid settings is read as these settings.
import RtpBridge.Config
import RtpBridge.Proofs.Json.Members
import RtpBridge.Proofs.Json.Writing

/-!
# Documents of settings

Settings may be written with the members of every object in any order, among members of other
names, and without what is at its default. Valid settings have a document, and each of their
documents is read as just these settings (`Config.ofJson_of_isDocument`).
-/

namespace RtpBridge.Config

open Json (Member Entry Literal Value FlagText NaturalText OptionText ListText Listing ObjectText
  Reader openBrace closeBrace)

/-! ## What writes settings -/

/-- The members of an object that write a server. -/
inductive ServerMembers (server : Ice.Server) (ms : List Member) : Prop where
  | mk {id type url username credential foreign : List Member}
      (hms : ms.Perm (id ++ (type ++ (url ++ (username ++ (credential ++ foreign))))))
      (hid : Entry "id" False (Literal server.id) id)
      (htype : Entry "type" False (Literal server.type) type)
      (hurl : Entry "url" False (Literal server.url) url)
      (husername : Entry "username" (server.username = none)
        (OptionText Literal server.username) username)
      (hcredential : Entry "credential" (server.credential = none)
        (OptionText Literal server.credential) credential)
      (hforeign : ∀ m ∈ foreign, m.IsForeign ["id", "type", "url", "username", "credential"])

inductive ServerText (server : Ice.Server) : List UInt8 → Prop where
  | mk {ms : List Member} {o : List UInt8} (hms : ServerMembers server ms)
      (hspaced : ∀ m ∈ ms, m.IsSpaced)
      (ho : Listing closeBrace true (ms.map Member.octets) o) :
      ServerText server (openBrace :: o)

/-- The members of an object that write settings. -/
inductive Members (config : Config) (ms : List Member) : Prop where
  | mk {servers loopback timeout grace foreign : List Member}
      (hms : ms.Perm (servers ++ (loopback ++ (timeout ++ (grace ++ foreign)))))
      (hservers : Entry "ice_servers" (config.servers = default.servers)
        (ListText ServerText config.servers) servers)
      (hloopback : Entry "include_loopback_candidates"
        (config.includesLoopback = default.includesLoopback)
        (FlagText config.includesLoopback) loopback)
      (htimeout : Entry "gathering_timeout_ms"
        (config.gatheringTimeout = default.gatheringTimeout)
        (OptionText NaturalText (config.gatheringTimeout.map UInt64.toNat)) timeout)
      (hgrace : Entry "teardown_grace_ms" (config.teardownGrace = default.teardownGrace)
        (NaturalText config.teardownGrace.toNat) grace)
      (hforeign : ∀ m ∈ foreign, m.IsForeign ["ice_servers", "include_loopback_candidates",
        "gathering_timeout_ms", "teardown_grace_ms"])

/-- That a document writes the settings as an object. -/
inductive IsDocument (config : Config) (o : List UInt8) : Prop where
  | mk {ms : List Member} (hms : Members config ms) (ho : ObjectText ms o)

/-! ## Servers -/

theorem serverFormat_isLoose : serverFormat.IsLoose where
  apart := by
    simp only [serverFormat, List.pairwise_cons, List.forall_mem_cons, List.not_mem_nil,
      false_implies, implies_true, and_true, List.Pairwise.nil]
    refine ⟨⟨?_, ?_, ?_, ?_⟩, ⟨?_, ?_, ?_⟩, ⟨?_, ?_⟩, ?_⟩
    all_goals
      exact Json.Field.isApart_putting (fun _ _ _ => rfl) (fun _ _ => rfl) (fun _ _ => rfl)
  sets := by
    simp only [serverFormat, List.forall_mem_cons, List.not_mem_nil, false_implies, implies_true,
      and_true]
    refine ⟨?_, ?_, ?_, ?_, ?_⟩
    all_goals
      intro _ h _
      obtain ⟨x, rfl⟩ := Json.Field.exists_put h
      rfl

/-- An entry that is left out only at its default has its value anyhow. -/
theorem getD_of_entry {α : Type} {x : Option α} {a d : α} (h : x = some a ∨ x = none ∧ a = d) :
    x.getD d = a := by
  rcases h with rfl | ⟨rfl, rfl⟩ <;> rfl

theorem takes_optionText {x : Option String} {o : List UInt8} (h : OptionText Literal x o) :
    Json.text.option.Takes o x :=
  h.takes fun _ _ _ ho => ⟨ho.takes, ho.head_ne_null⟩

theorem exists_fills_of_serverMembers {server : Ice.Server} {ms : List Member}
    (h : ServerMembers server ms) :
    ∃ draft, serverFormat.Fills serverFormat.empty ms draft ∧ draft.finish = .ok server := by
  cases h with
  | mk hms hid htype hurl husername hcredential hforeign =>
    obtain ⟨id, hid, hgivenId⟩ := serverFormat.exists_fills_of_entry
      (fun x draft => { draft with id := x }) ⟨none, none, none, none, none⟩ rfl rfl rfl
      (fun _ ho => ho.takes) hid
    obtain ⟨type, htype, hgivenType⟩ := serverFormat.exists_fills_of_entry
      (fun x draft => { draft with type := x }) ⟨id, none, none, none, none⟩ rfl rfl rfl
      (fun _ ho => ho.takes) htype
    obtain ⟨url, hurl, hgivenUrl⟩ := serverFormat.exists_fills_of_entry
      (fun x draft => { draft with url := x }) ⟨id, type, none, none, none⟩ rfl rfl rfl
      (fun _ ho => ho.takes) hurl
    obtain ⟨username, husername, hname⟩ := serverFormat.exists_fills_of_entry
      (fun x draft => { draft with username := x }) ⟨id, type, url, none, none⟩ rfl rfl rfl
      (fun _ ho => takes_optionText ho) husername
    obtain ⟨credential, hcredential, hsecret⟩ := serverFormat.exists_fills_of_entry
      (fun x draft => { draft with credential := x }) ⟨id, type, url, username, none⟩ rfl rfl rfl
      (fun _ ho => takes_optionText ho) hcredential
    have hfills := hid.append (htype.append (hurl.append (husername.append
      (hcredential.append (Json.Record.fills_of_foreign hforeign)))))
    refine ⟨_, hfills.perm serverFormat_isLoose hms.symm, ?_⟩
    obtain rfl := hgivenId.resolve_right fun h => h.2
    obtain rfl := hgivenType.resolve_right fun h => h.2
    obtain rfl := hgivenUrl.resolve_right fun h => h.2
    have husername := getD_of_entry hname
    have hcredential := getD_of_entry hsecret
    simp only [ServerDraft.finish, husername, hcredential]

theorem ServerText.takes {server : Ice.Server} {o : List UInt8} (h : ServerText server o) :
    serverFormat.reader.Takes o server := by
  cases h with
  | mk hms hspaced ho =>
    obtain ⟨draft, hfills, hfinish⟩ := exists_fills_of_serverMembers hms
    have hwritten : serverFormat.Written server _ := .object hspaced hfills ho hfinish
    exact hwritten.takes

/-! ## Settings -/

theorem format_isLoose : format.IsLoose where
  apart := by
    simp only [format, List.pairwise_cons, List.forall_mem_cons, List.not_mem_nil,
      false_implies, implies_true, and_true, List.Pairwise.nil]
    refine ⟨⟨?_, ?_, ?_⟩, ⟨?_, ?_⟩, ?_⟩
    all_goals
      exact Json.Field.isApart_putting (fun _ _ _ => rfl) (fun _ _ => rfl) (fun _ _ => rfl)
  sets := by
    simp only [format, List.forall_mem_cons, List.not_mem_nil, false_implies, implies_true,
      and_true]
    refine ⟨?_, ?_, ?_, ?_⟩
    all_goals
      intro _ h _
      obtain ⟨x, rfl⟩ := Json.Field.exists_put h
      rfl

theorem toNat_le_greatestSignificand (n : UInt64) : n.toNat ≤ Json.greatestSignificand :=
  Nat.le_of_lt_succ n.toNat_lt

theorem naturalText_takes {n : UInt64} {o : List UInt8} (h : NaturalText n.toNat o) :
    Json.natural.Takes o n.toNat :=
  h.takes (toNat_le_greatestSignificand n)

theorem naturalText_takes_option {x : Option UInt64} {o : List UInt8}
    (h : OptionText NaturalText (x.map UInt64.toNat) o) :
    Json.natural.option.Takes o (x.map UInt64.toNat) := by
  apply h.takes
  intro n hn o ho
  obtain ⟨x, -, rfl⟩ := Option.map_eq_some_iff.1 hn
  exact ⟨naturalText_takes ho, ho.head_ne_null⟩

theorem exists_fills_of_members {config : Config} {ms : List Member} (h : Members config ms) :
    ∃ draft, format.Fills format.empty ms draft ∧ draft.finish = config := by
  cases h with
  | mk hms hservers hloopback htimeout hgrace hforeign =>
    obtain ⟨servers, hservers, hgivenServers⟩ := format.exists_fills_of_entry
      (fun x draft => { draft with servers := x }) ⟨none, none, none, none⟩ rfl rfl rfl
      (fun _ ho => ho.takes fun _ _ => ServerText.takes) hservers
    obtain ⟨loopback, hloopback, hgivenLoopback⟩ := format.exists_fills_of_entry
      (fun x draft => { draft with includesLoopback := x }) ⟨servers, none, none, none⟩ rfl rfl rfl
      (fun _ ho => ho.takes) hloopback
    obtain ⟨timeout, htimeout, hgivenTimeout⟩ := format.exists_fills_of_entry
      (fun x draft => { draft with gatheringTimeout := x }) ⟨servers, loopback, none, none⟩ rfl rfl
      rfl (fun _ ho => naturalText_takes_option ho) htimeout
    obtain ⟨grace, hgrace, hgivenGrace⟩ := format.exists_fills_of_entry
      (fun x draft => { draft with teardownGrace := x }) ⟨servers, loopback, timeout, none⟩ rfl rfl
      rfl (fun _ ho => naturalText_takes ho) hgrace
    have hfills := hservers.append (hloopback.append (htimeout.append (hgrace.append
      (Json.Record.fills_of_foreign hforeign))))
    refine ⟨_, hfills.perm format_isLoose hms.symm, ?_⟩
    have hservers := getD_of_entry hgivenServers
    have hloopback := getD_of_entry hgivenLoopback
    have htimeout : (timeout.map (·.map UInt64.ofNat)).getD default.gatheringTimeout =
        config.gatheringTimeout := by
      rcases hgivenTimeout with rfl | ⟨rfl, hlacks⟩
      · cases config.gatheringTimeout with
        | none => rfl
        | some n => exact congrArg some UInt64.ofNat_toNat
      · exact hlacks.symm
    have hgrace : (grace.map UInt64.ofNat).getD default.teardownGrace = config.teardownGrace := by
      rcases hgivenGrace with rfl | ⟨rfl, hlacks⟩
      · exact UInt64.ofNat_toNat
      · exact hlacks.symm
    simp only [Draft.finish, hservers, hloopback, htimeout, hgrace]

theorem document_of_isDocument {config : Config} {o : List UInt8} (h : IsDocument config o) :
    format.reader.document o = .ok config := by
  obtain ⟨hms, ho⟩ := h
  obtain ⟨draft, hfills, rfl⟩ := exists_fills_of_members hms
  cases ho with
  | @mk w o w' hw hspaced ho hw' =>
    have hwritten : format.Written draft.finish (openBrace :: o) := .object hspaced hfills ho rfl
    exact hwritten.takes.document hw hw'

/-! ## Settings that have a document -/

theorem exists_serverText (server : Ice.Server) : ∃ o, ServerText server o := by
  have hoption (x : Option String) : ∃ o, OptionText Literal x o :=
    Json.exists_optionText Json.exists_literal x
  obtain ⟨id, hid, hid'⟩ := Json.exists_member "id" (Json.exists_literal server.id)
  obtain ⟨type, htype, htype'⟩ := Json.exists_member "type" (Json.exists_literal server.type)
  obtain ⟨url, hurl, hurl'⟩ := Json.exists_member "url" (Json.exists_literal server.url)
  obtain ⟨username, hname, hname'⟩ := Json.exists_member "username" (hoption server.username)
  obtain ⟨secret, hsecret, hsecret'⟩ := Json.exists_member "credential" (hoption server.credential)
  have hms : ServerMembers server [id, type, url, username, secret] :=
    .mk (.refl _) (.present hid) (.present htype) (.present hurl) (.present hname)
      (.present hsecret) fun _ hm => absurd hm List.not_mem_nil
  have hspaced : ∀ m ∈ [id, type, url, username, secret], m.IsSpaced := by
    simp only [List.forall_mem_cons]
    exact ⟨hid', htype', hurl', hname', hsecret', fun _ hm => absurd hm List.not_mem_nil⟩
  obtain ⟨o, ho⟩ := Json.exists_listing closeBrace true
    ([id, type, url, username, secret].map Member.octets)
  exact ⟨_, .mk hms hspaced ho⟩

theorem exists_isDocument (config : Config) : ∃ o, IsDocument config o := by
  obtain ⟨servers, hservers, hservers'⟩ := Json.exists_member "ice_servers"
    (Json.exists_listText exists_serverText config.servers)
  obtain ⟨loopback, hloopback, hloopback'⟩ := Json.exists_member "include_loopback_candidates"
    (Json.exists_flagText config.includesLoopback)
  obtain ⟨timeout, htimeout, htimeout'⟩ := Json.exists_member "gathering_timeout_ms"
    (Json.exists_optionText Json.exists_naturalText (config.gatheringTimeout.map UInt64.toNat))
  obtain ⟨grace, hgrace, hgrace'⟩ := Json.exists_member "teardown_grace_ms"
    (Json.exists_naturalText config.teardownGrace.toNat)
  have hms : Members config [servers, loopback, timeout, grace] :=
    .mk (.refl _) (.present hservers) (.present hloopback) (.present htimeout) (.present hgrace)
      fun _ hm => absurd hm List.not_mem_nil
  have hspaced : ∀ m ∈ [servers, loopback, timeout, grace], m.IsSpaced := by
    simp only [List.forall_mem_cons]
    exact ⟨hservers', hloopback', htimeout', hgrace', fun _ hm => absurd hm List.not_mem_nil⟩
  obtain ⟨o, ho⟩ := Json.exists_listing closeBrace true
    ([servers, loopback, timeout, grace].map Member.octets)
  exact ⟨_, hms, .mk Json.blanks_nil hspaced ho Json.blanks_nil⟩

/-! ## Round trip -/

/-- Settings that pass the validation can be written, and are read back from whatever document
writes them. -/
theorem ofJson_of_isDocument {config : Config} (h : config.validate = .ok ()) :
    (∃ o, IsDocument config o) ∧ ∀ o, IsDocument config o → ofJson o = .ok config := by
  refine ⟨exists_isDocument config, fun o ho => ?_⟩
  have hread := document_of_isDocument ho
  simp only [ofJson, hread, h]

/-! ## One document, out of order -/

/-- One server that stands for itself, no limit, and the longest grace there is. -/
def scattered : Config := ⟨[⟨"😀", "stun", "stun:h", none, none⟩], false, none, 0xFFFFFFFFFFFFFFFF⟩

/-- The URL, no credential, an unknown object, the id in escapes, and the type. -/
def scatteredServerMembers : List Member :=
  [⟨Utf8.encode "\"url\"".toList, [], [0x20], Utf8.encode "\"stun:h\"".toList⟩,
    ⟨Utf8.encode "\"credential\"".toList, [], [], Utf8.encode "null".toList⟩,
    ⟨Utf8.encode "\"y\"".toList, [], [], Utf8.encode "\x7b\"id\":1\x7d".toList⟩,
    ⟨Utf8.encode "\"\\u0069d\"".toList, [], [], Utf8.encode "\"\\ud83d\\uDE00\"".toList⟩,
    ⟨Utf8.encode "\"type\"".toList, [], [], Utf8.encode "\"stun\"".toList⟩]

def scatteredServer : String :=
  "\x7b\"url\": \"stun:h\",\"credential\":null,\"y\":\x7b\"id\":1\x7d," ++
    "\"\\u0069d\":\"\\ud83d\\uDE00\",\"type\":\"stun\"\x7d"

/-- The grace, an unknown list, the servers and no limit; the loopback is left out. -/
def scatteredMembers : List Member :=
  [⟨Utf8.encode "\"teardown_grace_ms\"".toList, [0x09], [],
      Utf8.encode "18446744073709551615".toList⟩,
    ⟨Utf8.encode "\"x\"".toList, [], [], Utf8.encode "[-1.5e+3, \"\\ud800\" ]".toList⟩,
    ⟨Utf8.encode "\"ice_servers\"".toList, [], [],
      Utf8.encode ("[" ++ scatteredServer ++ "]").toList⟩,
    ⟨Utf8.encode "\"gathering_timeout_ms\"".toList, [], [], Utf8.encode "null".toList⟩]

def scatteredText : String :=
  " \x7b\"teardown_grace_ms\"\t:18446744073709551615 ,\"x\":[-1.5e+3, \"\\ud800\" ]," ++
    "\"ice_servers\":[" ++ scatteredServer ++ "],\"gathering_timeout_ms\":null\n\x7d"

theorem serverText_scattered :
    ServerText ⟨"😀", "stun", "stun:h", none, none⟩ (Utf8.encode scatteredServer.toList) := by
  have hurl : Member.Bears scatteredServerMembers[0] "url" (Literal "stun:h") :=
    ⟨.of_readString_tail (by decide +kernel), .of_readString_tail (by decide +kernel)⟩
  have hcredential : Member.Bears scatteredServerMembers[1] "credential"
      (OptionText Literal none) := ⟨.of_readString_tail (by decide +kernel), .null⟩
  have hforeign : Member.IsForeign scatteredServerMembers[2]
      ["id", "type", "url", "username", "credential"] :=
    ⟨⟨"y", .of_readString_tail (by decide +kernel), by decide⟩,
      .of_skipValue (by decide +kernel) (by decide +kernel)⟩
  have hid : Member.Bears scatteredServerMembers[3] "id" (Literal "😀") :=
    ⟨.of_readString_tail (by decide +kernel), .of_readString_tail (by decide +kernel)⟩
  have htype : Member.Bears scatteredServerMembers[4] "type" (Literal "stun") :=
    ⟨.of_readString_tail (by decide +kernel), .of_readString_tail (by decide +kernel)⟩
  have hperm : (scatteredServerMembers.take 3 ++ scatteredServerMembers.drop 3).Perm
      (scatteredServerMembers.drop 3 ++ scatteredServerMembers.take 3) := List.perm_append_comm
  have hms : ServerMembers ⟨"😀", "stun", "stun:h", none, none⟩ scatteredServerMembers :=
    @ServerMembers.mk _ _ [_] [_] [_] [] [_] [_] hperm (.present hid) (.present htype)
      (.present hurl) (.absent rfl) (.present hcredential) (List.forall_mem_singleton.2 hforeign)
  have hspace : Json.Blanks [0x20] := Json.blanks_singleton rfl
  have hspaced : ∀ m ∈ scatteredServerMembers, m.IsSpaced := by
    simp only [scatteredServerMembers, List.forall_mem_cons]
    exact ⟨⟨Json.blanks_nil, hspace⟩, ⟨Json.blanks_nil, Json.blanks_nil⟩,
      ⟨Json.blanks_nil, Json.blanks_nil⟩, ⟨Json.blanks_nil, Json.blanks_nil⟩,
      ⟨Json.blanks_nil, Json.blanks_nil⟩, fun _ hm => nomatch hm⟩
  have hnext : Json.Lead false ([] ++ Json.comma :: []) := .next Json.blanks_nil Json.blanks_nil
  have htext := ServerText.mk hms hspaced (.cons (.first Json.blanks_nil) (.cons hnext
    (.cons hnext (.cons hnext (.cons hnext (.nil Json.blanks_nil))))))
  exact Eq.subst (motive := ServerText _) (by decide +kernel) htext

theorem isDocument_scattered : IsDocument scattered (Utf8.encode scatteredText.toList) := by
  have hgrace : Member.Bears scatteredMembers[0] "teardown_grace_ms"
      (NaturalText (0xFFFFFFFFFFFFFFFF : UInt64).toNat) :=
    ⟨.of_readString_tail (by decide +kernel),
      .digits ⟨by decide +kernel, by decide +kernel⟩ (by decide), by decide +kernel⟩
  have hforeign : Member.IsForeign scatteredMembers[1] ["ice_servers",
      "include_loopback_candidates", "gathering_timeout_ms", "teardown_grace_ms"] :=
    ⟨⟨"x", .of_readString_tail (by decide +kernel), by decide⟩,
      .of_skipValue (by decide +kernel) (by decide +kernel)⟩
  have hservers : Member.Bears scatteredMembers[2] "ice_servers"
      (ListText ServerText scattered.servers) := by
    refine ⟨.of_readString_tail (by decide +kernel), ?_⟩
    have hlist := ListText.mk (.cons serverText_scattered .nil)
      (.cons (.first Json.blanks_nil) (.nil Json.blanks_nil))
    exact Eq.subst (motive := ListText ServerText _) (by decide +kernel) hlist
  have htimeout : Member.Bears scatteredMembers[3] "gathering_timeout_ms"
      (OptionText NaturalText none) := ⟨.of_readString_tail (by decide +kernel), .null⟩
  have hperm : (scatteredMembers.take 2 ++ scatteredMembers.drop 2).Perm
      (scatteredMembers.drop 2 ++ scatteredMembers.take 2) := List.perm_append_comm
  have hms : Members scattered scatteredMembers :=
    @Members.mk _ _ [_] [] [_] [_] [_] hperm (.present hservers) (.absent rfl)
      (.present htimeout) (.present hgrace) (List.forall_mem_singleton.2 hforeign)
  have hspace : Json.Blanks [0x20] := Json.blanks_singleton rfl
  have htab : Json.Blanks [0x09] := Json.blanks_singleton rfl
  have hline : Json.Blanks [0x0A] := Json.blanks_singleton rfl
  have hspaced : ∀ m ∈ scatteredMembers, m.IsSpaced := by
    simp only [scatteredMembers, List.forall_mem_cons]
    exact ⟨⟨htab, Json.blanks_nil⟩, ⟨Json.blanks_nil, Json.blanks_nil⟩,
      ⟨Json.blanks_nil, Json.blanks_nil⟩, ⟨Json.blanks_nil, Json.blanks_nil⟩,
      fun _ hm => nomatch hm⟩
  have hnext : Json.Lead false ([] ++ Json.comma :: []) := .next Json.blanks_nil Json.blanks_nil
  have htext := ObjectText.mk hspace hspaced (.cons (.first Json.blanks_nil)
    (.cons (.next hspace Json.blanks_nil) (.cons hnext (.cons hnext (.nil hline)))))
    Json.blanks_nil
  exact ⟨hms, Eq.subst (motive := ObjectText _) (by decide +kernel) htext⟩

theorem ofJson_scattered :
    scattered.validate = .ok () ∧ ofJson (Utf8.encode scatteredText.toList) = .ok scattered := by
  have hvalid : scattered.validate = .ok () := by decide +kernel
  exact ⟨hvalid, (ofJson_of_isDocument hvalid).2 _ isDocument_scattered⟩

end RtpBridge.Config
