-- SUMMARY: Which valid settings leave a TURN server without the credentials that a connection wants.
import RtpBridge.Proofs.Text.Blank
import RtpBridge.Session.Basic

/-!
# Credentials of TURN servers

Settings are valid when each server of type `turn` has a user name and a credential, be they empty.
A peer connection goes by the scheme of the complete URL instead, and wants neither to be empty.
Valid settings therefore leave a TURN server without credentials in two cases: one of them is
blank, or it is a TURN server by its own URL and not by its type. A connection refuses no other
server for want of credentials, and with one of these it never comes about
(`Config.turn_credentials_of_valid`).
-/

namespace RtpBridge

/-! ## The scheme of a URL -/

namespace Url

/-- That cleaning leaves a character where it is, whatever stands around it. -/
def IsKept (c : Char) : Prop := 0x20 < c.toNat

instance (c : Char) : Decidable (IsKept c) := inferInstanceAs (Decidable (0x20 < c.toNat))

theorem IsKept.ne {c d : Char} (h : IsKept c) (hd : ¬IsKept d) : c ≠ d := by
  rintro rfl
  exact hd h

theorem clean_append {front : List Char} (hne : front ≠ []) (hfront : ∀ c ∈ front, IsKept c)
    (rest : List Char) : ∃ left, clean (front ++ rest) = front ++ left := by
  let isEdge (c : Char) : Bool := c.toNat ≤ 0x20
  have hedge (c : Char) (hc : c ∈ front) : ¬isEdge c := by
    have hkept : 0x20 < c.toNat := hfront c hc
    simpa [isEdge] using hkept
  have hdrop : (front ++ rest).dropWhile isEdge = front ++ rest := by
    cases front with
    | nil => exact absurd rfl hne
    | cons c front => exact List.dropWhile_cons_of_neg (hedge c List.mem_cons_self)
  have hend : front.rdropWhile isEdge = front :=
    Text.rdropWhile_eq_self_of_getLast? fun c hc => hedge c (List.mem_of_getLast? hc)
  have hprefix : front.rdropWhile isEdge <+: (front ++ rest).rdropWhile isEdge :=
    Text.rdropWhile_isPrefix (List.prefix_append front rest)
  obtain ⟨inner, hinner⟩ := hend ▸ hprefix
  have hplain : front.filter (fun c => c ≠ '\t' && c ≠ '\n' && c ≠ '\r') = front := by
    refine List.filter_eq_self.2 fun c hc => ?_
    have hkept := hfront c hc
    have htab : c ≠ '\t' := hkept.ne (by decide)
    have hfeed : c ≠ '\n' := hkept.ne (by decide)
    have hreturn : c ≠ '\r' := hkept.ne (by decide)
    simp [htab, hfeed, hreturn]
  refine ⟨inner.filter fun c => c ≠ '\t' && c ≠ '\n' && c ≠ '\r', ?_⟩
  have hclean : clean (front ++ rest) = ((front ++ rest).rdropWhile isEdge).filter
      fun c => c ≠ '\t' && c ≠ '\n' && c ≠ '\r' := by
    simp only [clean, List.rdropWhile]
    rw [hdrop]
  rw [hclean, ← hinner, List.filter_append, hplain]

/-- The schemes that a peer connection knows. -/
def iceSchemes : List (List Char) := ["turn", "turns", "stun", "stuns"].map String.toList

theorem scheme_of_parse {scheme rest : List Char} {url : Url} (hscheme : scheme ∈ iceSchemes)
    (h : parse (scheme ++ "://".toList ++ rest) = .ok url) : url.scheme = scheme := by
  have hall : ∀ scheme ∈ iceSchemes, (scheme ++ "://".toList).all (IsKept ·) := by decide
  have hkept (c : Char) (hc : c ∈ scheme ++ "://".toList) : IsKept c :=
    of_decide_eq_true (List.all_eq_true.1 (hall scheme hscheme) c hc)
  have hkind : ∀ scheme ∈ iceSchemes, SchemeKind.of scheme = .other := by decide
  obtain ⟨left, hclean⟩ := clean_append (by simp) hkept rest
  have hsplit : splitScheme? (scheme ++ "://".toList ++ left) =
      some (scheme, '/' :: '/' :: left) := by
    simp only [iceSchemes, List.map_cons, List.map_nil, List.mem_cons, List.not_mem_nil,
      or_false] at hscheme
    rcases hscheme with rfl | rfl | rfl | rfl <;> rfl
  simp only [parse, hclean, hsplit, hkind scheme hscheme, afterSlashes?] at h
  cases hread : readAuthority .other (left.takeWhile (!endsAuthority .other ·))
      (left.dropWhile (!endsAuthority .other ·)).isEmpty with
  | error fault =>
    rw [hread] at h
    cases h
  | ok authority =>
    rw [hread] at h
    cases h
    rfl

end Url

namespace Ice

variable {server : Server} {endpoint : Endpoint} {servers : List Server}
  {scheme rest : List Char} {u : Url}

theorem parseUrl_of_colon (hcolon : ':' ∉ scheme)
    (h : parseUrl (scheme ++ ':' :: rest) = .ok u) :
    Url.parse (scheme ++ "://".toList ++ rest) = .ok u := by
  have hbefore : ∀ c ∈ scheme, decide (c ≠ ':') = true := fun c hc =>
    decide_eq_true fun heq => hcolon (heq ▸ hc)
  have htake : (scheme ++ ':' :: rest).takeWhile (fun c => decide (c ≠ ':')) = scheme := by
    rw [List.takeWhile_append_of_pos hbefore, List.takeWhile_cons_of_neg (by decide),
      List.append_nil]
  have hdrop : (scheme ++ ':' :: rest).dropWhile (fun c => decide (c ≠ ':')) = ':' :: rest := by
    rw [List.dropWhile_append_of_pos hbefore, List.dropWhile_cons_of_neg (by decide)]
  simp only [parseUrl, htake, hdrop] at h
  split at h
  · cases h
  · split at h
    · next hparse =>
      cases h
      exact hparse
    · cases h

theorem dropStunQuery_append (hmark : '?' ∉ scheme) (rest : List Char) :
    ∃ left, dropStunQuery (scheme ++ ':' :: rest) = scheme ++ ':' :: left := by
  have hbefore : ∀ c ∈ scheme, decide (c ≠ '?') = true := fun c hc =>
    decide_eq_true fun heq => hmark (heq ▸ hc)
  unfold dropStunQuery
  split
  · rw [List.takeWhile_append_of_pos hbefore, List.takeWhile_cons_of_pos (by decide)]
    exact ⟨_, rfl⟩
  · exact ⟨rest, rfl⟩

/-- A peer connection finds the scheme that stands at the front of a URL. -/
theorem scheme_of_parseUrl (hscheme : scheme ∈ Url.iceSchemes)
    (h : parseUrl (dropStunQuery (scheme ++ ':' :: rest)) = .ok u) : u.scheme = scheme := by
  have hcolon : ∀ scheme ∈ Url.iceSchemes, ':' ∉ scheme := by decide
  have hmark : ∀ scheme ∈ Url.iceSchemes, '?' ∉ scheme := by decide
  obtain ⟨left, hleft⟩ := dropStunQuery_append (hmark scheme hscheme) rest
  rw [hleft] at h
  exact Url.scheme_of_parse hscheme (parseUrl_of_colon (hcolon scheme hscheme) h)

/-! ## The complete URL -/

/-- Whether a URL begins with one of these schemes. -/
def hasScheme (schemes : List String) (url : String) : Bool :=
  schemes.any fun s => startsWith s.toList url.toList

/-- Whether a URL is that of a TURN server. -/
def isTurnUrl (url : String) : Bool := hasScheme ["turn:", "turns:"] url

def isStunUrl (url : String) : Bool := hasScheme ["stun:", "stuns:"] url

/-- Which server a URL is for shows in the scheme at its front. -/
theorem isUrl_of_append {url : String} (hscheme : scheme ∈ Url.iceSchemes)
    (hurl : url.toList = scheme ++ ':' :: rest) :
    (isTurnUrl url ↔ scheme = "turn".toList ∨ scheme = "turns".toList) ∧
      (isStunUrl url ↔ ¬isTurnUrl url) := by
  simp only [Url.iceSchemes, List.map_cons, List.map_nil, List.mem_cons, List.not_mem_nil,
    or_false] at hscheme
  rcases hscheme with rfl | rfl | rfl | rfl <;>
    simp [isTurnUrl, isStunUrl, hasScheme, startsWith, hurl]

theorem exists_scheme_of_hasScheme {url : String} (h : hasScheme schemes url) :
    ∃ scheme ∈ Url.iceSchemes, ∃ rest, url.toList = scheme ++ ':' :: rest := by
  have hknown : ∀ s ∈ schemes, ∃ scheme ∈ Url.iceSchemes, s.toList = scheme ++ [':'] := by decide
  obtain ⟨s, hs, hfront⟩ := List.any_eq_true.1 h
  obtain ⟨rest, hrest⟩ := List.isPrefixOf_iff_prefix.1 hfront
  obtain ⟨scheme, hscheme, hcolon⟩ := hknown s hs
  refine ⟨scheme, hscheme, rest, ?_⟩
  rw [← hrest, hcolon, List.append_assoc, List.singleton_append]

theorem hasScheme_schemes (url : String) :
    hasScheme schemes url = (isTurnUrl url || isStunUrl url) := by
  simp only [isTurnUrl, isStunUrl, hasScheme, schemes, List.any_cons, List.any_nil, Bool.or_false,
    Bool.or_assoc]

theorem completeUrl_eq (server : Server) : server.completeUrl =
    if hasScheme schemes server.url then server.url
    else (if server.type = "turn" then "turn:" else "stun:") ++ server.url := rfl

/-- A complete URL has a scheme. -/
theorem exists_scheme_completeUrl (server : Server) :
    ∃ scheme ∈ Url.iceSchemes, ∃ rest, server.completeUrl.toList = scheme ++ ':' :: rest := by
  rw [completeUrl_eq]
  split
  · next h => exact exists_scheme_of_hasScheme h
  · rw [String.toList_append]
    split
    · exact ⟨"turn".toList, by decide, server.url.toList, rfl⟩
    · exact ⟨"stun".toList, by decide, server.url.toList, rfl⟩

/-- A server is one of TURN by its own URL, or else by its type. -/
theorem isTurnUrl_completeUrl (server : Server) : isTurnUrl server.completeUrl ↔
    isTurnUrl server.url ∨ (server.type = "turn" ∧ ¬isStunUrl server.url) := by
  rw [completeUrl_eq]
  split
  · next h =>
    obtain ⟨scheme, hscheme, rest, hrest⟩ := exists_scheme_of_hasScheme h
    have hstun := (isUrl_of_append hscheme hrest).2
    refine (or_iff_left_of_imp fun hadded => ?_).symm
    exact Classical.not_not.1 fun hturn => hadded.2 (hstun.2 hturn)
  · next h =>
    have hneither : ¬isTurnUrl server.url ∧ ¬isStunUrl server.url := by
      simpa [hasScheme_schemes] using h
    have hadded (front : String) (hscheme : front.toList ∈ Url.iceSchemes) :
        isTurnUrl (front ++ ":" ++ server.url) ↔
          front.toList = "turn".toList ∨ front.toList = "turns".toList := by
      have hurl :
          (front ++ ":" ++ server.url).toList = front.toList ++ ':' :: server.url.toList := by
        rw [String.toList_append, String.toList_append, List.append_assoc]
        rfl
      exact (isUrl_of_append hscheme hurl).1
    split
    · next htype =>
      have hturn := (hadded "turn" (by decide)).2 (.inl rfl)
      exact iff_of_true hturn (.inr ⟨htype, hneither.2⟩)
    · next htype =>
      have hstun : ¬isTurnUrl ("stun:" ++ server.url) := fun hturn =>
        absurd ((hadded "stun" (by decide)).1 hturn) (by decide)
      refine iff_of_false hstun ?_
      rintro (hturn | ⟨hturn, -⟩)
      · exact hneither.1 hturn
      · exact htype hturn

/-! ## Servers without credentials -/

/-- That a peer connection is given a TURN server with an empty user name or credential. -/
def Endpoint.LacksCredentials (endpoint : Endpoint) : Prop :=
  isTurnUrl endpoint.url ∧ (endpoint.username = "" ∨ endpoint.credential = "")

/-- That a server of type `turn` has a blank for a user name or a credential. -/
def Server.HasBlankCredentials (server : Server) : Prop :=
  server.type = "turn" ∧ ¬isStunUrl server.url ∧
    (server.username = some "" ∨ server.credential = some "")

/-- That a server without a full set of credentials is one of TURN by its URL and not by its
type. -/
def Server.IsMistyped (server : Server) : Prop :=
  server.type ≠ "turn" ∧ isTurnUrl server.url ∧
    (server.username.getD "" = "" ∨ server.credential.getD "" = "")

theorem not_isStunUrl_of_isTurnUrl {url : String} (h : isTurnUrl url) : ¬isStunUrl url := by
  have hknown : hasScheme schemes url := by rw [hasScheme_schemes, h, Bool.true_or]
  obtain ⟨scheme, hscheme, rest, hrest⟩ := exists_scheme_of_hasScheme hknown
  exact fun hstun => (isUrl_of_append hscheme hrest).2.1 hstun h

theorem exists_credentials_of_checkServer (hvalid : Config.checkServer server = .ok ())
    (htype : server.type = "turn") : ∃ username credential,
      server.username = some username ∧ server.credential = some credential := by
  unfold Config.checkServer at hvalid
  split at hvalid
  · cases hvalid
  · split at hvalid
    · cases hvalid
    · next hneither =>
      have hboth : server.username.isSome ∧ server.credential.isSome := by
        simpa [htype, Option.isNone_iff_eq_none, Option.isSome_iff_ne_none] using hneither
      obtain ⟨username, husername⟩ := Option.isSome_iff_exists.1 hboth.1
      obtain ⟨credential, hcredential⟩ := Option.isSome_iff_exists.1 hboth.2
      exact ⟨username, credential, husername, hcredential⟩

/-- Of the servers that are valid, these lack credentials and no others. -/
theorem Server.lacksCredentials_iff (hvalid : Config.checkServer server = .ok ()) :
    server.endpoint.LacksCredentials ↔ server.HasBlankCredentials ∨ server.IsMistyped := by
  have hturn := isTurnUrl_completeUrl server
  by_cases htype : server.type = "turn"
  · have hurl : isTurnUrl server.completeUrl ↔ ¬isStunUrl server.url :=
      ⟨fun h => (hturn.1 h).elim not_isStunUrl_of_isTurnUrl (·.2),
        fun h => hturn.2 (.inr ⟨htype, h⟩)⟩
    obtain ⟨username, credential, husername, hcredential⟩ :=
      exists_credentials_of_checkServer hvalid htype
    have hblank : (server.username.getD "" = "" ∨ server.credential.getD "" = "") ↔
        (server.username = some "" ∨ server.credential = some "") := by
      simp only [husername, hcredential, Option.getD_some, Option.some.injEq]
    have hnot : ¬server.IsMistyped := fun h => h.1 htype
    rw [or_iff_left hnot]
    exact (and_congr hurl hblank).trans ⟨fun h => ⟨htype, h⟩, (·.2)⟩
  · have hurl : isTurnUrl server.completeUrl ↔ isTurnUrl server.url :=
      hturn.trans (or_iff_left fun h => htype h.1)
    have hnot : ¬server.HasBlankCredentials := fun h => htype h.1
    rw [or_iff_right hnot]
    exact (and_congr_left' hurl).trans ⟨fun h => ⟨htype, h⟩, (·.2)⟩

/-! ## Servers that a connection refuses -/

theorem parseUrl_ne_noCredentials (text : List Char) : parseUrl text ≠ .error .noCredentials := by
  intro h
  simp only [parseUrl] at h
  split at h
  · cases h
  · split at h
    · cases h
    · split at h <;> cases h

theorem checkTransport_ne_noCredentials (query : List Char) :
    checkTransport query ≠ .error .noCredentials := by
  intro h
  unfold checkTransport at h
  split at h
  · cases h
  · split at h
    · cases h
    · split at h <;> cases h
  · cases h

theorem check_of_parseUrl (h : parseUrl (dropStunQuery endpoint.url.toList) = .ok u) :
    endpoint.check =
      if u.host.isEmpty then .error .noHost
      else if u.scheme = "turn".toList ∨ u.scheme = "turns".toList then
        checkTransport (u.query.getD []) >>= fun _ =>
          if endpoint.username.isEmpty ∨ endpoint.credential.isEmpty then .error .noCredentials
          else .ok ()
      else if u.scheme ≠ "stun".toList ∧ u.scheme ≠ "stuns".toList then .error .unknownScheme
      else .ok () := by
  unfold Endpoint.check
  rw [h]
  rfl

theorem check_of_parseUrl_error {fault : ServerFault}
    (h : parseUrl (dropStunQuery endpoint.url.toList) = .error fault) :
    endpoint.check = .error fault := by
  simp only [Endpoint.check, h, bind, Except.bind]

/-- What a connection takes for a TURN server is one. -/
theorem isTurnUrl_of_parseUrl (server : Server)
    (h : parseUrl (dropStunQuery server.completeUrl.toList) = .ok u) :
    isTurnUrl server.completeUrl ↔ u.scheme = "turn".toList ∨ u.scheme = "turns".toList := by
  obtain ⟨scheme, hscheme, rest, hrest⟩ := exists_scheme_completeUrl server
  rw [hrest] at h
  rw [scheme_of_parseUrl hscheme h]
  exact (isUrl_of_append hscheme hrest).1

theorem check_ne_ok (h : server.endpoint.LacksCredentials) : server.endpoint.check ≠ .ok () := by
  obtain ⟨hturn, hempty⟩ := h
  cases hparse : parseUrl (dropStunQuery server.endpoint.url.toList) with
  | error fault =>
    rw [check_of_parseUrl_error hparse]
    exact nofun
  | ok u =>
    have hscheme := (isTurnUrl_of_parseUrl server hparse).1 hturn
    have hmissing : server.endpoint.username.isEmpty ∨ server.endpoint.credential.isEmpty := by
      simpa only [String.isEmpty_iff] using hempty
    rw [check_of_parseUrl hparse, if_pos hscheme, if_pos hmissing]
    split
    · exact nofun
    · cases checkTransport (u.query.getD []) <;> exact nofun

theorem lacksCredentials_of_check (h : server.endpoint.check = .error .noCredentials) :
    server.endpoint.LacksCredentials := by
  cases hparse : parseUrl (dropStunQuery server.endpoint.url.toList) with
  | error fault =>
    rw [check_of_parseUrl_error hparse] at h
    cases h
    exact absurd hparse (parseUrl_ne_noCredentials _)
  | ok u =>
    rw [check_of_parseUrl hparse] at h
    split at h
    · cases h
    · split at h
      · next hscheme =>
        refine ⟨(isTurnUrl_of_parseUrl server hparse).2 hscheme, ?_⟩
        cases hquery : checkTransport (u.query.getD []) with
        | error fault =>
          rw [hquery] at h
          cases h
          exact absurd hquery (checkTransport_ne_noCredentials _)
        | ok _ =>
          rw [hquery] at h
          by_cases hmissing : server.endpoint.username.isEmpty ∨ server.endpoint.credential.isEmpty
          · simpa only [String.isEmpty_iff] using hmissing
          · simp only [bind, Except.bind, if_neg hmissing] at h
            cases h
      · split at h <;> cases h

/-! ## Lists of servers -/

theorem checkServers_cons (server : Server) (rest : List Server) :
    checkServers (server :: rest) = server.endpoint.check >>= fun _ => checkServers rest := rfl

theorem exists_of_checkServers {fault : ServerFault} (h : checkServers servers = .error fault) :
    ∃ server ∈ servers, server.endpoint.check = .error fault := by
  induction servers with
  | nil => cases h
  | cons server rest ih =>
    rw [checkServers_cons] at h
    cases hcheck : server.endpoint.check with
    | error first =>
      rw [hcheck] at h
      cases h
      exact ⟨server, List.mem_cons_self, hcheck⟩
    | ok _ =>
      rw [hcheck] at h
      obtain ⟨later, hlater, hfault⟩ := ih h
      exact ⟨later, List.mem_cons_of_mem server hlater, hfault⟩

theorem check_of_checkServers (h : checkServers servers = .ok ()) (hmem : server ∈ servers) :
    server.endpoint.check = .ok () := by
  induction servers with
  | nil => cases hmem
  | cons first rest ih =>
    rw [checkServers_cons] at h
    cases hcheck : first.endpoint.check with
    | error fault =>
      rw [hcheck] at h
      cases h
    | ok _ =>
      rw [hcheck] at h
      rcases List.mem_cons.1 hmem with rfl | hmem
      · exact hcheck
      · exact ih h hmem

end Ice

namespace Config

variable {servers : List Ice.Server} {server : Ice.Server}

theorem checkServer_of_checkServers (h : checkServers servers = .ok ()) (hmem : server ∈ servers) :
    checkServer server = .ok () := by
  induction servers with
  | nil => cases hmem
  | cons first rest ih =>
    unfold checkServers at h
    split at h
    · cases h
    · next hfirst =>
      rcases List.mem_cons.1 hmem with rfl | hmem
      · exact hfirst
      · exact ih h hmem

/-- A valid server reaches a peer connection with its TURN credentials, unless one of them is
blank or it is one of TURN by its own URL and not by its type. A connection refuses no other
server for want of credentials, and with one of these no session ever comes about. -/
theorem turn_credentials_of_valid {config : Config} (hvalid : config.validate = .ok ()) :
    (∀ server ∈ config.servers, server.endpoint.LacksCredentials ↔
      server.HasBlankCredentials ∨ server.IsMistyped) ∧
    (∀ id, Session.create id config = .error (.construction .noCredentials) →
      ∃ server ∈ config.servers, server.HasBlankCredentials ∨ server.IsMistyped) ∧
    ((∃ server ∈ config.servers, server.HasBlankCredentials ∨ server.IsMistyped) →
      ∀ id, ∃ fault, Session.create id config = .error (.construction fault)) := by
  have hlacks (server) (hmem : server ∈ config.servers) :
      server.endpoint.LacksCredentials ↔ server.HasBlankCredentials ∨ server.IsMistyped :=
    Ice.Server.lacksCredentials_iff (checkServer_of_checkServers hvalid hmem)
  refine ⟨hlacks, fun id hrefused => ?_, fun ⟨server, hmem, hkind⟩ id => ?_⟩
  · have hcheck : Ice.checkServers config.servers = .error .noCredentials := by
      unfold Session.create at hrefused
      split at hrefused
      · cases hrefused
      · next hcheck =>
        cases hrefused
        exact hcheck
    obtain ⟨server, hmem, hserver⟩ := Ice.exists_of_checkServers hcheck
    exact ⟨server, hmem, (hlacks server hmem).1 (Ice.lacksCredentials_of_check hserver)⟩
  · have hserver := Ice.check_ne_ok ((hlacks server hmem).2 hkind)
    unfold Session.create
    split
    · next hcheck => exact absurd (Ice.check_of_checkServers hcheck hmem) hserver
    · next fault _ => exact ⟨fault, rfl⟩

/-- A TURN server with all that it wants. -/
def fullServer : Ice.Server := ⟨"full", "turn", "turn:example.org", some "user", some "secret"⟩

/-- A server that its URL makes one of TURN, of another type. -/
def mistypedServer : Ice.Server := ⟨"mistyped", "stun", "turn:example.org", none, none⟩

/-- A server of the right type whose credentials are there and empty. -/
def blankServer : Ice.Server := ⟨"blank", "turn", "example.org", some "", some ""⟩

/-- Of two servers that are valid, the one that is mistyped keeps sessions from coming about. -/
theorem turn_credentials_of_valid_mistyped :
    ({ default with servers := [fullServer, mistypedServer] } : Config).validate = .ok () ∧
      mistypedServer.endpoint.LacksCredentials ∧ ¬fullServer.endpoint.LacksCredentials ∧
      ∀ id, ∃ fault, Session.create id { default with servers := [fullServer, mistypedServer] } =
        .error (.construction fault) := by
  have hvalid : ({ default with servers := [fullServer, mistypedServer] } : Config).validate =
      .ok () := by decide
  obtain ⟨hlacks, -, hrefused⟩ := turn_credentials_of_valid hvalid
  have hmistyped : mistypedServer.IsMistyped := by
    simp [Ice.Server.IsMistyped, mistypedServer, Ice.isTurnUrl, Ice.hasScheme, Ice.startsWith]
  have hfull : ¬(fullServer.HasBlankCredentials ∨ fullServer.IsMistyped) := by
    simp [Ice.Server.HasBlankCredentials, Ice.Server.IsMistyped, fullServer]
  exact ⟨hvalid, (hlacks mistypedServer (by simp)).2 (.inr hmistyped),
    fun h => hfull ((hlacks fullServer (by simp)).1 h),
    hrefused ⟨mistypedServer, by simp, .inr hmistyped⟩⟩

/-- Either kind of server is valid, reaches a connection without credentials and is refused for
the want of them. -/
theorem valid_turn_without_credentials :
    (({ default with servers := [mistypedServer] } : Config).validate = .ok () ∧
      mistypedServer.endpoint = ⟨"turn:example.org", "", ""⟩ ∧
      Session.create "s" { default with servers := [mistypedServer] } =
        .error (.construction .noCredentials)) ∧
    ({ default with servers := [blankServer] } : Config).validate = .ok () ∧
      blankServer.endpoint = ⟨"turn:example.org", "", ""⟩ ∧
      Session.create "s" { default with servers := [blankServer] } =
        .error (.construction .noCredentials) := by
  have hmistyped : Ice.checkServers [mistypedServer] = .error .noCredentials := by decide +kernel
  have hblank : Ice.checkServers [blankServer] = .error .noCredentials := by decide +kernel
  refine ⟨⟨by decide +kernel, by decide +kernel, ?_⟩, by decide +kernel, by decide +kernel, ?_⟩
  · simp only [Session.create, hmistyped]
  · simp only [Session.create, hblank]

end Config

end RtpBridge
