import GatewayDesk.Proofs.Gateway.Client
import GatewayDesk.Proofs.Url.AsciiDomain
import GatewayDesk.Proofs.Url.Reading

/-!
# Where calls go

A server is given as a text; every call appends to it, and the whole is read as an address. For a
server of scheme `http` with safe segments after its authority, `request_server` says which address
a call goes to: that of the server, with the collection and the id after it as they are written.

* `Url.sent`: the address as a request holds it, without a user that can be read.
* `request_of_read`: what becomes of an address of scheme `http` that was read.
* `ofServer_serverText`: slashes at the end of a server make no difference.
-/

namespace GatewayDesk

/-! ## Parts of addresses -/

namespace Url

variable {url : Url}

/-- The address as a request holds it. -/
def sent (url : Url) : Url := if url.credentials?.isSome then url.withoutUser else url

/-- The scheme and the authority of an address. -/
def site (url : Url) : List Char :=
  url.scheme ++ [':', '/', '/'] ++ (url.authority.map Authority.text).getD []

/-- The scheme, the host and the port of an address. -/
def origin (url : Url) : List Char := url.withoutUser.site

/-- Whether the user of an address, if there is one, is text. -/
def HasReadableUser (url : Url) : Prop :=
  url.credentials?.isSome = true ∨ ∀ a, url.authority = some a → a.userText = []

/-- Whether the host of an address has none of four characters, which are refused in requests. -/
def HasPlainHost (url : Url) : Prop :=
  ∀ host, url.host? = some host → ∀ c ∈ host.text, c ∉ ['"', '\x60', '\x7b', '\x7d']

theorem hasPlainHost_of_all {host : Host} (h : url.host? = some host)
    (plain : (host.text.all fun c => !(['"', '\x60', '\x7b', '\x7d'].contains c)) = true) :
    url.HasPlainHost := by
  intro other ho c hc
  rw [h] at ho
  cases ho
  simpa using List.all_eq_true.1 plain c hc

theorem ofUrl_url (method : Method) (url : Url) (body : Option String) :
    (Request.ofUrl method url body).url = url.sent := by
  unfold Request.ofUrl sent
  cases url.credentials? <;> rfl

theorem user_of_userText {a : Authority} (h : a.userText = []) :
    a.user = [] ∧ a.password = none := by
  unfold Authority.userText at h
  by_cases he : (a.user.isEmpty && a.password.isNone) = true
  · simpa using he
  · rw [if_neg he] at h
    simp at h

/-- Where the user can be read, the address is sent without it. -/
theorem site_sent (h : url.HasReadableUser) : url.sent.site = url.origin := by
  unfold sent origin
  by_cases hc : url.credentials?.isSome = true
  · rw [if_pos hc]
  · rw [if_neg hc]
    obtain ⟨scheme, authority, path, query, fragment⟩ := url
    cases authority with
    | none => rfl
    | some a =>
      have hu := h.resolve_left hc a rfl
      obtain ⟨h1, h2⟩ := user_of_userText hu
      obtain ⟨user, password, host, port⟩ := a
      obtain ⟨rfl, rfl⟩ : user = [] ∧ password = none := ⟨h1, h2⟩
      rfl

/-- The text of an address is its site and its path, where nothing follows the path. -/
theorem text_http (authority : Authority) (segments : List (List Char)) :
    (http authority segments).text =
      String.ofList ((http authority segments).site ++ Segments.text segments) := by
  have path : (http authority segments).pathText = Segments.text segments := by
    unfold pathText
    split
    case h_1 h => cases h
    case h_2 h => cases h; rfl
    case h_3 h => cases h; rfl
  rw [text, path]
  simp [site, http]

end Url

namespace Call

/-- The id that a call names. -/
def id? : Call → Option String
  | .fetch | .create _ => none
  | .update id _ | .delete id => some id

/-- Whether the id that a call names, if it names one, is a safe segment. -/
def HasSafeId (call : Call) : Prop := ∀ id, call.id? = some id → Segments.IsSafe id.toList

/-- What a call appends to the text of its server. -/
def suffix (call : Call) : List Char :=
  collection.toList ++ (call.id?.elim [] fun id => '/' :: id.toList)

/-- The segments that a call appends. -/
def segments (call : Call) : List (List Char) :=
  [['a', 'p', 'i'], ['d', 'e', 'v', 'i', 'c', 'e', 's']] ++ call.id?.toList.map String.toList

theorem text_segments (call : Call) : Segments.text call.segments = call.suffix := by
  have path : Segments.text [['a', 'p', 'i'], ['d', 'e', 'v', 'i', 'c', 'e', 's']] =
      collection.toList := by decide +kernel
  unfold segments suffix
  rw [← path]
  cases call.id? with
  | none => rfl
  | some id => simp [Segments.text]

theorem target_eq (domain : String) (call : Call) :
    call.target domain = String.ofList (domain.toList ++ call.suffix) := by
  apply String.toList_injective
  have slash : "/".toList = ['/'] := by simp
  unfold suffix
  cases call <;>
    simp only [target, id?, String.toList_append, String.toList_ofList, slash,
      Option.elim_none, Option.elim_some, List.append_nil, List.append_assoc, List.cons_append,
      List.nil_append]

theorem hasSafeId_fetch : fetch.HasSafeId := nofun

theorem hasSafeId_delete {id : String} (h : Segments.IsSafe id.toList) :
    (delete id).HasSafeId := by
  rintro _ ⟨⟩
  exact h

theorem HasSafeId.segments {call : Call} (h : call.HasSafeId) :
    ∀ s ∈ call.segments, Segments.IsSafe s := by
  intro s hs
  rw [Call.segments, List.mem_append] at hs
  rcases hs with hs | hs
  · have words : ∀ s ∈ [['a', 'p', 'i'], ['d', 'e', 'v', 'i', 'c', 'e', 's']],
        Segments.IsSafe s := by decide +kernel
    exact words s hs
  · obtain ⟨id, hid, rfl⟩ := List.mem_map.1 hs
    exact h id (Option.mem_toList.1 hid)

/-- Calls that name different ids append different texts. -/
theorem suffix_injective {a b : Call} (h : a.suffix = b.suffix) : a.id? = b.id? := by
  have rest := List.append_cancel_left h
  cases ha : a.id? with
  | none =>
    cases hb : b.id? with
    | none => rfl
    | some id => rw [ha, hb] at rest; exact absurd rest (List.cons_ne_nil _ _).symm
  | some id =>
    cases hb : b.id? with
    | none => rw [ha, hb] at rest; exact absurd rest (List.cons_ne_nil _ _)
    | some id' =>
      rw [ha, hb] at rest
      rw [String.toList_injective (List.cons_inj_right _ |>.1 rest)]

end Call

namespace Client

variable {authority : List Char} {pieces : List (List Char)} {base : Url}

/-! ## Servers -/

/-- The text of a server of scheme `http`: an authority, segments, and slashes at the end. -/
def serverText (authority : List Char) (pieces : List (List Char)) (slashes : Nat) : String :=
  String.ofList (Url.httpText authority pieces ++ List.replicate slashes '/')

theorem httpText_ends (hne : authority ≠ []) (ha : ∀ c ∈ authority, Url.isAuthorityChar c = true)
    (hs : ∀ s ∈ pieces, Segments.IsSafe s) :
    ∃ front c, Url.httpText authority pieces = front ++ [c] ∧ c ≠ '/' := by
  rcases List.eq_nil_or_concat pieces with rfl | ⟨ps, s, rfl⟩
  · obtain ⟨front, c, rfl⟩ := (List.eq_nil_or_concat authority).resolve_left hne
    have hc := Url.isAuthorityChar_iff.1 (ha c (by simp))
    refine ⟨['h', 't', 't', 'p', ':', '/', '/'] ++ front, c, ?_, hc.2.2.1⟩
    simp [Url.httpText, Segments.text]
  · have hsafe := hs s (by simp)
    obtain ⟨front, c, rfl⟩ := (List.eq_nil_or_concat s).resolve_left hsafe.nonempty
    have hc := Segments.isSafeChar_eq (hsafe.chars c (by simp))
    refine ⟨Url.httpText authority ps ++ '/' :: front, c, ?_, hc.2.1⟩
    simp [Url.httpText, Segments.text]

/-- Slashes at the end of a server make no difference. -/
theorem ofServer_serverText (hne : authority ≠ [])
    (ha : ∀ c ∈ authority, Url.isAuthorityChar c = true) (hs : ∀ s ∈ pieces, Segments.IsSafe s)
    (slashes : Nat) (timeout : Option Seconds) :
    ofServer (serverText authority pieces slashes) timeout =
      ⟨String.ofList (Url.httpText authority pieces), timeout⟩ := by
  obtain ⟨front, c, he, hc⟩ := httpText_ends hne ha hs
  have first : (front ++ [c] ++ List.replicate slashes '/').reverse.dropWhile (· == '/') =
      (front ++ [c]).reverse := by
    rw [List.reverse_append, List.reverse_replicate, List.dropWhile_append_of_pos (by simp),
      List.reverse_append, List.reverse_singleton, List.singleton_append,
      List.dropWhile_cons_of_neg (by simpa using hc)]
  rw [ofServer, serverText, he, String.toList_ofList, first, List.reverse_reverse]

/-! ## Calls -/

theorem isTarget_iff {url : Url} (hs : url.host?.isSome = true) :
    isTarget url = true ↔ url.HasPlainHost ∧ url.text.utf8ByteSize < 65535 := by
  obtain ⟨host, hh⟩ := Option.isSome_iff_exists.1 hs
  have plain : url.HasPlainHost ↔ ∀ c ∈ host.text, c ∉ ['"', '\x60', '\x7b', '\x7d'] :=
    ⟨fun h => h host hh, fun h host' he => by rw [hh] at he; cases he; exact h⟩
  rw [plain, isTarget, hh]
  simp only [Option.map_some, Option.getD_some, Bool.and_eq_true, Bool.not_eq_true',
    List.any_eq_false, decide_eq_true_eq, List.contains_iff_mem]

/-- The address of an authority without segments. -/
theorem read_authority (hne : authority ≠ [])
    (ha : ∀ c ∈ authority, Url.isAuthorityChar c = true) :
    Url.read (String.ofList ("http://".toList ++ authority)) =
      (Url.Reader.common 80 authority).map fun a => .http a [[]] := by
  have text : "http://".toList ++ authority = Url.httpText authority [] := by
    simp [Url.httpText, Segments.text]
  rw [text, Url.read_http hne ha (by simp)]
  rfl

/-- The address of a call is that of its server, with the segments of the call after it. -/
theorem read_target {a : Authority} (hne : authority ≠ [])
    (ha : ∀ c ∈ authority, Url.isAuthorityChar c = true) (hs : ∀ s ∈ pieces, Segments.IsSafe s)
    (hc : Url.Reader.common 80 authority = .ok a) {call : Call} (hi : call.HasSafeId) :
    Url.read (call.target (String.ofList (Url.httpText authority pieces))) =
      .ok (.http a (pieces ++ call.segments)) := by
  have whole : Url.httpText authority pieces ++ call.suffix =
      Url.httpText authority (pieces ++ call.segments) := by
    rw [← call.text_segments]
    simp [Url.httpText, Segments.text]
  have all : ∀ s ∈ pieces ++ call.segments, Segments.IsSafe s := fun s h =>
    (List.mem_append.1 h).elim (hs s) (hi.segments s)
  have some : Url.home (pieces ++ call.segments) = pieces ++ call.segments := by
    cases pieces <;> rfl
  rw [Call.target_eq, String.toList_ofList, whole, Url.read_http hne ha all, hc, some]
  rfl

/-- The text of the address that a call sends. -/
theorem text_sent (a : Authority) (pieces : List (List Char)) (call : Call) :
    (Url.http a (pieces ++ call.segments)).sent.text =
      String.ofList ((Url.http a [[]]).sent.site ++ Segments.text pieces ++ call.suffix) := by
  have path : Segments.text (pieces ++ call.segments) = Segments.text pieces ++ call.suffix := by
    rw [← call.text_segments]
    simp [Segments.text]
  have same : (Url.http a (pieces ++ call.segments)).credentials? =
      (Url.http a [[]]).credentials? := rfl
  unfold Url.sent
  rw [same]
  split
  · show (Url.http { a with user := [], password := none } _).text = _
    rw [Url.text_http, path, List.append_assoc]
    rfl
  · rw [Url.text_http, path, List.append_assoc]
    rfl

theorem sent_host? (url : Url) : url.sent.host? = url.host? := by
  unfold Url.sent Url.withoutUser Url.host?
  split
  · cases url.authority <;> rfl
  · rfl

theorem sent_isWeb {url : Url} (h : url.scheme = ['h', 't', 't', 'p']) : url.sent.isWeb = true := by
  unfold Url.sent Url.isWeb Url.withoutUser
  split <;> simp [h]

/-- What becomes of a call whose address was read. -/
theorem request_of_read {client : Client} {call : Call} {url : Url}
    (h : Url.read (call.target client.domain) = .ok url) (hs : url.host?.isSome = true)
    (http : url.scheme = ['h', 't', 't', 'p']) :
    (url.HasPlainHost ∧ url.sent.text.utf8ByteSize ≤ 65534 →
      ∃ request, client.request call = .ok request ∧ request.url = url.sent) ∧
    (¬(url.HasPlainHost ∧ url.sent.text.utf8ByteSize ≤ 65534) →
      ∃ e, client.request call = .error e ∧ e.IsBuilder) := by
  have target : isTarget url.sent = true ↔
      url.HasPlainHost ∧ url.sent.text.utf8ByteSize ≤ 65534 := by
    rw [isTarget_iff (by rwa [sent_host?]), Nat.lt_succ_iff]
    simp only [Url.HasPlainHost, sent_host?]
  constructor
  · intro hp
    refine ⟨.ofUrl call.method url call.body, ?_, Url.ofUrl_url _ _ _⟩
    refine request_eq_ok_iff.2 ⟨url, h, hs, rfl, ?_⟩
    rw [Url.ofUrl_url]
    exact ⟨sent_isWeb http, target.2 hp⟩
  · intro hp
    cases hr : client.request call with
    | error e => exact ⟨e, rfl, isBuilder_of_request hr⟩
    | ok request =>
      obtain ⟨url', hu, -, rfl, -, ht⟩ := request_eq_ok_iff.1 hr
      rw [h] at hu
      cases hu
      rw [Url.ofUrl_url] at ht
      exact absurd (target.1 ht) hp

variable {a : Authority}

/-- The address that a call goes to. -/
def address (base : Url) (pieces : List (List Char)) (call : Call) : String :=
  String.ofList (base.sent.site ++ Segments.text pieces ++ call.suffix)

/-- What becomes of a call to a server with a given authority. -/
theorem request_of_authority (hne : authority ≠ [])
    (ha : ∀ c ∈ authority, Url.isAuthorityChar c = true) (hs : ∀ s ∈ pieces, Segments.IsSafe s)
    (hc : Url.Reader.common 80 authority = .ok a) (slashes : Nat) (timeout : Option Seconds)
    {call : Call} (hi : call.HasSafeId) :
    let client := ofServer (serverText authority pieces slashes) timeout
    let base := Url.http a [[]]
    (base.HasPlainHost ∧ (address base pieces call).utf8ByteSize ≤ 65534 →
      ∃ request, client.request call = .ok request ∧
        request.url.text = address base pieces call) ∧
    (¬(base.HasPlainHost ∧ (address base pieces call).utf8ByteSize ≤ 65534) →
      ∃ e, client.request call = .error e ∧ e.IsBuilder) := by
  intro client base
  have domain : client.domain = String.ofList (Url.httpText authority pieces) :=
    congrArg Client.domain (ofServer_serverText hne ha hs slashes timeout)
  have read := read_target hne ha hs hc hi
  have text := text_sent a pieces call
  rw [← domain] at read
  obtain ⟨sends, refuses⟩ := request_of_read read (Url.host_of_common hc) rfl
  rw [text] at sends refuses
  refine ⟨fun h => ?_, refuses⟩
  obtain ⟨request, hr, hu⟩ := sends h
  exact ⟨request, hr, by rw [hu, text]; rfl⟩

/-- A call to a server of scheme `http` goes to the address of the server with the collection and
the id after it, as they are written, unless its host has a character that requests refuse or the
address is too long. Different ids go to different addresses, and slashes at the end of the server
make no difference. -/
theorem request_server
    (printable : ∀ c ∈ authority, Url.isAuthorityChar c = true)
    (safe : ∀ s ∈ pieces, Segments.IsSafe s)
    (accepted : Url.read (String.ofList ("http://".toList ++ authority)) = .ok base)
    (slashes : Nat) (timeout : Option Seconds) :
    let client := ofServer (serverText authority pieces slashes) timeout
    (∀ call : Call, call.HasSafeId →
      (base.HasPlainHost ∧ (address base pieces call).utf8ByteSize ≤ 65534 →
        ∃ request, client.request call = .ok request ∧
          request.url.text = address base pieces call) ∧
      (¬(base.HasPlainHost ∧ (address base pieces call).utf8ByteSize ≤ 65534) →
        ∃ e, client.request call = .error e ∧ e.IsBuilder)) ∧
    (base.HasReadableUser → ∀ call : Call, address base pieces call =
      String.ofList (base.origin ++ Segments.text pieces ++ call.suffix)) ∧
    (∀ b c : Call, b.HasSafeId → c.HasSafeId → b.id? ≠ c.id? → ∀ r s,
      client.request b = .ok r → client.request c = .ok s → r.url.text ≠ s.url.text) ∧
    client = ofServer (serverText authority pieces 0) timeout := by
  -- An address needs a host, so that what was read has an authority.
  have hne : authority ≠ [] := by
    rintro rfl
    have none : Url.read (String.ofList ("http://".toList ++ [])) = .error .noHost := by
      decide +kernel
    rw [none] at accepted
    cases accepted
  obtain ⟨a, hc, rfl⟩ : ∃ a, Url.Reader.common 80 authority = .ok a ∧ base = .http a [[]] := by
    rw [read_authority hne printable] at accepted
    cases hc : Url.Reader.common 80 authority with
    | error e => rw [hc] at accepted; cases accepted
    | ok a => rw [hc] at accepted; cases accepted; exact ⟨a, rfl, rfl⟩
  intro client
  have goes (call : Call) (hi : call.HasSafeId) :=
    request_of_authority hne printable safe hc slashes timeout hi
  have text {call : Call} {request : Request} (hi : call.HasSafeId)
      (h : client.request call = .ok request) :
      request.url.text = address (.http a [[]]) pieces call := by
    obtain ⟨sends, refuses⟩ := goes call hi
    by_cases hp : (Url.http a [[]]).HasPlainHost ∧
        (address (.http a [[]]) pieces call).utf8ByteSize ≤ 65534
    · obtain ⟨request', hr, ht⟩ := sends hp
      rw [hr] at h
      cases h
      exact ht
    · obtain ⟨e, he, -⟩ := refuses hp
      rw [he] at h
      cases h
  refine ⟨goes, fun hu call => by rw [address, Url.site_sent hu], ?_, ?_⟩
  · intro b c hb hc hid r s hr hs he
    rw [text hb hr, text hc hs] at he
    exact hid (Call.suffix_injective (List.append_cancel_left (String.ofList_injective he)))
  · rw [ofServer_serverText hne printable safe 0 timeout]
    exact ofServer_serverText hne printable safe slashes timeout

/-! ## Servers with a name -/

/-- The authority of a server with a name. -/
theorem common_name {usual : Nat} {cs : List Char} (host after : List Char) {port : Option Nat}
    (parts : Url.Reader.cutHost false (Url.Reader.cutUser cs).2 = (host, after))
    (name : Host.IsName host) (hp : Url.Reader.port? (some usual) after = .ok port) :
    Url.Reader.common usual cs =
      .ok ⟨(Url.Reader.user ((Url.Reader.cutUser cs).1.getD [])).1,
        (Url.Reader.user ((Url.Reader.cutUser cs).1.getD [])).2,
        some (.domain (host.map Char.toLower)), port⟩ := by
  have some : ¬(host.isEmpty = true) := by simpa using name.nonempty
  rw [Url.common_eq, parts]
  simp only [if_neg some, Host.ofText_name name, Except.bind, hp]
  rfl

/-- A call to a server whose name has two letters. -/
theorem request_gw (timeout : Option Seconds) {call : Call} (safe : call.HasSafeId)
    (short : (address (.http ⟨[], none, some (.domain ['g', 'w']), none⟩ [[]]) []
      call).utf8ByteSize ≤ 65534) :
    ∃ request, (ofServer "http://gw" timeout).request call = .ok request ∧
      request.url.text =
        address (.http ⟨[], none, some (.domain ['g', 'w']), none⟩ [[]]) [] call := by
  have common : Url.Reader.common 80 ['g', 'w'] =
      .ok ⟨[], none, some (.domain ['g', 'w']), none⟩ :=
    common_name ['g', 'w'] [] (by decide +kernel) (by decide +kernel) (by decide +kernel)
  have printable : ∀ c ∈ ['g', 'w'], Url.isAuthorityChar c = true :=
    List.all_eq_true.1 (by decide +kernel)
  have plain : ∀ piece ∈ ([] : List (List Char)), Segments.IsSafe piece := nofun
  have server : serverText ['g', 'w'] [] 0 = "http://gw" := by decide +kernel
  rw [← server]
  exact (request_of_authority (List.cons_ne_nil _ _) printable plain common 0 timeout safe).1
    ⟨Url.hasPlainHost_of_all rfl (by decide +kernel), short⟩

theorem request_fetch_gw :
    ∃ request, (ofServer "http://gw" none).request .fetch = .ok request := by
  obtain ⟨request, accepted, -⟩ := request_gw none Call.hasSafeId_fetch (by decide +kernel)
  exact ⟨request, accepted⟩

theorem request_delete_gw {id : String} (safe : Segments.IsSafe id.toList)
    (short : ("http://gw/api/devices/" ++ id).utf8ByteSize ≤ 65534) :
    ∃ request, (ofServer "http://gw" none).request (.delete id) = .ok request ∧
      request.method = .delete ∧ request.url.text = "http://gw/api/devices/" ++ id := by
  have collection : (Url.http ⟨[], none, some (.domain ['g', 'w']), none⟩ [[]]).sent.site ++
      Segments.text [] ++ (Call.collection.toList ++ ['/']) =
        "http://gw/api/devices/".toList := by decide +kernel
  have text : address (.http ⟨[], none, some (.domain ['g', 'w']), none⟩ [[]]) []
      (.delete id) = "http://gw/api/devices/" ++ id := by
    apply String.toList_injective
    rw [String.toList_append, ← collection, address, String.toList_ofList]
    simp [Call.suffix, Call.id?]
  obtain ⟨request, accepted, sent⟩ :=
    request_gw none (Call.hasSafeId_delete safe) (text ▸ short)
  exact ⟨request, accepted, (sends_of_request accepted).1, sent.trans text⟩

/-- A call to a server with a user, large letters, the usual port and slashes at its end. -/
theorem request_server_gateway :
    ∃ request,
      (ofServer "http://admin:pw@Gateway:80/v1//" none).request (.delete "a%2Fb") = .ok request ∧
        request.url.text = "http://gateway/v1/api/devices/a%2Fb" := by
  have common : Url.Reader.common 80 "admin:pw@Gateway:80".toList =
      .ok ⟨"admin".toList, some "pw".toList, some (.domain "gateway".toList), none⟩ :=
    common_name "Gateway".toList ":80".toList (by decide +kernel) (by decide +kernel)
      (by decide +kernel)
  have printable : ∀ c ∈ "admin:pw@Gateway:80".toList, Url.isAuthorityChar c = true :=
    List.all_eq_true.1 (by decide +kernel)
  have safe : ∀ s ∈ ["v1".toList], Segments.IsSafe s :=
    List.forall_mem_singleton.2 (by decide +kernel)
  have read := read_authority (by decide +kernel) printable
  rw [common] at read
  have safeId : (Call.delete "a%2Fb").HasSafeId := Call.hasSafeId_delete (by decide +kernel)
  have sendable : (Url.http ⟨"admin".toList, some "pw".toList, some (.domain "gateway".toList),
      none⟩ [[]]).HasPlainHost ∧ (address (Url.http ⟨"admin".toList, some "pw".toList,
        some (.domain "gateway".toList), none⟩ [[]]) ["v1".toList]
          (.delete "a%2Fb")).utf8ByteSize ≤ 65534 :=
    ⟨Url.hasPlainHost_of_all rfl (by decide +kernel), by decide +kernel⟩
  obtain ⟨request, hr, ht⟩ := ((request_server printable safe read 2 none).1 _ safeId).1 sendable
  have server : serverText "admin:pw@Gateway:80".toList ["v1".toList] 2 =
      "http://admin:pw@Gateway:80/v1//" := by decide +kernel
  rw [server] at hr
  refine ⟨request, hr, ?_⟩
  rw [ht]
  decide +kernel

theorem isSafe_replicate {c : Char} (h : Segments.isSafeChar c = true) {n : Nat} (hn : 6 < n) :
    Segments.IsSafe (List.replicate n c) := by
  refine ⟨?_, fun d hd => by rwa [List.eq_of_mem_replicate hd], fun hm => ?_⟩
  · intro he
    have := congrArg List.length he
    rw [List.length_replicate, List.length_nil] at this
    omega
  · have short : ∀ s ∈ Segments.dotSegments, s.length ≤ 6 := by decide
    have := short _ hm
    rw [List.length_replicate] at this
    omega

theorem length_le_utf8ByteSize (cs : List Char) : cs.length ≤ (String.ofList cs).utf8ByteSize := by
  induction cs with
  | nil => exact Nat.zero_le _
  | cons c cs ih =>
    have := c.utf8Size_pos
    rw [List.length_cons, String.ofList_cons, String.utf8ByteSize_append,
      String.utf8ByteSize_singleton]
    omega

/-- A call with a long id is refused. -/
theorem request_long (hne : authority ≠ []) (ha : ∀ c ∈ authority, Url.isAuthorityChar c = true)
    (hs : ∀ s ∈ pieces, Segments.IsSafe s) (hc : Url.Reader.common 80 authority = .ok a)
    (timeout : Option Seconds) {id : List Char} (safe : Segments.IsSafe id)
    (long : 65534 < id.length) (request : Request) :
    (ofServer (serverText authority pieces 0) timeout).request (.delete (String.ofList id)) ≠
      .ok request := by
  have deletes : (Call.delete (String.ofList id)).HasSafeId :=
    Call.hasSafeId_delete (by rwa [String.toList_ofList])
  have size : id.length ≤
      (address (.http a [[]]) pieces (.delete (String.ofList id))).utf8ByteSize := by
    refine le_trans ?_ (length_le_utf8ByteSize _)
    have some : (Call.delete (String.ofList id)).id? = some (String.ofList id) := rfl
    rw [Call.suffix, some, Option.elim_some, String.toList_ofList]
    simp only [List.length_append, List.length_cons]
    omega
  intro hr
  obtain ⟨e, he, -⟩ := (request_of_authority hne ha hs hc 0 timeout deletes).2 fun h => by
    have := h.2
    omega
  cases he.symm.trans hr

/-- Servers and ids for which a call does not go to the scheme, the host and the port of its server
with the collection and the id after it: a host with a quotation mark and an id without an end to
it are refused, and a user that is not text stays in the address. -/
theorem request_elsewhere :
    (Url.read "http://a\"b" = .ok (.http ⟨[], none, some (.domain "a\"b".toList), none⟩ [[]]) ∧
      (∀ c ∈ "a\"b".toList, Url.isAuthorityChar c = true) ∧
      ∀ request, (ofServer "http://a\"b" none).request .fetch ≠ .ok request) ∧
    (Url.read "http://%ff@gw" =
        .ok (.http ⟨"%ff".toList, none, some (.domain "gw".toList), none⟩ [[]]) ∧
      (∀ c ∈ "%ff@gw".toList, Url.isAuthorityChar c = true) ∧
      (Url.http ⟨"%ff".toList, none, some (.domain "gw".toList), none⟩ [[]]).origin =
        "http://gw".toList ∧
      ∃ request, (ofServer "http://%ff@gw" none).request .fetch = .ok request ∧
        request.url.text = "http://%ff@gw/api/devices") ∧
    ∃ id : String, Segments.IsSafe id.toList ∧
      ∀ request, (ofServer "http://gw" none).request (.delete id) ≠ .ok request := by
  have none : ∀ s ∈ ([] : List (List Char)), Segments.IsSafe s := by simp
  refine ⟨?_, ?_, ?_⟩
  · have common : Url.Reader.common 80 "a\"b".toList =
        .ok ⟨[], .none, some (.domain "a\"b".toList), .none⟩ :=
      common_name "a\"b".toList [] (by decide +kernel) (by decide +kernel) (by decide +kernel)
    have printable : ∀ c ∈ "a\"b".toList, Url.isAuthorityChar c = true :=
      List.all_eq_true.1 (by decide +kernel)
    have read := read_authority (by decide +kernel) printable
    rw [common] at read
    refine ⟨read, printable, fun request hr => ?_⟩
    obtain ⟨e, he, -⟩ := (request_of_authority (by decide +kernel) printable none common 0 .none
      Call.hasSafeId_fetch).2 fun h => h.1 _ rfl '"' (by decide +kernel) (by decide)
    cases he.symm.trans hr
  · have common : Url.Reader.common 80 "%ff@gw".toList =
        .ok ⟨"%ff".toList, .none, some (.domain "gw".toList), .none⟩ :=
      common_name "gw".toList [] (by decide +kernel) (by decide +kernel) (by decide +kernel)
    have printable : ∀ c ∈ "%ff@gw".toList, Url.isAuthorityChar c = true :=
      List.all_eq_true.1 (by decide +kernel)
    have read := read_authority (by decide +kernel) printable
    rw [common] at read
    obtain ⟨request, hr, ht⟩ :=
      (request_of_authority (by decide +kernel) printable none common 0 .none
        Call.hasSafeId_fetch).1 ⟨Url.hasPlainHost_of_all rfl (by decide +kernel), by decide +kernel⟩
    refine ⟨read, printable, by decide +kernel, request, hr, ?_⟩
    rw [ht]
    decide +kernel
  · have common : Url.Reader.common 80 "gw".toList =
        .ok ⟨[], .none, some (.domain "gw".toList), .none⟩ :=
      common_name "gw".toList [] (by decide +kernel) (by decide +kernel) (by decide +kernel)
    obtain ⟨id, safe, long⟩ : ∃ id : List Char, Segments.IsSafe id ∧ 65534 < id.length :=
      ⟨List.replicate 65535 'a', isSafe_replicate (by decide) (by omega), by
        rw [List.length_replicate]; omega⟩
    exact ⟨String.ofList id, by rwa [String.toList_ofList],
      request_long (by decide +kernel) (List.all_eq_true.1 (by decide +kernel)) none common .none
        safe long⟩

end Client

end GatewayDesk
