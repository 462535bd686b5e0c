import GatewayDesk.Proofs.Gateway.Address
import GatewayDesk.Proofs.Url.Authority

/-!
# Who is called

A client appends to the text of its server without its last slashes. The request goes to the scheme,
the host and the port that the server names by itself, if it names any.

* `SameOrigin`: addresses with the same scheme, host and port.
* `IsHollow`: servers that name nobody, whose last slashes were all that said so.
* `send_origin`: where every call goes.
* `request_hollow`: a server that names nobody, and the request that is sent for it.
-/

namespace GatewayDesk

namespace Url

/-! ## Origins -/

theorem kind_of_isWeb {url : Url} (h : url.isWeb = true) :
    ∃ usual, Kind.ofScheme url.scheme = .common usual := by
  rcases Bool.or_eq_true _ _ ▸ h with http | https
  · rw [eq_of_beq http]
    exact ⟨80, rfl⟩
  · rw [eq_of_beq https]
    exact ⟨443, rfl⟩

/-- The port, unless it is the usual one. -/
def port? (url : Url) : Option Nat := url.authority.bind Authority.port

/-- Whether two addresses have the same scheme, host and port. -/
structure SameOrigin (a b : Url) : Prop where
  scheme : a.scheme = b.scheme
  host : a.host? = b.host?
  port : a.port? = b.port?

theorem sent_port? (url : Url) : url.sent.port? = url.port? := by
  unfold sent withoutUser port?
  split
  · cases url.authority <;> rfl
  · rfl

theorem sent_scheme (url : Url) : url.sent.scheme = url.scheme := by
  unfold sent withoutUser
  split <;> rfl

theorem isWeb_congr {a b : Url} (h : a.scheme = b.scheme) : a.isWeb = b.isWeb := by
  rw [isWeb, isWeb, h]

theorem isWeb_sent (url : Url) : url.sent.isWeb = url.isWeb := isWeb_congr url.sent_scheme

/-- Whether a text names a scheme and nobody to call: slashes are all that follows the colon. -/
def IsHollow (text : String) : Prop :=
  ∃ scheme slashes, Reader.scheme? (Reader.cleanFront text.toList) = some (scheme, slashes) ∧
    ∀ c ∈ slashes, Reader.isSlash c = true

end Url

namespace Client

/-- A server is what its client calls, with slashes at its end. -/
theorem server_eq (server : String) (timeout : Option Seconds) :
    ∃ n, server.toList = (ofServer server timeout).domain.toList ++ List.replicate n '/' := by
  let backwards := server.toList.reverse
  have slashes : backwards.takeWhile (· == '/') =
      List.replicate (backwards.takeWhile (· == '/')).length '/' :=
    List.eq_replicate_iff.2 ⟨rfl, fun c hc => by
      simpa using List.mem_takeWhile_imp hc⟩
  refine ⟨(backwards.takeWhile (· == '/')).length, ?_⟩
  rw [← List.reverse_replicate, ← slashes, ofServer, String.toList_ofList, ← List.reverse_append,
    List.takeWhile_append_dropWhile, List.reverse_reverse]

/-- A request goes to the origin of the server, unless the server is hollow. -/
theorem request_origin {server : String} {timeout : Option Seconds} {call : Call}
    {request : Request} (h : (ofServer server timeout).request call = .ok request) :
    (Url.IsHollow server ∧ Url.read server = .error .noHost ∧
        request.url.host? = some (.domain ['a', 'p', 'i']) ∧ request.url.port? = none) ∨
      (¬Url.IsHollow server ∧ ∃ base, Url.read server = .ok base ∧ base.isWeb = true ∧
        base.host?.isSome = true ∧ request.url.SameOrigin base) := by
  obtain ⟨url, hu, hs, rfl, web, -⟩ := request_eq_ok_iff.1 h
  rw [Url.ofUrl_url] at web ⊢
  obtain ⟨n, hserver⟩ := server_eq server timeout
  obtain ⟨more, hsuffix⟩ : ∃ more, call.suffix = '/' :: (['a', 'p', 'i'] ++ '/' :: more) :=
    ⟨['d', 'e', 'v', 'i', 'c', 'e', 's'] ++ call.id?.elim [] fun id => '/' :: id.toList, by
      have path : Call.collection.toList =
        '/' :: (['a', 'p', 'i'] ++ '/' :: ['d', 'e', 'v', 'i', 'c', 'e', 's']) := by decide +kernel
      rw [Call.suffix, path]
      simp⟩
  rw [Call.target_eq, hsuffix] at hu
  obtain ⟨rest, target⟩ := Url.Reader.scheme?_of_read hu
  have isWeb : url.isWeb = true := url.isWeb_sent ▸ web
  obtain ⟨usual, kind⟩ := Url.kind_of_isWeb isWeb
  obtain ⟨a, ha, hauth⟩ := Url.Reader.common_of_read target kind hu
  rw [String.toList_ofList] at target
  have visible : ∀ c ∈ ['a', 'p', 'i'], Url.Reader.isEdge c = false := by
    rw [List.forall_mem_cons, List.forall_mem_cons, List.forall_mem_singleton]
    exact ⟨rfl, rfl, rfl⟩
  obtain ⟨inside, edges, after, he, rfl, hfront, hclean⟩ :=
    Url.Reader.scheme?_server n visible target
  rw [← hserver] at hfront hclean
  have host : url.sent.host? = a.host := by rw [sent_host?, Url.host?, hauth]; rfl
  have port : url.sent.port? = a.port := by rw [Url.sent_port?, Url.port?, hauth]; rfl
  by_cases hollow : ∀ c ∈ inside ++ edges, Url.Reader.isSlash c = true
  · left
    have api : Url.Reader.common usual ['a', 'p', 'i'] =
        .ok ⟨[], none, some (.domain ['a', 'p', 'i']), none⟩ :=
      common_name ['a', 'p', 'i'] [] (by decide) (by decide +kernel) rfl
    have name : ∀ c ∈ ['a', 'p', 'i'], Url.Reader.inAuthority c = true :=
      List.all_eq_true.1 (by decide +kernel)
    rw [Url.Reader.authorityText_slashes hollow (List.cons_ne_nil _ _) name, api] at ha
    cases ha
    refine ⟨⟨_, _, hfront, fun c hc => ?_⟩, ?_, host, port⟩
    · rcases List.mem_append.1 hc with hc | hc
      · exact hollow c hc
      · rw [List.eq_of_mem_replicate hc]
        rfl
    · have parts := Url.Reader.read_common hclean kind
      have none : Url.Reader.authorityText (inside ++ List.replicate n '/') = [] := by
        rw [Url.Reader.authorityText_replicate, Url.Reader.authorityText_eq_nil fun c hc =>
          hollow c (List.mem_append_left _ hc)]
      rw [none] at parts
      cases hr : Url.read server with
      | error e => rw [hr] at parts; exact congrArg Except.error (Except.error.inj parts)
      | ok base => rw [hr] at parts; cases parts
  · right
    refine ⟨?_, ?_⟩
    · rintro ⟨scheme, slashes, hs, all⟩
      obtain ⟨rfl, rfl⟩ := Prod.mk.inj (Option.some.inj (hfront.symm.trans hs))
      exact hollow fun c hc => all c (List.mem_append_left _ hc)
    · -- The target's authority is that of the server, since it does not end with an edge.
      have same : Url.Reader.common usual
          (Url.Reader.authorityText (inside ++ List.replicate n '/')) = .ok a := by
        rw [Url.Reader.authorityText_append hollow] at ha
        rcases Url.Reader.authorityText_edges he inside with eq | ⟨front, e, edge, ends⟩
        · rwa [Url.Reader.authorityText_replicate, ← eq]
        · rw [ends] at ha
          exact absurd ha (Url.Reader.common_edge edge usual front a)
      obtain ⟨base, hb, hscheme, hbase⟩ := Url.Reader.read_of_common hclean kind same
      have some : base.host? = a.host := by rw [Url.host?, hbase]; rfl
      refine ⟨base, hb, ?_, ?_, ?_, host.trans some.symm, port.trans ?_⟩
      · exact (Url.isWeb_congr hscheme).trans isWeb
      · rw [some, ← host, sent_host?]
        exact hs
      · rw [Url.sent_scheme, hscheme]
      · rw [Url.port?, hbase]
        rfl

/-- A call sends nothing, or one request to the origin of its server: its scheme, host and port are
those of the address that the server is by itself. There is one gap: a server that names a scheme
and nobody to call is no address by itself, and yet its requests are sent, to the host that the text
appended to it then names. -/
theorem send_origin (server : String) (timeout : Option Seconds) (gateway : Gateway) (call : Call) :
    let client := ofServer server timeout
    let exchange := client.send gateway call
    let unsent := ∃ e, e.IsBuilder ∧ exchange.result = .error e ∧ exchange.gateway = gateway
    let named := ∃ base, Url.read server = .ok base ∧ base.isWeb = true ∧ base.host?.isSome = true
    (unsent ∨ ∃ request, exchange.gateway = (gateway.serve request).2 ∧
      ((¬Url.IsHollow server ∧ ∃ base, Url.read server = .ok base ∧ base.isWeb = true ∧
          base.host?.isSome = true ∧ request.url.SameOrigin base) ∨
        (Url.IsHollow server ∧ Url.read server = .error .noHost ∧
          request.url.host? = some (.domain ['a', 'p', 'i']) ∧ request.url.port? = none))) ∧
    (¬Url.IsHollow server → ¬named → unsent) := by
  intro client exchange unsent named
  cases hr : client.request call with
  | error e =>
    obtain ⟨same, failed⟩ := send_of_error hr gateway
    have none : unsent := ⟨e, isBuilder_of_request hr, failed, same⟩
    exact ⟨.inl none, fun _ _ => none⟩
  | ok request =>
    have sent := (send_of_ok hr gateway).1
    rcases request_origin hr with hollow | ⟨solid, base, hb, web, host, same⟩
    · exact ⟨.inr ⟨request, sent, .inr hollow⟩, fun solid => absurd hollow.1 solid⟩
    · exact ⟨.inr ⟨request, sent, .inl ⟨solid, base, hb, web, host, same⟩⟩,
        fun _ unnamed => absurd ⟨base, hb, web, host⟩ unnamed⟩

/-- A server that is no address by itself, and a request that is sent for it. -/
theorem request_hollow :
    Url.read "http://" = .error .noHost ∧
      ∃ request, (ofServer "http://" none).request .fetch = .ok request ∧
        request.url.text = "http://api/devices" := by
  let authority : Authority := ⟨[], none, some (.domain "api".toList), none⟩
  have rest : Url.Reader.commonRest 80 "/api/devices".toList =
      .ok (some authority, .segments ["devices".toList]) := by
    have text : ("/api/devices".toList.dropWhile Url.Reader.isSlash).takeWhile
        (fun c => !Url.Reader.isSlash c) = "api".toList := by decide +kernel
    have api : Url.Reader.common 80 "api".toList = .ok authority :=
      common_name "api".toList [] (by decide +kernel) (by decide +kernel) rfl
    rw [Url.Reader.commonRest, text, api]
    decide +kernel
  have read : Url.read (Call.fetch.target (ofServer "http://" none).domain) =
      .ok (.http authority ["devices".toList]) := by
    have scheme : Url.Reader.scheme? (Url.Reader.clean
        (Call.fetch.target (ofServer "http://" none).domain).toList) =
          some ("http".toList, "/api/devices".toList) := by decide +kernel
    have fragment : Url.Reader.cut '#' "/api/devices".toList = ("/api/devices".toList, none) := by
      decide +kernel
    have query : Url.Reader.cut '?' "/api/devices".toList = ("/api/devices".toList, none) := by
      decide +kernel
    have kind : Url.Kind.ofScheme "http".toList = .common 80 := by decide +kernel
    rw [Url.read, scheme]
    simp only [fragment, query, kind, Url.Reader.rest, rest]
    decide +kernel
  have sent := request_eq_ok_iff.2 ⟨_, read, rfl, rfl, by decide +kernel, by decide +kernel⟩
  exact ⟨by decide +kernel, _, sent, by decide +kernel⟩

end Client

end GatewayDesk
