import Formwork.Http.Client
import Formwork.Proofs.Codec.FormPairs
import Formwork.Proofs.Form.Pairs
import Formwork.Proofs.Http.Chain
import Formwork.Proofs.Http.Uri

/-! # Submitted forms arrive

A client submits pairs in the body of a request, to a target that may carry pairs of its
own. Whoever is called in the chain that the request leads to reads the pairs of the body
and behind them those of the target, and has the first value of a key in the target as its
query (`Client.reads_formRequest`).
-/

namespace Formwork

variable {S : Type}

/-! ## Requests in a chain -/

/-- The middleware hands on the request that it was given. -/
def Middleware.KeepsRequest (m : Middleware S) : Prop :=
  ∀ c state d flow later, (m c).run state = (.ok (d, flow), later) → d.request = c.request

/-- No operation on a context changes its request. -/
theorem Middleware.IsLawful.keepsRequest {m : Middleware S} (h : IsLawful m) : KeepsRequest m :=
  fun c state d flow later hrun => (h c state d flow later hrun).keeps.2.2

theorem Target.Passes.request {passed : List (Middleware S)} {c d : Context} {s t : S}
    (hm : ∀ m ∈ passed, Middleware.KeepsRequest m) (h : Passes passed c s d t) :
    d.request = c.request := by
  induction h with
  | nil => rfl
  | cons first _ ih =>
      rw [List.forall_mem_cons] at hm
      rw [ih hm.2]
      exact hm.1 _ _ _ _ _ first

theorem Server.start?_of_target? {server : Server S} {around : Surroundings} {request : Request}
    {target : Target S} {params : Dict String}
    (ht : server.target? (arriving around request) = some (target, params))
    (hfits : request.body.length ≤ server.site.settings.limits.bodySize) :
    server.start? around request =
      some (target, target.start server.site around.now params (arriving around request)) := by
  rw [start?, ht, Option.bind_some]
  exact if_neg (Nat.not_lt.2 hfits)

/-- On its way to a chain a request gets no second type of its body. -/
theorem Server.header_arriving (around : Surroundings) (request : Request) :
    (arriving around request).header "content-type" = request.header "content-type" := by
  have hname : Text.lowerAscii "content-type" = "content-type" := by decide +kernel
  have hid : idHeader ≠ "content-type" := by decide
  unfold arriving Request.header
  dsimp only
  rw [hname]
  split
  · rfl
  · rw [Headers.get?, Headers.getAll_append, if_neg hid, List.append_nil, Headers.get?]

namespace Client

theorem header_withCookies (client : Client) (request : Request) :
    (client.withCookies request).header "content-type" = request.header "content-type" := by
  have hname : Text.lowerAscii "content-type" = "content-type" := by decide +kernel
  have hcookie : "cookie" ≠ "content-type" := by decide
  unfold withCookies Request.header
  split
  · rfl
  · dsimp only
    rw [hname, Headers.get?, Headers.get?, Headers.getAll_append, if_neg hcookie, List.append_nil]

/-- The request as a chain sees it: its type, its query and its body are those that were sent. -/
theorem arriving_withCookies (client : Client) (around : Surroundings) (request : Request) :
    let arrived := Server.arriving around (client.withCookies request)
    arrived.header "content-type" = request.header "content-type" ∧
      arrived.uri.query = request.uri.query ∧ arrived.body = request.body := by
  have hquery : ∀ u : Uri, u.trimmed.query = u.query := by
    intro u
    unfold Uri.trimmed
    split <;> rfl
  have hsent : (client.withCookies request).uri = request.uri ∧
      (client.withCookies request).body = request.body := by
    unfold withCookies
    split <;> exact ⟨rfl, rfl⟩
  refine ⟨?_, ?_, hsent.2⟩
  · rw [Server.header_arriving, header_withCookies]
  · show (client.withCookies request).uri.trimmed.query = _
    rw [hquery, hsent.1]

end Client

/-! ## What is read -/

/-- The context reads the pairs of a body and of a query: as a form those of the body first,
and the first value of a key in the query. -/
structure Context.Reads (c : Context) (fields pairs : List (String × String)) : Prop where
  getAll : ∀ key, c.form.getAll key = valuesOf key fields ++ valuesOf key pairs
  get : ∀ key, c.form.get key = (valuesOf key fields ++ valuesOf key pairs).headD ""
  query : ∀ key, c.query key = (valuesOf key pairs).headD ""
  keys : ∀ key, key ∈ c.form.keys ↔ key ∈ fields.map Prod.fst ∨ key ∈ pairs.map Prod.fst

theorem Context.reads_of_request {c : Context} {fields : List (String × String)}
    (htype : c.request.header "content-type" = "application/x-www-form-urlencoded")
    (hbody : c.request.body = FormPairs.write fields) : c.Reads fields c.request.uri.pairs := by
  have hhead : Text.hasHead "application/x-www-form-urlencoded"
      "application/x-www-form-urlencoded" = true := by decide
  have hform : c.form = ⟨fields ++ c.request.uri.pairs⟩ := by
    rw [form, htype, hhead, if_pos rfl, hbody, Form.ofEncoded, Option.map_some, Option.getD_some,
      FormPairs.read_write]
    rfl
  refine ⟨fun key => ?_, fun key => ?_, fun key => getD_find?_eq_headD key _ "", fun key => ?_⟩
  · rw [hform, Form.getAll, valuesOf_append]
  · rw [hform, Form.get, Form.getAll, valuesOf_append]
  · rw [hform, Form.keys, mem_keysOf, List.map_append, List.mem_append]

namespace Client

/-- A form can be submitted with any method, to any path, with any pairs in the target. If the
request has a target and its body is not too large, a chain starts, and everybody in it reads
the submitted pairs and those of the request's target: with every key its values in order,
and no other keys. -/
theorem reads_formRequest {method path uri : String} {fields pairs : List (String × String)}
    (hm : Request.isMethod method = true) (hp : Uri.IsPath path)
    (hc : Uri.Carries path pairs uri) (hs : uri.utf8ByteSize ≤ Uri.lengthLimit) :
    ∃ request, formRequest? method uri fields = some request ∧
      ∀ (client : Client) (server : Server S) (around : Surroundings) (target : Target S)
        (params : Dict String),
        server.target? (Server.arriving around (client.withCookies request)) =
          some (target, params) →
        (FormPairs.write fields).length ≤ server.site.settings.limits.bodySize →
        ∃ start, server.start? around (client.withCookies request) = some (target, start) ∧
          ∀ passed rest state c later, target.middlewares = passed ++ rest →
            (∀ m ∈ passed, Middleware.KeepsRequest m) →
            Target.Passes passed start state c later → c.Reads fields pairs := by
  obtain ⟨u, hu, hpairs⟩ := Uri.parse?_of_carries hp hc hs
  let request : Request :=
    { method, uri := u
      headers := [("content-type", Utf8.encode "application/x-www-form-urlencoded")]
      body := FormPairs.write fields }
  have hrequest : formRequest? method uri fields = some request := by
    unfold formRequest?
    rw [hm, hu]
    rfl
  have htype : request.header "content-type" = "application/x-www-form-urlencoded" := by
    show ((Headers.get? [("content-type", _)] (Text.lowerAscii "content-type")).bind
      Header.visibleText?).getD "" = _
    decide +kernel
  refine ⟨request, hrequest, fun client server around target params ht hfits => ?_⟩
  obtain ⟨hheader, hquery, hbody⟩ := arriving_withCookies client around request
  have hstart := Server.start?_of_target? ht (show (Server.arriving around
    (client.withCookies request)).body.length ≤ _ by rw [hbody]; exact hfits)
  refine ⟨_, hstart, fun passed rest state c later _ hkeeps hpasses => ?_⟩
  have harrived : c.request = Server.arriving around (client.withCookies request) := by
    rw [hpasses.request hkeeps]
    rfl
  have hreads : c.Reads fields c.request.uri.pairs := by
    apply Context.reads_of_request
    · rw [harrived, hheader, htype]
    · rw [harrived, hbody]
  rwa [harrived, Uri.pairs, hquery, ← Uri.pairs, hpairs] at hreads

/-! ## A guest book

Who signs it says so in the body, and where from in the target. -/

def stamp : Middleware Unit := fun c => return (c.withStatus 201, .next)

def guestBook : App Unit :=
  { routes := .mk "" "" [] [⟨.post, "/sign", "", fun c => return c, [stamp]⟩] [] }

theorem isLawful_stamp : Middleware.IsLawful stamp := by
  intro c state d flow later h
  cases h
  exact .single (.draft 201 c.body c.shared rfl)

/-- What the guests say has characters of all kinds. -/
theorem guestBook_reads :
    ∃ request server target start c,
      formRequest? "POST" ("/sign" ++ "?" ++ FormPairs.writeText [("from", "a=b&c"), ("name", "?")])
        [("name", "Zoë +1"), ("", ""), ("name", "")] = some request ∧
      (guestBook.build {}).run () = (.ok server, ()) ∧
      server.start? ⟨1000, "a", {}⟩ (withCookies {} request) = some (target, start) ∧
      Target.Passes target.middlewares start () c () ∧
      c.Reads [("name", "Zoë +1"), ("", ""), ("name", "")] [("from", "a=b&c"), ("name", "?")] := by
  obtain ⟨request, hrequest, hreads⟩ := @reads_formRequest Unit "POST" "/sign"
    ("/sign" ++ "?" ++ FormPairs.writeText [("from", "a=b&c"), ("name", "?")])
    [("name", "Zoë +1"), ("", ""), ("name", "")] [("from", "a=b&c"), ("name", "?")]
    (by decide +kernel) ⟨by decide +kernel, by decide +kernel⟩ .query (by decide +kernel)
  obtain ⟨server, sent, target, params, hbuild, hsent, htarget, hmiddlewares, hlimit⟩ :
      ∃ server sent target params, (guestBook.build {}).run () = (.ok server, ()) ∧
        formRequest? "POST"
          ("/sign" ++ "?" ++ FormPairs.writeText [("from", "a=b&c"), ("name", "?")])
          [("name", "Zoë +1"), ("", ""), ("name", "")] = some sent ∧
        server.target? (Server.arriving ⟨1000, "a", {}⟩ (withCookies {} sent)) =
          some (target, params) ∧ target.middlewares = [stamp] ∧
        server.site.settings.limits.bodySize = ({} : Settings).limits.bodySize :=
    ⟨_, _, _, _, rfl, rfl, rfl, rfl, rfl⟩
  cases hrequest.symm.trans hsent
  have hfits : (FormPairs.write [("name", "Zoë +1"), ("", ""), ("name", "")]).length ≤
      server.site.settings.limits.bodySize := by
    rw [hlimit]
    decide +kernel
  obtain ⟨start, hstart, hchain⟩ := hreads {} server ⟨1000, "a", {}⟩ target params htarget hfits
  have hpasses : Target.Passes target.middlewares start () (start.withStatus 201) () := by
    rw [hmiddlewares]
    exact .cons rfl (.nil _ _)
  refine ⟨request, server, target, start, _, hrequest, hbuild, hstart, hpasses, ?_⟩
  apply hchain target.middlewares [] () _ () (List.append_nil _).symm _ hpasses
  rw [hmiddlewares]
  intro m hm
  cases List.mem_singleton.1 hm
  exact isLawful_stamp.keepsRequest

end Client

end Formwork
