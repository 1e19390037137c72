import Servir.Http.Router
import Servir.Interleaving.Beside

/-!
# The jobs behind the routes

What an HTTP request to servir's own routes comes to: an answer that is known at
once, or a request that its handler runs. `dispatch_routed` says that the router of
a consumer without routes does just that.
-/

namespace Servir
open Interleaving Program

/-- A route of servir, with what it makes of a request. -/
structure Endpoint where
  method : Method
  path : String
  take : HttpRequest → HttpResponse ⊕ Request

def withBody {β : Type} (json : HttpRequest → Except String β) (job : β → Request)
    (req : HttpRequest) : HttpResponse ⊕ Request :=
  match appJson json req with
  | .error e => .inl e.intoResponse
  | .ok body => .inr (job body)

variable (K : Crypto) (X : JsonExtractor)

def endpoints : List Endpoint :=
  [⟨.post, "/api/v1/auth/register", withBody X.register .register⟩,
    ⟨.post, "/api/v1/auth/login", withBody X.login .login⟩,
    ⟨.post, "/api/v1/auth/refresh", withBody X.refresh .refresh⟩,
    ⟨.post, "/api/v1/auth/logout", withBody X.logout .logout⟩,
    ⟨.get, "/api/v1/auth/me", fun req => .inr (.me req.authorization)⟩,
    ⟨.get, "/api/v1/health", fun _ =>
      .inl (ApiResponse.ok (HealthResponse.mk "healthy")).intoResponse⟩]

def endpoint (path : String) (method : Method) : Option Endpoint :=
  (endpoints X).find? (fun e => e.path == path && e.method == method)

/-- `HEAD` goes to the endpoint of `GET` unless it has its own. -/
def endpointFor (path : String) : Method → Option Endpoint
  | .head => endpoint X path .head <|> endpoint X path .get
  | method => endpoint X path method

/-- What becomes of a request to a server whose consumer has no routes. -/
def routed (api : Api) (req : HttpRequest) : HttpResponse ⊕ Request :=
  if (endpoints X).any (fun e => e.path == req.path) then
    match endpointFor X req.path req.method with
    | some e => e.take { req with extension := some api.layer }
    | none => .inl ⟨405, .empty⟩
  else .inl ServirError.notFound.intoResponse

theorem endpointFor_mem {path : String} {method : Method} {e : Endpoint}
    (h : endpointFor X path method = some e) : e ∈ endpoints X := by
  have hmem : ∀ {method}, endpoint X path method = some e → e ∈ endpoints X :=
    fun h => List.mem_of_find?_eq_some h
  cases method with
  | head =>
    obtain h | ⟨-, h⟩ := (Option.orElse_eq_some _ _ _).1 h
    · exact hmem h
    · exact hmem h
  | _ => exact hmem h

theorem routed_ne_guarded {api : Api} {req : HttpRequest} (authorization : Option HeaderValue) :
    routed X api req ≠ .inr (.guarded authorization) := by
  have htake : ∀ e ∈ endpoints X, ∀ req, e.take req ≠ .inr (.guarded authorization) := by
    have hbody : ∀ {β : Type} (json : HttpRequest → Except String β) {job : β → Request},
        (∀ body, job body ≠ .guarded authorization) →
        ∀ req, withBody json job req ≠ .inr (.guarded authorization) := by
      intro β json job hjob req
      unfold withBody
      cases appJson json req with
      | error e => simp
      | ok body => simpa using hjob body
    intro e he
    simp only [endpoints, List.mem_cons, List.not_mem_nil, or_false] at he
    rcases he with rfl | rfl | rfl | rfl | rfl | rfl
    · exact hbody _ (by simp)
    · exact hbody _ (by simp)
    · exact hbody _ (by simp)
    · exact hbody _ (by simp)
    · simp
    · simp
  unfold routed
  split
  · cases he : endpointFor X req.path req.method with
    | none => simp
    | some e => exact htake e (endpointFor_mem X he) _
  · simp

/-- An answer that is known at once is the default 405 or an answer of servir. -/
theorem routed_known {api : Api} {req : HttpRequest} {response : HttpResponse}
    (h : routed X api req = .inl response) : response = ⟨405, .empty⟩ ∨
      response = (ApiResponse.ok (HealthResponse.mk "healthy")).intoResponse ∨
      ∃ e : ServirError, response = e.intoResponse ∧ e.statusCode.asU16 < 500 := by
  have htake : ∀ e ∈ endpoints X, ∀ req, e.take req = .inl response →
      response = (ApiResponse.ok (HealthResponse.mk "healthy")).intoResponse ∨
        ∃ e : ServirError, response = e.intoResponse ∧ e.statusCode.asU16 < 500 := by
    have hbody : ∀ {β : Type} (json : HttpRequest → Except String β) {job : β → Request} {req},
        withBody json job req = .inl response →
        ∃ e : ServirError, response = e.intoResponse ∧ e.statusCode.asU16 < 500 := by
      intro β json job req h
      unfold withBody appJson at h
      cases hjson : json req with
      | error text =>
        rw [hjson] at h
        cases h
        exact ⟨.badRequest text, rfl, by change 400 < 500; decide⟩
      | ok body =>
        rw [hjson] at h
        cases h
    intro e he req h
    simp only [endpoints, List.mem_cons, List.not_mem_nil, or_false] at he
    rcases he with rfl | rfl | rfl | rfl | rfl | rfl
    · exact .inr (hbody _ h)
    · exact .inr (hbody _ h)
    · exact .inr (hbody _ h)
    · exact .inr (hbody _ h)
    · cases h
    · cases h
      exact .inl rfl
  unfold routed at h
  split at h
  · cases he : endpointFor X req.path req.method with
    | none =>
      rw [he] at h
      cases h
      exact .inl rfl
    | some e =>
      rw [he] at h
      exact .inr (htake e (endpointFor_mem X he) _ h)
  · cases h
    exact .inr (.inr ⟨.notFound, rfl, by decide⟩)

/-- The response as it is sent: without its body to a `HEAD`. -/
def HttpRequest.sent (req : HttpRequest) (response : HttpResponse) : HttpResponse :=
  if req.method = .head then { response with body := .empty } else response

@[simp] theorem HttpRequest.sent_status (req : HttpRequest) (response : HttpResponse) :
    (req.sent response).status = response.status := by
  unfold sent
  split <;> rfl

theorem intoResponse_ok {β : Type} [Serialize β] {r : Except ServirError β} :
    (intoResponse r).status = 200 ↔ ∃ data, r = .ok data := by
  cases r with
  | ok data => exact iff_of_true rfl ⟨data, rfl⟩
  | error e =>
    have hrange : 400 ≤ (intoResponse (.error e : Except ServirError β)).status :=
      e.statusCode_range.1
    exact iff_of_false (by omega) (by simp)

section Routed
variable {K X} {S : Signature} {α : Type}

/-- `G` goes on from an outcome as `F` does from the response to it. -/
structure Renders (F : HttpResponse → Program S α) (G : Outcome → Program S α) : Prop where
  tokens : ∀ r, G (.tokens r) = F (intoResponse r)
  loggedOut : ∀ r, G (.loggedOut r) = F (intoResponse r)
  identity : ∀ r, G (.identity r) = F (intoResponse r)

variable {F : HttpResponse → Program (signature.sum S) α}
  {G : Outcome → Program (signature.sum S) α} {api : Api}

/-- What follows the answer of a request that was taken. -/
def following (K : Crypto) (api : Api) (F : HttpResponse → Program (signature.sum S) α)
    (G : Outcome → Program (signature.sum S) α) :
    HttpResponse ⊕ Request → Program (signature.sum S) α
  | .inl response => F response
  | .inr request => (handle K api request).inl.bind G

theorem withBody_follows {α' β : Type} [Serialize α'] (json : HttpRequest → Except String β)
    (handler : β → Action α') (job : β → Request) (outcome : Except ServirError α' → Outcome)
    (houtcome : ∀ r, G (outcome r) = F (intoResponse r))
    (hjob : ∀ body, handle K api (job body) = do return outcome (← (handler body).run))
    (req : HttpRequest) : (withJson json handler req).inl.bind F =
      following K api F G (withBody json job req) := by
  unfold withJson withBody
  cases appJson json req with
  | error e => rfl
  | ok body =>
    calc
      _ = (handler body).run.inl.bind (fun r => F (intoResponse r)) := inl_map_bind _ _ _
      _ = (handler body).run.inl.bind (fun r => G (outcome r)) := by simp only [houtcome]
      _ = (handle K api (job body)).inl.bind G := by
        rw [hjob]
        exact (inl_map_bind _ _ _).symm

/-- A route and its endpoint do the same under the layer. -/
structure Route.Does (K : Crypto) (api : Api) (F : HttpResponse → Program (signature.sum S) α)
    (G : Outcome → Program (signature.sum S) α) (r : Route) (e : Endpoint) : Prop where
  method : r.method = e.method
  path : r.path = e.path
  handler : ∀ req, (r.handler req).inl.bind F =
    following K api F G (e.take { req with extension := some api.layer })

theorem ownRoutes_do (h : Renders F G) :
    List.Forall₂ (Route.Does K api F G) (ownRoutes K X api) (endpoints X) := by
  refine .cons ⟨rfl, rfl, fun req => ?_⟩ (.cons ⟨rfl, rfl, fun req => ?_⟩
    (.cons ⟨rfl, rfl, fun req => ?_⟩ (.cons ⟨rfl, rfl, fun req => ?_⟩
    (.cons ⟨rfl, rfl, fun req => ?_⟩ (.cons ⟨rfl, rfl, fun req => rfl⟩ .nil)))))
  · exact withBody_follows _ _ _ .tokens h.tokens (fun _ => rfl) _
  · exact withBody_follows _ _ _ .tokens h.tokens (fun _ => rfl) _
  · exact withBody_follows _ _ _ .tokens h.tokens (fun _ => rfl) _
  · exact withBody_follows _ _ _ .loggedOut h.loggedOut (fun _ => rfl) _
  · let extracted := (AuthUser.fromRequestParts K (some api.layer) req.authorization).run
    calc
      _ = extracted.inl.bind (fun r => F (intoResponse (r.map me))) :=
        inl_map_bind extracted (fun r => intoResponse (r.map me)) F
      _ = extracted.inl.bind (fun r => G (.identity (r.map me))) := by simp only [h.identity]
      _ = (handle K api (.me req.authorization)).inl.bind G :=
        (inl_map_bind extracted (fun r => .identity (r.map me)) G).symm

theorem find_paired {β γ : Type} {R : β → γ → Prop} {l : List β} {l' : List γ} {p : β → Bool}
    {q : γ → Bool} (h : List.Forall₂ R l l') (hpq : ∀ b c, R b c → p b = q c) :
    (l.find? p = none ∧ l'.find? q = none) ∨
      ∃ b c, l.find? p = some b ∧ l'.find? q = some c ∧ R b c := by
  induction h with
  | nil => exact .inl ⟨rfl, rfl⟩
  | @cons b c l l' hbc _ ih =>
    have hhead := hpq b c hbc
    by_cases hp : p b = true
    · exact .inr ⟨b, c, by simp [hp], by simp [← hhead, hp], hbc⟩
    · simpa [List.find?_cons, ← hhead, hp] using ih

theorem any_paired {β γ : Type} {R : β → γ → Prop} {l : List β} {l' : List γ} {p : β → Bool}
    {q : γ → Bool} (h : List.Forall₂ R l l') (hpq : ∀ b c, R b c → p b = q c) :
    l.any p = l'.any q := by
  induction h with
  | nil => rfl
  | cons hbc _ ih => rw [List.any_cons, List.any_cons, hpq _ _ hbc, ih]

def ownHandlers (K : Crypto) (X : JsonExtractor) (api : Api) (path : String) : MethodRouter :=
  ⟨fun method => ((ownRoutes K X api).find?
    (fun r => r.path == path && r.method == method)).map Route.handler, none⟩

/-- Nothing takes the method, or a handler and an endpoint that do the same. -/
def Paired (K : Crypto) (api : Api) (F : HttpResponse → Program (signature.sum S) α)
    (G : Outcome → Program (signature.sum S) α) (handler : Option Handler)
    (e : Option Endpoint) : Prop :=
  (handler = none ∧ e = none) ∨ ∃ f e', handler = some f ∧ e = some e' ∧
    ∀ req, (f req).inl.bind F =
      following K api F G (e'.take { req with extension := some api.layer })

theorem handler_paired (h : Renders F G) (path : String) (method : Method) :
    Paired K api F G ((ownHandlers K X api path).handler method) (endpoint X path method) := by
  have hdo : List.Forall₂ (Route.Does K api F G) (ownRoutes K X api) (endpoints X) := ownRoutes_do h
  obtain ⟨hr, he⟩ | ⟨r, e, hr, he, hdoes⟩ :=
    find_paired (p := fun r => r.path == path && r.method == method)
      (q := fun e => e.path == path && e.method == method) hdo
      (fun r e hre => by rw [hre.path, hre.method])
  · exact .inl ⟨by simp [ownHandlers, hr], he⟩
  · exact .inr ⟨r.handler, e, by simp [ownHandlers, hr], he, hdoes.handler⟩

theorem select_paired (h : Renders F G) (path : String) (method : Method) :
    Paired K api F G ((ownHandlers K X api path).select method) (endpointFor X path method) := by
  cases method with
  | head =>
    have hhead : Paired K api F G ((ownHandlers K X api path).handler .head)
        (endpoint X path .head) := handler_paired h path .head
    obtain ⟨hf, he⟩ | ⟨f, e, hf, he, hdoes⟩ := hhead
    · simpa [MethodRouter.select, endpointFor, hf, he] using handler_paired h path .get
    · exact .inr ⟨f, e, by simp [MethodRouter.select, hf], by simp [endpointFor, he], hdoes⟩
  | _ => exact handler_paired h path _

/-- The router of a consumer without routes answers a request at once or runs the job that it is. -/
theorem dispatch_routed (h : Renders F G) (req : HttpRequest) :
    (dispatch K X ⟨fun _ => none, none⟩ api req).inl.bind F =
      following K api F G (routed X api req) := by
  have hany : (ownRoutes K X api).any (fun r => r.path == req.path) =
      (endpoints X).any (fun e => e.path == req.path) :=
    any_paired (ownRoutes_do h) (fun r e hre => by rw [hre.path])
  unfold dispatch matched methodRouter routed
  rw [hany]
  cases (endpoints X).any (fun e => e.path == req.path) with
  | false => rfl
  | true =>
    simp only [if_true, Option.map_none]
    change ((ownHandlers K X api req.path).call req).inl.bind F = _
    have hselect : Paired K api F G ((ownHandlers K X api req.path).select req.method)
        (endpointFor X req.path req.method) := select_paired h req.path req.method
    obtain ⟨hf, he⟩ | ⟨f, e, hf, he, hdoes⟩ := hselect
    · rw [MethodRouter.call, hf, he]
      rfl
    · rw [MethodRouter.call, hf, he]
      exact hdoes req

end Routed

end Servir
