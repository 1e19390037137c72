import Servir.Http.Response

/-!
# The router of a built server

From an HTTP request to the handler that answers it. What `axum` does with a
parsed path, a method and a JSON body is spelled out as far as a response
depends on it; the routes of the consumer and the JSON extractor are parameters.
-/

namespace Servir
open Interleaving

inductive Method where
  | get
  | post
  | put
  | delete
  | head
  | options
  | connect
  | patch
  | trace
  | extension (name : String)
deriving DecidableEq

/-- A request as it reaches a handler. The names of headers are in lower case. -/
structure HttpRequest where
  method : Method
  path : String
  headers : List (String × HeaderValue)
  body : List UInt8
  /-- The extension that `AuthLayer` inserts. -/
  extension : Option AuthConfig

/-- `headers.get(AUTHORIZATION)` -/
def HttpRequest.authorization (req : HttpRequest) : Option HeaderValue :=
  (req.headers.find? (fun h => h.1 == "authorization")).map Prod.snd

/-- How a request is answered. Of the effects of a consumer handler only those of servir are
visible. -/
abbrev Handler := HttpRequest → Program signature HttpResponse

/-- `AuthService::call` -/
def authLayer (config : AuthConfig) (inner : Handler) : Handler := fun req =>
  inner { req with extension := some config }

/-- `axum::Json` for each body: the value, or the text of the rejection. -/
structure JsonExtractor where
  register : HttpRequest → Except String RegisterRequest
  login : HttpRequest → Except String LoginRequest
  refresh : HttpRequest → Except String RefreshRequest
  logout : HttpRequest → Except String LogoutRequest

/-- `AppJson::from_request` -/
def appJson {β : Type} (json : HttpRequest → Except String β) (req : HttpRequest) :
    Except ServirError β :=
  match json req with
  | .ok v => .ok v
  | .error text => .error (.badRequest text)

def withJson {α β : Type} [Serialize α] (json : HttpRequest → Except String β)
    (handler : β → Action α) : Handler := fun req =>
  match appJson json req with
  | .error e => return e.intoResponse
  | .ok body => do return intoResponse (← (handler body).run)

structure Route where
  method : Method
  path : String
  handler : Handler

variable (K : Crypto) (X : JsonExtractor)

def mountAuthRoutes (config : AuthConfig) : List Route :=
  [⟨.post, "/auth/register", withJson X.register (register K config)⟩,
    ⟨.post, "/auth/login", withJson X.login (login K config)⟩,
    ⟨.post, "/auth/refresh", withJson X.refresh (refresh K config)⟩,
    ⟨.post, "/auth/logout", withJson X.logout (logout K config)⟩,
    ⟨.get, "/auth/me", fun req => do
      return intoResponse
        ((← (AuthUser.fromRequestParts K req.extension req.authorization).run).map me)⟩]

def health : Handler := fun _ => return (ApiResponse.ok (HealthResponse.mk "healthy")).intoResponse

def notFound : Handler := fun _ =>
  return (ApiResponse.ofError (α := Unit) .notFound).intoResponse

def Route.layer (config : AuthConfig) (r : Route) : Route :=
  { r with handler := authLayer config r.handler }

def Route.nest (base : String) (r : Route) : Route := { r with path := base ++ r.path }

def ownRoutes (api : Api) : List Route :=
  let routes := mountAuthRoutes K X api.routes ++ [Route.mk .get "/health" health]
  routes.map (fun r => (r.layer api.layer).nest "/api/v1")

/-- The handlers of one path, and what answers the other methods if the default is replaced. -/
structure MethodRouter where
  handler : Method → Option Handler
  fallback : Option Handler

namespace MethodRouter

/-- `HEAD` goes to the handler of `GET` unless it has its own. -/
def select (m : MethodRouter) : Method → Option Handler
  | .head => m.handler .head <|> m.handler .get
  | method => m.handler method

def merge (m m' : MethodRouter) : MethodRouter :=
  ⟨fun method => m.handler method <|> m'.handler method, m.fallback <|> m'.fallback⟩

def layer (config : AuthConfig) (m : MethodRouter) : MethodRouter :=
  ⟨fun method => (m.handler method).map (authLayer config), m.fallback.map (authLayer config)⟩

/-- A method without a handler is answered 405 with an empty body, unless a fallback is set. -/
def call (m : MethodRouter) : Handler := fun req =>
  match m.select req.method <|> m.fallback with
  | some handler => handler req
  | none => return ⟨405, .empty⟩

end MethodRouter

def methodRouter (routes : List Route) (path : String) : Option MethodRouter :=
  if routes.any (fun r => r.path == path) then
    some ⟨fun method => (routes.find? (fun r => r.path == path && r.method == method)).map
      Route.handler, none⟩
  else none

/-- The routes that the consumer passes to the builder. -/
structure Consumer where
  /-- What a path matches once nested. For a path of servir itself, which comes before any
  pattern: the methods that the consumer adds to exactly this path. -/
  router : String → Option MethodRouter
  /-- The consumer's own fallback under `/api/v1`. -/
  fallback : Option Handler

def isNested (path : String) : Bool := path == "/api/v1" || (stripPrefix "/api/v1/" path).isSome

def matched (consumer : Consumer) (api : Api) (path : String) : Option MethodRouter :=
  match methodRouter (ownRoutes K X api) path,
    (consumer.router path).map (MethodRouter.layer api.layer) with
  | some m, some m' => some (m.merge m')
  | some m, none => some m
  | none, m' => m'

/-- The answer of the route, or of the fallback that a path without one goes to. -/
def dispatch (consumer : Consumer) (api : Api) : Handler := fun req =>
  match matched K X consumer api req.path with
  | some m => m.call req
  | none => match consumer.fallback with
    | some handler =>
      if isNested req.path then authLayer api.layer handler req else notFound req
    | none => notFound req

/-- The router of a built server. The body of the response to a `HEAD` is dropped. -/
def router (consumer : Consumer) (api : Api) : Handler := fun req => do
  let response ← dispatch K X consumer api req
  return if req.method = .head then { response with body := .empty } else response

private theorem response_of_outcome {β : Type} (p : Program signature β) {f : β → HttpResponse}
    {g : β → Outcome} (hfg : ∀ b, (g b).response = some (f b)) :
    some <$> (do return f (← p)) = Outcome.response <$> (do return g (← p)) := by
  simp only [map_bind, map_pure, hfg]

variable {K X}

private theorem withJson_handle {α β : Type} [Serialize α] {api : Api}
    (json : HttpRequest → Except String β) (handler : β → Action α) (job : β → Request)
    (outcome : Except ServirError α → Outcome)
    (hresponse : ∀ result, (outcome result).response = some (intoResponse result))
    (hjob : ∀ body, handle K api (job body) = do return outcome (← (handler body).run))
    (req : HttpRequest) :
    (∃ response, withJson json handler req = .pure response) ∨ ∃ request,
      some <$> withJson json handler req = Outcome.response <$> handle K api request := by
  unfold withJson
  cases appJson json req with
  | error e => exact .inl ⟨_, rfl⟩
  | ok body =>
    refine .inr ⟨job body, ?_⟩
    rw [hjob]
    exact response_of_outcome _ hresponse

/-- A request to a route of servir is answered without any effect, or it is the request of a job
and answered by the outcome of the job. -/
theorem ownRoutes_handle {api : Api} {r : Route} (hr : r ∈ ownRoutes K X api) (req : HttpRequest) :
    (∃ response, r.handler req = .pure response) ∨
      ∃ request, some <$> r.handler req = Outcome.response <$> handle K api request := by
  obtain ⟨r', hr', rfl⟩ := List.mem_map.1 hr
  simp only [mountAuthRoutes, List.cons_append, List.nil_append, List.mem_cons, List.not_mem_nil,
    or_false] at hr'
  rcases hr' with rfl | rfl | rfl | rfl | rfl | rfl
  · exact withJson_handle _ _ .register .tokens (fun _ => rfl) (fun _ => rfl) _
  · exact withJson_handle _ _ .login .tokens (fun _ => rfl) (fun _ => rfl) _
  · exact withJson_handle _ _ .refresh .tokens (fun _ => rfl) (fun _ => rfl) _
  · exact withJson_handle _ _ .logout .loggedOut (fun _ => rfl) (fun _ => rfl) _
  · exact .inr ⟨.me req.authorization, response_of_outcome _ (fun _ => rfl)⟩
  · exact .inl ⟨_, rfl⟩

end Servir
