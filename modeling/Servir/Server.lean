import Servir.Auth.Http

/-!
# Servers on one database

`ServerBuilder::build` up to the router, the jobs that a built server takes, and
the service that interleaves any number of builds and requests of any number of
servers on one auth database. A restart is a further build.
-/

namespace Servir
open Interleaving Program

structure ServerBuilder where
  accessTokenTtlSecs : Option UInt64
  refreshTokenTtlSecs : Option UInt64
deriving DecidableEq

/-- The two copies of the configuration that `build` hands out: one to the state of the auth
routes, one to `AuthLayer`. -/
structure Api where
  routes : AuthConfig
  layer : AuthConfig
deriving DecidableEq

/-- The configuration before the secret is loaded. -/
def ServerBuilder.config (b : ServerBuilder) : AuthConfig :=
  let c := AuthConfig.withDefaults
  let c := match b.accessTokenTtlSecs with
    | some ttl => c.setAccessTokenTtl ttl
    | none => c
  match b.refreshTokenTtlSecs with
    | some ttl => c.setRefreshTokenTtl ttl
    | none => c

/-- Connecting and migrating touch no row of the three tables and are left out. -/
def ServerBuilder.build (b : ServerBuilder) : Action Api := do
  let secret ← loadOrGenerateSecret
  let authConfig := b.config.setSecret secret
  return { routes := authConfig, layer := authConfig }

/-- A request to an auth route, or to a consumer route behind `AuthUser`. -/
inductive Request where
  | register (body : RegisterRequest)
  | login (body : LoginRequest)
  | refresh (body : RefreshRequest)
  | logout (body : LogoutRequest)
  | me (authorization : Option HeaderValue)
  | guarded (authorization : Option HeaderValue)
deriving DecidableEq

inductive Outcome where
  | built (r : Except ServirError Api)
  | tokens (r : Except ServirError TokenResponse)
  | loggedOut (r : Except ServirError Unit)
  | identity (r : Except ServirError MeResponse)
  | accepted (r : Except ServirError Claims)
deriving DecidableEq

def Outcome.error : Outcome → Option ServirError
  | .built (.error e) => some e
  | .tokens (.error e) => some e
  | .loggedOut (.error e) => some e
  | .identity (.error e) => some e
  | .accepted (.error e) => some e
  | _ => none

/-- A start of a server, or a request to the server that task `server` built. -/
inductive Job where
  | build (builder : ServerBuilder)
  | request (server : ℕ) (api : Api) (request : Request)
deriving DecidableEq

variable (K : Crypto)

def handle (api : Api) : Request → Program signature Outcome
  | .register body => do return .tokens (← (register K api.routes body).run)
  | .login body => do return .tokens (← (login K api.routes body).run)
  | .refresh body => do return .tokens (← (refresh K api.routes body).run)
  | .logout body => do return .loggedOut (← (logout K api.routes body).run)
  | .me authorization => do
    return .identity
      ((← (AuthUser.fromRequestParts K (some api.layer) authorization).run).map me)
  | .guarded authorization => do
    return .accepted (← (AuthUser.fromRequestParts K (some api.layer) authorization).run)

abbrev Trail := Log signature Job Outcome

/-- Did task `t` build the server `api`? -/
def hasBuilt (log : Trail) (t : ℕ) (api : Api) : Bool :=
  log.any (fun ev => match ev with
    | .replied t' (.built (.ok api')) => t' == t && api' == api
    | _ => false)

theorem hasBuilt_iff {log : Trail} {t : ℕ} {api : Api} :
    hasBuilt log t api = true ↔ .replied t (.built (.ok api)) ∈ log := by
  simp only [hasBuilt, List.any_eq_true]
  constructor
  · rintro ⟨ev, hev, h⟩
    split at h
    · simp only [Bool.and_eq_true, beq_iff_eq] at h
      obtain ⟨rfl, rfl⟩ := h
      exact hev
    · cases h
  · exact fun h => ⟨_, h, by simp⟩

def service : Service signature Job Outcome where
  Shared := Shared
  Choice := Choice
  start
    | .build b => do return .built (← b.build.run)
    | .request _ api request => handle K api request
  admits log
    | .build _ => true
    | .request server api _ => hasBuilt log server api
  respond := respond K

end Servir
