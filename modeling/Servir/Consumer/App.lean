import Servir.Consumer.Profiles
import Servir.Http.Jobs
import Servir.Interleaving.Pipeline

/-!
# The whole application

`echo-server` as its `main` puts it together: the routes of `app_routes` beside
those of servir, one router, and two databases. Requests are interleaved at every
statement to either database. Seen from servir, `GET /user` is a request to a
guarded route; seen from the profiles, it is a job once the extractor accepted.
-/

namespace Servir.Consumer
open Interleaving Program

/-- The effects of servir's handlers, and those on the profiles. -/
@[reducible] def appSignature : Signature := Servir.signature.sum signature

variable (K : Crypto) (X : JsonExtractor)

/-- `user`, with the extraction of its argument. -/
def getUser (req : HttpRequest) : Program appSignature HttpResponse := do
  match ← (AuthUser.fromRequestParts K req.extension req.authorization).run.inl with
  | .error e => return e.intoResponse
  | .ok claims => return intoResponse (← (user claims).run.inr)

def userPath : String := "/api/v1/user"

/-- That route, behind the layer. -/
def appRoutes (api : Api) (req : HttpRequest) : Program appSignature HttpResponse :=
  match req.method with
  | .get | .head => getUser K { req with extension := some api.layer }
  | _ => return ⟨405, .empty⟩

/-- The router that `build` makes of `app_routes`: another path goes where it does without them. -/
def appRouter (api : Api) (req : HttpRequest) : Program appSignature HttpResponse := do
  let response ←
    if req.path = userPath then appRoutes K api req
    else (dispatch K X ⟨fun _ => .none, .none⟩ api req).inl
  return req.sent response

/-- A start of the application, or a request to the one that task `server` started. -/
inductive AppJob where
  | build (builder : ServerBuilder)
  | http (server : ℕ) (api : Api) (req : HttpRequest)

inductive AppOutcome where
  | started (r : Except ServirError Api)
  | sent (response : HttpResponse)

abbrev AppTrail := Log appSignature AppJob AppOutcome

namespace AppJob

def start : AppJob → Program appSignature AppOutcome
  | .build b => do return .started (← b.build.run.inl)
  | .http _ api req => do return .sent (← appRouter K X api req)

/-- Did task `t` start the application `api`? -/
def hasStarted (log : AppTrail) (t : ℕ) (api : Api) : Bool :=
  log.any (fun ev => match ev with
    | .replied t' (.started (.ok api')) => t' == t && api' == api
    | _ => false)

def admits (log : AppTrail) : AppJob → Bool
  | .build _ => true
  | .http server api _ => hasStarted log server api

end AppJob

def app : Service appSignature AppJob AppOutcome :=
  (Servir.service K).beside service (AppJob.start K X) AppJob.admits

/-- The response to a request for a profile, and to a call for one. -/
def Outcome.response : Outcome → Except ServirError UserResponse
  | .user r => r
  | .profile r => r.map UserProfile.response

def AppJob.first : AppJob → AppOutcome ⊕ Servir.Job
  | .build b => .inr (.build b)
  | .http server api req =>
    if req.path = userPath then
      match req.method with
      | .get | .head => .inr (.request server api (.guarded req.authorization))
      | _ => .inl (.sent (req.sent ⟨405, .empty⟩))
    else match routed X api req with
      | .inl response => .inl (.sent (req.sent response))
      | .inr request => .inr (.request server api request)

def AppJob.second (job : AppJob) (o : Servir.Outcome) : AppOutcome ⊕ Job :=
  let sent (response : HttpResponse) : AppOutcome := match job with
    | .build _ => .sent response
    | .http _ _ req => .sent (req.sent response)
  match o with
  | .built r => .inl (.started r)
  | .tokens r => .inl (sent (intoResponse r))
  | .loggedOut r => .inl (sent (intoResponse r))
  | .identity r => .inl (sent (intoResponse r))
  | .accepted (.error e) => .inl (sent e.intoResponse)
  | .accepted (.ok claims) => .inr (.user claims)

def AppJob.render : AppJob → Outcome → AppOutcome
  | .build _, o => .sent (intoResponse o.response)
  | .http _ _ req, o => .sent (req.sent (intoResponse o.response))

def pipeline : Pipeline AppJob AppOutcome Servir.Job Servir.Outcome Job Outcome :=
  ⟨AppJob.first X, AppJob.second, AppJob.render⟩

variable {K X}

/-- A request for a profile is a guarded request followed by a job on the profiles. -/
theorem getUser_eq {server : ℕ} {api : Api} {req : HttpRequest} :
    (getUser K { req with extension := some api.layer }).bind
        (fun response => .pure (.sent (req.sent response))) =
      (handle K api (.guarded req.authorization)).inl.bind
        ((pipeline X).rest service (.http server api req)) := by
  let extracted := (AuthUser.fromRequestParts K (some api.layer) req.authorization).run
  refine Eq.trans ?_ (inl_map_bind extracted Servir.Outcome.accepted _).symm
  refine (bind_assoc extracted.inl _ _).trans ?_
  congr 1
  funext r
  cases r with
  | error e => rfl
  | ok claims =>
    refine Eq.trans ?_ (inr_map_bind (user claims).run Outcome.user _).symm
    exact bind_assoc (user claims).run.inr _ _

theorem dispatch_eq {server : ℕ} {api : Api} {req : HttpRequest} (hpath : req.path ≠ userPath) :
    (dispatch K X ⟨fun _ => .none, .none⟩ api req).inl.bind
        (fun response => .pure (.sent (req.sent response))) =
      (pipeline X).start (Servir.service K) service (.http server api req) := by
  let rest : Servir.Outcome → Program appSignature AppOutcome :=
    (pipeline X).rest service (.http server api req)
  have hrenders : Renders (fun response => .pure (.sent (req.sent response))) rest :=
    ⟨fun _ => rfl, fun _ => rfl, fun _ => rfl⟩
  rw [dispatch_routed hrenders, Pipeline.start]
  simp only [pipeline, AppJob.first, hpath, if_false]
  cases routed X api req with
  | inl response => rfl
  | inr request => rfl

theorem AppJob.start_eq (job : AppJob) :
    job.start K X = (pipeline X).start (Servir.service K) service job := by
  cases job with
  | build b =>
    exact (inl_map_bind b.build.run Servir.Outcome.built
      ((pipeline X).rest service (.build b))).symm
  | http server api req =>
    rw [start, appRouter]
    by_cases hpath : req.path = userPath
    · rw [if_pos hpath, bind_assoc, appRoutes, Pipeline.start]
      simp only [pipeline, AppJob.first, hpath, if_true]
      cases req.method with
      | get => exact getUser_eq
      | head => exact getUser_eq
      | _ => rfl
    · rw [if_neg hpath, bind_assoc]
      exact dispatch_eq hpath

end Servir.Consumer
