import Servir.Consumer.App
import Servir.Consumer.FirstAccess
import Servir.Runs.Requests

/-!
# Runs of the application

What a run of the application may assume, and the runs of servir and of the
profiles behind it. Every reply to an HTTP request is traced to the jobs of the
two services that it is made of.
-/

namespace Servir.Consumer.App
open Interleaving

variable {K : Crypto} {X : JsonExtractor}

/-- The runs of any number of starts and requests, from two empty migrated databases. -/
abbrev Reachable (K : Crypto) (X : JsonExtractor) (A : Assumption (app K X))
    (σ : Pool (app K X)) : Prop := Reach A (Shared.init, Db.migrated) σ

/-- Task `t` ran this statement on the database of servir. -/
abbrev ranAuth (t : ℕ) (q : Servir.Stmt) (r : Except SqlxError q.Answer) :
    Event appSignature AppJob AppOutcome := .performed t (.inl (.sql q)) r

/-- Task `t` ran this statement on the database of the profiles. -/
abbrev ranProfile (t : ℕ) (q : Stmt) (r : Except SqlxError q.Answer) :
    Event appSignature AppJob AppOutcome := .performed t (.inr (.sql q)) r

/-- Any statement may fail and any task may be dropped. -/
def Unrestricted : Assumption (app K X) := fun _ _ _ => True

/-- No statement fails for a reason of its database itself. -/
def NoFaults : Assumption (app K X) := fun _ _ ev => ∀ t,
  (∀ q display, ev ≠ ranAuth t q (.error (.fault display))) ∧
    ∀ q display, ev ≠ ranProfile t q (.error (.fault display))

/-- The string `tok` was signed as the token of `c`. -/
def Signed (log : AppTrail) (secret tok : String) (c : Claims) : Prop :=
  ∃ t, .performed t (.inl (.encode secret c)) (.ok tok) ∈ log

/-- A presented string that opens was signed before by a handler. -/
def Unforged : Assumption (app K X) := fun _ log ev => ∀ t job s api request tok c,
  ev = .spawned t job → job.first X = .inr (.request s api request) →
  request.presents = some tok → K.openToken (request.config api).secret tok = .ok c →
  Signed log (request.config api).secret tok c

/-- The request is one for a profile. -/
def AsksProfile (req : HttpRequest) : Prop :=
  req.path = userPath ∧ (req.method = .get ∨ req.method = .head)

section First
variable {s : ℕ} {api : Api} {req : HttpRequest}

theorem first_http (X : JsonExtractor) (s : ℕ) (api : Api) (req : HttpRequest) :
    (AsksProfile req ∧
      (AppJob.http s api req).first X = .inr (.request s api (.guarded req.authorization))) ∨
    (¬ AsksProfile req ∧ ((∃ response,
      (AppJob.http s api req).first X = .inl (.sent (req.sent response)) ∧
        (response = ⟨405, .empty⟩ ∨ routed X api req = .inl response)) ∨
      ∃ request, (AppJob.http s api req).first X = .inr (.request s api request) ∧
        routed X api req = .inr request)) := by
  by_cases hpath : req.path = userPath
  · cases hmethod : req.method with
    | get => exact .inl ⟨⟨hpath, .inl hmethod⟩, by simp [AppJob.first, hpath, hmethod]⟩
    | head => exact .inl ⟨⟨hpath, .inr hmethod⟩, by simp [AppJob.first, hpath, hmethod]⟩
    | _ => exact .inr ⟨by simp [AsksProfile, hmethod], .inl ⟨⟨405, .empty⟩,
        by simp [AppJob.first, hpath, hmethod], .inl rfl⟩⟩
  · refine .inr ⟨fun h => hpath h.1, ?_⟩
    simp only [AppJob.first, hpath, if_false]
    cases hrouted : routed X api req with
    | inl response => exact .inl ⟨response, rfl, .inr rfl⟩
    | inr request => exact .inr ⟨request, rfl, rfl⟩

theorem first_guarded {job : AppJob} {authorization : Option HeaderValue} :
    job.first X = .inr (.request s api (.guarded authorization)) ↔
      ∃ req, job = .http s api req ∧ AsksProfile req ∧ req.authorization = authorization := by
  constructor
  · intro h
    cases job with
    | build b => cases h
    | http s' api' req =>
      obtain ⟨hasks, hfirst⟩ | ⟨-, ⟨response, hfirst, -⟩ | ⟨request, hfirst, hrouted⟩⟩ :=
        first_http X s' api' req
      · rw [h] at hfirst
        cases hfirst
        exact ⟨req, rfl, hasks, rfl⟩
      · rw [h] at hfirst
        cases hfirst
      · rw [h] at hfirst
        cases hfirst
        exact absurd hrouted (routed_ne_guarded X _)
  · rintro ⟨req, rfl, hasks, rfl⟩
    obtain ⟨-, hfirst⟩ | ⟨hnot, -⟩ := first_http X s api req
    · exact hfirst
    · exact absurd hasks hnot

theorem first_sent {job : AppJob} {o : AppOutcome} (h : job.first X = .inl o) :
    ∃ response, o = .sent response := by
  cases job with
  | build b => cases h
  | http s' api' req =>
    obtain ⟨-, hfirst⟩ | ⟨-, ⟨response, hfirst, -⟩ | ⟨request, hfirst, -⟩⟩ :=
      first_http X s' api' req
    · rw [h] at hfirst
      cases hfirst
    · rw [h] at hfirst
      cases hfirst
      exact ⟨_, rfl⟩
    · rw [h] at hfirst
      cases hfirst

end First

section Second
variable {job : AppJob} {o₁ : Servir.Outcome}

theorem second_user {j₂ : Job} :
    job.second o₁ = .inr j₂ ↔ ∃ c, o₁ = .accepted (.ok c) ∧ j₂ = .user c := by
  rcases o₁ with r | r | r | r | ⟨e | c⟩ <;> simp [AppJob.second, eq_comm]

theorem second_started {r : Except ServirError Api} (h : job.second o₁ = .inl (.started r)) :
    o₁ = .built r := by
  rcases o₁ with r' | r' | r' | r' | ⟨e | c⟩ <;> cases job <;> simp_all [AppJob.second]

theorem second_response (s : ℕ) (api : Api) (req : HttpRequest) {response : HttpResponse}
    (h : o₁.response = some response) :
    (AppJob.http s api req).second o₁ = .inl (.sent (req.sent response)) := by
  rcases o₁ with r | r | r | r | r <;> cases h <;> rfl

end Second

variable {l : AppTrail} {l₁ : Servir.Trail} {l₂ : Trail} {t s : ℕ} {api : Api}

theorem hasStarted_iff :
    AppJob.hasStarted l t api = true ↔ .replied t (.started (.ok api)) ∈ l := by
  simp only [AppJob.hasStarted, List.any_eq_true]
  constructor
  · rintro ⟨ev, hev, h⟩
    split at h
    · simp only [Bool.and_eq_true, beq_iff_eq] at h
      obtain ⟨rfl, rfl⟩ := h
      exact hev
    · cases h
  · exact fun h => ⟨_, h, by simp⟩

theorem started_built (h : (pipeline X).Projects l l₁ l₂)
    (hs : .replied t (.started (.ok api)) ∈ l) : .replied t (.built (.ok api)) ∈ l₁ := by
  obtain ⟨job, -, hnow | ⟨o₁, ho₁, hsecond | ⟨j₂, o₂, -, -, -, ho⟩⟩⟩ := h.replied hs
  · obtain ⟨response, ho⟩ := first_sent hnow
    cases ho
  · rw [second_started hsecond] at ho₁
    exact ho₁
  · cases job <;> cases ho

theorem admitted {job : AppJob} {j₁ : Servir.Job} (h : (pipeline X).Projects l l₁ l₂)
    (hadmits : AppJob.admits l job = true) (hfirst : job.first X = .inr j₁) :
    (Servir.service K).admits l₁ j₁ = true := by
  cases job with
  | build b =>
    cases hfirst
    rfl
  | http s api req =>
    have hbuilt : Servir.hasBuilt l₁ s api = true :=
      hasBuilt_iff.2 (started_built h (hasStarted_iff.1 hadmits))
    obtain ⟨-, hf⟩ | ⟨-, ⟨response, hf, -⟩ | ⟨request, hf, -⟩⟩ :=
      first_http X s api req
    · rw [hfirst] at hf
      cases hf
      exact hbuilt
    · rw [hfirst] at hf
      cases hf
    · rw [hfirst] at hf
      cases hf
      exact hbuilt

theorem unrestricted_covers : (pipeline X).Covers (Unrestricted : Assumption (app K X))
    (Servir.Unrestricted : Assumption (Servir.service K)) (fun _ _ _ => True) where
  spawn h ha _ hf := ⟨admitted h ha hf, trivial⟩
  first _ _ := trivial
  pass _ _ _ _ := ⟨rfl, trivial⟩
  second _ _ := trivial
  ends_first _ _ _ := ⟨fun _ => trivial, trivial⟩
  ends_second _ _ _ := ⟨fun _ => trivial, trivial⟩

theorem unforged_covers : (pipeline X).Covers (Unforged : Assumption (app K X))
    (Servir.Unforged : Assumption (Servir.service K)) (fun _ _ _ => True) where
  spawn {sh l l₁ l₂ t job j₁} h ha hforged hf := by
    refine ⟨admitted h ha hf, ?_⟩
    rintro t' s api request tok c he htok hopen
    cases he
    obtain ⟨t₀, hsigned⟩ := hforged t job s api request tok c rfl hf htok hopen
    exact ⟨t₀, h.performed_first.2 hsigned⟩
  first _ _ := by simp [Servir.Unforged, Presenting]
  pass _ _ _ _ := ⟨rfl, trivial⟩
  second _ _ := trivial
  ends_first _ _ _ := by simp [Servir.Unforged, Presenting]
  ends_second _ _ _ := ⟨fun _ => trivial, trivial⟩

theorem noFaults_covers : (pipeline X).Covers (NoFaults : Assumption (app K X))
    (Servir.NoFaults : Assumption (Servir.service K)) (Consumer.NoFaults) where
  spawn h ha _ hf := ⟨admitted h ha hf, by simp [Servir.NoFaults]⟩
  first _ hnone := by
    rintro t q display he
    cases he
    exact (hnone _).1 q display rfl
  pass _ _ _ _ := ⟨rfl, by simp [Consumer.NoFaults]⟩
  second _ hnone := by
    rintro t q display he
    cases he
    exact (hnone _).2 q display rfl
  ends_first _ _ _ := by simp [Servir.NoFaults]
  ends_second _ _ _ := by simp [Consumer.NoFaults]

theorem own_response {request : Request} {past : Servir.Past} {o₁ : Servir.Outcome}
    (hrep : Replies K api request past o₁) (hown : ∀ a, request ≠ .guarded a) :
    ∃ response, o₁.response = some response := by
  cases hrep with
  | accepted => exact absurd rfl (hown _)
  | _ => exact ⟨_, rfl⟩

section Behind
variable {A : Assumption (app K X)} {A₁ : Assumption (Servir.service K)} {A₂ : Assumption service}
  {σ : Pool (app K X)} {σ₁ : Pool (Servir.service K)} {σ₂ : Pool service} {req : HttpRequest}

/-- The traces of the two services behind a state of the application. -/
structure Behind (A₁ : Assumption (Servir.service K)) (A₂ : Assumption service)
    (σ : Pool (app K X)) (σ₁ : Pool (Servir.service K)) (σ₂ : Pool service) : Prop where
  auth : Servir.Traces K A₁ σ₁.shared σ₁.log
  profiles : Traces A₂ σ₂.shared σ₂.log
  projection : (pipeline X).Projection σ σ₁ σ₂
  once : ∀ {t job job'}, .spawned t job ∈ σ.log → .spawned t job' ∈ σ.log → job = job'

theorem Reachable.once (h : Reachable K X A σ) {t : ℕ} {job job' : AppJob}
    (hj : .spawned t job ∈ σ.log) (hj' : .spawned t job' ∈ σ.log) : job = job' :=
  (Reach.traced (app K X).follows_any h).spawned_unique hj hj'

theorem Reachable.behind (hA : (pipeline X).Covers A A₁ A₂) (h : Reachable K X A σ) :
    ∃ σ₁ σ₂, Behind A₁ A₂ σ σ₁ σ₂ := by
  obtain ⟨σ₁, σ₂, h₁, h₂, hproj⟩ := Pipeline.Projection.reach (funext AppJob.start_eq) hA h
  exact ⟨σ₁, σ₂, Servir.Reachable.traces h₁, Consumer.Reachable.traces h₂, hproj, h.once⟩

namespace Behind

theorem profile_asked (h : Behind A₁ A₂ σ σ₁ σ₂) {j₂ : Job} (hj₂ : .spawned t j₂ ∈ σ₂.log) :
    ∃ s api req tok c n, .spawned t (.http s api req) ∈ σ.log ∧ AsksProfile req ∧
      .spawned t (.request s api (.guarded req.authorization)) ∈ σ₁.log ∧
      .replied t (.accepted (.ok c)) ∈ σ₁.log ∧ .performed t (.inl .nowSecs) n ∈ σ.log ∧
      bearerToken req.authorization = some tok ∧ verifyTokenAt K tok api.layer n = .ok c ∧
      c.kind = .access ∧ j₂ = .user c := by
  have hlog := h.projection.log
  obtain ⟨job, o₁, -, ho₁, hsecond⟩ := hlog.spawned_second hj₂
  obtain ⟨c, rfl, rfl⟩ := second_user.1 hsecond
  obtain ⟨s, api, authorization, tok, n, hj₁, hn, htok, hverify, hkind⟩ := h.auth.extracted ho₁
  obtain ⟨job', hj, hfirst⟩ := hlog.spawned_first.1 hj₁
  obtain ⟨req, rfl, hasks, rfl⟩ := first_guarded.1 hfirst
  exact ⟨s, api, req, tok, c, n, hj, hasks, hj₁, ho₁, hlog.performed_first.1 hn, htok, hverify,
    hkind, rfl⟩

/-- A response to a request for a profile: of the extractor, or of the job on the profiles. -/
theorem profile_answered (h : Behind A₁ A₂ σ σ₁ σ₂) (hj : .spawned t (.http s api req) ∈ σ.log)
    (hasks : AsksProfile req) {o : AppOutcome} (ho : .replied t o ∈ σ.log) :
    .spawned t (.request s api (.guarded req.authorization)) ∈ σ₁.log ∧
      ((∃ e, .replied t (.accepted (.error e)) ∈ σ₁.log ∧ o = .sent (req.sent e.intoResponse)) ∨
        ∃ c o₂, .replied t (.accepted (.ok c)) ∈ σ₁.log ∧ .spawned t (.user c) ∈ σ₂.log ∧
          .replied t o₂ ∈ σ₂.log ∧ o = .sent (req.sent (intoResponse o₂.response))) := by
  have hlog := h.projection.log
  obtain ⟨job, hj', hrep⟩ := hlog.replied ho
  cases h.once hj hj'
  have hfirst : (pipeline X).first (.http s api req) =
      .inr (.request s api (.guarded req.authorization)) := first_guarded.2 ⟨req, rfl, hasks, rfl⟩
  have hj₁ := hlog.spawned_first.2 ⟨_, hj, hfirst⟩
  refine ⟨hj₁, ?_⟩
  obtain hnow | ⟨o₁, ho₁, hsecond | ⟨j₂, o₂, hsecond, hj₂, ho₂, rfl⟩⟩ := hrep
  · rw [hfirst] at hnow
    cases hnow
  · obtain ⟨r, rfl, -⟩ := Replies.of_guarded (Traced.replied h.auth hj₁ ho₁)
    cases r with
    | error e =>
      cases hsecond
      exact .inl ⟨e, ho₁, rfl⟩
    | ok c => cases hsecond
  · have hsecond' : AppJob.second (.http s api req) o₁ = .inr j₂ := hsecond
    obtain ⟨c, rfl, rfl⟩ := second_user.1 hsecond'
    exact .inr ⟨c, o₂, ho₁, hj₂, ho₂, rfl⟩

/-- Any other response: known at once, or of the request that servir ran. -/
theorem own_answered (h : Behind A₁ A₂ σ σ₁ σ₂) (hj : .spawned t (.http s api req) ∈ σ.log)
    (hasks : ¬ AsksProfile req) {o : AppOutcome} (ho : .replied t o ∈ σ.log) :
    (∃ response, (pipeline X).first (.http s api req) = .inl (.sent (req.sent response)) ∧
        o = .sent (req.sent response) ∧
        (response = ⟨405, .empty⟩ ∨ routed X api req = .inl response)) ∨
      ∃ request o₁ response, .spawned t (.request s api request) ∈ σ₁.log ∧
        .replied t o₁ ∈ σ₁.log ∧ routed X api req = .inr request ∧ o₁.response = some response ∧
        o = .sent (req.sent response) := by
  have hlog := h.projection.log
  obtain ⟨job, hj', hrep⟩ := hlog.replied ho
  cases h.once hj hj'
  obtain ⟨hasks', -⟩ | ⟨-, ⟨response, hfirst, hwhat⟩ | ⟨request, hfirst, hrouted⟩⟩ :=
    first_http X s api req
  · exact absurd hasks' hasks
  · change (pipeline X).first (.http s api req) = _ at hfirst
    obtain hnow | ⟨o₁, ho₁, -⟩ := hrep
    · rw [hfirst] at hnow
      cases hnow
      exact .inl ⟨response, hfirst, rfl, hwhat⟩
    · obtain ⟨j₁, hj₁⟩ := Traced.open_of_event h.auth ho₁
      obtain ⟨job, hj'', hfirst'⟩ := hlog.spawned_first.1 hj₁
      rw [h.once hj'' hj, hfirst] at hfirst'
      cases hfirst'
  · change (pipeline X).first (.http s api req) = _ at hfirst
    have hj₁ := hlog.spawned_first.2 ⟨_, hj, hfirst⟩
    obtain hnow | ⟨o₁, ho₁, hsecond⟩ := hrep
    · rw [hfirst] at hnow
      cases hnow
    · have hrep : Replies K api request (history t σ₁.log) o₁ := Traced.replied h.auth hj₁ ho₁
      have hown : ∀ a, request ≠ .guarded a := by
        rintro a rfl
        exact routed_ne_guarded X a hrouted
      obtain ⟨response, hresponse⟩ := own_response hrep hown
      have hsent : (pipeline X).second (.http s api req) o₁ = .inl (.sent (req.sent response)) :=
        second_response s api req hresponse
      obtain hnow | ⟨j₂, o₂, hpassed, -⟩ := hsecond
      · rw [hsent] at hnow
        cases hnow
        exact .inr ⟨request, o₁, response, hj₁, ho₁, hrouted, hresponse, rfl⟩
      · rw [hsent] at hpassed
        cases hpassed

end Behind

end Behind

end Servir.Consumer.App
