import Servir.Http.Router
import Servir.Runs.Scenario

/-!
# Which responses have the envelope

Every handler of servir answers with the envelope, and so does its own 404. What
is left is written by `axum` alone: the default 405 of a path that takes other
methods, and the response to a `HEAD`, whose body is dropped.
-/

namespace Servir
open Interleaving Program

/-- Every response of the handler has the envelope. -/
def Handler.Enveloped (h : Handler) : Prop := ∀ req, (h req).Always HttpResponse.Enveloped

structure MethodRouter.Enveloped (m : MethodRouter) : Prop where
  handler : ∀ method h, m.handler method = some h → h.Enveloped
  fallback : ∀ h, m.fallback = some h → h.Enveloped

/-- The consumer's routes are themselves enveloped. -/
structure Consumer.Enveloped (consumer : Consumer) : Prop where
  router : ∀ path m, consumer.router path = some m → m.Enveloped
  fallback : ∀ h, consumer.fallback = some h → h.Enveloped

variable {K : Crypto} {X : JsonExtractor} {consumer : Consumer} {api : Api}

theorem authLayer_enveloped {h : Handler} (hh : h.Enveloped) (config : AuthConfig) :
    (authLayer config h).Enveloped := fun _ => hh _

theorem withJson_enveloped {α β : Type} [Serialize α] (json : HttpRequest → Except String β)
    (handler : β → Action α) : (withJson json handler).Enveloped := by
  intro req
  unfold withJson
  cases appJson json req with
  | error e => exact e.intoResponse_enveloped
  | ok body => exact (always_bind _ _).2 (always_of_forall intoResponse_enveloped _)

theorem health_enveloped : Handler.Enveloped health := fun _ => .inl ⟨rfl, _, rfl⟩

theorem notFound_enveloped : Handler.Enveloped notFound := fun _ =>
  ServirError.notFound.intoResponse_enveloped

theorem mountAuthRoutes_enveloped {config : AuthConfig} {r : Route}
    (hr : r ∈ mountAuthRoutes K X config) : r.handler.Enveloped := by
  simp only [mountAuthRoutes, List.mem_cons, List.not_mem_nil, or_false] at hr
  rcases hr with rfl | rfl | rfl | rfl | rfl
  · exact withJson_enveloped _ _
  · exact withJson_enveloped _ _
  · exact withJson_enveloped _ _
  · exact withJson_enveloped _ _
  · intro req
    refine (always_bind _ _).2 (always_of_forall (fun result => ?_) _)
    exact intoResponse_enveloped _

theorem ownRoutes_enveloped {r : Route} (hr : r ∈ ownRoutes K X api) : r.handler.Enveloped := by
  obtain ⟨r', hr', rfl⟩ := List.mem_map.1 hr
  apply authLayer_enveloped
  rcases List.mem_append.1 hr' with hr' | hr'
  · exact mountAuthRoutes_enveloped hr'
  · rw [List.mem_singleton.1 hr']
    exact health_enveloped

namespace MethodRouter
variable {m m' : MethodRouter}

theorem Enveloped.layer (h : m.Enveloped) (config : AuthConfig) : (m.layer config).Enveloped where
  handler method f hf := by
    obtain ⟨g, hg, rfl⟩ := Option.map_eq_some_iff.1 hf
    exact authLayer_enveloped (h.handler method g hg) config
  fallback f hf := by
    obtain ⟨g, hg, rfl⟩ := Option.map_eq_some_iff.1 hf
    exact authLayer_enveloped (h.fallback g hg) config

theorem Enveloped.merge (h : m.Enveloped) (h' : m'.Enveloped) : (m.merge m').Enveloped where
  handler method f hf := by
    obtain hf | ⟨-, hf⟩ := (Option.orElse_eq_some _ _ _).1 hf
    · exact h.handler method f hf
    · exact h'.handler method f hf
  fallback f hf := by
    obtain hf | ⟨-, hf⟩ := (Option.orElse_eq_some _ _ _).1 hf
    · exact h.fallback f hf
    · exact h'.fallback f hf

theorem Enveloped.select (h : m.Enveloped) {method : Method} {f : Handler}
    (hf : m.select method = some f) : f.Enveloped := by
  cases method with
  | head =>
    obtain hf | ⟨-, hf⟩ := (Option.orElse_eq_some _ _ _).1 hf
    · exact h.handler .head f hf
    · exact h.handler .get f hf
  | _ => exact h.handler _ f hf

end MethodRouter

theorem methodRouter_enveloped {routes : List Route} {path : String} {m : MethodRouter}
    (h : ∀ r ∈ routes, r.handler.Enveloped) (hm : methodRouter routes path = some m) :
    m.Enveloped := by
  unfold methodRouter at hm
  split at hm
  · cases hm
    refine ⟨fun method f hf => ?_, nofun⟩
    obtain ⟨r, hr, rfl⟩ := Option.map_eq_some_iff.1 hf
    exact h r (List.mem_of_find?_eq_some hr)
  · cases hm

theorem matched_enveloped (hc : consumer.Enveloped) {path : String} {m : MethodRouter}
    (hm : matched K X consumer api path = some m) : m.Enveloped := by
  have hconsumer : ∀ m', (consumer.router path).map (MethodRouter.layer api.layer) = some m' →
      m'.Enveloped := by
    intro m' hm'
    obtain ⟨m'', hm'', rfl⟩ := Option.map_eq_some_iff.1 hm'
    exact (hc.router path m'' hm'').layer api.layer
  have hown : ∀ m', methodRouter (ownRoutes K X api) path = some m' → m'.Enveloped :=
    fun m' hm' => methodRouter_enveloped (fun r hr => ownRoutes_enveloped hr) hm'
  unfold matched at hm
  split at hm
  · cases hm
    exact (hown _ ‹_›).merge (hconsumer _ ‹_›)
  · cases hm
    exact hown _ ‹_›
  · exact hconsumer m hm

/-- The path matches a route, and nothing on it takes the method. -/
def MethodNotAllowed (K : Crypto) (X : JsonExtractor) (consumer : Consumer) (api : Api)
    (req : HttpRequest) : Prop :=
  ∃ m, matched K X consumer api req.path = some m ∧ m.select req.method = none ∧
    m.fallback = none

theorem MethodRouter.select_of_handler {m : MethodRouter} {method : Method} {f : Handler}
    (hf : m.handler method = some f) : m.select method ≠ none := by
  cases method with
  | head => simp [MethodRouter.select, hf]
  | _ => simp [MethodRouter.select, hf]

/-- A route of servir takes its own method. -/
theorem ownRoutes_taken {r : Route} (hr : r ∈ ownRoutes K X api) {req : HttpRequest}
    (hpath : req.path = r.path) (hmethod : req.method = r.method) :
    ¬ MethodNotAllowed K X consumer api req := by
  obtain ⟨m, hm, f, hf⟩ : ∃ m, methodRouter (ownRoutes K X api) req.path = some m ∧
      ∃ f, m.handler req.method = some f := by
    have hany : (ownRoutes K X api).any (fun r' => r'.path == req.path) = true :=
      List.any_eq_true.2 ⟨r, hr, by simp [hpath]⟩
    obtain ⟨r', hr'⟩ : ∃ r', (ownRoutes K X api).find?
        (fun r' => r'.path == req.path && r'.method == req.method) = some r' := by
      rw [← Option.isSome_iff_exists, List.find?_isSome]
      exact ⟨r, hr, by simp [hpath, hmethod]⟩
    exact ⟨_, if_pos hany, r'.handler, by simp [hr']⟩
  rintro ⟨m', hm', hselect, -⟩
  unfold matched at hm'
  rw [hm] at hm'
  split at hm'
  · rename_i hown _
    cases hown
    cases hm'
    exact MethodRouter.select_of_handler (f := f) (by simp [MethodRouter.merge, hf]) hselect
  · rename_i hown _
    cases hown
    cases hm'
    exact MethodRouter.select_of_handler hf hselect
  · simp at *

theorem not_enveloped_empty (status : ℕ) : ¬ HttpResponse.Enveloped ⟨status, .empty⟩ := by
  rintro (⟨-, data, h⟩ | ⟨-, -, errorId, context, h⟩) <;> cases h

private theorem call_enveloped {m : MethodRouter} (hm : m.Enveloped) (req : HttpRequest) :
    (m.call req).Always (fun r => r.Enveloped ↔
      ¬ (m.select req.method = none ∧ m.fallback = none)) := by
  unfold MethodRouter.call
  cases hselect : m.select req.method with
  | some f => exact (hm.select hselect req).mono (fun r hr => by simp [hr])
  | none =>
    cases hfallback : m.fallback with
    | some f => exact (hm.fallback f hfallback req).mono (fun r hr => by simp [hr])
    | none => exact iff_of_false (not_enveloped_empty 405) (by simp)

theorem dispatch_enveloped (hc : consumer.Enveloped) (req : HttpRequest) :
    (dispatch K X consumer api req).Always (fun r => r.Enveloped ↔
      ¬ MethodNotAllowed K X consumer api req) := by
  unfold dispatch
  cases hm : matched K X consumer api req.path with
  | some m =>
    refine (call_enveloped (matched_enveloped hc hm) req).mono (fun r hr => hr.trans ?_)
    simp [MethodNotAllowed, hm]
  | none =>
    have hnone : ¬ MethodNotAllowed K X consumer api req := by simp [MethodNotAllowed, hm]
    simp only [hnone, not_false_eq_true, iff_true]
    cases hfallback : consumer.fallback with
    | none => exact notFound_enveloped req
    | some f =>
      dsimp only
      split_ifs
      · exact authLayer_enveloped (hc.fallback f hfallback) api.layer req
      · exact notFound_enveloped req

/-- However its effects are answered, a response has the envelope exactly if the request is not a
`HEAD` and its path, if it matches a route, takes its method. -/
theorem response_enveloped_iff (hc : consumer.Enveloped) (req : HttpRequest) :
    (router K X consumer api req).Always (fun r => r.Enveloped ↔
      req.method ≠ .head ∧ ¬ MethodNotAllowed K X consumer api req) := by
  rw [router, always_bind]
  refine (dispatch_enveloped hc req).mono (fun r hr => ?_)
  rw [always_return]
  split_ifs with hhead
  · simp [hhead, not_enveloped_empty]
  · simp [hhead, hr]

/-- A consumer without routes. -/
def Consumer.none : Consumer := ⟨fun _ => .none, .none⟩

theorem Consumer.none_enveloped : Consumer.none.Enveloped := ⟨nofun, nofun⟩

/-- The extractor on requests without a content type. -/
def JsonExtractor.untyped : JsonExtractor :=
  let text := "Expected request with `Content-Type: application/json`"
  ⟨fun _ => .error text, fun _ => .error text, fun _ => .error text, fun _ => .error text⟩

/-- A `POST` without a content type is answered with the envelope. -/
theorem response_enveloped_untyped :
    (router Transparent.crypto .untyped .none Scenario.api
      ⟨.post, "/api/v1/auth/register", [], [], none⟩).Always HttpResponse.Enveloped := by
  have htaken : ¬ MethodNotAllowed Transparent.crypto .untyped .none Scenario.api
      ⟨.post, "/api/v1/auth/register", [], [], none⟩ :=
    ownRoutes_taken List.mem_cons_self rfl rfl
  exact (response_enveloped_iff Consumer.none_enveloped _).mono
    (fun r hr => hr.2 ⟨by simp, htaken⟩)

/-- A `GET` on the path of `register` is answered 405 with an empty body. -/
theorem response_not_enveloped : ∃ consumer : Consumer, consumer.Enveloped ∧
    router Transparent.crypto .untyped consumer Scenario.api
        ⟨.get, "/api/v1/auth/register", [], [], none⟩ = .pure ⟨405, .empty⟩ ∧
    ¬ HttpResponse.Enveloped ⟨405, .empty⟩ :=
  ⟨.none, Consumer.none_enveloped, rfl, not_enveloped_empty 405⟩

end Servir
