import Servir.Runs.Answers

/-!
# The stages of a handler

A handler passes its statements and signatures in a fixed order and each of them
once. The stage of an effect is its place in that order, so one inequality says
which effects can precede which in the log of a task.
-/

namespace Servir
open Interleaving

/-- Clock readings and random draws have no place of their own. -/
def Effect.stage : Effect → ℕ
  | .nowSecs | .newV4 | .generateSalt | .fillBytes => 0
  | .sql (.selectUserByUsername _) | .sql (.insertUser ..) | .sql (.deleteRefreshToken ..)
  | .sql (.deleteRefreshTokensForUser _) | .sql .selectSigningSecret => 1
  | .sql (.selectUserById _) | .sql (.insertSigningSecret _) => 2
  | .encode _ c => match c.kind with
    | .access => 3
    | .refresh => 4
  | .sql (.insertRefreshToken ..) => 5

variable {K : Crypto} {A : Assumption (service K)} {config : AuthConfig} {req : Request}
  {h : Past} {e : Effect} {user : User}

theorem Acts.stage_le (ha : Acts K config req h user) {x : Entry signature} (hx : x ∈ h) :
    x.effect.stage ≤ 2 := by
  cases ha <;> simp only [List.mem_cons, List.not_mem_nil, or_false] at hx <;>
    rcases hx with rfl | rfl | rfl | rfl <;> simp [Effect.stage]

theorem Attempts.stage_lt (ha : Attempts K config req h e) (he : 0 < e.stage)
    {x : Entry signature} (hx : x ∈ h) : x.effect.stage < e.stage := by
  cases ha with
  | nowSecs => simp [Effect.stage] at he
  | newV4 => simp [Effect.stage] at he
  | generateSalt => simp [Effect.stage] at he
  | signAccess hacts =>
    simp only [List.mem_cons] at hx
    rcases hx with rfl | rfl | hx
    · simp [Effect.stage, accessClaims]
    · simp [Effect.stage, accessClaims]
    · exact (hacts.stage_le hx).trans_lt (by simp [Effect.stage, accessClaims])
  | signRefresh hacts =>
    simp only [accessPast, List.mem_cons] at hx
    rcases hx with rfl | rfl | rfl | rfl | rfl | hx
    case inr.inr.inr.inr.inr =>
      exact (hacts.stage_le hx).trans_lt (by simp [Effect.stage, refreshClaims])
    all_goals simp [Effect.stage, refreshClaims, accessClaims]
  | store hacts =>
    simp only [accessPast, refreshPast, List.mem_cons] at hx
    rcases hx with rfl | rfl | rfl | rfl | rfl | rfl | rfl | rfl | hx
    case inr.inr.inr.inr.inr.inr.inr.inr =>
      exact (hacts.stage_le hx).trans_lt (by simp [Effect.stage])
    all_goals simp [Effect.stage, refreshClaims, accessClaims]
  | selectByUsername => cases hx
  | _ =>
    simp only [List.mem_cons, List.not_mem_nil, or_false] at hx
    rcases hx with rfl | rfl | rfl <;> simp [Effect.stage]

theorem BuildAttempts.stage_lt (ha : BuildAttempts h e) (he : 0 < e.stage)
    {x : Entry signature} (hx : x ∈ h) : x.effect.stage < e.stage := by
  cases ha with
  | select => cases hx
  | fillBytes => simp [Effect.stage] at he
  | insert =>
    simp only [List.mem_cons, List.not_mem_nil, or_false] at hx
    rcases hx with rfl | rfl <;> simp [Effect.stage]

theorem protocol_stage_lt {job : Job} (ha : (protocol K).attempts job h e) (he : 0 < e.stage)
    {x : Entry signature} (hx : x ∈ h) : x.effect.stage < e.stage := by
  cases job with
  | build b => exact BuildAttempts.stage_lt ha he hx
  | request s api req => exact Attempts.stage_lt ha he hx

namespace Traces
variable {sh : Shared} {log later earlier : Trail} {t : ℕ}

/-- A task reaches a stage only after smaller ones. -/
theorem stage_lt {a : e.Answer} (h : Traces K A sh (later ++ .performed t e a :: earlier))
    (he : 0 < e.stage) {e' : Effect} {a' : e'.Answer} (hmem : .performed t e' a' ∈ earlier) :
    e'.stage < e.stage := by
  obtain ⟨job, -, ha⟩ := Traced.attempted_at h
  exact protocol_stage_lt ha he (x := ⟨e', a'⟩) (mem_history.2 hmem)

theorem stage_unique (h : Traces K A sh log) {e' : Effect} {a : e.Answer} {a' : e'.Answer}
    (hmem : .performed t e a ∈ log) (hmem' : .performed t e' a' ∈ log) (he : 0 < e.stage)
    (hstage : e'.stage = e.stage) : (.performed t e a : Happening) = .performed t e' a' := by
  obtain heq | ⟨later, earlier, rfl, hm⟩ | ⟨later, earlier, rfl, hm⟩ := ordered_of_mem hmem hmem'
  · exact heq
  · have := stage_lt h he hm
    omega
  · have := stage_lt h (hstage ▸ he) hm
    omega

theorem requested {a : e.Answer} (h : Traces K A sh (later ++ .performed t e a :: earlier))
    (he : ∀ h, ¬ BuildAttempts h e) : ∃ s api req, .spawned t (.request s api req) ∈ earlier ∧
      Attempts K api.routes req (history t earlier) e := by
  obtain ⟨job, hj, ha⟩ := Traced.attempted_at h
  cases job with
  | build b => exact absurd ha (he _)
  | request s api req => exact ⟨s, api, req, hj, ha⟩

theorem attempted_by {a : e.Answer} (h : Traces K A sh (later ++ .performed t e a :: earlier))
    {s : ℕ} {api : Api} (hj : .spawned t (.request s api req) ∈ earlier) :
    Attempts K api.routes req (history t earlier) e := by
  obtain ⟨job, hj', ha⟩ := Traced.attempted_at h
  obtain ⟨sh₀, -, h₀, -⟩ := responds h
  cases Traced.spawned_unique h₀ hj hj'
  exact ha

end Traces
end Servir
