import Servir.Runs.Scenario

/-!
# Refresh tokens are single use

A session is what one register or login opened, followed through its rotations.
Rotation is a partial function on `jti`s because a `jti` is consumed once, so a
session is a chain, and only the end of the chain can have a row.
-/

namespace Servir
open Interleaving

variable {K : Crypto} {A : Assumption (service K)} {sh : Shared} {log : Trail}

/-- Task `t` issued the refresh token with the claims `c`. -/
def IssuedRefresh (log : Trail) (t : ℕ) (c : Claims) : Prop :=
  c.kind = .refresh ∧ ∃ secret tok, encoded t secret c (.ok tok) ∈ log

/-- A refresh request consumed the token `jti` and issued the token `jti'` for it. -/
def Rotates (log : Trail) (jti jti' : String) : Prop :=
  ∃ t c, Consumed log t jti ∧ IssuedRefresh log t c ∧ c.jti = jti'

def Request.opensSession : Request → Bool
  | .register _ | .login _ => true
  | _ => false

/-- The refresh tokens, by `jti`, that descend by rotation from the register or login `root`. -/
def Session (log : Trail) (root : ℕ) (jti : String) : Prop :=
  ∃ s api req c, .spawned root (.request s api req) ∈ log ∧ req.opensSession = true ∧
    IssuedRefresh log root c ∧ Relation.ReflTransGen (Rotates log) c.jti jti

/-- Request `t` is a refresh that presents the string `tok`. -/
def Presents (log : Trail) (t : ℕ) (tok : String) : Prop :=
  ∃ s api, .spawned t (.request s api (.refresh ⟨tok⟩)) ∈ log

namespace Traces

theorem issuedRefresh_unique (h : Traces K A sh log) {t : ℕ} {c c' : Claims}
    (hc : IssuedRefresh log t c) (hc' : IssuedRefresh log t c') : c = c' := by
  obtain ⟨hkind, _, _, hmem⟩ := hc
  obtain ⟨hkind', _, _, hmem'⟩ := hc'
  exact (refresh_signed_once h hmem hmem' hkind hkind').1

theorem rotates_rightUnique (h : Traces K A sh log) : Relator.RightUnique (Rotates log) := by
  rintro jti _ _ ⟨t, c, hcons, hissued, rfl⟩ ⟨t', c', hcons', hissued', rfl⟩
  obtain rfl : t = t' := consumed_unique h hcons hcons'
  rw [issuedRefresh_unique h hissued hissued']

theorem session_chain (h : Traces K A sh log) {root : ℕ} {jti jti' : String}
    (hj : Session log root jti) (hj' : Session log root jti') :
    Relation.ReflTransGen (Rotates log) jti jti' ∨ Relation.ReflTransGen (Rotates log) jti' jti := by
  obtain ⟨_, _, _, c, -, -, hc, hrot⟩ := hj
  obtain ⟨_, _, _, c', -, -, hc', hrot'⟩ := hj'
  obtain rfl := issuedRefresh_unique h hc hc'
  exact Relation.ReflTransGen.total_of_right_unique (rotates_rightUnique h) hrot hrot'

theorem rotates_stored (h : Traces K A sh log) {r : RefreshTokenRow} (hr : Stored log r)
    {jti : String} (hrot : Relation.ReflTransGen (Rotates log) r.jti jti) : r.jti = jti := by
  rcases hrot.cases_head with heq | ⟨_, ⟨t, c, hcons, -⟩, -⟩
  · exact heq
  · obtain ⟨-, -, -, -, -, -, -, -, -, hgone⟩ := consumed_row h hcons
    exact absurd hr (hgone r rfl)

theorem session_row_unique (h : Traces K A sh log) {root : ℕ} {r r' : RefreshTokenRow}
    (hr : Stored log r) (hr' : Stored log r') (hj : Session log root r.jti)
    (hj' : Session log root r'.jti) : r = r' := by
  refine stored_jti h hr hr' ?_
  rcases session_chain h hj hj' with hrot | hrot
  · exact rotates_stored h hr hrot
  · exact (rotates_stored h hr' hrot).symm

/-- Requests that present one string and consume anything consume one `jti`, so they are one. -/
theorem presents_unique (h : Traces K A sh log) {tok jti jti' : String} {t t' : ℕ}
    (ht : Presents log t tok) (ht' : Presents log t' tok) (hc : Consumed log t jti)
    (hc' : Consumed log t' jti') : t = t' := by
  obtain ⟨s, api, hj⟩ := ht
  obtain ⟨s', api', hj'⟩ := ht'
  obtain ⟨_, _, body, c, hspawn, hopen, -, rfl⟩ := consumed_request h hc
  obtain ⟨_, _, body', c', hspawn', hopen', -, rfl⟩ := consumed_request h hc'
  cases Traced.spawned_unique h hj hspawn
  cases Traced.spawned_unique h hj' hspawn'
  rw [secret_agreed h hj hj', hopen'] at hopen
  cases hopen
  exact consumed_unique h hc hc'

theorem tokens_consumed (h : Traces K A sh log) {tok : String} {t : ℕ} {resp : TokenResponse}
    (ht : Presents log t tok) (hr : .replied t (.tokens (.ok resp)) ∈ log) :
    ∃ jti, Consumed log t jti := by
  obtain ⟨s, api, hj⟩ := ht
  obtain ⟨c, -, -, hc⟩ := refreshed_consumed h hj hr
  exact ⟨c.jti, hc⟩

end Traces

/-- Refresh tokens are single use and rotation never forks a session. -/
theorem refresh_single_use {σ : Pool (service K)} (h : Reachable K Unrestricted σ) :
    (∀ tok t t' jti jti', Presents σ.log t tok → Presents σ.log t' tok →
      Consumed σ.log t jti → Consumed σ.log t' jti' → t = t') ∧
    (∀ tok t t' resp resp', Presents σ.log t tok → Presents σ.log t' tok →
      .replied t (.tokens (.ok resp)) ∈ σ.log → .replied t' (.tokens (.ok resp')) ∈ σ.log →
      t = t') ∧
    (∀ root r r', r ∈ σ.shared.db.refreshTokens → r' ∈ σ.shared.db.refreshTokens →
      Session σ.log root r.jti → Session σ.log root r'.jti → r = r') := by
  have ht := h.traces
  refine ⟨?_, ?_, ?_⟩
  · intro tok t t' jti jti' hp hp' hc hc'
    exact ht.presents_unique hp hp' hc hc'
  · intro tok t t' resp resp' hp hp' hr hr'
    obtain ⟨jti, hc⟩ := ht.tokens_consumed hp hr
    obtain ⟨jti', hc'⟩ := ht.tokens_consumed hp' hr'
    exact ht.presents_unique hp hp' hc hc'
  · intro root r r' hr hr' hj hj'
    exact ht.session_row_unique ((ht.recorded.tokens r).1 hr) ((ht.recorded.tokens r').1 hr') hj hj'

open Scenario in
/-- Two refreshes present one token at once: only the one that comes first can use it. -/
theorem refresh_single_use_race : ∃ σ : Pool (service Transparent.crypto),
    Reachable Transparent.crypto Unrestricted σ ∧
    Presents σ.log 2 (token (ann 105 "r1")) ∧
    Presents σ.log 3 (token (ann 105 "r1")) ∧ Consumed σ.log 2 "r1" ∧
    ∀ jti, ¬ Consumed σ.log 3 jti := by
  let tok := token (ann 105 "r1")
  obtain ⟨σ, hσ, hp, hp', hc⟩ := Scenario.reach Unrestricted
    (starting ++ registering 1 "ann" "password" 105 "id" "a1" "r1" ++
      requesting 3 (.refresh ⟨tok⟩) ++ answering 3 [.reading 106] ++ consuming 2 tok 106 ++
      answering 3 [.reading 106, .execute] ++ rotating 2 107 "a2" "r2" ++ [.reply 3])
    (fun σ => .spawned 2 (.request 0 api (.refresh ⟨tok⟩)) ∈ σ.log ∧
      .spawned 3 (.request 0 api (.refresh ⟨tok⟩)) ∈ σ.log ∧
      ran 2 (.deleteRefreshToken "r1" 106) (.ok 1) ∈ σ.log)
    (by decide +kernel)
  have hcons : Consumed σ.log 2 "r1" := ⟨106, 1, hc, Nat.one_pos⟩
  refine ⟨σ, hσ, ⟨0, api, hp⟩, ⟨0, api, hp'⟩, hcons, fun jti hc' => ?_⟩
  have := (refresh_single_use hσ).1 _ 2 3 _ _ ⟨0, api, hp⟩ ⟨0, api, hp'⟩ hcons hc'
  omega

end Servir
