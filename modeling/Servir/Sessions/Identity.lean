import Servir.Runs.Scenario

/-!
# Tokens, rows and users agree

`consume_refresh_token` looks at a `jti` alone, logout at a `sub` alone and `me`
at no table at all. They are right because a token, its row and its user always
name the same user, at every step of every handler.
-/

namespace Servir
open Interleaving

variable {K : Crypto} {A : Assumption (service K)} {sh : Shared} {log later earlier : Trail}
  {t s : ℕ} {api : Api}

theorem Issues.user_not_found {config : AuthConfig} {req : Request} {h : Past} {userId : String}
    (hi : Issues K config req h (.error (.authToken (.userNotFound userId)))) :
    sent (.selectUserById userId) (.ok none) ∈ h := by
  generalize hres : (Except.error (ServirError.authToken (.userNotFound userId)) :
    Except ServirError TokenResponse) = res at hi
  cases hi with
  | userNotFound =>
    cases hres
    exact List.mem_cons_self
  | createFailed =>
    simp only [createUserError, Except.error.injEq] at hres
    split at hres <;> cases hres
  | malformedHash hverify =>
    obtain ⟨display, rfl⟩ := verifyPassword_error hverify
    cases hres
  | rejected hverify =>
    obtain rfl | ⟨display, rfl⟩ := verifyTokenAt_error hverify <;> cases hres
  | _ => cases hres

namespace Traces

/-- The row of a signed refresh token belongs to the user of the token. -/
theorem row_user (h : Traces K A sh log) {secret tok : String} {c : Claims} {r : RefreshTokenRow}
    (hs : Signed log secret tok c) (hkind : c.kind = .refresh) (hr : Inserted log t r)
    (hjti : r.jti = c.jti) : r.userId = c.sub := by
  obtain ⟨t₀, hmem⟩ := hs
  obtain ⟨secret', c', tok', hmem', hkind', hjti', hsub⟩ := inserted_signed h hr
  obtain ⟨-, rfl⟩ := refresh_signed_jti h hmem hmem' hkind hkind' (hjti.symm.trans hjti'.symm)
  exact hsub.symm

theorem user_found (hA : A ≤ Unforged) (h : Traces K A sh log) (userId : String) :
    ran t (.selectUserById userId) (.ok none) ∉ log := by
  intro hmem
  obtain ⟨later, earlier, rfl⟩ := List.append_of_mem hmem
  obtain ⟨s, api, body, c, n, n', rows, hj, hverify, -, -, rfl, -⟩ := looking_up h
  obtain ⟨sh₀, -, h₀, -⟩ := responds h
  obtain ⟨u, hu, hid, -⟩ :=
    signed_registered h₀ (genuine hA h₀ hj rfl (verifyTokenAt_ok.1 hverify).1)
  have hnone : (none : Option User) = some u.toUser := (found_id h u.toUser).2 ⟨u, hu, hid, rfl⟩
  cases hnone

theorem not_user_not_found (hA : A ≤ Unforged) (h : Traces K A sh log) (userId : String) :
    .replied t (.tokens (.error (.authToken (.userNotFound userId)))) ∉ log := by
  intro hr
  obtain ⟨s, api, req, hj, hrep⟩ := replied_request h hr (by simp)
  cases hrep with
  | tokens hissue => exact user_found hA h _ (mem_history.1 hissue.user_not_found)

theorem refreshed_user (hA : A ≤ Unforged) (h : Traces K A sh log) {body : RefreshRequest}
    {c : Claims} {resp : TokenResponse} (hj : .spawned t (.request s api (.refresh body)) ∈ log)
    (hopen : K.openToken api.routes.secret body.refreshToken = .ok c)
    (hr : .replied t (.tokens (.ok resp)) ∈ log) :
    ∃ ca cr, encoded t api.routes.secret ca (.ok resp.accessToken) ∈ log ∧
      encoded t api.routes.secret cr (.ok resp.refreshToken) ∈ log ∧
      ca.kind = .access ∧ ca.sub = c.sub ∧ ca.username = c.username ∧
      cr.kind = .refresh ∧ cr.sub = c.sub ∧ cr.username = c.username := by
  obtain ⟨h₀, user, n, n', jti, jti', hacts, hpast, haccess, hrefresh, -⟩ :=
    answered_signed h hj hr
  obtain ⟨hid, hname⟩ := refresh_user hA h hj hacts hpast hopen
  exact ⟨_, _, haccess, hrefresh, rfl, hid, hname, rfl, hid, hname⟩

/-- The delete of a logout removes the row of the token that it was given, for good. -/
theorem revoked_own_row (hA : A ≤ Unforged) {body : LogoutRequest} {c : Claims} {userId : String}
    {rows t₀ : ℕ} {r : RefreshTokenRow}
    (h : Traces K A sh (later ++ ran t (.deleteRefreshTokensForUser userId) (.ok rows) :: earlier))
    (hj : .spawned t (.request s api (.logout body)) ∈
      later ++ ran t (.deleteRefreshTokensForUser userId) (.ok rows) :: earlier)
    (hopen : K.openToken api.routes.secret body.refreshToken = .ok c)
    (hr : Inserted earlier t₀ r) (hjti : r.jti = c.jti) : r.userId = userId ∧ ∀ r', r'.jti = c.jti →
      ¬ Stored (later ++ ran t (.deleteRefreshTokensForUser userId) (.ok rows) :: earlier) r' := by
  obtain ⟨s', api', body', c', n, hj', hverify, hkind, rfl, -⟩ := revoking h
  cases Traced.spawned_unique h hj (earlier_subset hj')
  obtain rfl : c' = c := by
    rw [(verifyTokenAt_ok.1 hverify).1] at hopen
    exact Except.ok.inj hopen
  have huser := row_user h (genuine hA h hj rfl hopen) hkind (hr.mono earlier_subset) hjti
  refine ⟨huser, fun r' hr' => ?_⟩
  have hgone : ¬ Stored (ran t (.deleteRefreshTokensForUser c'.sub) (.ok rows) :: earlier) r :=
    not_stored_removed (.inr ⟨t, rows, huser ▸ rfl⟩)
  exact stays_removed h (List.mem_cons_of_mem _ hr) hgone (hr'.trans hjti.symm)

theorem identity_registered (hA : A ≤ Unforged) (h : Traces K A sh log) {resp : MeResponse}
    (hr : .replied t (.identity (.ok resp)) ∈ log) :
    ∃ u, Registered log u ∧ u.id = resp.userId ∧ u.username = resp.username := by
  obtain ⟨s, api, authorization, tok, c, n, hj, -, htok, hverify, -, rfl⟩ := identified h hr
  have hopen := (verifyTokenAt_ok.1 hverify).1
  rw [api_layer h hj] at hopen
  exact signed_registered h (genuine hA h hj htok hopen)

end Traces

/-- Tokens, refresh rows and users agree on identity in every reachable state. -/
theorem identity_agreement {σ : Pool (service K)} (h : Reachable K Unforged σ) :
    (∀ t secret c r, encoded t secret c r ∈ σ.log →
      ∃ u ∈ σ.shared.db.users, u.id = c.sub ∧ u.username = c.username) ∧
    (∀ r ∈ σ.shared.db.refreshTokens, ∃ t secret c tok, encoded t secret c (.ok tok) ∈ σ.log ∧
      c.kind = .refresh ∧ c.jti = r.jti ∧ c.sub = r.userId) ∧
    (∀ t userId, ran t (.selectUserById userId) (.ok none) ∉ σ.log ∧
      .replied t (.tokens (.error (.authToken (.userNotFound userId)))) ∉ σ.log) ∧
    (∀ t s api body c resp, .spawned t (.request s api (.refresh body)) ∈ σ.log →
      K.openToken api.routes.secret body.refreshToken = .ok c →
      .replied t (.tokens (.ok resp)) ∈ σ.log →
      ∃ ca cr, encoded t api.routes.secret ca (.ok resp.accessToken) ∈ σ.log ∧
        encoded t api.routes.secret cr (.ok resp.refreshToken) ∈ σ.log ∧
        ca.kind = .access ∧ ca.sub = c.sub ∧ ca.username = c.username ∧
        cr.kind = .refresh ∧ cr.sub = c.sub ∧ cr.username = c.username) ∧
    (∀ t s api body, .spawned t (.request s api (.logout body)) ∈ σ.log →
      .replied t (.loggedOut (.ok ())) ∈ σ.log →
      ∃ c rows, K.openToken api.routes.secret body.refreshToken = .ok c ∧
        ran t (.deleteRefreshTokensForUser c.sub) (.ok rows) ∈ σ.log ∧
        ∀ later earlier t₀ r,
          σ.log = later ++ ran t (.deleteRefreshTokensForUser c.sub) (.ok rows) :: earlier →
          Inserted earlier t₀ r → r.jti = c.jti →
          r.userId = c.sub ∧ ∀ r' ∈ σ.shared.db.refreshTokens, r'.jti ≠ c.jti) ∧
    (∀ later earlier t s api body c userId rows r,
      σ.log = later ++ ran t (.deleteRefreshTokensForUser userId) (.ok rows) :: earlier →
      .spawned t (.request s api (.logout body)) ∈ σ.log →
      K.openToken api.routes.secret body.refreshToken = .ok c →
      Stored earlier r → r.jti = c.jti →
      r.userId = userId ∧ ∀ r' ∈ σ.shared.db.refreshTokens, r'.jti ≠ c.jti) ∧
    (∀ t resp, .replied t (.identity (.ok resp)) ∈ σ.log →
      ∃ u ∈ σ.shared.db.users, u.id = resp.userId ∧ u.username = resp.username) := by
  have ht := h.traces
  have hrec := ht.recorded
  have hrevoked : ∀ {later earlier t s api body c userId rows t₀ r},
      σ.log = later ++ ran t (.deleteRefreshTokensForUser userId) (.ok rows) :: earlier →
      .spawned t (.request s api (.logout body)) ∈ σ.log →
      K.openToken api.routes.secret body.refreshToken = .ok c → Inserted earlier t₀ r →
      r.jti = c.jti → r.userId = userId ∧ ∀ r' ∈ σ.shared.db.refreshTokens, r'.jti ≠ c.jti := by
    intro later earlier t s api body c userId rows t₀ r hlog hj hopen hr hjti
    obtain ⟨huser, hgone⟩ :=
      Traces.revoked_own_row le_rfl (hlog ▸ ht) (hlog ▸ hj) hopen hr hjti
    exact ⟨huser, fun r' hr' hj' => hgone r' hj' (hlog ▸ (hrec.tokens r').1 hr')⟩
  refine ⟨?_, ?_, ?_, ?_, ?_, ?_, ?_⟩
  · intro t secret c r hmem
    obtain ⟨later, earlier, hlog⟩ := List.append_of_mem hmem
    obtain ⟨u, hu, hid, hname⟩ := Traces.encoded_registered (hlog ▸ ht)
    exact ⟨u, (hrec.users u).2 (hlog ▸ hu.mono earlier_subset), hid, hname⟩
  · intro r hr
    obtain ⟨t, hins⟩ := ((hrec.tokens r).1 hr).inserted
    obtain ⟨secret, c, tok, hmem, hc⟩ := ht.inserted_signed hins
    exact ⟨t, secret, c, tok, hmem, hc⟩
  · exact fun t userId => ⟨ht.user_found le_rfl userId, ht.not_user_not_found le_rfl userId⟩
  · exact fun t s api body c resp hj hopen hr => ht.refreshed_user le_rfl hj hopen hr
  · intro t s api body hj ho
    obtain ⟨c, rows, hopen, -, hran⟩ := ht.logged_out hj ho
    exact ⟨c, rows, hopen, hran, fun later earlier t₀ r hlog hr => hrevoked hlog hj hopen hr⟩
  · intro later earlier t s api body c userId rows r hlog hj hopen hr hjti
    obtain ⟨t₀, ht₀⟩ := hr.inserted
    exact hrevoked hlog hj hopen ht₀ hjti
  · intro t resp hr
    obtain ⟨u, hu, hid, hname⟩ := ht.identity_registered le_rfl hr
    exact ⟨u, (hrec.users u).2 hu, hid, hname⟩

open Scenario in
/-- `ann` refreshes, asks who she is and logs out, and her row is gone. -/
theorem identity_agreement_logged_out : ∃ σ : Pool (service Transparent.crypto),
    Reachable Transparent.crypto Unforged σ ∧
    .replied 3 (.identity (.ok ⟨"id", "ann"⟩)) ∈ σ.log ∧
    (∃ u ∈ σ.shared.db.users, u.id = "id" ∧ u.username = "ann") ∧
    .replied 4 (.loggedOut (.ok ())) ∈ σ.log ∧
    ∀ r ∈ σ.shared.db.refreshTokens, r.jti ≠ "r2" := by
  obtain ⟨σ, hσ, hme, hj, ho, hlog, hins⟩ := Scenario.reach Unforged
    (starting ++ registering 1 "ann" "password" 105 "id" "a1" "r1" ++
      consuming 2 (token (ann 105 "r1")) 106 ++ rotating 2 107 "a2" "r2" ++
      requesting 3 (.me (bearer (accessToken "id" "ann" 107 "a2"))) ++ answering 3 [.reading 108] ++
      [.reply 3] ++ loggingOut 4 (token (ann 107 "r2")) 109)
    (fun σ => .replied 3 (.identity (.ok ⟨"id", "ann"⟩)) ∈ σ.log ∧
      .spawned 4 (.request 0 api (.logout ⟨token (ann 107 "r2")⟩)) ∈ σ.log ∧
      .replied 4 (.loggedOut (.ok ())) ∈ σ.log ∧
      σ.log = σ.log.take 1 ++
        ran 4 (.deleteRefreshTokensForUser "id") (.ok 1) :: σ.log.drop 2 ∧
      insertion 2 (row "id" 107 "r2") ∈ σ.log.drop 2) (by decide +kernel)
  obtain ⟨-, -, -, -, hlogout, -, hidentity⟩ := identity_agreement hσ
  obtain ⟨c, rows, hopen, hran, hgone⟩ := hlogout 4 0 _ _ hj ho
  obtain rfl : c = ann 107 "r2" :=
    Except.ok.inj (hopen.symm.trans (Transparent.crypto_tokenSound.open_encode rfl))
  have hdelete : ran 4 (.deleteRefreshTokensForUser "id") (.ok 1) ∈ σ.log :=
    hlog ▸ List.mem_append_right _ List.mem_cons_self
  cases hσ.traces.stage_unique hran hdelete (by simp [Effect.stage]) rfl
  exact ⟨σ, hσ, hme, hidentity 3 _ hme, ho, (hgone _ _ 2 _ hlog hins rfl).2⟩

end Servir
