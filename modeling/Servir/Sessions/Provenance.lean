import Servir.Sessions.Identity

/-!
# Accepted tokens trace back to credentials

Clients hold the tokens of OK responses and nothing else that verifies. The two
fields of a response open to claims of their own kinds, so no endpoint takes one
for the other, and the token that a refresh presents leads to an older response.
The chain that results ends at a register or at a password.
-/

namespace Servir
open Interleaving

variable {K : Crypto} {A : Assumption (service K)} {sh : Shared} {log later earlier : Trail}
  {t s : ℕ} {api : Api} {req : Request}

/-- The kind of token that an endpoint checks for. -/
def Request.wants : Request → TokenKind
  | .me _ | .guarded _ => .access
  | _ => .refresh

/-- Request `t` accepted the string `tok`: at a reading of its clock the string verified, and
passed the check of the kind. -/
def Accepts (K : Crypto) (log : Trail) (t : ℕ) (req : Request) (tok : String) (c : Claims) : Prop :=
  ∃ s api n, .spawned t (.request s api req) ∈ log ∧ read t n ∈ log ∧ req.presents = some tok ∧
    verifyTokenAt K tok (req.config api) n = .ok c ∧ c.kind = req.wants

/-- Request `t` found the row `r` stored and consumed it. -/
def ConsumedRow (log : Trail) (t : ℕ) (r : RefreshTokenRow) : Prop :=
  ∃ later earlier now rows, log = later ++ ran t (.deleteRefreshToken r.jti now) (.ok rows) ::
    earlier ∧ Stored earlier r ∧ now < r.expiresAt

/-- The response is the last of a chain of OK responses: the register that created `u` or a login
with the password of `u`, then refreshes, each of which presented the refresh token of the response
before it and consumed its row. -/
inductive Chain (K : Crypto) (u : UserRow) : Trail → TokenResponse → Prop where
  | register {log : Trail} {t s : ℕ} {api : Api} {body : RegisterRequest} {resp : TokenResponse} :
      .spawned t (.request s api (.register body)) ∈ log → Created log t u →
      .replied t (.tokens (.ok resp)) ∈ log → Chain K u log resp
  | login {log : Trail} {t s : ℕ} {api : Api} {body : LoginRequest} {resp : TokenResponse} :
      .spawned t (.request s api (.login body)) ∈ log → Registered log u →
      u.username = body.username → verifyPassword K body.password u.passwordHash = .ok true →
      .replied t (.tokens (.ok resp)) ∈ log → Chain K u log resp
  | refresh {log later earlier : Trail} {t s : ℕ} {api : Api} {resp resp' : TokenResponse}
      {c : Claims} {r : RefreshTokenRow} : Chain K u earlier resp →
      log = later ++ .spawned t (.request s api (.refresh ⟨resp.refreshToken⟩)) :: earlier →
      K.openToken api.routes.secret resp.refreshToken = .ok c → r.jti = c.jti → r.userId = u.id →
      ConsumedRow log t r → .replied t (.tokens (.ok resp')) ∈ log → Chain K u log resp'

theorem ConsumedRow.inserted {r : RefreshTokenRow} (h : ConsumedRow log t r) :
    ∃ t₀, Inserted log t₀ r := by
  obtain ⟨later, earlier, now, rows, rfl, hr, -⟩ := h
  exact hr.inserted.imp (fun _ hins => hins.mono earlier_subset)

namespace Traces

theorem field_opens (hK : K.TokenSound) (h : Traces K A sh log) {t' : ℕ} {resp : TokenResponse}
    (hj : .spawned t (.request s api req) ∈ log) (hr : .replied t' (.tokens (.ok resp)) ∈ log)
    (k : TokenKind) :
    ∃ c, K.openToken api.routes.secret (resp.field k) = .ok c ∧ c.kind = k := by
  obtain ⟨s', api', req', hj', -⟩ := replied_request h hr (by simp)
  obtain ⟨h₀, user, -, -, hfield⟩ := field_signed h hj' hr
  obtain ⟨c, hs, hkind, -⟩ := hfield k
  exact ⟨c, signed_opens hK h hj ⟨t', hs⟩, hkind⟩

theorem field_kind (hK : K.TokenSound) (h : Traces K A sh log) {t' : ℕ} {resp : TokenResponse}
    {c : Claims} {k : TokenKind} (hj : .spawned t (.request s api req) ∈ log)
    (hr : .replied t' (.tokens (.ok resp)) ∈ log)
    (hopen : K.openToken api.routes.secret (resp.field k) = .ok c) : c.kind = k := by
  obtain ⟨c', hopen', hkind⟩ := field_opens hK h hj hr k
  rw [hopen'] at hopen
  cases hopen
  exact hkind

/-- A presented string that opens is the field of its kind of an earlier response. -/
theorem presented_field (hK : K.TokenSound) (hA : A ≤ Held)
    (h : Traces K A sh (later ++ .spawned t (.request s api req) :: earlier)) {tok : String}
    {c : Claims} (htok : req.presents = some tok)
    (hopen : K.openToken api.routes.secret tok = .ok c) :
    ∃ t' resp, .replied t' (.tokens (.ok resp)) ∈ earlier ∧ resp.field c.kind = tok := by
  have hj : Event.spawned t (.request s api req) ∈
      later ++ .spawned t (.request s api req) :: earlier := by simp
  obtain ⟨sh₀, -, hheld⟩ := assumed h hA
  rw [← request_config h hj] at hopen
  obtain ⟨t', resp, hr, rfl | rfl⟩ := hheld _ _ _ _ _ _ rfl htok hopen
  all_goals
    rw [request_config h hj] at hopen
    refine ⟨t', resp, hr, ?_⟩
  · rw [field_kind (k := .access) hK h hj (earlier_subset hr) hopen]
    rfl
  · rw [field_kind (k := .refresh) hK h hj (earlier_subset hr) hopen]
    rfl

theorem consumedRow_of_consumed (h : Traces K A sh log) {jti : String} (hc : Consumed log t jti) :
    ∃ r, ConsumedRow log t r ∧ r.jti = jti := by
  obtain ⟨later, earlier, now, rows, r, hlog, hr, rfl, hnow, -⟩ := consumed_row h hc
  exact ⟨r, ⟨later, earlier, now, rows, hlog, hr, hnow⟩, rfl⟩

/-- A refresh continues a chain of the response whose refresh token it presented. -/
private theorem chain_refresh (hK : K.TokenSound) (h : Traces K A sh log) {body : RefreshRequest}
    {resp resp' : TokenResponse} {u : UserRow} {h₀ : Past} {user : User}
    (hlog : log = later ++ .spawned t (.request s api (.refresh body)) :: earlier)
    (htok : resp.refreshToken = body.refreshToken) (hchain : Chain K u earlier resp)
    (hfield : ∃ secret c, Signed earlier secret resp.refreshToken c ∧ c.kind = .refresh ∧
      c.sub = u.id) (hacts : Acts K api.routes (.refresh body) h₀ user)
    (hpast : ∀ x ∈ h₀, x ∈ history t log) (hr : .replied t (.tokens (.ok resp')) ∈ log) :
    Chain K u log resp' ∧ user.id = u.id := by
  have hj : .spawned t (.request s api (.refresh body)) ∈ log := by simp [hlog]
  have hsub : earlier ⊆ log := hlog ▸ earlier_subset
  obtain ⟨secret, c, hs, hkind, huser⟩ := hfield
  have hopen := signed_opens hK h hj (hs.mono hsub)
  obtain ⟨c', hopen', -, hcons⟩ := refreshed_consumed h hj hr
  obtain rfl : c = c' := by
    rw [← htok, hopen] at hopen'
    exact Except.ok.inj hopen'
  obtain ⟨r, hrow, hjti⟩ := consumedRow_of_consumed h hcons
  obtain ⟨t₀, hins⟩ := hrow.inserted
  have hrowuser := row_user h (hs.mono hsub) hkind hins hjti
  obtain ⟨token⟩ := body
  obtain rfl : resp.refreshToken = token := htok
  refine ⟨.refresh hchain hlog hopen hjti (hrowuser.trans huser) hrow hr, ?_⟩
  cases hacts with
  | refresh hverify =>
    rw [(verifyTokenAt_ok.1 hverify).1] at hopen
    cases hopen
    obtain ⟨l, m, rfl⟩ := List.append_of_mem (mem_history.1 (hpast _ List.mem_cons_self))
    obtain ⟨r', -, hid, rfl⟩ := (found_id h _).1 rfl
    exact hid.trans huser

theorem chain_of_reply (hK : K.TokenSound) (hA : A ≤ Held) (h : Traces K A sh log)
    {resp : TokenResponse} (hr : .replied t (.tokens (.ok resp)) ∈ log) :
    ∃ u, Registered log u ∧ Chain K u log resp ∧
      ∀ k, ∃ secret c, Signed log secret (resp.field k) c ∧ c.kind = k ∧ c.sub = u.id := by
  -- a refresh presents the token of a response in the log before its spawn
  induction hn : log.length using Nat.strong_induction_on generalizing log sh t resp with
  | _ n ih =>
    obtain ⟨s, api, req, hj, -⟩ := replied_request h hr (by simp)
    obtain ⟨h₀, user, hacts, hpast, hfield⟩ := field_signed h hj hr
    suffices hchain : ∃ u, Registered log u ∧ Chain K u log resp ∧ user.id = u.id by
      obtain ⟨u, hu, hchain, hid⟩ := hchain
      refine ⟨u, hu, hchain, fun k => ?_⟩
      obtain ⟨c, hs, hkind, hsub⟩ := hfield k
      exact ⟨_, c, ⟨t, hs⟩, hkind, hsub.trans hid⟩
    cases id hacts with
    | @register body salt hash id n =>
      have hcreated : Created log t ⟨id, body.username, hash, n.toInt64⟩ :=
        mem_history.1 (hpast _ List.mem_cons_self)
      exact ⟨_, ⟨t, hcreated⟩, .register hj hcreated hr, rfl⟩
    | login hverify =>
      have hfound := mem_history.1 (hpast _ List.mem_cons_self)
      obtain ⟨l, m, hlog⟩ := List.append_of_mem hfound
      obtain ⟨u, hu, hname, rfl⟩ := (found_username (hlog ▸ h) _).1 rfl
      have hu' : Registered log u := hu.mono (hlog ▸ earlier_subset)
      exact ⟨u, hu', .login hj hu' hname hverify hr, rfl⟩
    | @refresh body c _ _ _ _ hverify hkind =>
      obtain ⟨later, earlier, hlog⟩ := List.append_of_mem hj
      subst hlog
      have hopen := (verifyTokenAt_ok.1 hverify).1
      obtain ⟨t', resp', hr', htok⟩ := presented_field hK hA h rfl hopen
      rw [hkind] at htok
      obtain ⟨sh₀, h₁, -⟩ := assumed h le_rfl
      obtain ⟨u, hu, hchain, hsigned⟩ := ih _ (by simp at hn; omega) h₁ hr' rfl
      obtain ⟨hchain', hid⟩ :=
        chain_refresh hK h rfl htok hchain (hsigned .refresh) hacts hpast hr
      exact ⟨u, hu.mono earlier_subset, hchain', hid⟩

theorem identified_accepts (h : Traces K A sh log) {resp : MeResponse}
    (hr : .replied t (.identity (.ok resp)) ∈ log) : ∃ authorization tok c,
      Accepts K log t (.me authorization) tok c ∧ resp = me c := by
  obtain ⟨s, api, authorization, tok, c, n, hj, hn, htok, hverify, hkind, hresp⟩ := identified h hr
  exact ⟨authorization, tok, c, ⟨s, api, n, hj, hn, htok, hverify, hkind⟩, hresp⟩

theorem extracted_accepts (h : Traces K A sh log) {c : Claims}
    (hr : .replied t (.accepted (.ok c)) ∈ log) :
    ∃ authorization tok, Accepts K log t (.guarded authorization) tok c := by
  obtain ⟨s, api, authorization, tok, n, hj, hn, htok, hverify, hkind⟩ := extracted h hr
  exact ⟨authorization, tok, s, api, n, hj, hn, htok, hverify, hkind⟩

theorem consuming_accepts (h : Traces K A sh log) {jti : String} {now : Int64}
    {r : Except SqlxError ℕ} (hr : ran t (.deleteRefreshToken jti now) r ∈ log) :
    ∃ body c, Accepts K log t (.refresh body) body.refreshToken c ∧ c.jti = jti := by
  obtain ⟨later, earlier, rfl⟩ := List.append_of_mem hr
  obtain ⟨s, api, body, c, n, n', hj, hverify, hkind, rfl, -, hpast⟩ := consuming h
  have hn : read t n ∈ earlier := mem_history.1 (by simp [hpast])
  exact ⟨body, c, ⟨s, api, n, earlier_subset hj, earlier_subset hn, rfl, hverify, hkind⟩, rfl⟩

theorem revoking_accepts (h : Traces K A sh log) {userId : String} {r : Except SqlxError ℕ}
    (hr : ran t (.deleteRefreshTokensForUser userId) r ∈ log) :
    ∃ body c, Accepts K log t (.logout body) body.refreshToken c ∧ c.sub = userId := by
  obtain ⟨later, earlier, rfl⟩ := List.append_of_mem hr
  obtain ⟨s, api, body, c, n, hj, hverify, hkind, rfl, hpast⟩ := revoking h
  have hn : read t n ∈ earlier := mem_history.1 (by simp [hpast])
  exact ⟨body, c, ⟨s, api, n, earlier_subset hj, earlier_subset hn, rfl, hverify, hkind⟩, rfl⟩

end Traces

/-- Whatever an endpoint accepts is a field of its own kind of an earlier OK response, never of the
other kind, and a chain of OK responses leads from credentials of its user to it. -/
theorem accepted_from_credentials (hK : K.TokenSound) {σ : Pool (service K)}
    (h : Reachable K Held σ) :
    (∀ t req tok c, Accepts K σ.log t req tok c →
      (∃ later earlier s api u resp, σ.log = later ++ .spawned t (.request s api req) :: earlier ∧
        Registered earlier u ∧ u.id = c.sub ∧ Chain K u earlier resp ∧
        resp.field req.wants = tok) ∧
      ∀ t' resp k, .replied t' (.tokens (.ok resp)) ∈ σ.log → resp.field k = tok →
        k = req.wants) ∧
    (∀ t resp, .replied t (.identity (.ok resp)) ∈ σ.log → ∃ authorization tok c,
      Accepts K σ.log t (.me authorization) tok c ∧ resp = me c) ∧
    (∀ t c, .replied t (.accepted (.ok c)) ∈ σ.log → ∃ authorization tok,
      Accepts K σ.log t (.guarded authorization) tok c) ∧
    (∀ t jti now r, ran t (.deleteRefreshToken jti now) r ∈ σ.log → ∃ body c,
      Accepts K σ.log t (.refresh body) body.refreshToken c ∧ c.jti = jti) ∧
    (∀ t userId r, ran t (.deleteRefreshTokensForUser userId) r ∈ σ.log → ∃ body c,
      Accepts K σ.log t (.logout body) body.refreshToken c ∧ c.sub = userId) := by
  have ht := h.traces
  refine ⟨?_, fun _ _ => ht.identified_accepts, fun _ _ => ht.extracted_accepts,
    fun _ _ _ _ => ht.consuming_accepts, fun _ _ _ => ht.revoking_accepts⟩
  rintro t req tok c ⟨s, api, n, hj, -, htok, hverify, hkind⟩
  rw [ht.request_config hj] at hverify
  have hopen := (verifyTokenAt_ok.1 hverify).1
  refine ⟨?_, ?_⟩
  · obtain ⟨later, earlier, hlog⟩ := List.append_of_mem hj
    obtain ⟨t', resp, hr, rfl⟩ := Traces.presented_field hK le_rfl (hlog ▸ ht) htok hopen
    obtain ⟨sh₀, h₀, -⟩ := Traces.assumed (hlog ▸ ht) le_rfl
    obtain ⟨u, hu, hchain, hfield⟩ := Traces.chain_of_reply hK le_rfl h₀ hr
    obtain ⟨secret, c', hs, -, hsub⟩ := hfield c.kind
    obtain rfl : c' = c := by
      rw [ht.signed_opens hK hj (hs.mono (hlog ▸ earlier_subset))] at hopen
      exact Except.ok.inj hopen
    exact ⟨later, earlier, s, api, u, resp, hlog, hu, hsub.symm, hchain, hkind ▸ rfl⟩
  · rintro t' resp k hr rfl
    exact (ht.field_kind hK hj hr hopen).symm.trans hkind

open Scenario in
/-- `me` after a refresh: the accepted string leads to the register of its user. -/
theorem accepted_from_credentials_refreshed : ∃ σ : Pool (service Transparent.crypto),
    .replied 3 (.identity (.ok ⟨"id", "ann"⟩)) ∈ σ.log ∧
    ∃ later earlier s api authorization u resp,
      σ.log = later ++ .spawned 3 (.request s api (.me authorization)) :: earlier ∧
      u.id = "id" ∧ Chain Transparent.crypto u earlier resp ∧
      bearerToken authorization = some resp.accessToken := by
  obtain ⟨σ, hσ, hme⟩ := reach_refreshed_me
  have hheld : Reachable Transparent.crypto Held σ := hσ.mono (fun _ _ _ hA => hA.2)
  obtain ⟨haccept, hidentified, -⟩ :=
    accepted_from_credentials Transparent.crypto_tokenSound hheld
  obtain ⟨authorization, tok, c, hacc, hresp⟩ := hidentified 3 _ hme
  obtain ⟨⟨later, earlier, s, api, u, resp, hlog, -, hid, hchain, htok⟩, -⟩ := haccept _ _ _ _ hacc
  obtain ⟨-, -, -, -, -, hbearer, -⟩ := hacc
  exact ⟨σ, hme, later, earlier, s, api, authorization, u, resp, hlog,
    hid.trans (congrArg MeResponse.userId hresp).symm, hchain,
    hbearer.trans (congrArg some htok.symm)⟩

end Servir
