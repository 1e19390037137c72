import Servir.Runs.Assumptions

/-!
# What a request did

From one statement or one reply in the log back to the request behind it, with
everything that the handler had checked by then.
-/

namespace Servir
open Interleaving

variable {K : Crypto} {A : Assumption (service K)} {sh : Shared} {log later earlier : Trail}
  {t s : ℕ} {api : Api}

/-- The token of a kind in a response. -/
def TokenResponse.field (resp : TokenResponse) : TokenKind → String
  | .access => resp.accessToken
  | .refresh => resp.refreshToken

/-- A step of a request that changes the database is a statement that its handler attempts. -/
theorem step_attempted {σ σ' : Pool (service K)} {l : Label (service K)} (h : Reachable K A σ)
    (hs : Step A σ l σ') {req : Request} (hj : .spawned l.task (.request s api req) ∈ σ.log) :
    σ'.shared.db = σ.shared.db ∨ ∃ q, Attempts K api.routes req (history l.task σ.log) (.sql q) ∧
      σ'.log = ran l.task q (q.exec σ.shared.db).1 :: σ.log ∧
      σ'.shared.db = (q.exec σ.shared.db).2 := by
  obtain hsame | ⟨q, hlog, hdb⟩ := step_db hs
  · exact .inl hsame
  · have ht := (h.step hs).traces
    rw [hlog, ← List.nil_append (_ :: _)] at ht
    exact .inr ⟨q, Traces.attempted_by ht hj, hlog, hdb⟩

namespace Traces

theorem request_config (h : Traces K A sh log) {req : Request}
    (hj : .spawned t (.request s api req) ∈ log) : req.config api = api.routes := by
  have hlayer := api_layer h hj
  cases req <;> first | rfl | exact hlayer

/-- The exact history behind `consume_refresh_token`. -/
theorem consuming {jti : String} {now : Int64} {r : Except SqlxError ℕ}
    (h : Traces K A sh (later ++ ran t (.deleteRefreshToken jti now) r :: earlier)) :
    ∃ s api body c n n', .spawned t (.request s api (.refresh body)) ∈ earlier ∧
      verifyTokenAt K body.refreshToken api.routes n = .ok c ∧ c.kind = .refresh ∧ jti = c.jti ∧
      now = n'.toInt64 ∧ history t earlier = [readClock n', readClock n] := by
  obtain ⟨s, api, req, hj, ha⟩ := requested h (by rintro _ ⟨⟩)
  generalize history t earlier = past at ha ⊢
  cases ha with
  | consume hverify hkind => exact ⟨s, api, _, _, _, _, hj, hverify, hkind, rfl, rfl, rfl⟩

theorem revoking {userId : String} {r : Except SqlxError ℕ}
    (h : Traces K A sh (later ++ ran t (.deleteRefreshTokensForUser userId) r :: earlier)) :
    ∃ s api body c n, .spawned t (.request s api (.logout body)) ∈ earlier ∧
      verifyTokenAt K body.refreshToken api.routes n = .ok c ∧ c.kind = .refresh ∧
      userId = c.sub ∧ history t earlier = [readClock n] := by
  obtain ⟨s, api, req, hj, ha⟩ := requested h (by rintro _ ⟨⟩)
  generalize history t earlier = past at ha ⊢
  cases ha with
  | revoke hverify hkind => exact ⟨s, api, _, _, _, hj, hverify, hkind, rfl, rfl⟩

theorem looking_up {userId : String} {r : Except SqlxError (Option User)}
    (h : Traces K A sh (later ++ ran t (.selectUserById userId) r :: earlier)) :
    ∃ s api body c n n' rows, .spawned t (.request s api (.refresh body)) ∈ earlier ∧
      verifyTokenAt K body.refreshToken api.routes n = .ok c ∧ c.kind = .refresh ∧ 0 < rows ∧
      userId = c.sub ∧ history t earlier =
        [sent (.deleteRefreshToken c.jti n'.toInt64) (.ok rows), readClock n', readClock n] := by
  obtain ⟨s, api, req, hj, ha⟩ := requested h (by rintro _ ⟨⟩)
  generalize history t earlier = past at ha ⊢
  cases ha with
  | selectById hverify hkind hrows =>
    exact ⟨s, api, _, _, _, _, _, hj, hverify, hkind, hrows, rfl, rfl⟩

theorem consumed_request {jti : String} (h : Traces K A sh log) (hc : Consumed log t jti) :
    ∃ s api body c, .spawned t (.request s api (.refresh body)) ∈ log ∧
      K.openToken api.routes.secret body.refreshToken = .ok c ∧ c.kind = .refresh ∧
      c.jti = jti := by
  obtain ⟨now, rows, hmem, -⟩ := hc
  obtain ⟨later, earlier, rfl⟩ := List.append_of_mem hmem
  obtain ⟨s, api, body, c, n, n', hj, hverify, hkind, rfl, -, -⟩ := consuming h
  exact ⟨s, api, body, c, earlier_subset hj, (verifyTokenAt_ok.1 hverify).1, hkind, rfl⟩

theorem replied_request (h : Traces K A sh log) {o : Outcome} (hr : .replied t o ∈ log)
    (ho : ∀ r, o ≠ .built r) : ∃ s api req, .spawned t (.request s api req) ∈ log ∧
      Replies K api req (history t log) o := by
  obtain ⟨job, hj⟩ := Traced.open_of_event h hr
  have hrep := Traced.replied h hj hr
  cases job with
  | build b =>
    obtain ⟨r, hbuilt, -⟩ := hrep
    exact absurd hbuilt (ho r)
  | request s api req => exact ⟨s, api, req, hj, hrep⟩

/-- The exact history of a request that was answered with a token pair. -/
theorem answered_tokens (h : Traces K A sh log) {req : Request} {resp : TokenResponse}
    (hj : .spawned t (.request s api req) ∈ log) (hr : .replied t (.tokens (.ok resp)) ∈ log) :
    ∃ h₀ user n n' n₁ n₂ jti jti', Acts K api.routes req h₀ user ∧ resp.tokenType = "Bearer" ∧
      history t log = sent (storeStmt api.routes user jti' n₁ n₂) (.ok ()) ::
        readClock n₂ :: readClock n₁ ::
        refreshPast api.routes user n' jti' (.ok resp.refreshToken)
          (accessPast api.routes user n jti (.ok resp.accessToken) h₀) := by
  have hrep : Replies K api req (history t log) (.tokens (.ok resp)) := Traced.replied h hj hr
  generalize history t log = past at hrep ⊢
  cases hrep with
  | tokens hissue =>
    cases hissue with
    | issued hacts => exact ⟨_, _, _, _, _, _, _, _, hacts, rfl, rfl⟩

theorem refreshed_consumed (h : Traces K A sh log) {body : RefreshRequest} {resp : TokenResponse}
    (hj : .spawned t (.request s api (.refresh body)) ∈ log)
    (hr : .replied t (.tokens (.ok resp)) ∈ log) :
    ∃ c, K.openToken api.routes.secret body.refreshToken = .ok c ∧ c.kind = .refresh ∧
      Consumed log t c.jti := by
  obtain ⟨h₀, user, n, n', n₁, n₂, jti, jti', hacts, -, hpast⟩ := answered_tokens h hj hr
  cases hacts with
  | @refresh _ c m m' rows _ hverify hkind hrows =>
    refine ⟨c, (verifyTokenAt_ok.1 hverify).1, hkind, m'.toInt64, rows, ?_, hrows⟩
    exact mem_history.1 (by simp [hpast, refreshPast, accessPast])

theorem identified (h : Traces K A sh log) {resp : MeResponse}
    (hr : .replied t (.identity (.ok resp)) ∈ log) :
    ∃ s api authorization tok c n, .spawned t (.request s api (.me authorization)) ∈ log ∧
      read t n ∈ log ∧ bearerToken authorization = some tok ∧
      verifyTokenAt K tok api.layer n = .ok c ∧ c.kind = .access ∧ resp = me c := by
  obtain ⟨s, api, req, hj, hrep⟩ := replied_request h hr (by simp)
  generalize hpast : history t log = past at hrep
  generalize hres : Outcome.identity (.ok resp) = o at hrep
  cases hrep with
  | identity hextract =>
    cases hextract with
    | accepted htok hverify hkind =>
      cases hres
      have hn : read t _ ∈ log := mem_history.1 (hpast ▸ List.mem_cons_self)
      exact ⟨s, api, _, _, _, _, hj, hn, htok, hverify, hkind, rfl⟩
    | _ => cases hres
  | _ => cases hres

theorem extracted (h : Traces K A sh log) {c : Claims}
    (hr : .replied t (.accepted (.ok c)) ∈ log) :
    ∃ s api authorization tok n, .spawned t (.request s api (.guarded authorization)) ∈ log ∧
      read t n ∈ log ∧ bearerToken authorization = some tok ∧
      verifyTokenAt K tok api.layer n = .ok c ∧ c.kind = .access := by
  obtain ⟨s, api, req, hj, hrep⟩ := replied_request h hr (by simp)
  generalize hpast : history t log = past at hrep
  cases hrep with
  | accepted hextract =>
    cases hextract with
    | accepted htok hverify hkind =>
      have hn : read t _ ∈ log := mem_history.1 (hpast ▸ List.mem_cons_self)
      exact ⟨s, api, _, _, _, hj, hn, htok, hverify, hkind⟩

theorem answered_signed (h : Traces K A sh log) {req : Request} {resp : TokenResponse}
    (hj : .spawned t (.request s api req) ∈ log) (hr : .replied t (.tokens (.ok resp)) ∈ log) :
    ∃ h₀ user n n' jti jti', Acts K api.routes req h₀ user ∧ (∀ x ∈ h₀, x ∈ history t log) ∧
      encoded t api.routes.secret (accessClaims api.routes user n jti) (.ok resp.accessToken) ∈ log ∧
      encoded t api.routes.secret (refreshClaims api.routes user n' jti')
        (.ok resp.refreshToken) ∈ log ∧
      ∃ expires created, Inserted log t ⟨jti', user.id, expires, created⟩ := by
  obtain ⟨h₀, user, n, n', n₁, n₂, jti, jti', hacts, -, hpast⟩ := answered_tokens h hj hr
  refine ⟨h₀, user, n, n', jti, jti', hacts, fun x hx => ?_, ?_, ?_, ?_⟩
  · simp [hpast, refreshPast, accessPast, hx]
  · exact mem_history.1 (by simp [hpast, refreshPast, accessPast])
  · exact mem_history.1 (by simp [hpast, refreshPast, accessPast])
  · exact ⟨_, _, mem_history.1 (hpast ▸ List.mem_cons_self)⟩

/-- Both fields of an OK response were signed for the user that the request acts for. -/
theorem field_signed (h : Traces K A sh log) {req : Request} {resp : TokenResponse}
    (hj : .spawned t (.request s api req) ∈ log) (hr : .replied t (.tokens (.ok resp)) ∈ log) :
    ∃ h₀ user, Acts K api.routes req h₀ user ∧ (∀ x ∈ h₀, x ∈ history t log) ∧
      ∀ k, ∃ c, encoded t api.routes.secret c (.ok (resp.field k)) ∈ log ∧ c.kind = k ∧
        c.sub = user.id := by
  obtain ⟨h₀, user, n, n', jti, jti', hacts, hpast, haccess, hrefresh, -⟩ :=
    answered_signed h hj hr
  refine ⟨h₀, user, hacts, hpast, fun k => ?_⟩
  cases k with
  | access => exact ⟨_, haccess, rfl, rfl⟩
  | refresh => exact ⟨_, hrefresh, rfl, rfl⟩

theorem extracts_reply {authorization : Option HeaderValue} {tok : String} {c : Claims}
    {n : UInt64} {past : Past} {r : Except ServirError Claims}
    (h : Extracts K api.layer authorization past r) (htok : bearerToken authorization = some tok)
    (hopen : K.openToken api.layer.secret tok = .ok c) (hkind : c.kind = .access)
    (hn : readClock n ∈ past) :
    (c.exp.toNat + leeway < n.toNat → r = .error (.authToken .expired)) ∧
      (n.toNat ≤ c.exp.toNat + leeway → r = .ok c) := by
  have hlast : ∀ {m}, readClock n ∈ [readClock m] → m = n := by
    intro m hm
    injection List.mem_singleton.1 hm with _ he
    exact he.symm
  cases h with
  | missingHeader hnone =>
    rw [htok] at hnone
    cases hnone
  | @rejected tok' m e htok' hverify =>
    obtain rfl := hlast hn
    obtain rfl : tok = tok' := by
      rw [htok] at htok'
      exact Option.some.inj htok'
    refine ⟨fun hexp => ?_, fun hexp => ?_⟩
    · rw [verifyTokenAt_expired hopen hexp] at hverify
      cases hverify
      rfl
    · rw [verifyTokenAt_ok.2 ⟨hopen, hexp⟩] at hverify
      cases hverify
  | @wrongKind tok' m c' htok' hverify hkind' =>
    rw [htok] at htok'
    cases htok'
    rw [(verifyTokenAt_ok.1 hverify).1] at hopen
    cases hopen
    exact absurd hkind hkind'
  | @accepted tok' m c' htok' hverify hkind' =>
    obtain rfl := hlast hn
    rw [htok] at htok'
    cases htok'
    obtain ⟨hopen', hexp'⟩ := verifyTokenAt_ok.1 hverify
    rw [hopen'] at hopen
    cases hopen
    exact ⟨fun hexp => absurd hexp (Nat.not_lt.2 hexp'), fun _ => rfl⟩

theorem guarded_reply (h : Traces K A sh log) {authorization : Option HeaderValue} {tok : String}
    {c : Claims} {n : UInt64} {o : Outcome}
    (hj : .spawned t (.request s api (.guarded authorization)) ∈ log)
    (htok : bearerToken authorization = some tok)
    (hopen : K.openToken api.layer.secret tok = .ok c) (hkind : c.kind = .access)
    (hn : read t n ∈ log) (ho : .replied t o ∈ log) :
    (c.exp.toNat + leeway < n.toNat → o = .accepted (.error (.authToken .expired))) ∧
      (n.toNat ≤ c.exp.toNat + leeway → o = .accepted (.ok c)) := by
  have hrep : Replies K api (.guarded authorization) (history t log) o := Traced.replied h hj ho
  obtain ⟨r, rfl, hextract⟩ := hrep.of_guarded
  obtain ⟨hlate, hearly⟩ := extracts_reply hextract htok hopen hkind (mem_history.2 hn)
  exact ⟨fun hexp => congrArg _ (hlate hexp), fun hexp => congrArg _ (hearly hexp)⟩

theorem me_reply (h : Traces K A sh log) {authorization : Option HeaderValue} {tok : String}
    {c : Claims} {n : UInt64} {o : Outcome}
    (hj : .spawned t (.request s api (.me authorization)) ∈ log)
    (htok : bearerToken authorization = some tok)
    (hopen : K.openToken api.layer.secret tok = .ok c) (hkind : c.kind = .access)
    (hn : read t n ∈ log) (ho : .replied t o ∈ log) :
    (c.exp.toNat + leeway < n.toNat → o = .identity (.error (.authToken .expired))) ∧
      (n.toNat ≤ c.exp.toNat + leeway → o = .identity (.ok (me c))) := by
  have hrep : Replies K api (.me authorization) (history t log) o := Traced.replied h hj ho
  obtain ⟨r, rfl, hextract⟩ := hrep.of_me
  obtain ⟨hlate, hearly⟩ := extracts_reply hextract htok hopen hkind (mem_history.2 hn)
  constructor
  · intro hexp
    rw [hlate hexp]
    rfl
  · intro hexp
    rw [hearly hexp]
    rfl

theorem logout_exit (h : Traces K A sh log) {body : LogoutRequest} {o : Outcome}
    (hj : .spawned t (.request s api (.logout body)) ∈ log) (ho : .replied t o ∈ log) :
    ∃ r, o = .loggedOut r ∧ Revokes K api.routes body (history t log) r := by
  have hrep : Replies K api (.logout body) (history t log) o := Traced.replied h hj ho
  exact hrep.of_logout

theorem logout_reply (h : Traces K A sh log) {body : LogoutRequest} {c : Claims}
    (hj : .spawned t (.request s api (.logout body)) ∈ log)
    (hopen : K.openToken api.routes.secret body.refreshToken = .ok c) (hkind : c.kind = .refresh)
    {n : UInt64} (hn : read t n ∈ log) {o : Outcome} (ho : .replied t o ∈ log) :
    (c.exp.toNat + leeway < n.toNat → o = .loggedOut (.error (.authToken .expired))) ∧
      (n.toNat ≤ c.exp.toNat + leeway → o = .loggedOut (.ok ()) ∨
        ∃ display, o = .loggedOut (.error (.db (.deleteRefreshTokensForUser c.sub display)))) := by
  have hmem : readClock n ∈ history t log := mem_history.2 hn
  have hlast : ∀ m, readClock n = readClock m → m = n := by
    rintro m he
    injection he with _ he
    exact he.symm
  obtain ⟨r, rfl, hrevoke⟩ := logout_exit h hj ho
  generalize history t log = past at hrevoke hmem
  cases hrevoke with
  | @rejected m e hverify =>
    obtain rfl := hlast m (by simpa using hmem)
    refine ⟨fun hexp => ?_, fun hexp => ?_⟩
    · rw [verifyTokenAt_expired hopen hexp] at hverify
      cases hverify
      rfl
    · rw [verifyTokenAt_ok.2 ⟨hopen, hexp⟩] at hverify
      cases hverify
  | @wrongKind m c' hverify hkind' =>
    rw [(verifyTokenAt_ok.1 hverify).1] at hopen
    cases hopen
    exact absurd hkind hkind'
  | @revokeFailed m c' e hverify hkind' =>
    obtain ⟨hopen', hexp'⟩ := verifyTokenAt_ok.1 hverify
    obtain rfl := hlast m (by simpa using hmem)
    rw [hopen'] at hopen
    cases hopen
    exact ⟨fun hexp => absurd hexp (Nat.not_lt.2 hexp'), fun _ => .inr ⟨_, rfl⟩⟩
  | @revoked m c' rows hverify hkind' =>
    obtain ⟨hopen', hexp'⟩ := verifyTokenAt_ok.1 hverify
    obtain rfl := hlast m (by simpa using hmem)
    rw [hopen'] at hopen
    cases hopen
    exact ⟨fun hexp => absurd hexp (Nat.not_lt.2 hexp'), fun _ => .inl rfl⟩

theorem logout_reads (h : Traces K A sh log) {body : LogoutRequest}
    (hj : .spawned t (.request s api (.logout body)) ∈ log) {o : Outcome}
    (ho : .replied t o ∈ log) : ∃ n, read t n ∈ log := by
  obtain ⟨r, -, hrevoke⟩ := logout_exit h hj ho
  obtain ⟨n, hn⟩ : ∃ n, readClock n ∈ history t log := by
    generalize history t log = past at hrevoke
    cases hrevoke with
    | rejected _ | wrongKind _ _ => exact ⟨_, List.mem_cons_self⟩
    | revokeFailed _ _ | revoked _ _ => exact ⟨_, List.mem_cons_of_mem _ List.mem_cons_self⟩
  exact ⟨n, mem_history.1 hn⟩

/-- A logout that was answered OK had deleted the rows of the user that its token names. -/
theorem logged_out (h : Traces K A sh log) {body : LogoutRequest}
    (hj : .spawned t (.request s api (.logout body)) ∈ log)
    (ho : .replied t (.loggedOut (.ok ())) ∈ log) :
    ∃ c rows, K.openToken api.routes.secret body.refreshToken = .ok c ∧ c.kind = .refresh ∧
      ran t (.deleteRefreshTokensForUser c.sub) (.ok rows) ∈ log := by
  obtain ⟨r, hr, hrevoke⟩ := logout_exit h hj ho
  cases hr
  generalize hpast : history t log = past at hrevoke
  cases hrevoke with
  | @revoked n c rows hverify hkind =>
    refine ⟨c, rows, (verifyTokenAt_ok.1 hverify).1, hkind, ?_⟩
    exact mem_history.1 (hpast ▸ List.mem_cons_self)

theorem creating {id username hash : String} {created : Int64} {r : Except SqlxError Unit}
    (h : Traces K A sh (later ++ ran t (.insertUser id username hash created) r :: earlier)) :
    ∃ s api body salt n, .spawned t (.request s api (.register body)) ∈ earlier ∧
      username = body.username ∧ K.hashPassword salt body.password = .ok hash ∧
      history t earlier = [readClock n, drewUuid id, drewSalt salt] := by
  obtain ⟨s, api, req, hj, ha⟩ := requested h (by rintro _ ⟨⟩)
  generalize history t earlier = past at ha ⊢
  cases ha with
  | insertUser hname hlong hhash => exact ⟨s, api, _, _, _, hj, rfl, hhash, rfl⟩

theorem created_drew (h : Traces K A sh log) {r : UserRow} (hr : Created log t r) :
    drew t r.id ∈ log := by
  obtain ⟨later, earlier, rfl⟩ := List.append_of_mem hr
  obtain ⟨s, api, body, salt, n, -, -, -, hpast⟩ := creating h
  exact earlier_subset (mem_history.1 (by simp [hpast]))

theorem created_unique (h : Traces K A sh log) {t' : ℕ} {r r' : UserRow} (hr : Created log t r)
    (hr' : Created log t' r') (hname : r.username = r'.username) : t = t' ∧ r = r' := by
  obtain rfl := registered_username h ⟨t, hr⟩ ⟨t', hr'⟩ hname
  exact ⟨draw_unique h (created_drew h hr) (created_drew h hr'), rfl⟩

/-- A register fails at its insert on a fault, or because its username is registered. -/
theorem create_conflict {id username hash : String} {created : Int64} {e : SqlxError}
    (h : Traces K A sh (later ++ ran t (.insertUser id username hash created) (.error e) ::
      earlier)) (he : ∀ display, e ≠ .fault display) :
    e.isUniqueViolation = true ∧ ∃ r, Registered earlier r ∧ r.username = username := by
  obtain ⟨hunique, r, ⟨t', hr⟩, hkey⟩ := create_failed h he
  refine ⟨hunique, r, ⟨t', hr⟩, hkey.resolve_left (fun hid => ?_)⟩
  obtain ⟨s, api, body, salt, n, -, -, -, hpast⟩ := creating h
  obtain ⟨sh₀, -, h₀, -⟩ := responds h
  have hdrew : drew t id ∈ earlier := mem_history.1 (by simp [hpast])
  obtain rfl := draw_unique h₀ (created_drew h₀ hr) (hid ▸ hdrew)
  exact absurd (stage_lt h (by simp [Effect.stage]) hr) (by simp [Effect.stage])

theorem store_drew {jti userId : String} {expires created : Int64} {x : Except SqlxError Unit}
    (h : Traces K A sh (later ++ ran t (.insertRefreshToken jti userId expires created) x :: earlier)) :
    drew t jti ∈ earlier := by
  obtain ⟨s, api, req, h₀, user, n, n', n₁, n₂, jti₀, tok, tok', -, -, -, -, -, hpast⟩ := storing h
  exact mem_history.1 (by simp [hpast, refreshPast])

theorem store_fresh {t' : ℕ} {jti userId : String} {expires created : Int64}
    {x : Except SqlxError Unit} {r : RefreshTokenRow}
    (h : Traces K A sh (later ++ ran t (.insertRefreshToken jti userId expires created) x :: earlier))
    (hr : Inserted earlier t' r) : r.jti ≠ jti := by
  rintro rfl
  obtain ⟨sh₀, -, ht, -⟩ := responds h
  obtain rfl := draw_unique ht (inserted_drew ht hr) (store_drew h)
  exact absurd (stage_lt h (by simp [Effect.stage]) hr) (by simp [Effect.stage])

theorem store_fault {jti userId : String} {expires created : Int64} {e : SqlxError}
    (h : Traces K A sh (later ++ ran t (.insertRefreshToken jti userId expires created) (.error e) ::
      earlier)) : ∃ display, e = .fault display := by
  by_contra! he
  obtain ⟨s, api, req, h₀, user, n, n', n₁, n₂, jti₀, tok, tok', -, hacts, huser, -, -, hpast⟩ :=
    storing h
  obtain ⟨sh₀, -, ht, -⟩ := responds h
  obtain ⟨r, hr, hjti⟩ | hnone := insert_failed h he
  · obtain ⟨t', hins⟩ := hr.inserted
    exact store_fresh h hins hjti
  · have hall : ∀ x ∈ h₀, x ∈ history t earlier :=
      fun x hx => by simp [hpast, refreshPast, accessPast, hx]
    obtain ⟨u, hu, rfl⟩ := acts_registered ht hacts hall
    exact hnone u hu huser.symm

/-- A token that opens for a request was signed, under the secret of the server. -/
theorem genuine (hA : A ≤ Unforged) (h : Traces K A sh log) {req : Request} {tok : String}
    {c : Claims} (hj : .spawned t (.request s api req) ∈ log) (htok : req.presents = some tok)
    (hopen : K.openToken api.routes.secret tok = .ok c) : Signed log api.routes.secret tok c := by
  have hconfig := request_config h hj
  obtain ⟨later, earlier, rfl⟩ := List.append_of_mem hj
  rw [← hconfig] at hopen ⊢
  exact (presented hA h htok hopen).mono earlier_subset

theorem signed_opens (hK : K.TokenSound) (h : Traces K A sh log) {req : Request}
    {secret tok : String} {c : Claims} (hj : .spawned t (.request s api req) ∈ log)
    (hs : Signed log secret tok c) : K.openToken api.routes.secret tok = .ok c := by
  obtain ⟨t₀, hmem⟩ := hs
  obtain ⟨later, earlier, rfl⟩ := List.append_of_mem hmem
  obtain ⟨s', api', req', -, -, -, -, hj', rfl, -⟩ := signing h
  rw [secret_agreed h hj (earlier_subset hj')]
  exact hK.open_encode (encode_eq h hmem).symm

/-- A refresh token that was returned before it was presented had its row stored by then, for a
registered user. -/
theorem granted_row (hK : K.TokenSound) {req : Request} {tok : String} {c : Claims}
    (h : Traces K A sh (later ++ .spawned t (.request s api req) :: earlier))
    (hg : Granted earlier tok) (hopen : K.openToken api.routes.secret tok = .ok c)
    (hkind : c.kind = .refresh) :
    (∃ t₀ r, Inserted earlier t₀ r ∧ r.jti = c.jti) ∧ ∃ u, Registered earlier u ∧ u.id = c.sub := by
  obtain ⟨sh₀, h₀⟩ := Traced.of_suffix h ((List.suffix_cons _ earlier).trans (List.suffix_append _ _))
  have hj : .spawned t (.request s api req) ∈ later ++ .spawned t (.request s api req) :: earlier :=
    List.mem_append_right _ List.mem_cons_self
  obtain ⟨t₀, resp, hr, htok⟩ := hg
  obtain ⟨s₀, api₀, req₀, hj₀, -⟩ := replied_request h₀ hr (by simp)
  obtain ⟨past, user, n, n', jti, jti', hacts, hpast, haccess, hrefresh, expires, created, hins⟩ :=
    answered_signed h₀ hj₀ hr
  obtain ⟨u, hu, rfl⟩ := acts_registered h₀ hacts hpast
  rcases htok with rfl | rfl
  · rw [signed_opens hK h hj ⟨t₀, earlier_subset haccess⟩] at hopen
    cases hopen
    cases hkind
  · rw [signed_opens hK h hj ⟨t₀, earlier_subset hrefresh⟩] at hopen
    cases hopen
    exact ⟨⟨t₀, _, hins, rfl⟩, u, hu, rfl⟩

theorem signed_registered (h : Traces K A sh log) {secret tok : String} {c : Claims}
    (hs : Signed log secret tok c) : ∃ u, Registered log u ∧ u.id = c.sub ∧ u.username = c.username := by
  obtain ⟨t, hmem⟩ := hs
  obtain ⟨later, earlier, rfl⟩ := List.append_of_mem hmem
  obtain ⟨u, hu, hid, hname⟩ := encoded_registered h
  exact ⟨u, hu.mono earlier_subset, hid, hname⟩

theorem refresh_user (hA : A ≤ Unforged) (h : Traces K A sh log) {body : RefreshRequest}
    {h₀ : Past} {user : User} {c : Claims}
    (hj : .spawned t (.request s api (.refresh body)) ∈ log)
    (hacts : Acts K api.routes (.refresh body) h₀ user) (hpast : ∀ x ∈ h₀, x ∈ history t log)
    (hopen : K.openToken api.routes.secret body.refreshToken = .ok c) :
    user.id = c.sub ∧ user.username = c.username := by
  obtain ⟨u, hu, hid, hname⟩ := signed_registered h (genuine hA h hj rfl hopen)
  cases hacts with
  | @refresh _ c' n n' rows _ hverify hkind hrows =>
    have hmem : ran t (.selectUserById c'.sub) (.ok (some user)) ∈ log :=
      mem_history.1 (hpast _ List.mem_cons_self)
    obtain rfl : c = c' := by
      rw [(verifyTokenAt_ok.1 hverify).1] at hopen
      exact (Except.ok.inj hopen).symm
    obtain ⟨later, earlier, rfl⟩ := List.append_of_mem hmem
    obtain ⟨r, hr, hrid, rfl⟩ := (found_id h _).1 rfl
    obtain rfl : r = u := registered_id h (hr.mono earlier_subset) hu (hrid.trans hid.symm)
    exact ⟨hid, hname⟩

theorem refresh_signs_user (hA : A ≤ Unforged) (h : Traces K A sh log) {body : RefreshRequest}
    {secret : String} {c c' : Claims} {r : Except String String}
    (hj : .spawned t (.request s api (.refresh body)) ∈ log)
    (hopen : K.openToken api.routes.secret body.refreshToken = .ok c)
    (hr : encoded t secret c' r ∈ log) : c'.sub = c.sub ∧ c'.username = c.username := by
  obtain ⟨later, earlier, rfl⟩ := List.append_of_mem hr
  obtain ⟨s', api', req, h₀, user, n, jti, hj', -, hacts, hpast, hcase⟩ := signing h
  cases Traced.spawned_unique h hj (earlier_subset hj')
  have hpast' : ∀ x ∈ h₀, x ∈ history t (later ++ encoded t secret c' r :: earlier) :=
    fun x hx => mem_history.2 (earlier_subset (mem_history.1 (hpast x hx)))
  have huser := refresh_user hA h hj hacts hpast' hopen
  obtain ⟨rfl, -⟩ | ⟨n₀, jti₀, tok, rfl, -⟩ := hcase
  · exact huser
  · exact huser

end Traces
end Servir
