import Servir.Sessions.Logout

/-!
# Dead refresh tokens

A refresh token dies when its row is consumed or revoked. Refresh and the
`AuthUser` extractor then refuse it and change nothing. Logout trusts the
signature alone, so a dead token that has not expired still ends every session of
its user.
-/

namespace Servir
open Interleaving Store

variable {K : Crypto} {A : Assumption (service K)} {sh : Shared} {log later earlier : Trail}
  {t s : ℕ} {api : Api} {req : Request} {c : Claims}

/-- The row of the refresh token `jti` was stored and is gone. -/
def Dead (log : Trail) (jti : String) : Prop :=
  ∃ t r, Inserted log t r ∧ r.jti = jti ∧ ¬ Stored log r

/-- Request `t` presents a genuine refresh token with the claims `c` that is dead already. -/
def PresentsDead (log : Trail) (t : ℕ) (api : Api) (req : Request) (c : Claims) : Prop :=
  ∃ later earlier s tok t₀ secret, log = later ++ .spawned t (.request s api req) :: earlier ∧
    req.presents = some tok ∧ encoded t₀ secret c (.ok tok) ∈ earlier ∧ c.kind = .refresh ∧
    Dead earlier c.jti

namespace Traces

theorem dead_mono {jti : String} (h : Traces K A sh (later ++ earlier)) (hd : Dead earlier jti)
    {r : RefreshTokenRow} (hjti : r.jti = jti) : ¬ Stored (later ++ earlier) r := by
  obtain ⟨t₀, r₀, hins, rfl, hgone⟩ := hd
  exact stays_removed h hins hgone hjti

theorem dead_not_consumed {jti : String} {now : Int64} {rows : ℕ} {l m : Trail}
    (h : Traces K A sh (l ++ ran t (.deleteRefreshToken jti now) (.ok rows) :: (m ++ earlier)))
    (hd : Dead earlier jti) : rows = 0 := by
  by_contra hrows
  obtain ⟨r, hr, hjti, -⟩ := (consumed_iff h).1 (Nat.pos_of_ne_zero hrows)
  obtain ⟨sh₀, -, h₀, -⟩ := responds h
  exact dead_mono h₀ hd hjti hr

theorem presentsDead_opens (hK : K.TokenSound) (h : Traces K A sh log)
    (hd : PresentsDead log t api req c) :
    ∃ s tok, .spawned t (.request s api req) ∈ log ∧ req.presents = some tok ∧
      K.openToken api.routes.secret tok = .ok c := by
  obtain ⟨later, earlier, s, tok, t₀, secret, rfl, htok, hmem, -, -⟩ := hd
  have hj : Event.spawned t (.request s api req) ∈
      later ++ .spawned t (.request s api req) :: earlier := by simp
  refine ⟨s, tok, hj, htok, ?_⟩
  exact signed_opens hK h hj ⟨t₀, earlier_subset hmem⟩

theorem presentsDead_not_consumed (h : Traces K A sh log) (hd : PresentsDead log t api req c) :
    ¬ Consumed log t c.jti := by
  rintro ⟨now, rows, hmem, hrows⟩
  obtain ⟨later, earlier, s, tok, t₀, secret, rfl, -, -, -, hdead⟩ := hd
  rcases List.mem_append.1 hmem with hl | he
  · obtain ⟨l, m, rfl⟩ := List.append_of_mem hl
    have h' : Traces K A sh (l ++ ran t (.deleteRefreshToken c.jti now) (.ok rows) ::
        ((m ++ [.spawned t (.request s api req)]) ++ earlier)) := by simpa using h
    exact absurd (dead_not_consumed h' hdead) (Nat.pos_iff_ne_zero.1 hrows)
  · rcases List.mem_cons.1 he with he | he
    · cases he
    · exact (Traced.admitted h).2 _ he rfl

theorem presentsDead_gone (h : Traces K A sh log) (hd : PresentsDead log t api req c)
    {r : RefreshTokenRow} (hjti : r.jti = c.jti) : ¬ Stored log r := by
  obtain ⟨later, earlier, s, tok, t₀, secret, rfl, -, -, -, hdead⟩ := hd
  have hlog : later ++ .spawned t (.request s api req) :: earlier =
      (later ++ [.spawned t (.request s api req)]) ++ earlier := by simp
  rw [hlog] at h ⊢
  exact dead_mono h hdead hjti

end Traces

/-- No step of task `t` from here changes the database. -/
def Idle (σ : Pool (service K)) (t : ℕ) : Prop :=
  ∀ l σ', Step Unrestricted σ l σ' → l.task = t → σ'.shared.db = σ.shared.db

/-- Task `t` is answered with an error, if it is answered. -/
def Refused (log : Trail) (t : ℕ) : Prop := ∀ o, .replied t o ∈ log → ∃ e, o.error = some e

section Steps
variable {σ σ' : Pool (service K)} {l : Label (service K)}

theorem refresh_idle (hK : K.TokenSound) (h : Reachable K Unrestricted σ) {body : RefreshRequest}
    (hd : PresentsDead σ.log t api (.refresh body) c) : Idle σ t := by
  rintro l σ' hs rfl
  obtain ⟨s, tok, hj, htok, hopen⟩ := h.traces.presentsDead_opens hK hd
  obtain hsame | ⟨q, ha, -, hdb⟩ := step_attempted h hs hj
  · exact hsame
  rw [hdb]
  generalize hpast : history l.task σ.log = past at ha
  cases htok
  cases ha with
  | @consume _ c' n n' hverify hkind =>
    rw [(verifyTokenAt_ok.1 hverify).1] at hopen
    cases hopen
    refine Db.deleteRefreshTokens_of_none (fun r hr => ?_)
    have hne : r.jti ≠ c.jti :=
      fun hjti => h.traces.presentsDead_gone hd hjti ((h.traces.recorded.tokens r).1 hr)
    simp [hne]
  | selectById => rfl
  | store hacts =>
    cases hacts with
    | @refresh _ c' m m' rows _ hverify hkind hrows =>
      rw [(verifyTokenAt_ok.1 hverify).1] at hopen
      cases hopen
      have hmem : ran l.task (.deleteRefreshToken c.jti m'.toInt64) (.ok rows) ∈ σ.log :=
        mem_history.1 (by simp [hpast, refreshPast, accessPast])
      exact absurd ⟨_, _, hmem, hrows⟩ (h.traces.presentsDead_not_consumed hd)

theorem refresh_refused (hK : K.TokenSound) (h : Traces K A sh log) {body : RefreshRequest}
    (hd : PresentsDead log t api (.refresh body) c) : Refused log t := by
  intro o ho
  obtain ⟨s, tok, hj, htok, hopen⟩ := h.presentsDead_opens hK hd
  cases htok
  have hrep : Replies K api (.refresh body) (history t log) o := Traced.replied h hj ho
  cases hrep with
  | @tokens _ _ r _ =>
    cases r with
    | error e => exact ⟨e, rfl⟩
    | ok resp =>
      obtain ⟨c', hopen', -, hc⟩ := h.refreshed_consumed hj ho
      rw [hopen'] at hopen
      cases hopen
      exact absurd hc (h.presentsDead_not_consumed hd)

theorem guarded_idle (h : Reachable K Unrestricted σ) {authorization : Option HeaderValue}
    (hj : .spawned t (.request s api req) ∈ σ.log)
    (hreq : req = .me authorization ∨ req = .guarded authorization) : Idle σ t := by
  rintro l σ' hs rfl
  obtain hsame | ⟨q, ha, -⟩ := step_attempted h hs hj
  · exact hsame
  · generalize history l.task σ.log = past at ha
    rcases hreq with rfl | rfl <;> cases ha <;> rename_i hacts <;> cases hacts

theorem guarded_refused (hK : K.TokenSound) (h : Traces K A sh log)
    {authorization : Option HeaderValue} (hd : PresentsDead log t api req c)
    (hreq : req = .me authorization ∨ req = .guarded authorization) : Refused log t := by
  intro o ho
  obtain ⟨s, tok, hj, htok, hopen⟩ := h.presentsDead_opens hK hd
  have hkind : c.kind ≠ .access := by
    obtain ⟨_, _, _, _, _, _, _, _, _, hkind, _⟩ := hd
    simp [hkind]
  have hbearer : bearerToken authorization = some tok := by
    rcases hreq with rfl | rfl <;> exact htok
  have hnot : ∀ {past c'}, ¬ Extracts K api.layer authorization past (.ok c') := by
    rintro past c' ⟨⟩
    rename_i n htok' hverify hkind'
    rw [hbearer] at htok'
    cases htok'
    rw [← h.api_layer hj, (verifyTokenAt_ok.1 hverify).1] at hopen
    cases hopen
    exact hkind hkind'
  have hrep : Replies K api req (history t log) o := Traced.replied h hj ho
  obtain ⟨r, hout, hextract⟩ : ∃ r, (o = .identity (r.map me) ∨ o = .accepted r) ∧
      Extracts K api.layer authorization (history t log) r := by
    rcases hreq with rfl | rfl
    · obtain ⟨r, ho, hextract⟩ := hrep.of_me
      exact ⟨r, .inl ho, hextract⟩
    · obtain ⟨r, ho, hextract⟩ := hrep.of_guarded
      exact ⟨r, .inr ho, hextract⟩
  cases r with
  | error e => rcases hout with rfl | rfl <;> exact ⟨e, rfl⟩
  | ok c' => exact absurd hextract hnot

/-- The only statement of a logout is its delete, after a reading at which the token is valid. -/
theorem logout_step (h : Reachable K Unrestricted σ) {body : LogoutRequest}
    (hj : .spawned l.task (.request s api (.logout body)) ∈ σ.log)
    (hopen : K.openToken api.routes.secret body.refreshToken = .ok c)
    (hs : Step Unrestricted σ l σ') : σ'.shared.db = σ.shared.db ∨
      (∃ n, history l.task σ.log = [readClock n] ∧ n.toNat ≤ c.exp.toNat + leeway) ∧
        σ'.shared.db.users = σ.shared.db.users ∧
        σ'.shared.db.authConfig = σ.shared.db.authConfig ∧
        ∀ r, r ∈ σ'.shared.db.refreshTokens ↔ r ∈ σ.shared.db.refreshTokens ∧ r.userId ≠ c.sub := by
  obtain hsame | ⟨q, ha, -, hdb⟩ := step_attempted h hs hj
  · exact .inl hsame
  generalize hpast : history l.task σ.log = past at ha
  cases ha with
  | @revoke _ c' n hverify hkind =>
    obtain ⟨hopen', hexp⟩ := verifyTokenAt_ok.1 hverify
    rw [hopen'] at hopen
    cases hopen
    refine .inr ⟨⟨n, rfl, hexp⟩, by rw [hdb]; rfl, by rw [hdb]; rfl, fun r => ?_⟩
    simp [hdb, Stmt.exec, Db.deleteRefreshTokens]
  | store hacts => cases hacts

end Steps

/-- A dead token is refused everywhere but at logout, which goes by its signature and expiry: it
deletes the rows of the user that the token names. -/
theorem dead_token_refused (hK : K.TokenSound) {σ : Pool (service K)}
    (h : Reachable K Unrestricted σ) (hd : PresentsDead σ.log t api req c) :
    ((∀ body, req ≠ .logout body) → Idle σ t ∧ Refused σ.log t) ∧
    (∀ body, req = .logout body →
      (∀ l σ', Step Unrestricted σ l σ' → l.task = t → σ'.shared.db = σ.shared.db ∨
        σ'.shared.db.users = σ.shared.db.users ∧
        σ'.shared.db.authConfig = σ.shared.db.authConfig ∧ ∀ r, r ∈ σ'.shared.db.refreshTokens ↔
          r ∈ σ.shared.db.refreshTokens ∧ r.userId ≠ c.sub) ∧
      (∀ o, .replied t o ∈ σ.log → ∃ n, read t n ∈ σ.log) ∧
      (∀ n, read t n ∈ σ.log → c.exp.toNat + leeway < n.toNat → Idle σ t ∧
        ∀ o, .replied t o ∈ σ.log → o = .loggedOut (.error (.authToken .expired))) ∧
      ∀ n o, read t n ∈ σ.log → n.toNat ≤ c.exp.toNat + leeway → .replied t o ∈ σ.log →
        o = .loggedOut (.ok ()) ∨
          ∃ display, o = .loggedOut (.error (.db (.deleteRefreshTokensForUser c.sub display)))) ∧
    ∀ job, Open σ.log t job → ∃ ls σ' o, Path Unrestricted σ ls σ' ∧ (∀ l ∈ ls, l.task = t) ∧
      .replied t o ∈ σ'.log := by
  have ht := h.traces
  obtain ⟨s, tok, hj, htok, hopen⟩ := ht.presentsDead_opens hK hd
  refine ⟨fun hreq => ?_, ?_, ?_⟩
  · cases req with
    | register body => cases htok
    | login body => cases htok
    | refresh body => exact ⟨refresh_idle hK h hd, refresh_refused hK ht hd⟩
    | logout body => exact absurd rfl (hreq body)
    | me authorization =>
      exact ⟨guarded_idle h hj (.inl rfl), guarded_refused hK ht hd (.inl rfl)⟩
    | guarded authorization =>
      exact ⟨guarded_idle h hj (.inr rfl), guarded_refused hK ht hd (.inr rfl)⟩
  · rintro body rfl
    cases htok
    have hkind : c.kind = .refresh := by
      obtain ⟨_, _, _, _, _, _, _, _, _, hkind, _⟩ := hd
      exact hkind
    refine ⟨?_, fun o ho => ht.logout_reads hj ho, ?_, ?_⟩
    · rintro l σ' hs rfl
      obtain hsame | ⟨-, hchange⟩ := logout_step h hj hopen hs
      · exact .inl hsame
      · exact .inr hchange
    · intro n hn hexp
      refine ⟨?_, fun o ho => (ht.logout_reply hj hopen hkind hn ho).1 hexp⟩
      rintro l σ' hs rfl
      obtain hsame | ⟨⟨n', hpast, hexp'⟩, -⟩ := logout_step h hj hopen hs
      · exact hsame
      · have hmem := mem_history.2 hn
        rw [hpast, List.mem_singleton] at hmem
        injection hmem with _ hn'
        subst hn'
        omega
    · exact fun n o hn hexp ho => (ht.logout_reply hj hopen hkind hn ho).2 hexp
  · intro job ho
    exact Reach.completes (service_follows K) (responsive.mono fun _ _ _ _ => trivial) h ho

open Scenario in
/-- A rotated token is refused at refresh, and at logout once it has expired. -/
theorem dead_token_refused_rotated : ∃ σ : Pool (service Transparent.crypto),
    PresentsDead σ.log 3 Scenario.api (.refresh ⟨token (ann 105 "r1")⟩) (ann 105 "r1") ∧
    (∃ o, .replied 3 o ∈ σ.log) ∧ Idle σ 3 ∧ Refused σ.log 3 ∧
    PresentsDead σ.log 4 Scenario.api (.logout ⟨token (ann 105 "r1")⟩) (ann 105 "r1") ∧
    (∃ o, .replied 4 o ∈ σ.log ∧ o = .loggedOut (.error (.authToken .expired))) ∧ Idle σ 4 := by
  let r1 := ann 105 "r1"
  let refresh : Happening := .spawned 3 (.request 0 Scenario.api (.refresh ⟨token r1⟩))
  let logout : Happening := .spawned 4 (.request 0 Scenario.api (.logout ⟨token r1⟩))
  let replayed : Happening := .replied 3 (.tokens (.error (.authToken .invalidRefreshToken)))
  let expired : Happening := .replied 4 (.loggedOut (.error (.authToken .expired)))
  obtain ⟨σ, σ', hσ, hpath, hins, hgone, hsigned, hlog⟩ := Scenario.reach_then Unrestricted
    (starting ++ registering 1 "ann" "password" 105 "id" "a1" "r1" ++
      consuming 2 (token r1) 106 ++ rotating 2 107 "a2" "r2")
    (requesting 4 (.logout ⟨token r1⟩) ++ consuming 3 (token r1) 108 ++ [.reply 3] ++
      answering 4 [.reading 604966] ++ [.reply 4])
    (fun σ σ' => insertion 1 (row "id" 105 "r1") ∈ σ.log ∧
      row "id" 105 "r1" ∉ σ.shared.db.refreshTokens ∧
      encoded 1 secret r1 (.ok (token r1)) ∈ σ.log ∧
      σ'.log = expired :: read 4 604966 :: replayed :: (σ'.log.drop 3).take 3 ++
        refresh :: logout :: σ.log) (by decide +kernel)
  have hkept : ¬ Stored σ.log (row "id" 105 "r1") :=
    fun hs => hgone ((hσ.traces.recorded.tokens _).2 hs)
  have hdead : Dead σ.log "r1" := ⟨1, _, hins, rfl, hkept⟩
  have hdead' : Dead (logout :: σ.log) "r1" := by
    refine ⟨1, _, List.mem_cons_of_mem _ hins, rfl, ?_⟩
    rintro (⟨hs, -⟩ | ⟨_, he⟩)
    · exact hkept hs
    · simp [logout, insertion] at he
  have hd : PresentsDead σ'.log 3 Scenario.api (.refresh ⟨token r1⟩) r1 :=
    ⟨_, logout :: σ.log, 0, token r1, 1, secret, hlog, rfl, List.mem_cons_of_mem _ hsigned, rfl,
      hdead'⟩
  have hd' : PresentsDead σ'.log 4 Scenario.api (.logout ⟨token r1⟩) r1 :=
    ⟨expired :: read 4 604966 :: replayed :: (σ'.log.drop 3).take 3 ++ [refresh], σ.log, 0,
      token r1, 1, secret, by simpa using hlog, rfl, hsigned, rfl, hdead⟩
  have hends : expired ∈ σ'.log ∧ read 4 604966 ∈ σ'.log ∧ replayed ∈ σ'.log := by
    rw [hlog]
    simp
  obtain ⟨hexpired, hread, hreplayed⟩ := hends
  have hσ' := hσ.path hpath
  obtain ⟨hidle, hrefused⟩ := (dead_token_refused Transparent.crypto_tokenSound hσ' hd).1
    (fun _ => by simp)
  obtain ⟨-, -, hlate, -⟩ := (dead_token_refused Transparent.crypto_tokenSound hσ' hd').2.1 _ rfl
  obtain ⟨hidle', hanswer⟩ := hlate 604966 hread (by decide)
  exact ⟨σ', hd, ⟨_, hreplayed⟩, hidle, hrefused, hd', ⟨_, hexpired, hanswer _ hexpired⟩, hidle'⟩

open Scenario in
/-- A revoked token ends, at logout, a session that its user opened after it died. -/
theorem dead_token_ends_session : ∃ σ σ' : Pool (service Transparent.crypto),
    Reachable Transparent.crypto (NoFaults ⊓ Monotone ⊓ Unforged) σ ∧
    Path (NoFaults ⊓ Monotone ⊓ Unforged) σ
      (loggingOut 4 (token (ann 105 "r1")) 108) σ' ∧
    PresentsDead σ'.log 4 Scenario.api (.logout ⟨token (ann 105 "r1")⟩) (ann 105 "r1") ∧
    .replied 4 (.loggedOut (.ok ())) ∈ σ'.log ∧
    ∃ row ∈ σ.shared.db.refreshTokens, row ∉ σ'.shared.db.refreshTokens := by
  obtain ⟨σ, σ', hσ, hpath, hins, hgone, hsigned, hlog, hrep, hbefore, hafter⟩ :=
    Scenario.reach_then (NoFaults ⊓ Monotone ⊓ Unforged)
    (starting ++ registering 1 "ann" "password" 105 "id" "a1" "r1" ++
      loggingOut 2 (token (ann 105 "r1")) 106 ++ loggingIn 3 "ann" "password" 107 "b1" "q1")
    (loggingOut 4 (token (ann 105 "r1")) 108)
    (fun σ σ' => insertion 1 (row "id" 105 "r1") ∈ σ.log ∧
      row "id" 105 "r1" ∉ σ.shared.db.refreshTokens ∧
      encoded 1 secret (ann 105 "r1") (.ok (token (ann 105 "r1"))) ∈ σ.log ∧
      σ'.log = σ'.log.take 3 ++
        .spawned 4 (.request 0 Scenario.api (.logout ⟨token (ann 105 "r1")⟩)) :: σ.log ∧
      .replied 4 (.loggedOut (.ok ())) ∈ σ'.log ∧
      row "id" 107 "q1" ∈ σ.shared.db.refreshTokens ∧ row "id" 107 "q1" ∉ σ'.shared.db.refreshTokens)
    (by decide +kernel)
  have hdead : Dead σ.log "r1" :=
    ⟨1, _, hins, rfl, fun hs => hgone ((hσ.traces.recorded.tokens _).2 hs)⟩
  exact ⟨σ, σ', hσ, hpath,
    ⟨_, σ.log, 0, token (ann 105 "r1"), 1, secret, hlog, rfl, hsigned, rfl, hdead⟩, hrep, _, hbefore, hafter⟩

end Servir
