import Servir.Http.Router
import Servir.Sessions.Credentials
import Servir.Sessions.Identity

/-!
# Refused requests

A request that is answered with a 4xx status has run no statement that changes a
row: before such an exit a handler has only looked up rows, or a statement of it
failed or matched nothing. A failed login says the same whatever the account.
-/

namespace Servir
open Interleaving

variable {K : Crypto} {A : Assumption (service K)} {sh : Shared} {log later earlier : Trail}
  {t s : ℕ} {api : Api} {req : Request} {past : Past} {config : AuthConfig}

/-- The answer of the statement says that it changed nothing: it looked up a row, it failed, or it is
a delete that matched no row. -/
inductive Stmt.Harmless : (q : Stmt) → Except SqlxError q.Answer → Prop where
  | failed {q : Stmt} (e : SqlxError) : Harmless q (.error e)
  | byUsername (username : String) (r : Except SqlxError (Option User)) :
      Harmless (.selectUserByUsername username) r
  | byId (id : String) (r : Except SqlxError (Option User)) : Harmless (.selectUserById id) r
  | unmatched (jti : String) (now : Int64) : Harmless (.deleteRefreshToken jti now) (.ok 0)

theorem Stmt.exec_harmless {q : Stmt} {db : Db} (h : q.Harmless (q.exec db).1) :
    (q.exec db).2 = db := by
  generalize hr : (q.exec db).1 = r at h
  cases h with
  | failed e => exact exec_error hr
  | byUsername | byId => rfl
  | unmatched jti now =>
    have hcount : db.refreshTokens.count
        (fun row => row.jti == jti && decide (now < row.expiresAt)) = 0 := by
      simpa [exec, Db.deleteRefreshTokens] using hr
    exact Db.deleteRefreshTokens_of_none (Store.Table.count_eq_zero.1 hcount)

/-- No step of task `t` on the way to `σ` changed the database. -/
def Unchanging (A : Assumption (service K)) (σ : Pool (service K)) (t : ℕ) : Prop :=
  ∀ σ₀ l σ₁ ls, Step A σ₀ l σ₁ → Path A σ₁ ls σ → l.task = t → σ₁.shared.db = σ₀.shared.db

theorem unchanging_of_harmless {σ : Pool (service K)}
    (h : ∀ q r, ran t q r ∈ σ.log → q.Harmless r) : Unchanging A σ t := by
  rintro σ₀ l σ₁ ls hs hp rfl
  obtain hsame | ⟨q, hlog, hdb⟩ := step_db hs
  · exact hsame
  · rw [hdb]
    exact Stmt.exec_harmless (h q _ (hp.log_suffix.subset (hlog ▸ List.mem_cons_self)))

/-- The statements behind a 4xx exit of a handler that issues tokens, unless the user of a consumed
token is missing. -/
theorem Issues.harmless {e : ServirError} (h : Issues K config req past (.error e))
    (hcode : e.statusCode.asU16 < 500) (he : ∀ id, e ≠ .authToken (.userNotFound id)) {q : Stmt}
    {r : Except SqlxError q.Answer} (hq : sent q r ∈ past) : q.Harmless r := by
  have hserver : ∀ {e' : ServirError}, e'.statusCode = .internalServerError → e ≠ e' := by
    rintro e' he' rfl
    rw [he'] at hcode
    exact absurd hcode (by decide)
  cases h with
  | emptyUsername | weakPassword => cases hq
  | hashFailed | rejected | wrongKind => simp at hq
  | createFailed | consumeFailed =>
    simp only [List.mem_cons, List.not_mem_nil, or_false] at hq
    rcases hq with hq | hq | hq | hq <;> cases hq
    exact .failed _
  | lookupFailed | unknownUser | malformedHash | wrongPassword =>
    cases List.mem_singleton.1 hq
    exact .byUsername _ _
  | replayed =>
    simp only [List.mem_cons, List.not_mem_nil, or_false] at hq
    rcases hq with hq | hq | hq <;> cases hq
    exact .unmatched _ _
  | userNotFound => exact absurd rfl (he _)
  | findFailed | accessUnsigned | refreshUnsigned | storeFailed => exact absurd rfl (hserver rfl)

theorem Revokes.harmless {body : LogoutRequest} {e : ServirError}
    (h : Revokes K config body past (.error e)) {q : Stmt} {r : Except SqlxError q.Answer}
    (hq : sent q r ∈ past) : q.Harmless r := by
  cases h with
  | rejected | wrongKind => simp at hq
  | revokeFailed =>
    simp only [List.mem_cons, List.not_mem_nil, or_false] at hq
    rcases hq with hq | hq <;> cases hq
    exact .failed _

theorem Extracts.no_statement {authorization : Option HeaderValue} {x : Except ServirError Claims}
    (h : Extracts K config authorization past x) (q : Stmt) (r : Except SqlxError q.Answer) :
    sent q r ∉ past := by
  cases h <;> simp

theorem Traces.rejected_harmless (hA : A ≤ Unforged) (h : Traces K A sh log) {o : Outcome}
    {e : ServirError} (hj : .spawned t (.request s api req) ∈ log) (ho : .replied t o ∈ log)
    (he : o.error = some e) (hcode : e.statusCode.asU16 < 500) {q : Stmt}
    {r : Except SqlxError q.Answer} (hq : ran t q r ∈ log) : q.Harmless r := by
  have hrep : Replies K api req (history t log) o := Traced.replied h hj ho
  have hsent : sent q r ∈ history t log := mem_history.2 hq
  generalize history t log = past at hrep hsent
  cases hrep with
  | @tokens _ _ result hissue =>
    cases result with
    | ok resp => cases he
    | error e' =>
      cases he
      refine hissue.harmless hcode (fun id hid => ?_) hsent
      subst hid
      exact h.not_user_not_found hA id ho
  | @loggedOut _ _ result hrevoke =>
    cases result with
    | ok _ => cases he
    | error e' => exact hrevoke.harmless hsent
  | identity hextract => exact absurd hsent (hextract.no_statement q r)
  | accepted hextract => exact absurd hsent (hextract.no_statement q r)

/-- A request that is answered with a 4xx status changed no row at any of its steps, and a request
that does not get as far as its handler runs no statement. -/
theorem rejected_unchanged {σ : Pool (service K)} (h : Reachable K Unforged σ) :
    (∀ t s api req o e, .spawned t (.request s api req) ∈ σ.log → .replied t o ∈ σ.log →
      o.error = some e → 400 ≤ e.statusCode.asU16 → e.statusCode.asU16 < 500 →
      Unchanging Unforged σ t) ∧
    ∀ X api, ∀ r ∈ ownRoutes K X api, ∀ req, (∃ response, r.handler req = .pure response) ∨
      ∃ request, some <$> r.handler req = Outcome.response <$> handle K api request := by
  refine ⟨?_, fun X api r hr req => ownRoutes_handle hr req⟩
  intro t s api req o e hj ho he _ hcode
  exact unchanging_of_harmless (fun q r => h.traces.rejected_harmless le_rfl hj ho he hcode)

open Scenario in
/-- Of two refreshes with one token at once the one whose delete comes second matches no row: it is
answered 401 and changed nothing. -/
theorem rejected_unchanged_replayed : ∃ σ : Pool (service Transparent.crypto),
    Reachable Transparent.crypto Unforged σ ∧
    (∃ resp, .replied 2 (.tokens (.ok resp)) ∈ σ.log) ∧
    ran 3 (.deleteRefreshToken "r1" 106) (.ok 0) ∈ σ.log ∧
    .replied 3 (.tokens (.error (.authToken .invalidRefreshToken))) ∈ σ.log ∧
    Unchanging Unforged σ 3 := by
  let tok := token (ann 105 "r1")
  obtain ⟨σ, hσ, hj, ho, hdelete, hwon⟩ := Scenario.reach Unforged
    (starting ++ registering 1 "ann" "password" 105 "id" "a1" "r1" ++
      requesting 3 (.refresh ⟨tok⟩) ++ answering 3 [.reading 106] ++ consuming 2 tok 106 ++
      answering 3 [.reading 106, .execute] ++ rotating 2 107 "a2" "r2" ++ [.reply 3])
    (fun σ => .spawned 3 (.request 0 Scenario.api (.refresh ⟨tok⟩)) ∈ σ.log ∧
      .replied 3 (.tokens (.error (.authToken .invalidRefreshToken))) ∈ σ.log ∧
      ran 3 (.deleteRefreshToken "r1" 106) (.ok 0) ∈ σ.log ∧
      .replied 2 (.tokens (.ok ⟨accessToken "id" "ann" 107 "a2", token (ann 107 "r2"), "Bearer"⟩)) ∈
        σ.log) (by decide +kernel)
  exact ⟨σ, hσ, ⟨_, hwon⟩, hdelete, ho,
    (rejected_unchanged hσ).1 3 0 _ _ _ _ hj ho rfl (by decide) (by decide)⟩

theorem Traces.password_parsed (hparse : ∀ {salt password hash},
      K.hashPassword salt password = .ok hash → K.parseHash hash = .ok ())
    (h : Traces K A sh log) {r : UserRow} (hr : Registered log r) (password : String)
    (e : ServirError) : verifyPassword K password r.passwordHash ≠ .error e := by
  obtain ⟨t, hc⟩ := hr
  obtain ⟨later, earlier, rfl⟩ := List.append_of_mem hc
  obtain ⟨s, api, body, salt, n, -, -, hhash, -⟩ := creating h
  simp [verifyPassword, hparse hhash]

/-- How a login fails: on the credentials, or on a fault that is not about the stored hash. -/
theorem Traces.login_refused (hparse : ∀ {salt password hash},
      K.hashPassword salt password = .ok hash → K.parseHash hash = .ok ())
    (h : Traces K A sh log) {body : LoginRequest} {e : ServirError}
    (hj : .spawned t (.request s api (.login body)) ∈ log)
    (ho : .replied t (.tokens (.error e)) ∈ log) :
    e = .authUser (.invalidCredentials body.username) ∨
      (¬ FaultFree K log t ∧ ∀ display, e ≠ .authUser (.passwordHashFailed display)) := by
  have hrep : Replies K api (.login body) (history t log) _ := Traced.replied h hj ho
  generalize hpast : history t log = past at hrep
  have hmem : ∀ {x : Entry signature}, x ∈ past → .performed t x.effect x.answer ∈ log :=
    fun hx => mem_history.1 (hpast ▸ hx)
  cases hrep with
  | tokens hissue =>
    cases hissue with
    | unknownUser | wrongPassword => exact .inl rfl
    | @malformedHash _ user _ hverify =>
      have hfound := hmem List.mem_cons_self
      obtain ⟨later, earlier, rfl⟩ := List.append_of_mem hfound
      obtain ⟨r, hr, -, rfl⟩ := (found_username h _).1 rfl
      exact absurd hverify (h.password_parsed hparse (hr.mono earlier_subset) _ _)
    | @lookupFailed _ e =>
      have hlookup := hmem List.mem_cons_self
      refine .inr ⟨fun hf => ?_, nofun⟩
      obtain ⟨later, earlier, rfl⟩ := List.append_of_mem hlookup
      have hfault : ∀ display, e ≠ .fault display := by
        rintro display rfl
        exact hf.statements _ display hlookup
      simpa using failed h hfault
    | storeFailed =>
      have hstore := hmem List.mem_cons_self
      refine .inr ⟨fun hf => ?_, nofun⟩
      obtain ⟨later, earlier, rfl⟩ := List.append_of_mem hstore
      obtain ⟨display, rfl⟩ := store_fault h
      exact hf.statements _ display hstore
    | accessUnsigned =>
      exact .inr ⟨fun hf => hf.signatures _ _ _ (hmem List.mem_cons_self), nofun⟩
    | refreshUnsigned =>
      exact .inr ⟨fun hf => hf.signatures _ _ _ (hmem List.mem_cons_self), nofun⟩

theorem Traces.login_harmless (h : Traces K A sh log) {body : LoginRequest} {username : String}
    (hj : .spawned t (.request s api (.login body)) ∈ log)
    (ho : .replied t (.tokens (.error (.authUser (.invalidCredentials username)))) ∈ log) {q : Stmt}
    {r : Except SqlxError q.Answer} (hq : ran t q r ∈ log) : q.Harmless r := by
  have hrep : Replies K api (.login body) (history t log) _ := Traced.replied h hj ho
  have hsent : sent q r ∈ history t log := mem_history.2 hq
  generalize history t log = past at hrep hsent
  cases hrep with
  | tokens hissue => exact hissue.harmless (show 401 < 500 by decide) nofun hsent

theorem failed_login (hparse : ∀ {salt password hash},
      K.hashPassword salt password = .ok hash → K.parseHash hash = .ok ())
    {σ : Pool (service K)} (h : Reachable K A σ) {body : LoginRequest} {o : Outcome}
    (hj : .spawned t (.request s api (.login body)) ∈ σ.log) (hf : FaultFree K σ.log t)
    (ho : .replied t o ∈ σ.log) (hfail : ∀ resp, o ≠ .tokens (.ok resp)) :
    o = .tokens (.error (.authUser (.invalidCredentials body.username))) ∧ Unchanging A σ t := by
  have hrep : Replies K api (.login body) (history t σ.log) o := Traced.replied h.traces hj ho
  cases hrep with
  | @tokens _ _ r _ =>
    cases r with
    | ok resp => exact absurd rfl (hfail resp)
    | error e =>
      obtain rfl | ⟨hfault, -⟩ := h.traces.login_refused hparse hj ho
      · exact ⟨rfl, unchanging_of_harmless (fun q r => h.traces.login_harmless hj ho)⟩
      · exact absurd hf hfault

/-- Two fault-free logins with one body that both fail get the same response, from whatever states
and whether or not the user exists, and change nothing. No login is answered
PASSWORD_HASH_FAILED. -/
theorem failed_login_uniform (hparse : ∀ {salt password hash},
      K.hashPassword salt password = .ok hash → K.parseHash hash = .ok ()) :
    (∀ σ σ' : Pool (service K), Reachable K Unrestricted σ → Reachable K Unrestricted σ' →
      ∀ t s api t' s' api' body o o',
        .spawned t (.request s api (.login body)) ∈ σ.log →
        .spawned t' (.request s' api' (.login body)) ∈ σ'.log →
        FaultFree K σ.log t → FaultFree K σ'.log t' →
        .replied t o ∈ σ.log → .replied t' o' ∈ σ'.log →
        (∀ resp, o ≠ .tokens (.ok resp)) → (∀ resp, o' ≠ .tokens (.ok resp)) →
        (∃ response, o.response = some response ∧ o'.response = some response ∧
          response = (ServirError.authUser (.invalidCredentials body.username)).intoResponse) ∧
        Unchanging Unrestricted σ t ∧ Unchanging Unrestricted σ' t') ∧
    ∀ σ : Pool (service K), Reachable K Unrestricted σ → ∀ t s api body display,
      .spawned t (.request s api (.login body)) ∈ σ.log →
      .replied t (.tokens (.error (.authUser (.passwordHashFailed display)))) ∉ σ.log := by
  refine ⟨?_, ?_⟩
  · intro σ σ' h h' t s api t' s' api' body o o' hj hj' hf hf' ho ho' hfail hfail'
    obtain ⟨rfl, hsteps⟩ := failed_login hparse h hj hf ho hfail
    obtain ⟨rfl, hsteps'⟩ := failed_login hparse h' hj' hf' ho' hfail'
    exact ⟨⟨_, rfl, rfl, rfl⟩, hsteps, hsteps'⟩
  · intro σ h t s api body display hj ho
    obtain he | ⟨-, hne⟩ := h.traces.login_refused hparse hj ho
    · cases he
    · exact hne display rfl

open Scenario in
/-- A wrong password in one run, an unknown user in the other. -/
theorem failed_login_uniform_unknown : ∃ σ σ' : Pool (service Transparent.crypto),
    Registered σ.log ⟨"id", "ann", Transparent.hashPassword "salt" "password", 105⟩ ∧
    (∀ r, r ∉ σ'.shared.db.users) ∧
    ∃ o o', .replied 2 o ∈ σ.log ∧ .replied 1 o' ∈ σ'.log ∧
      (∃ response, o.response = some response ∧ o'.response = some response) ∧
      Unchanging Unrestricted σ 2 ∧ Unchanging Unrestricted σ' 1 := by
  obtain ⟨σ, hσ, hc, hj, ho⟩ := Scenario.reach NoFaults
    (starting ++ registering 1 "ann" "password" 105 "id" "a1" "r1" ++
      requesting 2 (.login ⟨"ann", "different"⟩) ++ answering 2 [.execute] ++ [.reply 2])
    (fun σ => Created σ.log 1 ⟨"id", "ann", Transparent.hashPassword "salt" "password", 105⟩ ∧
      .spawned 2 (.request 0 Scenario.api (.login ⟨"ann", "different"⟩)) ∈ σ.log ∧
      .replied 2 (.tokens (.error (.authUser (.invalidCredentials "ann")))) ∈ σ.log)
    (by decide +kernel)
  obtain ⟨σ', hσ', hempty, hj', ho'⟩ := Scenario.reach NoFaults
    (starting ++ requesting 1 (.login ⟨"ann", "different"⟩) ++ answering 1 [.execute] ++ [.reply 1])
    (fun σ' => σ'.shared.db.users.rows = [] ∧
      .spawned 1 (.request 0 Scenario.api (.login ⟨"ann", "different"⟩)) ∈ σ'.log ∧
      .replied 1 (.tokens (.error (.authUser (.invalidCredentials "ann")))) ∈ σ'.log)
    (by decide +kernel)
  have hfree := hσ.traces.faultFree Transparent.crypto_tokenSound (fun _ _ => ⟨_, rfl⟩)
    (hσ.traces.not_fault le_rfl 2)
  have hfree' := hσ'.traces.faultFree Transparent.crypto_tokenSound (fun _ _ => ⟨_, rfl⟩)
    (hσ'.traces.not_fault le_rfl 1)
  obtain ⟨⟨response, hr, hr', -⟩, hunchanged, hunchanged'⟩ :=
    (failed_login_uniform Transparent.crypto_hashSound.parse_hash).1 σ σ'
      (hσ.mono (fun _ _ _ _ => trivial)) (hσ'.mono (fun _ _ _ _ => trivial)) 2 0 _ 1 0 _ _ _ _
      hj hj' hfree hfree' ho ho' nofun nofun
  have hnone : ∀ r, r ∉ σ'.shared.db.users := by
    intro r hr
    rw [← Store.Table.mem_rows, hempty] at hr
    cases hr
  exact ⟨σ, σ', ⟨1, hc⟩, hnone, _, _, ho, ho', ⟨response, hr, hr'⟩, hunchanged, hunchanged'⟩

end Servir
