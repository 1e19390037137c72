import Servir.Runs.Scenario

/-!
# Usernames and passwords

The UNIQUE constraint decides which register commits a username. Rows of `users`
are never changed, so a login that finds a row checks its password against the
one of that register.
-/

namespace Servir
open Interleaving

variable {K : Crypto} {A : Assumption (service K)} {sh : Shared} {log later earlier : Trail}
  {t s : ℕ} {api : Api}

/-- Task `t` met no fault: no statement, no signature and no hashing of it failed on its own. -/
structure FaultFree (K : Crypto) (log : Trail) (t : ℕ) : Prop where
  statements : ∀ q display, ran t q (.error (.fault display)) ∉ log
  signatures : ∀ secret c e, encoded t secret c (.error e) ∉ log
  hashes : ∀ s api body salt e, .spawned t (.request s api (.register body)) ∈ log →
    .performed t .generateSalt salt ∈ log → K.hashPassword salt body.password ≠ .error e

/-- The register request that committed the row `r` had this password. -/
def RegisteredWith (log : Trail) (r : UserRow) (password : String) : Prop :=
  ∃ t s api body, .spawned t (.request s api (.register body)) ∈ log ∧ Created log t r ∧
    body.password = password

/-- The username was taken when task `t` sent its insert. -/
def Taken (log : Trail) (t : ℕ) (username : String) : Prop :=
  ∃ later earlier id hash created x r, log = later ++
    ran t (.insertUser id username hash created) x :: earlier ∧ Registered earlier r ∧
      r.username = username

/-- Request `t` signed both tokens of the response for the user `r`. -/
def TokensFor (log : Trail) (t : ℕ) (resp : TokenResponse) (r : UserRow) : Prop :=
  ∀ k, ∃ secret c, encoded t secret c (.ok (resp.field k)) ∈ log ∧ c.kind = k ∧ c.sub = r.id

namespace Traces

theorem faultFree (hK : K.TokenSound)
    (hhash : ∀ salt password, ∃ hash, K.hashPassword salt password = .ok hash)
    (h : Traces K A sh log) (hstmts : ∀ q display, ran t q (.error (.fault display)) ∉ log) :
    FaultFree K log t where
  statements := hstmts
  signatures _ _ _ := not_unsigned hK h
  hashes s api body salt e _ _ he := by
    obtain ⟨hash, hok⟩ := hhash salt body.password
    rw [hok] at he
    cases he

theorem failed_insert (hf : FaultFree K log t) (h : Traces K A sh log) {q : Stmt} {e : SqlxError}
    (hmem : ran t q (.error e) ∈ log) :
    (∃ id username hash created, q = .insertUser id username hash created) ∨
      ∃ value, q = .insertSigningSecret value := by
  obtain ⟨later, earlier, rfl⟩ := List.append_of_mem hmem
  have he : ∀ display, e ≠ .fault display := by
    rintro display rfl
    exact hf.statements _ display hmem
  obtain hq | ⟨jti, userId, expires, created, rfl⟩ | hq := failed h he
  · exact .inl hq
  · obtain ⟨display, hd⟩ := store_fault h
    exact absurd hd (he display)
  · exact .inr hq

theorem password_checked (hK : K.HashSound) (h : Traces K A sh log) {r : UserRow}
    (hr : Registered log r) (password : String) :
    ∃ valid, verifyPassword K password r.passwordHash = .ok valid ∧
      (valid = true ↔ RegisteredWith log r password) := by
  obtain ⟨t, hc⟩ := hr
  obtain ⟨later, earlier, hlog⟩ := List.append_of_mem hc
  obtain ⟨s, api, body, salt, n, hj, hname, hhash, -⟩ := creating (hlog ▸ h)
  have hj' : .spawned t (.request s api (.register body)) ∈ log := hlog ▸ earlier_subset hj
  refine ⟨K.verifyPassword password r.passwordHash, ?_, ?_⟩
  · simp [verifyPassword, hK.parse_hash hhash]
  rw [hK.verify_hash password hhash]
  constructor
  · rintro rfl
    exact ⟨t, s, api, body, hj', hc, rfl⟩
  · rintro ⟨t', s', api', body', hj'', hc', rfl⟩
    obtain ⟨rfl, -⟩ := created_unique h hc hc' rfl
    cases Traced.spawned_unique h hj' hj''
    rfl

theorem register_unchanged {later earlier : Trail} {t' : ℕ} {q : Stmt} {db : Db}
    {body : RegisterRequest} {r : UserRow}
    (h : Traces K A sh (later ++ ran t q (q.exec db).1 :: earlier))
    (hj : .spawned t (.request s api (.register body)) ∈ later ++ ran t q (q.exec db).1 :: earlier)
    (hc : Created (later ++ ran t q (q.exec db).1 :: earlier) t' r)
    (hname : r.username = body.username) (hne : t ≠ t') : (q.exec db).2 = db := by
  obtain ⟨job, hj', ha⟩ := Traced.attempted_at h
  cases Traced.spawned_unique h hj (earlier_subset hj')
  change Attempts K api.routes (.register body) (history t earlier) (.sql q) at ha
  generalize hpast : history t earlier = past at ha
  cases ha with
  | @insertUser _ salt hash id n =>
    cases hres : (Stmt.exec db (.insertUser id body.username hash n.toInt64)).1 with
    | error e => exact Stmt.exec_error hres
    | ok _ =>
      rw [hres] at h hc
      have hcreated : Created (later ++ ran t (.insertUser id body.username hash n.toInt64)
          (.ok ()) :: earlier) t ⟨id, body.username, hash, n.toInt64⟩ := by simp [Created]
      exact absurd (created_unique h hcreated hc hname.symm).1 hne
  | store hacts =>
    cases hacts with
    | @register _ salt hash id n =>
      have hmem : Created earlier t ⟨id, body.username, hash, n.toInt64⟩ :=
        mem_history.1 (by simp [hpast, refreshPast, accessPast])
      exact absurd (created_unique h (hmem.mono earlier_subset) hc hname.symm).1 hne

theorem taken_other (h : Traces K A sh log) {username : String} (htaken : Taken log t username) :
    ∃ t' r, t' ≠ t ∧ Created log t' r ∧ r.username = username := by
  obtain ⟨later, earlier, id, hash, created, x, r, rfl, ⟨t', hr⟩, hname⟩ := htaken
  refine ⟨t', r, ?_, hr.mono earlier_subset, hname⟩
  rintro rfl
  exact absurd (stage_lt h (by simp [Effect.stage]) hr) (by simp [Effect.stage])

/-- A valid register that meets no fault commits its username and is answered with a token pair, or
its username is taken and it is answered ALREADY_EXISTS. -/
theorem register_reply (h : Traces K A sh log) {body : RegisterRequest}
    (hj : .spawned t (.request s api (.register body)) ∈ log) (huser : body.username ≠ "")
    (hlong : 8 ≤ body.password.utf8ByteSize) (hf : FaultFree K log t) {o : Outcome}
    (ho : .replied t o ∈ log) :
    ((∃ resp, o = .tokens (.ok resp)) ∧ ∃ r, Created log t r ∧ r.username = body.username) ∨
      (∃ display, o = .tokens (.error (.authUser (.alreadyExists body.username display)))) ∧
        Taken log t body.username := by
  have hrep : Replies K api (.register body) (history t log) o := Traced.replied h hj ho
  generalize hpast : history t log = past at hrep
  have hmem : ∀ {x : Entry signature}, x ∈ past → .performed t x.effect x.answer ∈ log :=
    fun hx => mem_history.1 (hpast ▸ hx)
  cases hrep with
  | tokens hissue =>
    cases hissue with
    | emptyUsername hempty => exact absurd hempty huser
    | weakPassword _ hweak => omega
    | hashFailed _ _ hhash => exact absurd hhash (hf.hashes s api body _ _ hj (hmem List.mem_cons_self))
    | @createFailed _ salt hash id n e =>
      have hfailed : ran t (.insertUser id body.username hash n.toInt64) (.error e) ∈ log :=
        hmem List.mem_cons_self
      obtain ⟨later, earlier, hlog⟩ := List.append_of_mem hfailed
      have hfault : ∀ display, e ≠ .fault display := by
        rintro display rfl
        exact hf.statements _ display hfailed
      obtain ⟨hunique, r, hr, hname⟩ := create_conflict (hlog ▸ h) hfault
      exact .inr ⟨⟨e.display, by simp [createUserError, hunique]⟩, later, earlier, id, hash, _, _, r,
        hlog, hr, hname⟩
    | accessUnsigned => exact absurd (hmem List.mem_cons_self) (hf.signatures _ _ _)
    | refreshUnsigned => exact absurd (hmem List.mem_cons_self) (hf.signatures _ _ _)
    | storeFailed => simpa using failed_insert hf h (hmem List.mem_cons_self)
    | issued hacts =>
      cases hacts with
      | @register _ salt hash id n =>
        refine .inl ⟨⟨_, rfl⟩, ⟨id, body.username, hash, n.toInt64⟩, ?_, rfl⟩
        exact mem_history.1 (by simp [hpast, refreshPast, accessPast])

theorem register_conflict (h : Traces K A sh log) {t' : ℕ} {body : RegisterRequest} {r : UserRow}
    (hj : .spawned t (.request s api (.register body)) ∈ log) (hc : Created log t' r)
    (hname : r.username = body.username) (hne : t ≠ t') (huser : body.username ≠ "")
    (hlong : 8 ≤ body.password.utf8ByteSize) (hf : FaultFree K log t) {o : Outcome}
    (ho : .replied t o ∈ log) :
    ∃ display, o = .tokens (.error (.authUser (.alreadyExists body.username display))) := by
  obtain ⟨-, r', hc', hname'⟩ | ⟨hexists, -⟩ := register_reply h hj huser hlong hf ho
  · exact absurd (created_unique h hc' hc (hname'.trans hname.symm)).1 hne
  · exact hexists

/-- A login that meets no fault is answered OK exactly if it found a row with a hash that its
password verifies. -/
theorem login_reply (h : Traces K A sh log) {body : LoginRequest}
    (hj : .spawned t (.request s api (.login body)) ∈ log) (hf : FaultFree K log t) {o : Outcome}
    (ho : .replied t o ∈ log) :
    ∃ found, ran t (.selectUserByUsername body.username) (.ok found) ∈ log ∧
      ((∃ resp, o = .tokens (.ok resp)) ↔ ∃ user, found = some user ∧
        verifyPassword K body.password user.passwordHash = .ok true) := by
  have hrep : Replies K api (.login body) (history t log) o := Traced.replied h hj ho
  generalize hpast : history t log = past at hrep
  have hmem : ∀ {x : Entry signature}, x ∈ past → .performed t x.effect x.answer ∈ log :=
    fun hx => mem_history.1 (hpast ▸ hx)
  cases hrep with
  | tokens hissue =>
    cases hissue with
    | lookupFailed => simpa using failed_insert hf h (hmem List.mem_cons_self)
    | unknownUser => exact ⟨none, hmem List.mem_cons_self, by simp⟩
    | malformedHash hverify => exact ⟨_, hmem List.mem_cons_self, by simp [hverify]⟩
    | wrongPassword hverify => exact ⟨_, hmem List.mem_cons_self, by simp [hverify]⟩
    | accessUnsigned => exact absurd (hmem List.mem_cons_self) (hf.signatures _ _ _)
    | refreshUnsigned => exact absurd (hmem List.mem_cons_self) (hf.signatures _ _ _)
    | storeFailed => simpa using failed_insert hf h (hmem List.mem_cons_self)
    | @issued _ _ user _ _ _ _ _ _ _ _ hacts =>
      cases hacts with
      | login hverify =>
        exact ⟨some user, mem_history.1 (by simp [hpast, refreshPast, accessPast]),
          by simp [hverify]⟩

/-- That is, exactly if a row for its username was committed by a register with its password. -/
theorem login_decided (hK : K.HashSound) (h : Traces K A sh log) {body : LoginRequest}
    (hj : .spawned t (.request s api (.login body)) ∈ log) (hf : FaultFree K log t) {o : Outcome}
    (ho : .replied t o ∈ log) : ∃ later earlier found,
      log = later ++ ran t (.selectUserByUsername body.username) found :: earlier ∧
      ((∃ resp, o = .tokens (.ok resp)) ↔
        ∃ r, r.username = body.username ∧ RegisteredWith earlier r body.password) := by
  obtain ⟨found, hmem, hiff⟩ := login_reply h hj hf ho
  obtain ⟨later, earlier, rfl⟩ := List.append_of_mem hmem
  obtain ⟨sh₀, -, h₀, -⟩ := responds h
  refine ⟨later, earlier, .ok found, rfl, hiff.trans ⟨?_, ?_⟩⟩
  · rintro ⟨user, hfound, hverify⟩
    obtain ⟨r, hr, hname, rfl⟩ := (found_username h user).1 hfound
    obtain ⟨valid, hvalid, hwith⟩ := password_checked hK h₀ hr body.password
    refine ⟨r, hname, hwith.1 ?_⟩
    rw [show r.toUser.passwordHash = r.passwordHash from rfl, hvalid] at hverify
    exact Except.ok.inj hverify
  · rintro ⟨r, hname, hwith⟩
    have hr : Registered earlier r := by
      obtain ⟨t', s', api', body', -, hc, -⟩ := hwith
      exact ⟨t', hc⟩
    obtain ⟨valid, hvalid, hvalid'⟩ := password_checked hK h₀ hr body.password
    refine ⟨r.toUser, (found_username h _).2 ⟨r, hr, hname, rfl⟩, hvalid.trans ?_⟩
    rw [hvalid'.2 hwith]

theorem login_tokens (h : Traces K A sh log) {body : LoginRequest} {resp : TokenResponse}
    (hj : .spawned t (.request s api (.login body)) ∈ log)
    (ho : .replied t (.tokens (.ok resp)) ∈ log) {r : UserRow} (hr : Registered log r)
    (hname : r.username = body.username) : TokensFor log t resp r := by
  obtain ⟨h₀, user, hacts, hpast, hfield⟩ := field_signed h hj ho
  cases hacts with
  | login hverify =>
    obtain ⟨later, earlier, rfl⟩ := List.append_of_mem (mem_history.1 (hpast _ List.mem_cons_self))
    obtain ⟨r', hr', hname', rfl⟩ := (found_username h _).1 rfl
    obtain rfl := registered_username h (hr'.mono earlier_subset) hr (hname'.trans hname.symm)
    exact fun k => ⟨_, hfield k⟩

end Traces

/-- Who registered a username decides who can log in under it. -/
theorem credentials_decide (hK : K.HashSound) {σ : Pool (service K)}
    (h : Reachable K Unrestricted σ) :
    (∀ r ∈ σ.shared.db.users, ∀ r' ∈ σ.shared.db.users, r.username = r'.username → r = r') ∧
    (∀ ls σ', Path Unrestricted σ ls σ' → ∀ r ∈ σ.shared.db.users, r ∈ σ'.shared.db.users) ∧
    (∀ t t' r r', Created σ.log t r → Created σ.log t' r' → r.username = r'.username → t = t') ∧
    (∀ t t' s api body r, .spawned t (.request s api (.register body)) ∈ σ.log →
      Created σ.log t' r → r.username = body.username → t ≠ t' →
      (∀ σ₀ l σ₁ ls, Reachable K Unrestricted σ₀ → Step Unrestricted σ₀ l σ₁ →
        Path Unrestricted σ₁ ls σ → l.task = t → σ₁.shared.db = σ₀.shared.db) ∧
      (body.username ≠ "" → 8 ≤ body.password.utf8ByteSize → FaultFree K σ.log t →
        ∀ o, .replied t o ∈ σ.log → ∃ e, o = .tokens (.error e) ∧ e.statusCode.asU16 = 409 ∧
          e.errorId = "ALREADY_EXISTS")) ∧
    (∀ t s api body o, .spawned t (.request s api (.login body)) ∈ σ.log →
      FaultFree K σ.log t → .replied t o ∈ σ.log → ∃ later earlier found,
        σ.log = later ++ ran t (.selectUserByUsername body.username) found :: earlier ∧
        ((∃ resp, o = .tokens (.ok resp)) ↔
          ∃ r, r.username = body.username ∧ RegisteredWith earlier r body.password) ∧
        ∀ resp r, o = .tokens (.ok resp) → Registered earlier r → r.username = body.username →
          TokensFor σ.log t resp r) ∧
    ∀ t job, Open σ.log t job → ∃ ls σ' o, Path NoFaults σ ls σ' ∧ (∀ l ∈ ls, l.task = t) ∧
      .replied t o ∈ σ'.log := by
  have ht := h.traces
  have hrec := ht.recorded
  refine ⟨?_, ?_, ?_, ?_, ?_, ?_⟩
  · intro r hr r' hr' hname
    exact ht.registered_username ((hrec.users r).1 hr) ((hrec.users r').1 hr') hname
  · intro ls σ' hp r hr
    have hsub : σ.log ⊆ σ'.log := hp.log_suffix.subset
    have hrec' := (Reachable.traces (h.path hp)).recorded
    exact (hrec'.users r).2 (((hrec.users r).1 hr).mono hsub)
  · exact fun t t' r r' hc hc' hname => (ht.created_unique hc hc' hname).1
  · intro t t' s api body r hj hc hname hne
    refine ⟨?_, fun huser hlong hf o ho => ?_⟩
    · rintro σ₀ l σ₁ ls h₀ hs hp rfl
      obtain hsame | ⟨q, hlog, hdb⟩ := step_db hs
      · exact hsame
      · obtain ⟨later, hsuffix⟩ := hp.log_suffix
        rw [hlog] at hsuffix
        rw [hdb]
        exact Traces.register_unchanged (hsuffix ▸ ht) (hsuffix ▸ hj) (hsuffix ▸ hc) hname hne
    · obtain ⟨display, rfl⟩ := ht.register_conflict hj hc hname hne huser hlong hf ho
      exact ⟨_, rfl, rfl, rfl⟩
  · intro t s api body o hj hf ho
    obtain ⟨later, earlier, found, hlog, hiff⟩ := ht.login_decided hK hj hf ho
    refine ⟨later, earlier, found, hlog, hiff, ?_⟩
    rintro resp r rfl hr hname
    exact ht.login_tokens hj ho (hr.mono (hlog ▸ earlier_subset)) hname
  · intro t job ho
    exact Reach.completes (service_follows K) (responsive.mono (fun _ _ _ hA => hA.1.1)) h ho

open Scenario in
/-- Two requests register `ann` at once: the second is told so, and the password of the first
logs in. -/
theorem credentials_decide_race : ∃ σ : Pool (service Transparent.crypto),
    Reachable Transparent.crypto Unrestricted σ ∧
    (∃ e, .replied 2 (.tokens (.error e)) ∈ σ.log ∧ e.statusCode.asU16 = 409 ∧
      e.errorId = "ALREADY_EXISTS") ∧
    ∃ resp, .replied 3 (.tokens (.ok resp)) ∈ σ.log ∧ ∃ r ∈ σ.shared.db.users,
      r.username = "ann" ∧ RegisteredWith σ.log r "password" := by
  obtain ⟨σ, hσ, hj, hj', hc, ho, hl⟩ := Scenario.reach NoFaults
    (starting ++ requesting 2 (.register ⟨"ann", "different"⟩) ++
      answering 2 [.salt "salt", .uuid "id2", .reading 105] ++
      registering 1 "ann" "password" 105 "id" "a1" "r1" ++ answering 2 [.execute] ++ [.reply 2] ++
      loggingIn 3 "ann" "password" 106 "b1" "q1")
    (fun σ => .spawned 2 (.request 0 Scenario.api (.register ⟨"ann", "different"⟩)) ∈ σ.log ∧
      .spawned 3 (.request 0 Scenario.api (.login ⟨"ann", "password"⟩)) ∈ σ.log ∧
      Created σ.log 1 ⟨"id", "ann", Transparent.hashPassword "salt" "password", 105⟩ ∧
      .replied 2 (.tokens (.error (.authUser (.alreadyExists "ann"
        (SqlxError.uniqueViolation 2067 "users.username").display)))) ∈ σ.log ∧
      .replied 3 (.tokens (.ok ⟨accessToken "id" "ann" 106 "b1", token (ann 106 "q1"), "Bearer"⟩)) ∈
        σ.log)
    (by decide +kernel)
  have hσ' : Reachable Transparent.crypto Unrestricted σ := hσ.mono (fun _ _ _ _ => trivial)
  have hfree : ∀ t, FaultFree Transparent.crypto σ.log t := fun t =>
    hσ.traces.faultFree Transparent.crypto_tokenSound (fun _ _ => ⟨_, rfl⟩)
      (hσ.traces.not_fault le_rfl t)
  obtain ⟨hunique, -, -, hregister, hlogin, -⟩ :=
    credentials_decide Transparent.crypto_hashSound hσ'
  obtain ⟨e, he, hcode⟩ := (hregister 2 1 _ _ _ _ hj hc rfl (by decide)).2 (by decide) (by decide)
    (hfree 2) _ ho
  obtain ⟨later, earlier, found, hlog, hiff, -⟩ := hlogin 3 _ _ _ _ hj' (hfree 3) hl
  obtain ⟨r, hname, t, s, api, body, hspawn, hcreated, hpassword⟩ := hiff.1 ⟨_, rfl⟩
  have hwith : RegisteredWith σ.log r "password" :=
    ⟨t, s, api, body, hlog ▸ earlier_subset hspawn, hlog ▸ earlier_subset hcreated, hpassword⟩
  refine ⟨σ, hσ', ⟨e, he ▸ ho, hcode⟩, _, hl, r, ?_, hname, hwith⟩
  exact (hσ.traces.recorded.users r).2 ⟨t, hlog ▸ earlier_subset hcreated⟩

end Servir
