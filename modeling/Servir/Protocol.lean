import Servir.Interleaving.Trace
import Servir.Server

/-!
# The protocol of the handlers

What each job sends to the database, what it signs and what it answers, with the
exact history of effects behind it. `service_follows` is the only place where
the handlers are unfolded: everything about runs is read off this protocol.
-/

namespace Servir
open Interleaving Program

abbrev Past := History signature

abbrev readClock (n : UInt64) : Entry signature := ⟨.nowSecs, n⟩
abbrev drewUuid (s : String) : Entry signature := ⟨.newV4, s⟩
abbrev drewSalt (s : String) : Entry signature := ⟨.generateSalt, s⟩
abbrev drewBytes (b : Vector UInt8 32) : Entry signature := ⟨.fillBytes, b⟩
abbrev signed (secret : String) (c : Claims) (r : Except String String) : Entry signature :=
  ⟨.encode secret c, r⟩
abbrev sent (q : Stmt) (r : Except SqlxError q.Answer) : Entry signature := ⟨.sql q, r⟩

/-- The claims that `issue_access_token` signs. -/
def accessClaims (config : AuthConfig) (user : User) (now : UInt64) (jti : String) : Claims :=
  ⟨user.id, user.username, now + config.accessTokenTtlSecs, now, jti, .access⟩

/-- The claims that `issue_refresh_token` signs. -/
def refreshClaims (config : AuthConfig) (user : User) (now : UInt64) (jti : String) : Claims :=
  ⟨user.id, user.username, now + config.refreshTokenTtlSecs, now, jti, .refresh⟩

/-- The request acts for `user`: registered, logged in with the right password, or holding a
refresh token that it consumed. -/
inductive Acts (K : Crypto) (config : AuthConfig) : Request → Past → User → Prop where
  | register {body : RegisterRequest} {salt hash id : String} {n : UInt64} :
      body.username ≠ "" → 8 ≤ body.password.utf8ByteSize →
      K.hashPassword salt body.password = .ok hash →
      Acts K config (.register body)
        [sent (.insertUser id body.username hash n.toInt64) (.ok ()), readClock n, drewUuid id,
          drewSalt salt] ⟨id, body.username, hash⟩
  | login {body : LoginRequest} {user : User} :
      verifyPassword K body.password user.passwordHash = .ok true →
      Acts K config (.login body)
        [sent (.selectUserByUsername body.username) (.ok (some user))] user
  | refresh {body : RefreshRequest} {c : Claims} {n n' : UInt64} {rows : ℕ} {user : User} :
      verifyTokenAt K body.refreshToken config n = .ok c → c.kind = .refresh → 0 < rows →
      Acts K config (.refresh body)
        [sent (.selectUserById c.sub) (.ok (some user)),
          sent (.deleteRefreshToken c.jti n'.toInt64) (.ok rows), readClock n', readClock n] user

/-- The history of `issueTokens` up to the signed access token. -/
def accessPast (config : AuthConfig) (user : User) (n : UInt64) (jti : String)
    (r : Except String String) (h : Past) : Past :=
  signed config.secret (accessClaims config user n jti) r :: drewUuid jti :: readClock n :: h

/-- The history of `issueTokens` from there up to the signed refresh token. -/
def refreshPast (config : AuthConfig) (user : User) (n : UInt64) (jti : String)
    (r : Except String String) (h : Past) : Past :=
  signed config.secret (refreshClaims config user n jti) r :: drewUuid jti :: readClock n :: h

/-- `store_refresh_token` as `issueTokens` sends it. -/
abbrev storeStmt (config : AuthConfig) (user : User) (jti : String) (n n' : UInt64) : Stmt :=
  .insertRefreshToken jti user.id (n.toInt64 + config.refreshTokenTtlSecs.toInt64) n'.toInt64

/-- The statements and signatures of a request, each after its exact history. -/
inductive Attempts (K : Crypto) (config : AuthConfig) : Request → Past → Effect → Prop where
  | nowSecs {req : Request} {h : Past} : Attempts K config req h .nowSecs
  | newV4 {req : Request} {h : Past} : Attempts K config req h .newV4
  | generateSalt {req : Request} {h : Past} : Attempts K config req h .generateSalt
  | insertUser {body : RegisterRequest} {salt hash id : String} {n : UInt64} :
      body.username ≠ "" → 8 ≤ body.password.utf8ByteSize →
      K.hashPassword salt body.password = .ok hash →
      Attempts K config (.register body) [readClock n, drewUuid id, drewSalt salt]
        (.sql (.insertUser id body.username hash n.toInt64))
  | selectByUsername {body : LoginRequest} :
      Attempts K config (.login body) [] (.sql (.selectUserByUsername body.username))
  | consume {body : RefreshRequest} {c : Claims} {n n' : UInt64} :
      verifyTokenAt K body.refreshToken config n = .ok c → c.kind = .refresh →
      Attempts K config (.refresh body) [readClock n', readClock n]
        (.sql (.deleteRefreshToken c.jti n'.toInt64))
  | selectById {body : RefreshRequest} {c : Claims} {n n' : UInt64} {rows : ℕ} :
      verifyTokenAt K body.refreshToken config n = .ok c → c.kind = .refresh → 0 < rows →
      Attempts K config (.refresh body)
        [sent (.deleteRefreshToken c.jti n'.toInt64) (.ok rows), readClock n', readClock n]
        (.sql (.selectUserById c.sub))
  | revoke {body : LogoutRequest} {c : Claims} {n : UInt64} :
      verifyTokenAt K body.refreshToken config n = .ok c → c.kind = .refresh →
      Attempts K config (.logout body) [readClock n] (.sql (.deleteRefreshTokensForUser c.sub))
  | signAccess {req : Request} {h : Past} {user : User} {n : UInt64} {jti : String} :
      Acts K config req h user →
      Attempts K config req (drewUuid jti :: readClock n :: h)
        (.encode config.secret (accessClaims config user n jti))
  | signRefresh {req : Request} {h : Past} {user : User} {n n' : UInt64} {jti jti' t : String} :
      Acts K config req h user →
      Attempts K config req
        (drewUuid jti' :: readClock n' :: accessPast config user n jti (.ok t) h)
        (.encode config.secret (refreshClaims config user n' jti'))
  | store {req : Request} {h : Past} {user : User} {n n' n₁ n₂ : UInt64}
      {jti jti' t t' : String} :
      Acts K config req h user →
      Attempts K config req (readClock n₂ :: readClock n₁ ::
          refreshPast config user n' jti' (.ok t') (accessPast config user n jti (.ok t) h))
        (.sql (storeStmt config user jti' n₁ n₂))

/-- The error that `create_user` makes of a failed insert. -/
def createUserError (username : String) (e : SqlxError) : ServirError :=
  if e.isUniqueViolation then .authUser (.alreadyExists username e.display)
  else .db (.userCreate username e.display)

/-- The exits of the `AuthUser` extractor. -/
inductive Extracts (K : Crypto) (config : AuthConfig) (authorization : Option HeaderValue) :
    Past → Except ServirError Claims → Prop where
  | missingHeader : bearerToken authorization = none →
      Extracts K config authorization [] (.error (.authToken .missingHeader))
  | rejected {token : String} {n : UInt64} {e : ServirError} :
      bearerToken authorization = some token → verifyTokenAt K token config n = .error e →
      Extracts K config authorization [readClock n] (.error e)
  | wrongKind {token : String} {n : UInt64} {c : Claims} :
      bearerToken authorization = some token → verifyTokenAt K token config n = .ok c →
      c.kind ≠ .access →
      Extracts K config authorization [readClock n] (.error (.authToken .wrongKind))
  | accepted {token : String} {n : UInt64} {c : Claims} :
      bearerToken authorization = some token → verifyTokenAt K token config n = .ok c →
      c.kind = .access → Extracts K config authorization [readClock n] (.ok c)

/-- The exits of a handler that answers with a token pair. -/
inductive Issues (K : Crypto) (config : AuthConfig) :
    Request → Past → Except ServirError TokenResponse → Prop where
  | emptyUsername {body : RegisterRequest} : body.username = "" →
      Issues K config (.register body) [] (.error (.authUser .emptyUsername))
  | weakPassword {body : RegisterRequest} : body.username ≠ "" →
      body.password.utf8ByteSize < 8 →
      Issues K config (.register body) [] (.error (.authUser .weakPassword))
  | hashFailed {body : RegisterRequest} {salt e : String} : body.username ≠ "" →
      8 ≤ body.password.utf8ByteSize → K.hashPassword salt body.password = .error e →
      Issues K config (.register body) [drewSalt salt]
        (.error (.authUser (.passwordHashFailed e)))
  | createFailed {body : RegisterRequest} {salt hash id : String} {n : UInt64} {e : SqlxError} :
      body.username ≠ "" → 8 ≤ body.password.utf8ByteSize →
      K.hashPassword salt body.password = .ok hash →
      Issues K config (.register body)
        [sent (.insertUser id body.username hash n.toInt64) (.error e), readClock n, drewUuid id,
          drewSalt salt] (.error (createUserError body.username e))
  | lookupFailed {body : LoginRequest} {e : SqlxError} :
      Issues K config (.login body) [sent (.selectUserByUsername body.username) (.error e)]
        (.error (.db (.userFindByUsername body.username e.display)))
  | unknownUser {body : LoginRequest} :
      Issues K config (.login body) [sent (.selectUserByUsername body.username) (.ok none)]
        (.error (.authUser (.invalidCredentials body.username)))
  | malformedHash {body : LoginRequest} {user : User} {e : ServirError} :
      verifyPassword K body.password user.passwordHash = .error e →
      Issues K config (.login body) [sent (.selectUserByUsername body.username) (.ok (some user))]
        (.error e)
  | wrongPassword {body : LoginRequest} {user : User} :
      verifyPassword K body.password user.passwordHash = .ok false →
      Issues K config (.login body) [sent (.selectUserByUsername body.username) (.ok (some user))]
        (.error (.authUser (.invalidCredentials body.username)))
  | rejected {body : RefreshRequest} {n : UInt64} {e : ServirError} :
      verifyTokenAt K body.refreshToken config n = .error e →
      Issues K config (.refresh body) [readClock n] (.error e)
  | wrongKind {body : RefreshRequest} {n : UInt64} {c : Claims} :
      verifyTokenAt K body.refreshToken config n = .ok c → c.kind ≠ .refresh →
      Issues K config (.refresh body) [readClock n] (.error (.authToken .wrongKind))
  | consumeFailed {body : RefreshRequest} {n n' : UInt64} {c : Claims} {e : SqlxError} :
      verifyTokenAt K body.refreshToken config n = .ok c → c.kind = .refresh →
      Issues K config (.refresh body)
        [sent (.deleteRefreshToken c.jti n'.toInt64) (.error e), readClock n', readClock n]
        (.error (.db (.consumeRefreshToken e.display)))
  | replayed {body : RefreshRequest} {n n' : UInt64} {c : Claims} :
      verifyTokenAt K body.refreshToken config n = .ok c → c.kind = .refresh →
      Issues K config (.refresh body)
        [sent (.deleteRefreshToken c.jti n'.toInt64) (.ok 0), readClock n', readClock n]
        (.error (.authToken .invalidRefreshToken))
  | findFailed {body : RefreshRequest} {n n' : UInt64} {c : Claims} {rows : ℕ} {e : SqlxError} :
      verifyTokenAt K body.refreshToken config n = .ok c → c.kind = .refresh → 0 < rows →
      Issues K config (.refresh body)
        [sent (.selectUserById c.sub) (.error e),
          sent (.deleteRefreshToken c.jti n'.toInt64) (.ok rows), readClock n', readClock n]
        (.error (.db (.userFindById c.sub e.display)))
  | userNotFound {body : RefreshRequest} {n n' : UInt64} {c : Claims} {rows : ℕ} :
      verifyTokenAt K body.refreshToken config n = .ok c → c.kind = .refresh → 0 < rows →
      Issues K config (.refresh body)
        [sent (.selectUserById c.sub) (.ok none),
          sent (.deleteRefreshToken c.jti n'.toInt64) (.ok rows), readClock n', readClock n]
        (.error (.authToken (.userNotFound c.sub)))
  | accessUnsigned {req : Request} {h : Past} {user : User} {n : UInt64} {jti e : String} :
      Acts K config req h user →
      Issues K config req (accessPast config user n jti (.error e) h)
        (.error (.authToken (.encodeFailed e)))
  | refreshUnsigned {req : Request} {h : Past} {user : User} {n n' : UInt64}
      {jti jti' t e : String} : Acts K config req h user →
      Issues K config req
        (refreshPast config user n' jti' (.error e) (accessPast config user n jti (.ok t) h))
        (.error (.authToken (.encodeFailed e)))
  | storeFailed {req : Request} {h : Past} {user : User} {n n' n₁ n₂ : UInt64}
      {jti jti' t t' : String} {e : SqlxError} : Acts K config req h user →
      Issues K config req (sent (storeStmt config user jti' n₁ n₂) (.error e) ::
          readClock n₂ :: readClock n₁ ::
          refreshPast config user n' jti' (.ok t') (accessPast config user n jti (.ok t) h))
        (.error (.db (.storeRefreshToken user.username e.display)))
  | issued {req : Request} {h : Past} {user : User} {n n' n₁ n₂ : UInt64}
      {jti jti' t t' : String} : Acts K config req h user →
      Issues K config req (sent (storeStmt config user jti' n₁ n₂) (.ok ()) ::
          readClock n₂ :: readClock n₁ ::
          refreshPast config user n' jti' (.ok t') (accessPast config user n jti (.ok t) h))
        (.ok ⟨t, t', "Bearer"⟩)

/-- The exits of `logout`. -/
inductive Revokes (K : Crypto) (config : AuthConfig) (body : LogoutRequest) :
    Past → Except ServirError Unit → Prop where
  | rejected {n : UInt64} {e : ServirError} :
      verifyTokenAt K body.refreshToken config n = .error e →
      Revokes K config body [readClock n] (.error e)
  | wrongKind {n : UInt64} {c : Claims} :
      verifyTokenAt K body.refreshToken config n = .ok c → c.kind ≠ .refresh →
      Revokes K config body [readClock n] (.error (.authToken .wrongKind))
  | revokeFailed {n : UInt64} {c : Claims} {e : SqlxError} :
      verifyTokenAt K body.refreshToken config n = .ok c → c.kind = .refresh →
      Revokes K config body
        [sent (.deleteRefreshTokensForUser c.sub) (.error e), readClock n]
        (.error (.db (.deleteRefreshTokensForUser c.sub e.display)))
  | revoked {n : UInt64} {c : Claims} {rows : ℕ} :
      verifyTokenAt K body.refreshToken config n = .ok c → c.kind = .refresh →
      Revokes K config body
        [sent (.deleteRefreshTokensForUser c.sub) (.ok rows), readClock n] (.ok ())

/-- What a request may answer after its whole history. -/
inductive Replies (K : Crypto) (api : Api) : Request → Past → Outcome → Prop where
  | tokens {req : Request} {h : Past} {r : Except ServirError TokenResponse} :
      Issues K api.routes req h r → Replies K api req h (.tokens r)
  | loggedOut {body : LogoutRequest} {h : Past} {r : Except ServirError Unit} :
      Revokes K api.routes body h r → Replies K api (.logout body) h (.loggedOut r)
  | identity {authorization : Option HeaderValue} {h : Past} {r : Except ServirError Claims} :
      Extracts K api.layer authorization h r →
      Replies K api (.me authorization) h (.identity (r.map me))
  | accepted {authorization : Option HeaderValue} {h : Past} {r : Except ServirError Claims} :
      Extracts K api.layer authorization h r →
      Replies K api (.guarded authorization) h (.accepted r)

section Replies
variable {K : Crypto} {api : Api} {h : Past} {o : Outcome}

theorem Replies.of_logout {body : LogoutRequest} (hrep : Replies K api (.logout body) h o) :
    ∃ r, o = .loggedOut r ∧ Revokes K api.routes body h r := by
  cases hrep with
  | tokens hissue =>
    cases hissue with
    | accessUnsigned hacts | refreshUnsigned hacts | storeFailed hacts | issued hacts => cases hacts
  | loggedOut hrevoke => exact ⟨_, rfl, hrevoke⟩

theorem Replies.of_me {authorization : Option HeaderValue}
    (hrep : Replies K api (.me authorization) h o) :
    ∃ r, o = .identity (r.map me) ∧ Extracts K api.layer authorization h r := by
  cases hrep with
  | tokens hissue =>
    cases hissue with
    | accessUnsigned hacts | refreshUnsigned hacts | storeFailed hacts | issued hacts => cases hacts
  | identity hextract => exact ⟨_, rfl, hextract⟩

theorem Replies.of_guarded {authorization : Option HeaderValue}
    (hrep : Replies K api (.guarded authorization) h o) :
    ∃ r, o = .accepted r ∧ Extracts K api.layer authorization h r := by
  cases hrep with
  | tokens hissue =>
    cases hissue with
    | accessUnsigned hacts | refreshUnsigned hacts | storeFailed hacts | issued hacts => cases hacts
  | accepted hextract => exact ⟨_, rfl, hextract⟩

end Replies

/-- The statements of a build. -/
inductive BuildAttempts : Past → Effect → Prop where
  | select : BuildAttempts [] (.sql .selectSigningSecret)
  | fillBytes {h : Past} : BuildAttempts h .fillBytes
  | insert {b : Vector UInt8 32} :
      BuildAttempts [drewBytes b, sent .selectSigningSecret (.ok none)]
        (.sql (.insertSigningSecret (hexEncode b)))

/-- The server that a build returns once it has the secret. -/
def ServerBuilder.api (b : ServerBuilder) (secret : String) : Api :=
  ⟨b.config.setSecret secret, b.config.setSecret secret⟩

/-- The exits of a build. -/
inductive Builds (b : ServerBuilder) : Past → Except ServirError Api → Prop where
  | selectFailed {e : SqlxError} :
      Builds b [sent .selectSigningSecret (.error e)]
        (.error (.db (.unknown "load_signing_secret" e.display)))
  | loaded {secret : String} :
      Builds b [sent .selectSigningSecret (.ok (some secret))] (.ok (b.api secret))
  | insertFailed {bytes : Vector UInt8 32} {e : SqlxError} :
      Builds b [sent (.insertSigningSecret (hexEncode bytes)) (.error e), drewBytes bytes,
          sent .selectSigningSecret (.ok none)]
        (.error (.db (.unknown "store_signing_secret" e.display)))
  | generated {bytes : Vector UInt8 32} :
      Builds b [sent (.insertSigningSecret (hexEncode bytes)) (.ok ()), drewBytes bytes,
          sent .selectSigningSecret (.ok none)] (.ok (b.api (hexEncode bytes)))

def protocol (K : Crypto) : Protocol signature Job Outcome where
  attempts
    | .build _ => BuildAttempts
    | .request _ api req => Attempts K api.routes req
  replies
    | .build b => fun h o => ∃ r, o = .built r ∧ Builds b h r
    | .request _ api req => Replies K api req

section Follows
variable {K : Crypto} {config : AuthConfig}

theorem meets_map {α β : Type} {G : Past → Effect → Prop} {Q : Past → β → Prop} {h : Past}
    (p : Program signature α) (f : α → β) :
    Meets G Q h (do return f (← p)) ↔ Meets G (fun h' a => Q h' (f a)) h p :=
  meets_bind p _ h

theorem issueTokens_meets {req : Request} {h : Past} {user : User}
    (hacts : Acts K config req h user) :
    Meets (Attempts K config req) (Issues K config req) h (issueTokens config user).run := by
  simp only [issueTokens, issueAccessToken, issueRefreshToken, storeRefreshToken,
    Fallible.meets_bind, meets_nowSecs, meets_newV4, meets_encode, meets_mapErr,
    Fallible.meets_pure]
  refine ⟨.nowSecs, fun n => ⟨.newV4, fun jti => ⟨.signAccess hacts, fun r => ?_⟩⟩⟩
  cases r with
  | error e => exact .accessUnsigned hacts
  | ok t =>
    refine ⟨.nowSecs, fun n' => ⟨.newV4, fun jti' => ⟨.signRefresh hacts, fun r' => ?_⟩⟩⟩
    cases r' with
    | error e => exact .refreshUnsigned hacts
    | ok t' =>
      refine ⟨.nowSecs, fun n₁ => ⟨.nowSecs, fun n₂ => ⟨.store hacts, fun r'' => ?_⟩⟩⟩
      cases r'' with
      | error e => exact .storeFailed hacts
      | ok _ => exact .issued hacts

theorem register_meets (body : RegisterRequest) :
    Meets (Attempts K config (.register body)) (Issues K config (.register body)) []
      (register K config body).run := by
  by_cases hname : body.username = ""
  · simp only [register, hname, if_true]
    exact Issues.emptyUsername hname
  by_cases hweak : body.password.utf8ByteSize < 8
  · simp only [register, hname, hweak, if_false, if_true]
    exact Issues.weakPassword hname hweak
  have hlong : 8 ≤ body.password.utf8ByteSize := Nat.le_of_not_lt hweak
  simp only [register, createUser, hname, hweak, if_false, Fallible.meets_bind,
    Fallible.meets_pure, meets_hashPassword, meets_newV4, meets_nowSecs, meets_mapErr]
  refine ⟨.generateSalt, fun salt => ?_⟩
  cases hhash : K.hashPassword salt body.password with
  | error e => exact .hashFailed hname hlong hhash
  | ok hash =>
    refine ⟨.newV4, fun id => ⟨.nowSecs, fun n => ⟨.insertUser hname hlong hhash, fun r => ?_⟩⟩⟩
    cases r with
    | error e => exact .createFailed hname hlong hhash
    | ok _ => exact issueTokens_meets (.register hname hlong hhash)

theorem login_meets (body : LoginRequest) :
    Meets (Attempts K config (.login body)) (Issues K config (.login body)) []
      (login K config body).run := by
  simp only [login, findUserByUsername, Fallible.meets_bind, meets_mapErr]
  refine ⟨.selectByUsername, fun r => ?_⟩
  rcases r with e | _ | user
  · exact Issues.lookupFailed
  · exact Issues.unknownUser
  · change Meets _ _ _ (ExceptT.run (mapErr (verifyPassword K body.password user.passwordHash) id
      >>= _))
    cases hverify : verifyPassword K body.password user.passwordHash with
    | error e => exact Issues.malformedHash hverify
    | ok valid =>
      cases valid with
      | false => exact Issues.wrongPassword hverify
      | true => exact issueTokens_meets (Acts.login hverify)

private theorem refreshConsumed_meets {body : RefreshRequest} {c : Claims} {n n' : UInt64}
    {rows : ℕ} (hverify : verifyTokenAt K body.refreshToken config n = .ok c)
    (hkind : c.kind = .refresh) (hrows : 0 < rows) :
    Meets (Attempts K config (.refresh body)) (Issues K config (.refresh body))
      [sent (.deleteRefreshToken c.jti n'.toInt64) (.ok rows), readClock n', readClock n]
      (do
        let some user ← findUserById c.sub | throw (.authToken (.userNotFound c.sub))
        issueTokens config user : Action TokenResponse).run := by
  simp only [findUserById, Fallible.meets_bind, meets_mapErr]
  refine ⟨.selectById hverify hkind hrows, fun r => ?_⟩
  rcases r with e | _ | user
  · exact Issues.findFailed hverify hkind hrows
  · exact Issues.userNotFound hverify hkind hrows
  · exact issueTokens_meets (Acts.refresh hverify hkind hrows)

theorem refresh_meets (body : RefreshRequest) :
    Meets (Attempts K config (.refresh body)) (Issues K config (.refresh body)) []
      (refresh K config body).run := by
  rw [refresh, Fallible.meets_bind, meets_verifyToken]
  refine ⟨.nowSecs, fun n => ?_⟩
  cases hverify : verifyTokenAt K body.refreshToken config n with
  | error e => exact Issues.rejected hverify
  | ok c =>
    by_cases hkind : c.kind = .refresh
    · simp only [hkind, ne_eq, not_true_eq_false, if_false, consumeRefreshToken,
        Fallible.meets_bind, meets_nowSecs, meets_mapErr]
      refine ⟨.nowSecs, fun n' => ⟨.consume hverify hkind, fun r => ?_⟩⟩
      rcases r with e | _ | rows
      · exact Issues.consumeFailed hverify hkind
      · exact Issues.replayed hverify hkind
      · exact refreshConsumed_meets hverify hkind (Nat.succ_pos rows)
    · simp only [ne_eq, hkind, not_false_eq_true, if_true]
      exact Issues.wrongKind hverify hkind

theorem logout_meets (body : LogoutRequest) :
    Meets (Attempts K config (.logout body)) (Revokes K config body) []
      (logout K config body).run := by
  rw [logout, Fallible.meets_bind, meets_verifyToken]
  refine ⟨.nowSecs, fun n => ?_⟩
  cases hverify : verifyTokenAt K body.refreshToken config n with
  | error e => exact Revokes.rejected hverify
  | ok c =>
    by_cases hkind : c.kind = .refresh
    · simp only [hkind, ne_eq, not_true_eq_false, if_false, deleteRefreshTokensForUser,
        Fallible.meets_bind, meets_mapErr]
      refine ⟨.revoke hverify hkind, fun r => ?_⟩
      rcases r with e | rows
      · exact Revokes.revokeFailed hverify hkind
      · exact Revokes.revoked hverify hkind
    · simp only [ne_eq, hkind, not_false_eq_true, if_true]
      exact Revokes.wrongKind hverify hkind

theorem fromRequestParts_meets (req : Request) (authorization : Option HeaderValue)
    {layer : AuthConfig} : Meets (Attempts K config req) (Extracts K layer authorization) []
      (AuthUser.fromRequestParts K (some layer) authorization).run := by
  cases htoken : bearerToken authorization with
  | none =>
    simp only [AuthUser.fromRequestParts, htoken]
    exact Extracts.missingHeader htoken
  | some token =>
    simp only [AuthUser.fromRequestParts, htoken, Fallible.meets_bind, meets_verifyToken]
    refine ⟨.nowSecs, fun n => ?_⟩
    cases hverify : verifyTokenAt K token layer n with
    | error e => exact Extracts.rejected htoken hverify
    | ok c =>
      by_cases hkind : c.kind = .access
      · simp only [hkind, ne_eq, not_true_eq_false, if_false]
        exact Extracts.accepted htoken hverify hkind
      · simp only [ne_eq, hkind, not_false_eq_true, if_true]
        exact Extracts.wrongKind htoken hverify hkind

theorem handle_meets (api : Api) (req : Request) :
    Meets (Attempts K api.routes req) (Replies K api req) [] (handle K api req) := by
  cases req with
  | register body =>
    exact (meets_map _ _).2 ((register_meets body).mono (fun _ _ => id) (fun _ _ => .tokens))
  | login body =>
    exact (meets_map _ _).2 ((login_meets body).mono (fun _ _ => id) (fun _ _ => .tokens))
  | refresh body =>
    exact (meets_map _ _).2 ((refresh_meets body).mono (fun _ _ => id) (fun _ _ => .tokens))
  | logout body =>
    exact (meets_map _ _).2 ((logout_meets body).mono (fun _ _ => id) (fun _ _ => .loggedOut))
  | me authorization =>
    exact (meets_map _ _).2 ((fromRequestParts_meets _ authorization).mono
      (fun _ _ => id) (fun _ _ => .identity))
  | guarded authorization =>
    exact (meets_map _ _).2 ((fromRequestParts_meets _ authorization).mono
      (fun _ _ => id) (fun _ _ => .accepted))

theorem build_meets (b : ServerBuilder) :
    Meets BuildAttempts (Builds b) [] b.build.run := by
  simp only [ServerBuilder.build, loadOrGenerateSecret, Fallible.meets_bind, meets_mapErr]
  refine ⟨.select, fun r => ?_⟩
  rcases r with e | _ | secret
  · exact Builds.selectFailed
  · refine And.intro .fillBytes (fun bytes => And.intro .insert (fun r => ?_))
    rcases r with e | _
    · exact Builds.insertFailed
    · exact Builds.generated
  · exact Builds.loaded

theorem service_follows (K : Crypto) : (service K).Follows (protocol K) := by
  intro job
  cases job with
  | build b =>
    exact (meets_map _ _).2 ((build_meets b).mono (fun _ _ => id) (fun _ r hr => ⟨r, rfl, hr⟩))
  | request server api req => exact handle_meets api req

end Follows
end Servir
