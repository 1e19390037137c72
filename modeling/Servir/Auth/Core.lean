import Servir.Effects

/-!
# Passwords and tokens

Hashing and checking passwords, issuing and verifying tokens. Each function
comes with the rule that steps over it in a history.
-/

namespace Servir
open Interleaving Program

variable (K : Crypto)

def hashPassword (plaintext : String) : Action String := do
  let salt ← generateSalt
  mapErr (K.hashPassword salt plaintext) (fun e => .authUser (.passwordHashFailed e))

/-- Whether `plaintext` matches, or an error if the stored hash is malformed. -/
def verifyPassword (plaintext hash : String) : Except ServirError Bool :=
  match K.parseHash hash with
  | .ok () => .ok (K.verifyPassword plaintext hash)
  | .error e => .error (.authUser (.passwordHashFailed e))

def issueAccessToken (userId username : String) (config : AuthConfig) : Action String := do
  let now ← nowSecs
  let jti ← newV4
  let claims : Claims :=
    { sub := userId, username := username, exp := now + config.accessTokenTtlSecs,
      iat := now, jti := jti, kind := .access }
  mapErr (← encode config.secret claims) (fun e => .authToken (.encodeFailed e))

/-- The token and its `jti`, which the caller must persist. -/
def issueRefreshToken (userId username : String) (config : AuthConfig) :
    Action (String × String) := do
  let now ← nowSecs
  let jti ← newV4
  let claims : Claims :=
    { sub := userId, username := username, exp := now + config.refreshTokenTtlSecs,
      iat := now, jti := jti, kind := .refresh }
  let token ← mapErr (← encode config.secret claims) (fun e => .authToken (.encodeFailed e))
  return (token, jti)

/-- What `verify_token` answers when the library reads the clock as `now`. -/
def verifyTokenAt (token : String) (config : AuthConfig) (now : UInt64) :
    Except ServirError Claims :=
  match K.decode config.secret token now with
  | .ok claims => .ok claims
  | .error .expiredSignature => .error (.authToken .expired)
  | .error (.other e) => .error (.authToken (.invalid e))

/-- Verifies signature and expiry, not `kind`. -/
def verifyToken (token : String) (config : AuthConfig) : Action Claims := do
  let now ← nowSecs
  mapErr (verifyTokenAt K token config now) id

theorem verifyTokenAt_ok {K : Crypto} {token : String} {config : AuthConfig} {now : UInt64}
    {claims : Claims} : verifyTokenAt K token config now = .ok claims ↔
      K.openToken config.secret token = .ok claims ∧ now.toNat ≤ claims.exp.toNat + leeway := by
  unfold verifyTokenAt Crypto.decode
  cases K.openToken config.secret token with
  | error e => simp
  | ok c =>
    by_cases hexp : c.exp.toNat + leeway < now.toNat
    · simp only [hexp, if_true, reduceCtorEq, Except.ok.injEq, false_iff, not_and]
      rintro rfl
      omega
    · simp only [hexp, if_false, Except.ok.injEq]
      constructor
      · rintro rfl
        exact ⟨rfl, by omega⟩
      · exact fun h => h.1

theorem verifyTokenAt_expired {K : Crypto} {token : String} {config : AuthConfig} {now : UInt64}
    {claims : Claims} (hopen : K.openToken config.secret token = .ok claims)
    (hexp : claims.exp.toNat + leeway < now.toNat) :
    verifyTokenAt K token config now = .error (.authToken .expired) := by
  simp [verifyTokenAt, Crypto.decode, hopen, hexp]

theorem verifyTokenAt_error {K : Crypto} {token : String} {config : AuthConfig} {now : UInt64}
    {e : ServirError} (h : verifyTokenAt K token config now = .error e) :
    e = .authToken .expired ∨ ∃ display, e = .authToken (.invalid display) := by
  unfold verifyTokenAt at h
  split at h
  · cases h
  · exact .inl (Except.error.inj h).symm
  · exact .inr ⟨_, (Except.error.inj h).symm⟩

theorem verifyPassword_error {K : Crypto} {plaintext hash : String} {e : ServirError}
    (h : verifyPassword K plaintext hash = .error e) :
    ∃ display, e = .authUser (.passwordHashFailed display) := by
  unfold verifyPassword at h
  split at h
  · cases h
  · exact ⟨_, (Except.error.inj h).symm⟩

section Meets
variable {K} {G : History signature → Effect → Prop} {h : History signature}

@[simp] theorem meets_hashPassword (plaintext : String)
    {Q : History signature → Except ServirError String → Prop} :
    Meets G Q h (hashPassword K plaintext).run ↔ G h .generateSalt ∧ ∀ salt,
      Q (⟨.generateSalt, salt⟩ :: h) (match K.hashPassword salt plaintext with
        | .ok hash => .ok hash
        | .error e => .error (.authUser (.passwordHashFailed e))) := by
  simp only [hashPassword, Fallible.meets_bind, meets_generateSalt, meets_mapErr]
  refine and_congr_right (fun _ => forall_congr' (fun salt => ?_))
  cases K.hashPassword salt plaintext <;> rfl

@[simp] theorem meets_verifyToken (token : String) (config : AuthConfig)
    {Q : History signature → Except ServirError Claims → Prop} :
    Meets G Q h (verifyToken K token config).run ↔ G h .nowSecs ∧ ∀ now,
      Q (⟨.nowSecs, now⟩ :: h) (verifyTokenAt K token config now) := by
  simp only [verifyToken, Fallible.meets_bind, meets_nowSecs, meets_mapErr]
  refine and_congr_right (fun _ => forall_congr' (fun now => ?_))
  cases verifyTokenAt K token config now <;> rfl

end Meets

end Servir
