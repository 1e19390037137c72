import Mathlib.Tactic

/-!
# Claims, configuration and cryptography

The JWT payload, the auth configuration of one server, and the cryptographic
libraries as parameters. Of `jsonwebtoken` only the signature and the payload
are a parameter: the expiry check of `Validation::default()` is spelled out.
-/

namespace Servir

inductive TokenKind where
  | access
  | refresh
deriving DecidableEq

/-- JWT payload of access and refresh tokens. A `usize` has 64 bits. -/
structure Claims where
  sub : String
  username : String
  exp : UInt64
  iat : UInt64
  jti : String
  kind : TokenKind
deriving DecidableEq

structure AuthConfig where
  secret : String
  accessTokenTtlSecs : UInt64
  refreshTokenTtlSecs : UInt64
deriving DecidableEq

namespace AuthConfig

def withDefaults : AuthConfig := ⟨"", 900, 604800⟩

def setAccessTokenTtl (c : AuthConfig) (secs : UInt64) : AuthConfig :=
  { c with accessTokenTtlSecs := secs }

def setRefreshTokenTtl (c : AuthConfig) (secs : UInt64) : AuthConfig :=
  { c with refreshTokenTtlSecs := secs }

def setSecret (c : AuthConfig) (secret : String) : AuthConfig := { c with secret := secret }

end AuthConfig

/-- The libraries that the server calls: `argon2` and `jsonwebtoken`. -/
structure Crypto where
  /-- `Argon2::default().hash_password`, the PHC string for a salt and a password. -/
  hashPassword : String → String → Except String String
  /-- `PasswordHash::new`. -/
  parseHash : String → Except String Unit
  /-- `Argon2::default().verify_password` of a password against a parsed hash. -/
  verifyPassword : String → String → Bool
  /-- `jsonwebtoken::encode` under the default header. -/
  encode : String → Claims → Except String String
  /-- The part of `jsonwebtoken::decode` before validation: signature and payload. -/
  openToken : String → String → Except String Claims

inductive JwtError where
  | expiredSignature
  | other (display : String)
deriving DecidableEq

/-- `Validation::default()` accepts an expired token for this many seconds more. -/
def leeway : ℕ := 60

/-- `jsonwebtoken::decode` under `Validation::default()` at the clock reading `now`. -/
def Crypto.decode (K : Crypto) (secret token : String) (now : UInt64) : Except JwtError Claims :=
  match K.openToken secret token with
  | .error e => .error (.other e)
  | .ok claims =>
    if claims.exp.toNat + leeway < now.toNat then .error .expiredSignature else .ok claims

/-- What the documentation of `argon2` promises. -/
structure Crypto.HashSound (K : Crypto) : Prop where
  parse_hash : ∀ {salt password hash}, K.hashPassword salt password = .ok hash →
    K.parseHash hash = .ok ()
  verify_hash : ∀ {salt password hash} (p : String), K.hashPassword salt password = .ok hash →
    (K.verifyPassword p hash = true ↔ p = password)

/-- What the documentation of `jsonwebtoken` promises: decoding undoes encoding. -/
structure Crypto.TokenSound (K : Crypto) : Prop where
  encode_ok : ∀ secret claims, ∃ token, K.encode secret claims = .ok token
  open_encode : ∀ {secret claims token}, K.encode secret claims = .ok token →
    K.openToken secret token = .ok claims

end Servir
