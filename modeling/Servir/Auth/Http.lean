import Servir.Auth.Core
import Servir.Db.Auth

/-!
# The auth routes

The `AuthUser` extractor and the five handlers, on bodies that `AppJson` has
already parsed.
-/

namespace Servir

/-- The bytes of a header value. -/
abbrev HeaderValue := List UInt8

/-- `HeaderValue::to_str`: only visible ASCII and tabs. -/
def HeaderValue.toStr (v : HeaderValue) : Option String :=
  if v.all (fun b => (32 ≤ b && b < 127) || b == 9) then
    some (String.ofList (v.map (fun b => Char.ofNat b.toNat)))
  else none

/-- `str::strip_prefix` -/
def stripPrefix (pre s : String) : Option String :=
  (s.toList.dropPrefix? pre.toList).map String.ofList

/-- The token of an `Authorization` header. -/
def bearerToken (authorization : Option HeaderValue) : Option String :=
  (authorization.bind HeaderValue.toStr).bind (stripPrefix "Bearer ")

variable (K : Crypto)

/-- `AuthUser::from_request_parts`. The extension is the configuration that `AuthLayer` inserts. -/
def AuthUser.fromRequestParts (extension : Option AuthConfig)
    (authorization : Option HeaderValue) : Action Claims := do
  let some config := extension | throw (.authToken .missingLayer)
  let some token := bearerToken authorization | throw (.authToken .missingHeader)
  let claims ← verifyToken K token config
  if claims.kind ≠ .access then throw (.authToken .wrongKind)
  return claims

structure RegisterRequest where
  username : String
  password : String
deriving DecidableEq

structure LoginRequest where
  username : String
  password : String
deriving DecidableEq

structure RefreshRequest where
  refreshToken : String
deriving DecidableEq

structure LogoutRequest where
  refreshToken : String
deriving DecidableEq

structure TokenResponse where
  accessToken : String
  refreshToken : String
  tokenType : String
deriving DecidableEq

structure MeResponse where
  userId : String
  username : String
deriving DecidableEq

/-- The end of `register`, `login` and `refresh`: both tokens are signed and the refresh
token is stored. -/
def issueTokens (config : AuthConfig) (user : User) : Action TokenResponse := do
  let accessToken ← issueAccessToken user.id user.username config
  let (refreshToken, jti) ← issueRefreshToken user.id user.username config
  storeRefreshToken jti user.id user.username config.refreshTokenTtlSecs
  return { accessToken := accessToken, refreshToken := refreshToken, tokenType := "Bearer" }

/-- The password check counts bytes, as `str::len` does. -/
def register (config : AuthConfig) (body : RegisterRequest) : Action TokenResponse := do
  if body.username = "" then throw (.authUser .emptyUsername)
  if body.password.utf8ByteSize < 8 then throw (.authUser .weakPassword)
  let hash ← hashPassword K body.password
  let user ← createUser body.username hash
  issueTokens config user

def login (config : AuthConfig) (body : LoginRequest) : Action TokenResponse := do
  let some user ← findUserByUsername body.username
    | throw (.authUser (.invalidCredentials body.username))
  let valid ← mapErr (verifyPassword K body.password user.passwordHash) id
  if !valid then throw (.authUser (.invalidCredentials body.username))
  issueTokens config user

def refresh (config : AuthConfig) (body : RefreshRequest) : Action TokenResponse := do
  let claims ← verifyToken K body.refreshToken config
  if claims.kind ≠ .refresh then throw (.authToken .wrongKind)
  let valid ← consumeRefreshToken claims.jti
  if !valid then throw (.authToken .invalidRefreshToken)
  let some user ← findUserById claims.sub
    | throw (.authToken (.userNotFound claims.sub))
  issueTokens config user

def logout (config : AuthConfig) (body : LogoutRequest) : Action Unit := do
  let claims ← verifyToken K body.refreshToken config
  if claims.kind ≠ .refresh then throw (.authToken .wrongKind)
  deleteRefreshTokensForUser claims.sub

/-- The identity that `GET /auth/me` reads off the extracted claims. -/
def me (claims : Claims) : MeResponse := ⟨claims.sub, claims.username⟩

end Servir
