import Servir.Effects
import Servir.Auth.Types

/-!
# The auth repository

The SQLite implementation of `AuthRepository`, one action for each method.
-/

namespace Servir

def createUser (username passwordHash : String) : Action User := do
  let id ← newV4
  let now ← nowSecs
  mapErr (← query (.insertUser id username passwordHash now.toInt64)) (fun e =>
    if e.isUniqueViolation then .authUser (.alreadyExists username e.display)
    else .db (.userCreate username e.display))
  return { id := id, username := username, passwordHash := passwordHash }

def findUserByUsername (username : String) : Action (Option User) := do
  mapErr (← query (.selectUserByUsername username)) (fun e =>
    .db (.userFindByUsername username e.display))

def findUserById (userId : String) : Action (Option User) := do
  mapErr (← query (.selectUserById userId)) (fun e => .db (.userFindById userId e.display))

/-- `expires_at` is computed in `i64` from the two casts. -/
def storeRefreshToken (jti userId username : String) (ttlSecs : UInt64) : Action Unit := do
  let now ← nowSecs
  let expiresAt := now.toInt64 + ttlSecs.toInt64
  let createdAt ← nowSecs
  mapErr (← query (.insertRefreshToken jti userId expiresAt createdAt.toInt64)) (fun e =>
    .db (.storeRefreshToken username e.display))

/-- `true` if the row existed and was not expired. -/
def consumeRefreshToken (jti : String) : Action Bool := do
  let now ← nowSecs
  let rows ← mapErr (← query (.deleteRefreshToken jti now.toInt64)) (fun e =>
    .db (.consumeRefreshToken e.display))
  return decide (rows > 0)

def deleteRefreshTokensForUser (userId : String) : Action Unit := do
  let _ ← mapErr (← query (.deleteRefreshTokensForUser userId)) (fun e =>
    .db (.deleteRefreshTokensForUser userId e.display))

/-- `hex::encode` -/
def hexEncode (bytes : Vector UInt8 32) : String :=
  String.ofList (bytes.toList.flatMap (fun b =>
    [Nat.digitChar (b.toNat / 16), Nat.digitChar (b.toNat % 16)]))

def loadOrGenerateSecret : Action String := do
  let existing ← mapErr (← query .selectSigningSecret) (fun e =>
    .db (.unknown "load_signing_secret" e.display))
  match existing with
  | some secret => return secret
  | none =>
    let bytes ← fillBytes
    let secret := hexEncode bytes
    mapErr (← query (.insertSigningSecret secret)) (fun e =>
      .db (.unknown "store_signing_secret" e.display))
    return secret

end Servir
