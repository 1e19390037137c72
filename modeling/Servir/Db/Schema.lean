import Servir.Store.Table

/-!
# The auth schema and its SQL statements

The three tables of the migrations under their UNIQUE, PRIMARY KEY and FOREIGN
KEY constraints, and every statement that the repository sends. A statement
either runs as a whole or fails and changes nothing.
-/

namespace Servir
open Store

@[ext] structure UserRow where
  id : String
  username : String
  passwordHash : String
  createdAt : Int64
deriving DecidableEq

@[ext] structure RefreshTokenRow where
  jti : String
  userId : String
  expiresAt : Int64
  createdAt : Int64
deriving DecidableEq

@[ext] structure ConfigRow where
  key : String
  value : String
deriving DecidableEq

inductive UserColumn where
  | id
  | username

def UserRow.column : UserColumn → UserRow → String
  | .id, r => r.id
  | .username, r => r.username

def RefreshTokenRow.column : Unit → RefreshTokenRow → String := fun _ r => r.jti

def ConfigRow.column : Unit → ConfigRow → String := fun _ r => r.key

@[simp] theorem UserRow.column_id (r : UserRow) : UserRow.column .id r = r.id := rfl
@[simp] theorem UserRow.column_username (r : UserRow) :
    UserRow.column .username r = r.username := rfl
@[simp] theorem RefreshTokenRow.column_jti (c : Unit) (r : RefreshTokenRow) :
    RefreshTokenRow.column c r = r.jti := rfl
@[simp] theorem ConfigRow.column_key (c : Unit) (r : ConfigRow) :
    ConfigRow.column c r = r.key := rfl

/-- The auth database. Every refresh token row references an existing user. -/
@[ext] structure Db where
  users : Table UserRow UserColumn UserRow.column
  refreshTokens : Table RefreshTokenRow Unit RefreshTokenRow.column
  authConfig : Table ConfigRow Unit ConfigRow.column
  references : ∀ r ∈ refreshTokens, ∃ u ∈ users, u.id = r.userId

/-- The database just after the migrations. -/
def Db.migrated : Db := ⟨.empty, .empty, .empty, fun r hr => absurd hr (Table.not_mem_empty r)⟩

/-- The columns of `users` that a query returns. -/
structure User where
  id : String
  username : String
  passwordHash : String
deriving DecidableEq

def UserRow.toUser (r : UserRow) : User := ⟨r.id, r.username, r.passwordHash⟩

inductive SqlxError where
  /-- A UNIQUE or PRIMARY KEY constraint failed, with the SQLite result code. -/
  | uniqueViolation (code : ℕ) (column : String)
  | foreignKeyViolation
  /-- Anything else that a statement may fail with. -/
  | fault (display : String)
deriving DecidableEq

def SqlxError.isUniqueViolation : SqlxError → Bool
  | .uniqueViolation .. => true
  | _ => false

def SqlxError.display : SqlxError → String
  | .uniqueViolation code column => "error returned from database: (code: " ++ toString code ++
      ") UNIQUE constraint failed: " ++ column
  | .foreignKeyViolation =>
      "error returned from database: (code: 787) FOREIGN KEY constraint failed"
  | .fault display => display

inductive Stmt where
  | insertUser (id username passwordHash : String) (createdAt : Int64)
  | selectUserByUsername (username : String)
  | selectUserById (id : String)
  | insertRefreshToken (jti userId : String) (expiresAt createdAt : Int64)
  /-- `DELETE FROM refresh_tokens WHERE jti = ? AND expires_at > ?` -/
  | deleteRefreshToken (jti : String) (now : Int64)
  | deleteRefreshTokensForUser (userId : String)
  | selectSigningSecret
  | insertSigningSecret (value : String)
deriving DecidableEq

/-- Rows, or the number of rows affected. -/
@[reducible] def Stmt.Answer : Stmt → Type
  | .insertUser .. => Unit
  | .selectUserByUsername _ => Option User
  | .selectUserById _ => Option User
  | .insertRefreshToken .. => Unit
  | .deleteRefreshToken .. => ℕ
  | .deleteRefreshTokensForUser _ => ℕ
  | .selectSigningSecret => Option String
  | .insertSigningSecret _ => Unit

instance : (q : Stmt) → DecidableEq q.Answer
  | .insertUser .. => inferInstanceAs (DecidableEq Unit)
  | .selectUserByUsername _ => inferInstanceAs (DecidableEq (Option User))
  | .selectUserById _ => inferInstanceAs (DecidableEq (Option User))
  | .insertRefreshToken .. => inferInstanceAs (DecidableEq Unit)
  | .deleteRefreshToken .. => inferInstanceAs (DecidableEq ℕ)
  | .deleteRefreshTokensForUser _ => inferInstanceAs (DecidableEq ℕ)
  | .selectSigningSecret => inferInstanceAs (DecidableEq (Option String))
  | .insertSigningSecret _ => inferInstanceAs (DecidableEq Unit)

def signingSecretKey : String := "signing_secret"

namespace Db

def insertUser (db : Db) (r : UserRow) : Except SqlxError Unit × Db :=
  if hid : db.users.taken .id r.id then (.error (.uniqueViolation 1555 "users.id"), db)
  else if hname : db.users.taken .username r.username then
    (.error (.uniqueViolation 2067 "users.username"), db)
  else (.ok (), { db with
    users := db.users.insert r (fun c => match c with | .id => hid | .username => hname)
    references := fun t ht => by
      obtain ⟨u, hu, hid⟩ := db.references t ht
      exact ⟨u, (Table.mem_insert _).2 (.inr hu), hid⟩ })

def insertRefreshToken (db : Db) (r : RefreshTokenRow) : Except SqlxError Unit × Db :=
  if hjti : db.refreshTokens.taken () r.jti then
    (.error (.uniqueViolation 1555 "refresh_tokens.jti"), db)
  else if huser : db.users.taken .id r.userId then
    (.ok (), { db with
      refreshTokens := db.refreshTokens.insert r (fun _ => hjti)
      references := fun t ht => by
        rcases (Table.mem_insert _).1 ht with rfl | ht
        · exact huser
        · exact db.references t ht })
  else (.error .foreignKeyViolation, db)

/-- The matching rows of `refresh_tokens` are removed and counted. -/
def deleteRefreshTokens (db : Db) (p : RefreshTokenRow → Bool) : ℕ × Db :=
  (db.refreshTokens.count p, { db with
    refreshTokens := db.refreshTokens.delete p
    references := fun t ht => db.references t (Table.mem_delete.1 ht).1 })

def insertConfig (db : Db) (r : ConfigRow) : Except SqlxError Unit × Db :=
  if hkey : db.authConfig.taken () r.key then
    (.error (.uniqueViolation 1555 "auth_config.key"), db)
  else (.ok (), { db with authConfig := db.authConfig.insert r (fun _ => hkey) })

end Db

/-- A statement that meets no fault. -/
def Stmt.exec (db : Db) : (q : Stmt) → Except SqlxError q.Answer × Db
  | .insertUser id username passwordHash createdAt =>
    db.insertUser ⟨id, username, passwordHash, createdAt⟩
  | .selectUserByUsername username =>
    (.ok ((db.users.find .username username).map UserRow.toUser), db)
  | .selectUserById id => (.ok ((db.users.find .id id).map UserRow.toUser), db)
  | .insertRefreshToken jti userId expiresAt createdAt =>
    db.insertRefreshToken ⟨jti, userId, expiresAt, createdAt⟩
  | .deleteRefreshToken jti now =>
    let r := db.deleteRefreshTokens (fun row => row.jti == jti && decide (now < row.expiresAt))
    (.ok r.1, r.2)
  | .deleteRefreshTokensForUser userId =>
    let r := db.deleteRefreshTokens (fun row => row.userId == userId)
    (.ok r.1, r.2)
  | .selectSigningSecret =>
    (.ok ((db.authConfig.find () signingSecretKey).map ConfigRow.value), db)
  | .insertSigningSecret value => db.insertConfig ⟨signingSecretKey, value⟩

end Servir
