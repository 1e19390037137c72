import Servir.Db.Schema

/-!
# The rows that a statement reads

A statement answers from the rows that it reads and from nothing else. Two
databases that agree on these rows give the same answer.
-/

namespace Servir
open Store

namespace Stmt

def readsUser : Stmt → UserRow → Prop
  | .insertUser id username _ _ => fun r => r.id = id ∨ r.username = username
  | .selectUserByUsername username => fun r => r.username = username
  | .selectUserById id => fun r => r.id = id
  | .insertRefreshToken _ userId _ _ => fun r => r.id = userId
  | _ => fun _ => False

def readsToken : Stmt → RefreshTokenRow → Prop
  | .insertRefreshToken jti _ _ _ => fun r => r.jti = jti
  | .deleteRefreshToken jti now => fun r => r.jti = jti ∧ now < r.expiresAt
  | .deleteRefreshTokensForUser userId => fun r => r.userId = userId
  | _ => fun _ => False

def readsConfig : Stmt → ConfigRow → Prop
  | .selectSigningSecret | .insertSigningSecret _ => fun r => r.key = signingSecretKey
  | _ => fun _ => False

/-- The databases agree on the rows that the statement reads. -/
structure Agree (q : Stmt) (db db' : Db) : Prop where
  users : ∀ r, q.readsUser r → (r ∈ db.users ↔ r ∈ db'.users)
  tokens : ∀ r, q.readsToken r → (r ∈ db.refreshTokens ↔ r ∈ db'.refreshTokens)
  config : ∀ r, q.readsConfig r → (r ∈ db.authConfig ↔ r ∈ db'.authConfig)

/-- The answer depends on the rows that the statement reads. -/
theorem exec_congr {q : Stmt} {db db' : Db} (h : q.Agree db db') :
    (q.exec db).1 = (q.exec db').1 := by
  cases q with
  | insertUser id username hash created =>
    have hid : db.users.taken .id id ↔ db'.users.taken .id id :=
      Table.taken_congr (fun r hr => h.users r (.inl hr))
    have hname : db.users.taken .username username ↔ db'.users.taken .username username :=
      Table.taken_congr (fun r hr => h.users r (.inr hr))
    simp only [exec, Db.insertUser]
    split_ifs <;> simp_all
  | selectUserByUsername username =>
    have hfind : db.users.find .username username = db'.users.find .username username :=
      Table.find_congr (fun r hr => h.users r hr)
    simp only [exec, hfind]
  | selectUserById id =>
    have hfind : db.users.find .id id = db'.users.find .id id :=
      Table.find_congr (fun r hr => h.users r hr)
    simp only [exec, hfind]
  | insertRefreshToken jti userId expires created =>
    have hjti : db.refreshTokens.taken () jti ↔ db'.refreshTokens.taken () jti :=
      Table.taken_congr (fun r hr => h.tokens r hr)
    have huser : db.users.taken .id userId ↔ db'.users.taken .id userId :=
      Table.taken_congr (fun r hr => h.users r hr)
    simp only [exec, Db.insertRefreshToken]
    split_ifs <;> simp_all
  | deleteRefreshToken jti now =>
    have hcount : db.refreshTokens.count (fun r => r.jti == jti && decide (now < r.expiresAt)) =
        db'.refreshTokens.count (fun r => r.jti == jti && decide (now < r.expiresAt)) := by
      refine Table.count_congr () (fun r hr => h.tokens r ?_)
      simpa [readsToken] using hr
    simp only [exec, Db.deleteRefreshTokens, hcount]
  | deleteRefreshTokensForUser userId =>
    have hcount : db.refreshTokens.count (fun r => r.userId == userId) =
        db'.refreshTokens.count (fun r => r.userId == userId) := by
      refine Table.count_congr () (fun r hr => h.tokens r ?_)
      simpa [readsToken] using hr
    simp only [exec, Db.deleteRefreshTokens, hcount]
  | selectSigningSecret =>
    have hfind : db.authConfig.find () signingSecretKey = db'.authConfig.find () signingSecretKey :=
      Table.find_congr (fun r hr => h.config r hr)
    simp only [exec, hfind]
  | insertSigningSecret value =>
    have hkey : db.authConfig.taken () signingSecretKey ↔ db'.authConfig.taken () signingSecretKey :=
      Table.taken_congr (fun r hr => h.config r hr)
    simp only [exec, Db.insertConfig]
    split_ifs <;> simp_all

end Stmt
end Servir
