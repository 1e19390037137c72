import Servir.Http.Response
import Servir.Interleaving.Progress

/-!
# The consumer application

The consumer keeps a profile for each user of the auth server, in a database of
its own. `find_or_create_profile` looks a profile up and inserts it on first
access, in two statements. `GET /user` calls it with the claims that the
`AuthUser` extractor accepted. A clock before the epoch panics, which is a task
dropped at that point.
-/

namespace Servir.Consumer
open Interleaving Program Store

/-- A row of `user_profiles`, and what a call returns of it. -/
@[ext] structure UserProfile where
  id : String
  username : String
  createdAt : Int64
deriving DecidableEq

def UserProfile.column : Unit → UserProfile → String := fun _ p => p.id

@[simp] theorem UserProfile.column_id (c : Unit) (p : UserProfile) :
    UserProfile.column c p = p.id := rfl

structure Db where
  userProfiles : Table UserProfile Unit UserProfile.column

/-- The database just after the migrations. -/
def Db.migrated : Db := ⟨.empty⟩

inductive Stmt where
  /-- `SELECT id, username, created_at FROM user_profiles WHERE id = ?` -/
  | selectProfile (userId : String)
  | insertProfile (userId username : String) (createdAt : Int64)
deriving DecidableEq

@[reducible] def Stmt.Answer : Stmt → Type
  | .selectProfile _ => Option UserProfile
  | .insertProfile .. => Unit

instance : (q : Stmt) → DecidableEq q.Answer
  | .selectProfile _ => inferInstanceAs (DecidableEq (Option UserProfile))
  | .insertProfile .. => inferInstanceAs (DecidableEq Unit)

def Db.insertProfile (db : Db) (p : UserProfile) : Except SqlxError Unit × Db :=
  if hid : db.userProfiles.taken () p.id then
    (.error (.uniqueViolation 1555 "user_profiles.id"), db)
  else (.ok (), ⟨db.userProfiles.insert p (fun _ => hid)⟩)

/-- A statement that meets no fault. -/
def Stmt.exec (db : Db) : (q : Stmt) → Except SqlxError q.Answer × Db
  | .selectProfile userId => (.ok (db.userProfiles.find () userId), db)
  | .insertProfile userId username createdAt => db.insertProfile ⟨userId, username, createdAt⟩

inductive Effect where
  | nowSecs
  | sql (q : Stmt)
deriving DecidableEq

@[reducible] def Effect.Answer : Effect → Type
  | .nowSecs => UInt64
  | .sql q => Except SqlxError q.Answer

instance : (e : Effect) → DecidableEq e.Answer
  | .nowSecs => inferInstanceAs (DecidableEq UInt64)
  | .sql q => inferInstanceAs (DecidableEq (Except SqlxError q.Answer))

@[reducible] def signature : Signature := ⟨Effect, Effect.Answer⟩

abbrev Action (α : Type) := Fallible signature ServirError α

def nowSecs : Action UInt64 := Fallible.effect (S := signature) .nowSecs

def query (q : Stmt) : Action (Except SqlxError q.Answer) :=
  Fallible.effect (S := signature) (.sql q)

/-- The time is cast to `i64`. -/
def findOrCreateProfile (userId username : String) : Action UserProfile := do
  let row ← ofExcept ((← query (.selectProfile userId)).mapError (fun e =>
    ServirError.db (.unknown "find_user_profile" e.display)))
  match row with
  | some row => return { id := row.id, username := row.username, createdAt := row.createdAt }
  | none =>
    let now := (← nowSecs).toInt64
    ofExcept ((← query (.insertProfile userId username now)).mapError (fun e =>
      ServirError.db (.unknown "insert_user_profile" e.display)))
    return { id := userId, username := username, createdAt := now }

structure UserResponse where
  id : String
  username : String
deriving DecidableEq

instance : Serialize UserResponse := ⟨fun r => .object [("id", .string r.id),
  ("username", .string r.username)]⟩

def UserProfile.response (profile : UserProfile) : UserResponse := ⟨profile.id, profile.username⟩

/-- `GET /user`, after the extractor. -/
def user (claims : Claims) : Action UserResponse := do
  let profile ← findOrCreateProfile claims.sub claims.username
  return profile.response

/-- A call of `find_or_create_profile`, or a request that makes one. -/
inductive Job where
  | profile (userId username : String)
  | user (claims : Claims)
deriving DecidableEq

def Job.userId : Job → String
  | .profile userId _ => userId
  | .user claims => claims.sub

def Job.username : Job → String
  | .profile _ username => username
  | .user claims => claims.username

inductive Outcome where
  | profile (r : Except ServirError UserProfile)
  | user (r : Except ServirError UserResponse)
deriving DecidableEq

/-- What the job makes of the result of its call. -/
def Job.outcome : Job → Except ServirError UserProfile → Outcome
  | .profile .., r => .profile r
  | .user _, r => .user (r.map UserProfile.response)

abbrev Trail := Log signature Job Outcome

inductive Choice where
  | reading (now : UInt64)
  | execute
  | fault (display : String)

/-- A statement that meets a fault changes nothing. -/
def respond (db : Db) : (e : Effect) → Choice → Option (e.Answer × Db)
  | .nowSecs, .reading now => some (now, db)
  | .sql q, .execute => some (q.exec db)
  | .sql _, .fault display => some (.error (.fault display), db)
  | _, _ => none

def service : Service signature Job Outcome where
  Shared := Db
  Choice := Choice
  start
    | .profile userId username => do return .profile (← (findOrCreateProfile userId username).run)
    | .user claims => do return .user (← (user claims).run)
  admits _ _ := true
  respond := respond

abbrev Past := History signature

abbrev readClock (n : UInt64) : Entry signature := ⟨.nowSecs, n⟩
abbrev sent (q : Stmt) (r : Except SqlxError q.Answer) : Entry signature := ⟨.sql q, r⟩

/-- The effects of a call, each after its exact history. -/
inductive Attempts (job : Job) : Past → Effect → Prop where
  | select : Attempts job [] (.sql (.selectProfile job.userId))
  | nowSecs : Attempts job [sent (.selectProfile job.userId) (.ok none)] .nowSecs
  | insert {n : UInt64} :
      Attempts job [readClock n, sent (.selectProfile job.userId) (.ok none)]
        (.sql (.insertProfile job.userId job.username n.toInt64))

/-- The exits of a call. -/
inductive Finds (job : Job) : Past → Except ServirError UserProfile → Prop where
  | selectFailed {e : SqlxError} :
      Finds job [sent (.selectProfile job.userId) (.error e)]
        (.error (.db (.unknown "find_user_profile" e.display)))
  | found {row : UserProfile} :
      Finds job [sent (.selectProfile job.userId) (.ok (some row))] (.ok row)
  | insertFailed {n : UInt64} {e : SqlxError} :
      Finds job [sent (.insertProfile job.userId job.username n.toInt64) (.error e), readClock n,
          sent (.selectProfile job.userId) (.ok none)]
        (.error (.db (.unknown "insert_user_profile" e.display)))
  | created {n : UInt64} :
      Finds job [sent (.insertProfile job.userId job.username n.toInt64) (.ok ()), readClock n,
          sent (.selectProfile job.userId) (.ok none)]
        (.ok ⟨job.userId, job.username, n.toInt64⟩)

def protocol : Protocol signature Job Outcome where
  attempts := Attempts
  replies job h o := ∃ r, o = job.outcome r ∧ Finds job h r

theorem findOrCreateProfile_meets (job : Job) :
    Meets (Attempts job) (Finds job) [] (findOrCreateProfile job.userId job.username).run := by
  simp only [findOrCreateProfile, Fallible.meets_bind, Fallible.meets_ofExcept]
  refine ⟨.select, fun r => ?_⟩
  rcases r with e | _ | row
  · exact Finds.selectFailed
  · apply And.intro Attempts.nowSecs
    intro n
    apply And.intro Attempts.insert
    intro r
    cases r with
    | error e => exact Finds.insertFailed
    | ok _ => exact Finds.created
  · exact Finds.found

theorem service_follows : service.Follows protocol := by
  intro job
  cases job with
  | profile userId username =>
    apply (meets_bind _ _ _).2
    exact (findOrCreateProfile_meets (.profile userId username)).mono (fun _ _ => id)
      (fun _ r hr => ⟨r, rfl, hr⟩)
  | user claims =>
    apply (meets_bind _ _ _).2
    simp only [user, Fallible.meets_bind]
    refine (findOrCreateProfile_meets (.user claims)).mono (fun _ _ => id) ?_
    intro h r hr
    cases r with
    | error e => exact ⟨.error e, rfl, hr⟩
    | ok profile => exact ⟨.ok profile, rfl, hr⟩

end Servir.Consumer
