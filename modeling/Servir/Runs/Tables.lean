import Servir.Protocol

/-!
# The tables as a function of the log

Each statement adds and removes definite rows, so the tables of a reachable state
can be read off its log. From here on, statements about runs are statements about
logs: which rows are registered and stored, and which answers a statement may get.
-/

namespace Servir
open Interleaving Store

/-- The runs of any number of servers on one database, from an empty migrated one. -/
abbrev Reachable (K : Crypto) (A : Assumption (service K)) (σ : Pool (service K)) : Prop :=
  Reach A Shared.init σ

abbrev Traces (K : Crypto) (A : Assumption (service K)) (sh : Shared) (log : Trail) : Prop :=
  Traced (service K) (protocol K) A Shared.init sh log

abbrev Happening := Event signature Job Outcome

variable {K : Crypto} {A : Assumption (service K)}

theorem Reachable.traces {σ : Pool (service K)} (h : Reachable K A σ) :
    Traces K A σ.shared σ.log := Reach.traced (service_follows K) h

/-- Only an executed statement changes the database. -/
theorem step_db {σ σ' : Pool (service K)} {l : Label (service K)} (h : Step A σ l σ') :
    σ'.shared.db = σ.shared.db ∨
      ∃ q, σ'.log = .performed l.task (.sql q) (q.exec σ.shared.db).1 :: σ.log ∧
        σ'.shared.db = (q.exec σ.shared.db).2 := by
  obtain hsame | ⟨e, a, c, hlog, hr⟩ := h.shared
  · exact .inl (congrArg Shared.db hsame)
  · have hresp : Responds K σ.shared e a σ'.shared := respond_iff.1 ⟨c, hr⟩
    generalize hsh : σ'.shared = sh at hresp
    cases hresp with
    | sql q => exact .inr ⟨q, hlog, rfl⟩
    | _ => exact .inl rfl

theorem Reachable.step {σ σ' : Pool (service K)} {l : Label (service K)} (h : Reachable K A σ)
    (hs : Step A σ l σ') : Reachable K A σ' := Reach.step h hs

namespace Stmt

def addsUser : (q : Stmt) → Except SqlxError q.Answer → UserRow → Prop
  | .insertUser id username hash created, .ok _ => fun r => r = ⟨id, username, hash, created⟩
  | _, _ => fun _ => False

def addsToken : (q : Stmt) → Except SqlxError q.Answer → RefreshTokenRow → Prop
  | .insertRefreshToken jti userId expires created, .ok _ =>
    fun r => r = ⟨jti, userId, expires, created⟩
  | _, _ => fun _ => False

def removesToken : (q : Stmt) → Except SqlxError q.Answer → RefreshTokenRow → Prop
  | .deleteRefreshToken jti now, .ok _ => fun r => r.jti = jti ∧ now < r.expiresAt
  | .deleteRefreshTokensForUser userId, .ok _ => fun r => r.userId = userId
  | _, _ => fun _ => False

def addsConfig : (q : Stmt) → Except SqlxError q.Answer → ConfigRow → Prop
  | .insertSigningSecret value, .ok _ => fun r => r = ⟨signingSecretKey, value⟩
  | _, _ => fun _ => False

end Stmt

namespace Db

theorem insertUser_cases (db : Db) (r : UserRow) :
    ((∃ code column, (db.insertUser r).1 = .error (.uniqueViolation code column)) ∧
      (db.insertUser r).2 = db ∧ (db.users.taken .id r.id ∨ db.users.taken .username r.username)) ∨
    ((db.insertUser r).1 = .ok () ∧ ¬ db.users.taken .id r.id ∧
      ¬ db.users.taken .username r.username ∧
      (∀ u, u ∈ (db.insertUser r).2.users ↔ u = r ∨ u ∈ db.users) ∧
      (db.insertUser r).2.refreshTokens = db.refreshTokens ∧
      (db.insertUser r).2.authConfig = db.authConfig) := by
  unfold insertUser
  split_ifs with hid hname
  · exact .inl ⟨⟨_, _, rfl⟩, rfl, .inl hid⟩
  · exact .inl ⟨⟨_, _, rfl⟩, rfl, .inr hname⟩
  · exact .inr ⟨rfl, hid, hname, fun u => List.mem_cons, rfl, rfl⟩

theorem insertRefreshToken_cases (db : Db) (r : RefreshTokenRow) :
    ((∃ code column, (db.insertRefreshToken r).1 = .error (.uniqueViolation code column)) ∧
      (db.insertRefreshToken r).2 = db ∧ db.refreshTokens.taken () r.jti) ∨
    ((db.insertRefreshToken r).1 = .error .foreignKeyViolation ∧
      (db.insertRefreshToken r).2 = db ∧ ¬ db.users.taken .id r.userId) ∨
    ((db.insertRefreshToken r).1 = .ok () ∧ ¬ db.refreshTokens.taken () r.jti ∧
      db.users.taken .id r.userId ∧ (db.insertRefreshToken r).2.users = db.users ∧
      (∀ u, u ∈ (db.insertRefreshToken r).2.refreshTokens ↔ u = r ∨ u ∈ db.refreshTokens) ∧
      (db.insertRefreshToken r).2.authConfig = db.authConfig) := by
  unfold insertRefreshToken
  split_ifs with hjti huser
  · exact .inl ⟨⟨_, _, rfl⟩, rfl, hjti⟩
  · exact .inr (.inr ⟨rfl, hjti, huser, rfl, fun u => List.mem_cons, rfl⟩)
  · exact .inr (.inl ⟨rfl, rfl, huser⟩)

theorem insertConfig_cases (db : Db) (r : ConfigRow) :
    ((∃ code column, (db.insertConfig r).1 = .error (.uniqueViolation code column)) ∧
      (db.insertConfig r).2 = db ∧ db.authConfig.taken () r.key) ∨
    ((db.insertConfig r).1 = .ok () ∧ ¬ db.authConfig.taken () r.key ∧
      (db.insertConfig r).2.users = db.users ∧
      (db.insertConfig r).2.refreshTokens = db.refreshTokens ∧
      (∀ u, u ∈ (db.insertConfig r).2.authConfig ↔ u = r ∨ u ∈ db.authConfig)) := by
  unfold insertConfig
  split_ifs with hkey
  · exact .inl ⟨⟨_, _, rfl⟩, rfl, hkey⟩
  · exact .inr ⟨rfl, hkey, rfl, rfl, fun u => List.mem_cons⟩

end Db

/-- The rows of a database, as a step of the log changes them. -/
structure Changes (q : Stmt) (r : Except SqlxError q.Answer) (db db' : Db) : Prop where
  users : ∀ u, u ∈ db'.users ↔ u ∈ db.users ∨ q.addsUser r u
  tokens : ∀ u, u ∈ db'.refreshTokens ↔
    (u ∈ db.refreshTokens ∧ ¬ q.removesToken r u) ∨ q.addsToken r u
  config : ∀ u, u ∈ db'.authConfig ↔ u ∈ db.authConfig ∨ q.addsConfig r u

theorem Changes.error {q : Stmt} (e : SqlxError) (db : Db) : Changes q (.error e) db db := by
  constructor <;> intro u <;> cases q <;>
    simp [Stmt.addsUser, Stmt.addsToken, Stmt.removesToken, Stmt.addsConfig]

/-- A statement changes exactly the rows that it adds and removes. -/
theorem Stmt.exec_changes (q : Stmt) (db : Db) : Changes q (q.exec db).1 db (q.exec db).2 := by
  cases q with
  | insertUser id username hash created =>
    obtain ⟨⟨code, column, he⟩, hdb, -⟩ | ⟨hok, -, -, hu, ht, hc⟩ :=
      db.insertUser_cases ⟨id, username, hash, created⟩
    · simp only [exec, he, hdb]
      exact .error _ _
    · simp only [exec, hok]
      exact ⟨fun u => by simp [hu, addsUser, or_comm],
        fun u => by simp [ht, removesToken, addsToken], fun u => by simp [hc, addsConfig]⟩
  | insertRefreshToken jti userId expires created =>
    obtain ⟨⟨code, column, he⟩, hdb, -⟩ | ⟨he, hdb, -⟩ | ⟨hok, -, -, hu, ht, hc⟩ :=
      db.insertRefreshToken_cases ⟨jti, userId, expires, created⟩
    · simp only [exec, he, hdb]
      exact .error _ _
    · simp only [exec, he, hdb]
      exact .error _ _
    · simp only [exec, hok]
      exact ⟨fun u => by simp [hu, addsUser],
        fun u => by simp [ht, removesToken, addsToken, or_comm], fun u => by simp [hc, addsConfig]⟩
  | insertSigningSecret value =>
    obtain ⟨⟨code, column, he⟩, hdb, -⟩ | ⟨hok, -, hu, ht, hc⟩ :=
      db.insertConfig_cases ⟨signingSecretKey, value⟩
    · simp only [exec, he, hdb]
      exact .error _ _
    · simp only [exec, hok]
      exact ⟨fun u => by simp [hu, addsUser],
        fun u => by simp [ht, removesToken, addsToken], fun u => by simp [hc, addsConfig, or_comm]⟩
  | deleteRefreshToken jti now =>
    exact ⟨fun u => by simp [exec, Db.deleteRefreshTokens, addsUser],
      fun u => by simp [exec, Db.deleteRefreshTokens, removesToken, addsToken, imp_iff_not_or],
      fun u => by simp [exec, Db.deleteRefreshTokens, addsConfig]⟩
  | deleteRefreshTokensForUser userId =>
    exact ⟨fun u => by simp [exec, Db.deleteRefreshTokens, addsUser],
      fun u => by simp [exec, Db.deleteRefreshTokens, removesToken, addsToken],
      fun u => by simp [exec, Db.deleteRefreshTokens, addsConfig]⟩
  | selectUserByUsername username =>
    exact ⟨fun u => by simp [exec, addsUser],
      fun u => by simp [exec, removesToken, addsToken], fun u => by simp [exec, addsConfig]⟩
  | selectUserById id =>
    exact ⟨fun u => by simp [exec, addsUser],
      fun u => by simp [exec, removesToken, addsToken], fun u => by simp [exec, addsConfig]⟩
  | selectSigningSecret =>
    exact ⟨fun u => by simp [exec, addsUser],
      fun u => by simp [exec, removesToken, addsToken], fun u => by simp [exec, addsConfig]⟩

theorem Stmt.exec_error {q : Stmt} {db : Db} {e : SqlxError} (h : (q.exec db).1 = .error e) :
    (q.exec db).2 = db := by
  cases q with
  | insertUser id username hash created =>
    obtain ⟨-, hdb, -⟩ | ⟨hok, -⟩ := db.insertUser_cases ⟨id, username, hash, created⟩
    · exact hdb
    · simp [exec, hok] at h
  | insertRefreshToken jti userId expires created =>
    obtain ⟨-, hdb, -⟩ | ⟨-, hdb, -⟩ | ⟨hok, -⟩ :=
      db.insertRefreshToken_cases ⟨jti, userId, expires, created⟩
    · exact hdb
    · exact hdb
    · simp [exec, hok] at h
  | insertSigningSecret value =>
    obtain ⟨-, hdb, -⟩ | ⟨hok, -⟩ := db.insertConfig_cases ⟨signingSecretKey, value⟩
    · exact hdb
    · simp [exec, hok] at h
  | _ => simp [exec] at h

theorem Db.deleteRefreshTokens_of_none {db : Db} {p : RefreshTokenRow → Bool}
    (h : ∀ r ∈ db.refreshTokens, p r = false) : (db.deleteRefreshTokens p).2 = db :=
  Db.ext rfl (Table.delete_eq_self h) rfl

theorem Stmt.exec_ne_fault (q : Stmt) (db : Db) (display : String) :
    (q.exec db).1 ≠ .error (.fault display) := by
  cases q with
  | insertUser id username hash created =>
    obtain ⟨⟨code, column, he⟩, -⟩ | ⟨hok, -⟩ := db.insertUser_cases ⟨id, username, hash, created⟩
    · simp [exec, he]
    · simp [exec, hok]
  | insertRefreshToken jti userId expires created =>
    obtain ⟨⟨code, column, he⟩, -⟩ | ⟨he, -⟩ | ⟨hok, -⟩ :=
      db.insertRefreshToken_cases ⟨jti, userId, expires, created⟩
    · simp [exec, he]
    · simp [exec, he]
    · simp [exec, hok]
  | insertSigningSecret value =>
    obtain ⟨⟨code, column, he⟩, -⟩ | ⟨hok, -⟩ := db.insertConfig_cases ⟨signingSecretKey, value⟩
    · simp [exec, he]
    · simp [exec, hok]
  | _ => simp [exec]

abbrev ran (t : ℕ) (q : Stmt) (r : Except SqlxError q.Answer) : Happening := .performed t (.sql q) r
abbrev drew (t : ℕ) (s : String) : Happening := .performed t .newV4 s
abbrev read (t : ℕ) (now : UInt64) : Happening := .performed t .nowSecs now
abbrev encoded (t : ℕ) (secret : String) (c : Claims) (r : Except String String) : Happening :=
  .performed t (.encode secret c) r

/-- Task `t` committed the row `r` of `users`. -/
def Created (log : Trail) (t : ℕ) (r : UserRow) : Prop :=
  ran t (.insertUser r.id r.username r.passwordHash r.createdAt) (.ok ()) ∈ log

instance (log : Trail) (t : ℕ) (r : UserRow) : Decidable (Created log t r) :=
  inferInstanceAs (Decidable (ran t _ _ ∈ log))

def Registered (log : Trail) (r : UserRow) : Prop := ∃ t, Created log t r

def insertion (t : ℕ) (r : RefreshTokenRow) : Happening :=
  ran t (.insertRefreshToken r.jti r.userId r.expiresAt r.createdAt) (.ok ())

/-- Task `t` stored the row `r` of `refresh_tokens` at some time. -/
def Inserted (log : Trail) (t : ℕ) (r : RefreshTokenRow) : Prop := insertion t r ∈ log

/-- The event deletes the row `r` of `refresh_tokens`, if it is there. -/
def Removes (ev : Happening) (r : RefreshTokenRow) : Prop :=
  (∃ t now rows, ev = ran t (.deleteRefreshToken r.jti now) (.ok rows) ∧ now < r.expiresAt) ∨
    ∃ t rows, ev = ran t (.deleteRefreshTokensForUser r.userId) (.ok rows)

/-- The row `r` is in `refresh_tokens` after this log. -/
def Stored : Trail → RefreshTokenRow → Prop
  | [], _ => False
  | ev :: log, r => (Stored log r ∧ ¬ Removes ev r) ∨ ∃ t, ev = insertion t r

/-- `value` was stored as the signing secret. -/
def Configured (log : Trail) (value : String) : Prop :=
  ∃ t, ran t (.insertSigningSecret value) (.ok ()) ∈ log

section Induct
variable {sh : Shared} {log : Trail}

theorem Traces.along_effects {P : Shared → Trail → Prop} (h : Traces K A sh log)
    (start : P Shared.init [])
    (quiet : ∀ sh log ev, (∀ t e a, ev ≠ .performed t e a) → P sh log → P sh (ev :: log))
    (perform : ∀ sh log t e a sh', Traces K A sh log → Responds K sh e a sh' → P sh log →
      P sh' (.performed t e a :: log)) : P sh log :=
  Traced.along_effects (V := service K) (P := P) h start quiet
    (fun sh log t e c a sh' ht hr => perform sh log t e a sh' ht (respond_iff.1 ⟨c, hr⟩))

/-- The tables hold the rows of the log. -/
structure Recorded (db : Db) (log : Trail) : Prop where
  users : ∀ r, r ∈ db.users ↔ Registered log r
  tokens : ∀ r, r ∈ db.refreshTokens ↔ Stored log r
  config : ∀ r, r ∈ db.authConfig ↔ r.key = signingSecretKey ∧ Configured log r.value

private theorem Recorded.quiet {db : Db} (h : Recorded db log) {ev : Happening}
    (hev : ∀ t q r, ev ≠ ran t q r) : Recorded db (ev :: log) where
  users r := by simp [h.users, Registered, Created, (hev _ _ _).symm]
  tokens r := by simp [h.tokens, Stored, Removes, insertion, hev]
  config r := by simp [h.config, Configured, (hev _ _ _).symm]

private theorem Recorded.ran {db db' : Db} (h : Recorded db log) {t : ℕ} {q : Stmt}
    {a : Except SqlxError q.Answer} (hc : Changes q a db db') :
    Recorded db' (ran t q a :: log) where
  users r := by
    rw [hc.users, h.users]
    cases q <;> cases a <;>
      simp [Registered, Created, Stmt.addsUser, exists_or, or_comm, UserRow.ext_iff]
  tokens r := by
    rw [hc.tokens, h.tokens]
    cases q <;> cases a <;> simp [Stored, Removes, insertion, Stmt.addsToken, Stmt.removesToken,
      RefreshTokenRow.ext_iff, @eq_comm _ r.jti, @eq_comm _ r.userId, @eq_comm _ r.expiresAt,
      @eq_comm _ r.createdAt]
  config r := by
    rw [hc.config, h.config]
    cases q <;> cases a <;> simp [Configured, Stmt.addsConfig, exists_or, or_comm,
      ConfigRow.ext_iff, and_or_left]

theorem Traces.recorded (h : Traces K A sh log) : Recorded sh.db log := by
  refine Traces.along_effects (P := fun sh log => Recorded sh.db log) h ?_ ?_ ?_
  · exact ⟨fun r => by simp [Shared.init, Db.migrated, Registered, Created],
      fun r => by simp [Shared.init, Db.migrated, Stored],
      fun r => by simp [Shared.init, Db.migrated, Configured]⟩
  · exact fun sh log ev hev ih => ih.quiet (fun t q r => hev t _ _)
  · intro sh log t e a sh' _ hr ih
    cases hr with
    | sql q => exact ih.ran (q.exec_changes sh.db)
    | fault q display => exact ih.ran (.error _ _)
    | _ => exact ih.quiet (by simp)

end Induct

end Servir
