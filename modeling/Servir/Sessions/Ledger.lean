import Servir.Ledger.Book
import Servir.Runs.Scenario

/-!
# The sessions as a ledger

What the auth database is for: accounts are enrolled, refresh tokens are the
tickets of their sessions, a refresh redeems its ticket and a logout revokes the
tickets of its user. Every run of any number of servers reads as a run of this
ledger, statement by statement and with the same answers.
-/

namespace Servir
open Interleaving Ledger

abbrev SessionBook := Book String String String Int64
abbrev SessionOperation := Operation String String String Int64

def User.account (u : User) : Account String String := ⟨u.id, u.username⟩

def UserRow.account (r : UserRow) : Account String String := ⟨r.id, r.username⟩

def RefreshTokenRow.ticket (r : RefreshTokenRow) : Ticket String String Int64 :=
  ⟨r.jti, r.userId, r.expiresAt⟩

/-- The operation that a statement with its answer is, if it is one on the sessions. -/
def Stmt.operation : (q : Stmt) → Except SqlxError q.Answer → Option SessionOperation
  | .insertUser id username _ _, .ok _ => some (.enroll ⟨id, username⟩)
  | .insertUser id username _ _, .error (.uniqueViolation ..) => some (.clash ⟨id, username⟩)
  | .selectUserByUsername username, .ok found =>
    some (.findByName username (found.map User.account))
  | .selectUserById id, .ok found => some (.findById id (found.map User.account))
  | .insertRefreshToken jti userId expiresAt _, .ok _ => some (.issue ⟨jti, userId, expiresAt⟩)
  | .deleteRefreshToken jti now, .ok rows =>
    some (if 0 < rows then .redeem jti now else .miss jti now)
  | .deleteRefreshTokensForUser userId, .ok rows => some (.revoke userId rows)
  | _, _ => none

def Effect.operation : (e : Effect) → e.Answer → Option SessionOperation
  | .sql q, r => q.operation r
  | _, _ => none

def operation : Happening → Option SessionOperation
  | .performed _ e a => e.operation a
  | _ => none

/-- The book after a log. -/
structure Agrees (log : Trail) (b : SessionBook) : Prop where
  accounts : ∀ a, a ∈ b.accounts ↔ ∃ r, Registered log r ∧ r.account = a
  issued : ∀ k, k ∈ b.issued ↔ ∃ r, (∃ t, Inserted log t r) ∧ r.ticket = k
  live : ∀ k, k ∈ b.live ↔ ∃ r, Stored log r ∧ r.ticket = k

variable {K : Crypto} {A : Assumption (service K)} {sh : Shared} {log : Trail} {ev : Happening}
  {b : SessionBook} {t : ℕ}

/-- The event commits no user and neither stores nor removes a token. -/
structure Unbooked (ev : Happening) : Prop where
  user : ∀ t (r : UserRow),
    ev ≠ ran t (.insertUser r.id r.username r.passwordHash r.createdAt) (.ok ())
  insert : ∀ t r, ev ≠ insertion t r
  remove : ∀ r, ¬ Removes ev r

namespace Agrees

theorem accounts_idle (hb : Agrees log b)
    (hev : ∀ t (r : UserRow),
      ev ≠ ran t (.insertUser r.id r.username r.passwordHash r.createdAt) (.ok ()))
    (a : Account String String) :
    a ∈ b.accounts ↔ ∃ r, Registered (ev :: log) r ∧ r.account = a := by
  simp [hb.accounts, Registered, Created, (hev _ _).symm]

theorem issued_idle (hb : Agrees log b) (hev : ∀ t r, ev ≠ insertion t r)
    (k : Ticket String String Int64) :
    k ∈ b.issued ↔ ∃ r, (∃ t, Inserted (ev :: log) t r) ∧ r.ticket = k := by
  simp [hb.issued, Inserted, (hev _ _).symm]

theorem live_idle (hb : Agrees log b) (hins : ∀ t r, ev ≠ insertion t r)
    (hrem : ∀ r, ¬ Removes ev r) (k : Ticket String String Int64) :
    k ∈ b.live ↔ ∃ r, Stored (ev :: log) r ∧ r.ticket = k := by
  simp [hb.live, Stored, hins, hrem]

theorem idle (hb : Agrees log b) (hev : Unbooked ev) : Agrees (ev :: log) b :=
  ⟨hb.accounts_idle hev.user, hb.issued_idle hev.insert, hb.live_idle hev.insert hev.remove⟩

end Agrees

theorem Unbooked.of_operation (h : operation ev = none) : Unbooked ev where
  user t r he := by
    subst he
    cases h
  insert t r he := by
    subst he
    cases h
  remove r hr := by
    obtain ⟨t, now, rows, rfl, -⟩ | ⟨t, rows, rfl⟩ := hr
    · cases h
    · cases h

section Statements
variable {id username hash jti userId : String} {expires created now : Int64}

theorem Traces.create_free
    (h : Traces K A sh (ran t (.insertUser id username hash created) (.ok ()) :: log))
    {r : UserRow} (hr : Registered log r) : r.id ≠ id ∧ r.username ≠ username := by
  rw [← List.nil_append (_ :: _)] at h
  obtain ⟨display, hd⟩ | ⟨db, hdb, ha⟩ := Traces.executed h
  · cases hd
  · obtain ⟨⟨code, column, hv⟩, -⟩ | ⟨-, hid, hname, -⟩ :=
      db.insertUser_cases ⟨id, username, hash, created⟩
    · simp [Stmt.exec, hv] at ha
    · exact ⟨fun he => hid ⟨r, (hdb.users r).2 hr, he⟩,
        fun he => hname ⟨r, (hdb.users r).2 hr, he⟩⟩

theorem Traces.store_held
    (h : Traces K A sh (ran t (.insertRefreshToken jti userId expires created) (.ok ()) :: log)) :
    ∃ r, Registered log r ∧ r.id = userId := by
  rw [← List.nil_append (_ :: _)] at h
  obtain ⟨display, hd⟩ | ⟨db, hdb, ha⟩ := Traces.executed h
  · cases hd
  · obtain ⟨⟨code, column, hv⟩, -⟩ | ⟨hv, -⟩ | ⟨-, -, ⟨r, hr, hid⟩, -⟩ :=
      db.insertRefreshToken_cases ⟨jti, userId, expires, created⟩
    · simp [Stmt.exec, hv] at ha
    · simp [Stmt.exec, hv] at ha
    · exact ⟨r, (hdb.users r).1 hr, hid⟩

theorem Traces.revoked_count {rows : ℕ}
    (h : Traces K A sh (ran t (.deleteRefreshTokensForUser userId) (.ok rows) :: log)) :
    ∃ db, Recorded db log ∧ rows = db.refreshTokens.count (fun r => r.userId == userId) := by
  rw [← List.nil_append (_ :: _)] at h
  obtain ⟨display, hd⟩ | ⟨db, hdb, ha⟩ := Traces.executed h
  · cases hd
  · cases ha
    exact ⟨db, hdb, rfl⟩

theorem registered_create {r : UserRow} :
    Registered (ran t (.insertUser id username hash created) (.ok ()) :: log) r ↔
      r = ⟨id, username, hash, created⟩ ∨ Registered log r := by
  simp [Registered, Created, exists_or, UserRow.ext_iff]

theorem inserted_store {r : RefreshTokenRow} :
    (∃ t', Inserted (ran t (.insertRefreshToken jti userId expires created) (.ok ()) :: log) t' r) ↔
      r = ⟨jti, userId, expires, created⟩ ∨ ∃ t', Inserted log t' r := by
  simp [Inserted, insertion, exists_or, RefreshTokenRow.ext_iff]

theorem stored_store {r : RefreshTokenRow} :
    Stored (ran t (.insertRefreshToken jti userId expires created) (.ok ()) :: log) r ↔
      r = ⟨jti, userId, expires, created⟩ ∨ Stored log r := by
  simp [Stored, Removes, insertion, RefreshTokenRow.ext_iff, eq_comm, or_comm]

theorem stored_consume {rows : ℕ} {r : RefreshTokenRow} :
    Stored (ran t (.deleteRefreshToken jti now) (.ok rows) :: log) r ↔
      Stored log r ∧ ¬ (r.jti = jti ∧ now < r.expiresAt) := by
  simp [Stored, Removes, insertion, eq_comm]

theorem stored_revoke {rows : ℕ} {r : RefreshTokenRow} :
    Stored (ran t (.deleteRefreshTokensForUser userId) (.ok rows) :: log) r ↔
      Stored log r ∧ r.userId ≠ userId := by
  simp [Stored, Removes, insertion, eq_comm]

theorem exists_insert_iff {α β : Type} {P P' : α → Prop} {f : α → β} {x : α}
    (h : ∀ r, P' r ↔ r = x ∨ P r) (y : β) :
    (y = f x ∨ ∃ r, P r ∧ f r = y) ↔ ∃ r, P' r ∧ f r = y := by
  simp [h, or_and_right, exists_or, eq_comm]

namespace Agrees

theorem count_eq (hb : Agrees log b) {db : Db} (hdb : Recorded db log)
    (p : Ticket String String Int64 → Bool) :
    db.refreshTokens.count (fun r => p r.ticket) = (b.live.filter (fun k => p k = true)).card := by
  apply Store.Table.count_eq_card () (f := RefreshTokenRow.ticket)
  · intro r r' he
    exact congrArg Ticket.key he
  · intro k
    simp only [Finset.mem_filter, hb.live, ← hdb.tokens]
    constructor
    · rintro ⟨⟨r, hr, rfl⟩, hp⟩
      exact ⟨r, hr, hp, rfl⟩
    · rintro ⟨r, hr, hp, rfl⟩
      exact ⟨⟨r, hr, rfl⟩, hp⟩

theorem enroll (hb : Agrees log b)
    (h : Traces K A sh (ran t (.insertUser id username hash created) (.ok ()) :: log)) :
    ∃ b', Next b (.enroll ⟨id, username⟩) b' ∧
      Agrees (ran t (.insertUser id username hash created) (.ok ()) :: log) b' := by
  have hfree : ∀ a ∈ b.accounts, a.id ≠ id ∧ a.name ≠ username := by
    intro a ha
    obtain ⟨r, hr, rfl⟩ := (hb.accounts a).1 ha
    exact h.create_free hr
  refine ⟨b.enroll ⟨id, username⟩ (fun a ha => (hfree a ha).1) (fun a ha => (hfree a ha).2),
    .enroll _ _, ?_, ?_, ?_⟩
  · intro a
    rw [Book.enroll, Finset.mem_insert, hb.accounts]
    exact exists_insert_iff (f := UserRow.account) (x := ⟨id, username, hash, created⟩)
      (fun r => registered_create) a
  · exact hb.issued_idle (by simp [insertion])
  · exact hb.live_idle (by simp [insertion]) (by simp [Removes])

theorem clash {e : SqlxError} (hb : Agrees log b) (he : ∀ display, e ≠ .fault display)
    (h : Traces K A sh (ran t (.insertUser id username hash created) (.error e) :: log)) :
    Next b (.clash ⟨id, username⟩) b := by
  rw [← List.nil_append (_ :: _)] at h
  obtain ⟨-, r, hr, hkey⟩ := Traces.create_failed h he
  exact .clash ((hb.accounts _).2 ⟨r, hr, rfl⟩) hkey

theorem findByName {found : Option User} (hb : Agrees log b)
    (h : Traces K A sh (ran t (.selectUserByUsername username) (.ok found) :: log)) :
    Next b (.findByName username (found.map User.account)) b := by
  rw [← List.nil_append (_ :: _)] at h
  apply Next.findByName
  intro a
  simp only [Option.map_eq_some_iff, Traces.found_username h, hb.accounts]
  constructor
  · rintro ⟨user, ⟨r, hr, rfl, rfl⟩, rfl⟩
    exact ⟨⟨r, hr, rfl⟩, rfl⟩
  · rintro ⟨⟨r, hr, rfl⟩, rfl⟩
    exact ⟨r.toUser, ⟨r, hr, rfl, rfl⟩, rfl⟩

theorem findById {found : Option User} (hb : Agrees log b)
    (h : Traces K A sh (ran t (.selectUserById id) (.ok found) :: log)) :
    Next b (.findById id (found.map User.account)) b := by
  rw [← List.nil_append (_ :: _)] at h
  apply Next.findById
  intro a
  simp only [Option.map_eq_some_iff, Traces.found_id h, hb.accounts]
  constructor
  · rintro ⟨user, ⟨r, hr, rfl, rfl⟩, rfl⟩
    exact ⟨⟨r, hr, rfl⟩, rfl⟩
  · rintro ⟨⟨r, hr, rfl⟩, rfl⟩
    exact ⟨r.toUser, ⟨r, hr, rfl, rfl⟩, rfl⟩

theorem issue (hb : Agrees log b)
    (h : Traces K A sh (ran t (.insertRefreshToken jti userId expires created) (.ok ()) :: log)) :
    ∃ b', Next b (.issue ⟨jti, userId, expires⟩) b' ∧
      Agrees (ran t (.insertRefreshToken jti userId expires created) (.ok ()) :: log) b' := by
  have hkey : ∀ k ∈ b.issued, k.key ≠ jti := by
    intro k hk
    obtain ⟨r, ⟨t', hr⟩, rfl⟩ := (hb.issued k).1 hk
    rw [← List.nil_append (_ :: _)] at h
    exact Traces.store_fresh h hr
  have hheld : ∃ a ∈ b.accounts, a.id = userId := by
    obtain ⟨r, hr, hid⟩ := h.store_held
    exact ⟨r.account, (hb.accounts _).2 ⟨r, hr, rfl⟩, hid⟩
  refine ⟨b.issue ⟨jti, userId, expires⟩ hkey hheld, .issue _ _, ?_, ?_, ?_⟩
  · exact hb.accounts_idle (by simp)
  · intro k
    rw [Book.issue, Finset.mem_insert, hb.issued]
    exact exists_insert_iff (f := RefreshTokenRow.ticket) (x := ⟨jti, userId, expires, created⟩)
      (fun r => inserted_store) k
  · intro k
    rw [Book.mem_live_issue, hb.live]
    exact exists_insert_iff (f := RefreshTokenRow.ticket) (x := ⟨jti, userId, expires, created⟩)
      (fun r => stored_store) k

theorem redeem {rows : ℕ} (hb : Agrees log b) (hrows : 0 < rows)
    (h : Traces K A sh (ran t (.deleteRefreshToken jti now) (.ok rows) :: log)) :
    ∃ b', Next b (.redeem jti now) b' ∧
      Agrees (ran t (.deleteRefreshToken jti now) (.ok rows) :: log) b' := by
  obtain ⟨sh₀, ht⟩ : ∃ sh₀, Traces K A sh₀ log := by
    rw [← List.singleton_append] at h
    exact Traced.before h
  rw [← List.nil_append (_ :: _)] at h
  obtain ⟨r, hr, rfl, hnow⟩ := (Traces.consumed_iff h).1 hrows
  have hlive : r.ticket ∈ b.live := (hb.live _).2 ⟨r, hr, rfl⟩
  refine ⟨b.redeem r.ticket hlive, .redeem hlive hnow, ?_, ?_, ?_⟩
  · exact hb.accounts_idle (by simp)
  · exact hb.issued_idle (by simp [insertion])
  · intro k
    rw [Book.mem_live_redeem, hb.live]
    constructor
    · rintro ⟨⟨r', hr', rfl⟩, hne⟩
      refine ⟨r', stored_consume.2 ⟨hr', fun hsame => hne ?_⟩, rfl⟩
      rw [Traces.stored_jti ht hr' hr hsame.1]
    · rintro ⟨r', hr', rfl⟩
      obtain ⟨hr', hkeep⟩ := stored_consume.1 hr'
      refine ⟨⟨r', hr', rfl⟩, fun he => hkeep ⟨congrArg Ticket.key he, ?_⟩⟩
      rw [show r'.expiresAt = r.expiresAt from congrArg Ticket.expiry he]
      exact hnow

theorem miss (hb : Agrees log b)
    (h : Traces K A sh (ran t (.deleteRefreshToken jti now) (.ok 0) :: log)) :
    Next b (.miss jti now) b ∧ Agrees (ran t (.deleteRefreshToken jti now) (.ok 0) :: log) b := by
  rw [← List.nil_append (_ :: _)] at h
  have hnone : ∀ r, Stored log r → r.jti = jti → ¬ now < r.expiresAt := by
    intro r hr hjti hnow
    exact absurd ((Traces.consumed_iff h).2 ⟨r, hr, hjti, hnow⟩) (Nat.lt_irrefl 0)
  refine ⟨.miss ?_, hb.accounts_idle (by simp), hb.issued_idle (by simp [insertion]), ?_⟩
  · intro k hk hkey
    obtain ⟨r, hr, rfl⟩ := (hb.live k).1 hk
    exact hnone r hr hkey
  · intro k
    rw [hb.live]
    apply exists_congr
    intro r
    apply and_congr_left
    intro _
    rw [stored_consume]
    exact (and_iff_left_of_imp (fun hr hsame => hnone r hr hsame.1 hsame.2)).symm

theorem revoke {rows : ℕ} (hb : Agrees log b)
    (h : Traces K A sh (ran t (.deleteRefreshTokensForUser userId) (.ok rows) :: log)) :
    ∃ b', Next b (.revoke userId rows) b' ∧
      Agrees (ran t (.deleteRefreshTokensForUser userId) (.ok rows) :: log) b' := by
  obtain ⟨db, hdb, rfl⟩ := h.revoked_count
  have hcount := hb.count_eq hdb (fun k => k.holder == userId)
  simp only [beq_iff_eq] at hcount
  have hnext : Next b (.revoke userId (b.liveOf userId).card) (b.revoke userId) := .revoke
  rw [Book.liveOf, ← hcount] at hnext
  refine ⟨b.revoke userId, hnext, ?_, ?_, ?_⟩
  · exact hb.accounts_idle (by simp)
  · exact hb.issued_idle (by simp [insertion])
  · intro k
    rw [Book.mem_live_revoke, hb.live]
    constructor
    · rintro ⟨⟨r, hr, rfl⟩, hne⟩
      exact ⟨r, stored_revoke.2 ⟨hr, hne⟩, rfl⟩
    · rintro ⟨r, hr, rfl⟩
      obtain ⟨hr, hne⟩ := stored_revoke.1 hr
      exact ⟨⟨r, hr, rfl⟩, hne⟩

end Agrees
end Statements

/-- Each statement that is read as an operation is one that the book allows. -/
theorem Agrees.statement {q : Stmt} {r : Except SqlxError q.Answer} {op : SessionOperation}
    (hb : Agrees log b) (h : Traces K A sh (ran t q r :: log)) (hop : q.operation r = some op) :
    ∃ b', Next b op b' ∧ Agrees (ran t q r :: log) b' := by
  cases q with
  | insertUser id username hash created =>
    cases r with
    | ok _ =>
      cases hop
      exact hb.enroll h
    | error e =>
      cases e with
      | uniqueViolation code column =>
        cases hop
        exact ⟨b, hb.clash (by simp) h, hb.idle ⟨by simp, by simp [insertion], by simp [Removes]⟩⟩
      | _ => cases hop
  | selectUserByUsername username =>
    cases r with
    | ok found =>
      cases hop
      exact ⟨b, hb.findByName h, hb.idle ⟨by simp, by simp [insertion], by simp [Removes]⟩⟩
    | error e => cases hop
  | selectUserById id =>
    cases r with
    | ok found =>
      cases hop
      exact ⟨b, hb.findById h, hb.idle ⟨by simp, by simp [insertion], by simp [Removes]⟩⟩
    | error e => cases hop
  | insertRefreshToken jti userId expires created =>
    cases r with
    | ok _ =>
      cases hop
      exact hb.issue h
    | error e => cases hop
  | deleteRefreshToken jti now =>
    cases r with
    | ok rows =>
      cases hop
      by_cases hrows : 0 < rows
      · rw [if_pos hrows]
        exact hb.redeem hrows h
      · rw [if_neg hrows]
        obtain rfl := Nat.eq_zero_of_not_pos hrows
        exact ⟨b, hb.miss h⟩
    | error e => cases hop
  | deleteRefreshTokensForUser userId =>
    cases r with
    | ok rows =>
      cases hop
      exact hb.revoke h
    | error e => cases hop
  | _ => cases hop

theorem service_implements : Implements (service K) (protocol K) A Shared.init
    (ledger String String String Int64) operation Agrees where
  start := by
    constructor
    · simp [ledger, Book.empty, Registered, Created]
    · simp [ledger, Book.empty, Inserted]
    · simp [ledger, Book.empty, Book.live, Stored]
  idle _ hev hb := hb.idle (.of_operation hev)
  act := by
    intro sh ev log b op h hev hb
    cases ev with
    | performed t e a =>
      cases e with
      | sql q => exact hb.statement h hev
      | _ => cases hev
    | _ => cases hev

/-- Statements on the signing secret. -/
def Stmt.onSecret : Stmt → Prop
  | .selectSigningSecret | .insertSigningSecret _ => True
  | _ => False

theorem Traces.unread (h : Traces K A sh log) {q : Stmt} {r : Except SqlxError q.Answer}
    (hq : ran t q r ∈ log) (hop : q.operation r = none) (hsecret : ¬ q.onSecret) :
    ∃ display, r = .error (.fault display) := by
  obtain ⟨later, earlier, rfl⟩ := List.append_of_mem hq
  cases r with
  | ok a => cases q <;> simp [Stmt.operation, Stmt.onSecret] at hop hsecret
  | error e =>
    by_contra! hfault
    have he : ∀ display, e ≠ .fault display := fun display hd => hfault display (congrArg _ hd)
    cases q with
    | insertUser id username hash created =>
      obtain ⟨hunique, -⟩ := Traces.create_failed h he
      cases e with
      | uniqueViolation code column => cases hop
      | foreignKeyViolation => cases hunique
      | fault display => exact he display rfl
    | insertRefreshToken jti userId expires created =>
      obtain ⟨display, hd⟩ := Traces.store_fault h
      exact he display hd
    | selectSigningSecret => exact hsecret trivial
    | insertSigningSecret value => exact hsecret trivial
    | _ =>
      obtain ⟨_, _, _, _, hq⟩ | ⟨_, _, _, _, hq⟩ | ⟨_, hq⟩ := Traces.failed h he <;> cases hq

/-- The operations of a run, the newest first. -/
def operations (log : Trail) : List SessionOperation := log.filterMap operation

/-- The statements of a run on users and refresh tokens are a run of the ledger with the accounts and
tickets of the two tables. The statements on the signing secret are no operations of the ledger. -/
theorem sessions_refine_ledger {σ : Pool (service K)} (h : Reachable K A σ) :
    ∃ b : SessionBook, (ledger String String String Int64).Run (operations σ.log) b ∧
      (∀ a, a ∈ b.accounts ↔ ∃ r ∈ σ.shared.db.users, r.account = a) ∧
      (∀ k, k ∈ b.live ↔ ∃ r ∈ σ.shared.db.refreshTokens, r.ticket = k) ∧
      (∀ t q r, ran t q r ∈ σ.log → q.operation r = none → ¬ q.onSecret →
        ∃ display, r = .error (.fault display)) ∧
      σ.shared.db.refreshTokens.rows.length + ((operations σ.log).map Operation.redeems).sum +
          ((operations σ.log).map Operation.revokes).sum =
        ((operations σ.log).map Operation.issues).sum := by
  have ht := h.traces
  obtain ⟨b, hrun, hb⟩ := service_implements.run ht
  have hdb := ht.recorded
  refine ⟨b, hrun, ?_, ?_, fun t q r => ht.unread, ?_⟩
  · simpa only [hdb.users] using hb.accounts
  · simpa only [hdb.tokens] using hb.live
  · have hrows := hb.count_eq hdb (fun _ => true)
    simp only [Store.Table.count, List.countP_true, Finset.filter_true] at hrows
    rw [hrows]
    exact live_card hrun

theorem sessions_refine_ledger_refreshed : ∃ (σ : Pool (service Transparent.crypto))
    (b : SessionBook), Reachable Transparent.crypto Unrestricted σ ∧
    (ledger String String String Int64).Run (operations σ.log) b ∧
    operations σ.log = [.issue ⟨"r2", "id", 604907⟩, .findById "id" (some ⟨"id", "ann"⟩),
      .redeem "r1" 106, .issue ⟨"r1", "id", 604905⟩, .enroll ⟨"id", "ann"⟩] ∧
    ∀ k, k ∈ b.live ↔ ⟨"r2", "id", 604907⟩ = k := by
  open Scenario in
  obtain ⟨σ, hσ, hops, hrows⟩ := Scenario.reach Unrestricted
    (starting ++ registering 1 "ann" "password" 105 "id" "a1" "r1" ++
      consuming 2 (token (ann 105 "r1")) 106 ++ rotating 2 107 "a2" "r2")
    (fun σ => operations σ.log = [.issue ⟨"r2", "id", 604907⟩,
        .findById "id" (some ⟨"id", "ann"⟩), .redeem "r1" 106, .issue ⟨"r1", "id", 604905⟩,
        .enroll ⟨"id", "ann"⟩] ∧
      σ.shared.db.refreshTokens.rows = [row "id" 107 "r2"])
    (by decide +kernel)
  obtain ⟨b, hrun, -, hlive, -⟩ := sessions_refine_ledger hσ
  refine ⟨σ, b, hσ, hrun, hops, fun k => ?_⟩
  rw [hlive]
  simp only [← Store.Table.mem_rows, hrows, List.mem_singleton, exists_eq_left]
  exact Iff.rfl

end Servir
