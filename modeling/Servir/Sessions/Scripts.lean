import Servir.Sessions.Ledger

/-!
# What one request does to the ledger

The operations of one request, however the requests of all servers interleave,
follow a script that its kind prescribes. A request that writes is answered OK
exactly if the script ran to its end.
-/

namespace Servir
open Interleaving Ledger

variable {K : Crypto} {A : Assumption (service K)} {sh : Shared} {log : Trail} {t s : ℕ}
  {api : Api} {config : AuthConfig} {req : Request} {h : Past} {e : Effect} {o : Outcome}

/-- The operations of task `t`, the oldest first. -/
def ownOperations (log : Trail) (t : ℕ) : List SessionOperation :=
  (operations (log.filter (fun ev => ev.task == t))).reverse

/-- The operations of a request that runs to its end, the oldest first. -/
inductive Completes (K : Crypto) (secret : String) : Request → List SessionOperation → Prop where
  | register {body : RegisterRequest} {id jti : String} {expires : Int64} :
      Completes K secret (.register body)
        [.enroll ⟨id, body.username⟩, .issue ⟨jti, id, expires⟩]
  | login {body : LoginRequest} {a : Account String String} {jti : String} {expires : Int64} :
      Completes K secret (.login body)
        [.findByName body.username (some a), .issue ⟨jti, a.id, expires⟩]
  | refresh {body : RefreshRequest} {c : Claims} {now : Int64} {a : Account String String}
      {jti : String} {expires : Int64} :
      K.openToken secret body.refreshToken = .ok c → c.kind = .refresh →
      Completes K secret (.refresh body)
        [.redeem c.jti now, .findById c.sub (some a), .issue ⟨jti, a.id, expires⟩]
  | logout {body : LogoutRequest} {c : Claims} {count : ℕ} :
      K.openToken secret body.refreshToken = .ok c → c.kind = .refresh →
      Completes K secret (.logout body) [.revoke c.sub count]

/-- The operations of a request that the ledger turns down. -/
inductive Declined (K : Crypto) (secret : String) : Request → List SessionOperation → Prop where
  | register {body : RegisterRequest} {id : String} :
      Declined K secret (.register body) [.clash ⟨id, body.username⟩]
  | login {body : LoginRequest} :
      Declined K secret (.login body) [.findByName body.username none]
  | missed {body : RefreshRequest} {c : Claims} {now : Int64} :
      K.openToken secret body.refreshToken = .ok c → c.kind = .refresh →
      Declined K secret (.refresh body) [.miss c.jti now]
  | unknown {body : RefreshRequest} {c : Claims} {now : Int64} :
      K.openToken secret body.refreshToken = .ok c → c.kind = .refresh →
      Declined K secret (.refresh body) [.redeem c.jti now, .findById c.sub none]

/-- What a request may have done to the ledger at any time. -/
def Within (K : Crypto) (secret : String) (req : Request) (ops : List SessionOperation) : Prop :=
  ops = [] ∨ Declined K secret req ops ∨ ∃ script, Completes K secret req script ∧ ops <+: script

/-- The request may change the database. -/
def Request.writes : Request → Bool
  | .me _ | .guarded _ => false
  | _ => true

/-- The operations in a history, the oldest first. -/
def historyOperations (h : Past) : List SessionOperation :=
  (h.filterMap (fun x => x.effect.operation x.answer)).reverse

@[simp] theorem historyOperations_nil : historyOperations [] = [] := rfl

theorem historyOperations_cons {a : e.Answer} :
    historyOperations (⟨e, a⟩ :: h) = historyOperations h ++ (e.operation a).toList := by
  cases hop : e.operation a with
  | none => simp [historyOperations, hop]
  | some op => simp [historyOperations, hop]

@[simp] theorem historyOperations_readClock {n : UInt64} :
    historyOperations (readClock n :: h) = historyOperations h := rfl

@[simp] theorem historyOperations_drewUuid {id : String} :
    historyOperations (drewUuid id :: h) = historyOperations h := rfl

@[simp] theorem historyOperations_drewSalt {salt : String} :
    historyOperations (drewSalt salt :: h) = historyOperations h := rfl

@[simp] theorem historyOperations_sent {q : Stmt} {r : Except SqlxError q.Answer} :
    historyOperations (sent q r :: h) = historyOperations h ++ (q.operation r).toList :=
  historyOperations_cons

@[simp] theorem historyOperations_accessPast {user : User} {n : UInt64} {jti : String}
    {r : Except String String} :
    historyOperations (accessPast config user n jti r h) = historyOperations h := rfl

@[simp] theorem historyOperations_refreshPast {user : User} {n : UInt64} {jti : String}
    {r : Except String String} :
    historyOperations (refreshPast config user n jti r h) = historyOperations h := rfl

theorem ownOperations_eq (log : Trail) (t : ℕ) :
    ownOperations log t = historyOperations (history t log) := by
  rw [ownOperations, historyOperations]
  congr 1
  induction log with
  | nil => rfl
  | cons ev log ih =>
    by_cases ht : ev.task = t
    · rw [List.filter_cons_of_pos (by simpa using ht)]
      cases ev with
      | performed t' e a =>
        obtain rfl : t' = t := ht
        simp only [operations, history_self, List.filterMap_cons, operation] at ih ⊢
        rw [ih]
      | spawned t' job => exact ih
      | replied t' o => exact ih
      | dropped t' => exact ih
    · rw [List.filter_cons_of_neg (by simpa using ht), ih]
      cases ev with
      | performed t' e a =>
        have hne : t' ≠ t := ht
        rw [history_ne hne]
      | spawned t' job => rfl
      | replied t' o => rfl
      | dropped t' => rfl

/-- A request that acts for a user has its script behind it, but for the ticket. -/
theorem Acts.completes {user : User} (ha : Acts K config req h user) (jti : String)
    (expires : Int64) :
    Completes K config.secret req (historyOperations h ++ [.issue ⟨jti, user.id, expires⟩]) := by
  cases ha with
  | register => exact .register
  | login => exact .login (a := user.account)
  | refresh hverify hkind hrows =>
    simp only [historyOperations_sent, historyOperations_readClock, historyOperations_nil,
      Stmt.operation, if_pos hrows]
    exact .refresh (a := user.account) (verifyTokenAt_ok.1 hverify).1 hkind

/-- The number of operations of a complete script. -/
def Request.scriptLength : Request → ℕ
  | .register _ | .login _ => 2
  | .refresh _ => 3
  | .logout _ => 1
  | .me _ | .guarded _ => 0

theorem Completes.length {secret : String} {ops : List SessionOperation}
    (hs : Completes K secret req ops) : ops.length = req.scriptLength := by
  cases hs <;> rfl

theorem Acts.not_completes {user : User} (ha : Acts K config req h user) :
    ¬ Completes K config.secret req (historyOperations h) := by
  intro hs
  have hlength := hs.length
  have hwhole := (ha.completes "" 0).length
  rw [List.length_append, ← hlength] at hwhole
  simp at hwhole

theorem Attempts.within {a : e.Answer} (ha : Attempts K config req h e)
    (hh : Within K config.secret req (historyOperations h)) :
    Within K config.secret req (historyOperations (⟨e, a⟩ :: h)) := by
  rw [historyOperations_cons]
  cases hop : e.operation a with
  | none => simpa using hh
  | some op =>
    cases ha with
    | nowSecs | newV4 | generateSalt | signAccess | signRefresh => cases hop
    | insertUser =>
      cases a with
      | ok _ =>
        cases hop
        exact .inr (.inr ⟨_, @Completes.register K _ _ _ "" 0, _, rfl⟩)
      | error x =>
        cases x with
        | uniqueViolation code column =>
          cases hop
          exact .inr (.inl .register)
        | _ => cases hop
    | selectByUsername =>
      cases a with
      | ok found =>
        cases hop
        cases found with
        | none => exact .inr (.inl .login)
        | some user =>
          exact .inr (.inr ⟨_, @Completes.login K _ _ user.account "" 0, _, rfl⟩)
      | error x => cases hop
    | consume hverify hkind =>
      have hopen := (verifyTokenAt_ok.1 hverify).1
      cases a with
      | ok rows =>
        cases hop
        by_cases hrows : 0 < rows
        · rw [if_pos hrows]
          exact .inr (.inr ⟨_, @Completes.refresh K _ _ _ _ ⟨"", ""⟩ "" 0 hopen hkind, _, rfl⟩)
        · rw [if_neg hrows]
          exact .inr (.inl (.missed hopen hkind))
      | error x => cases hop
    | selectById hverify hkind hrows =>
      have hopen := (verifyTokenAt_ok.1 hverify).1
      simp only [historyOperations_sent, historyOperations_readClock, historyOperations_nil,
        Stmt.operation, if_pos hrows]
      cases a with
      | ok found =>
        cases hop
        cases found with
        | none => exact .inr (.inl (.unknown hopen hkind))
        | some user =>
          exact .inr (.inr ⟨_, @Completes.refresh K _ _ _ _ user.account "" 0 hopen hkind, _, rfl⟩)
      | error x => cases hop
    | revoke hverify hkind =>
      cases a with
      | ok rows =>
        cases hop
        exact .inr (.inr ⟨_, .logout (verifyTokenAt_ok.1 hverify).1 hkind, [], rfl⟩)
      | error x => cases hop
    | store hacts =>
      cases a with
      | ok _ =>
        cases hop
        exact .inr (.inr ⟨_, hacts.completes _ _, [], List.append_nil _⟩)
      | error x => cases hop

theorem Issues.completes_iff {r : Except ServirError TokenResponse}
    (hissue : Issues K config req h r) :
    (∃ resp, r = .ok resp) ↔ Completes K config.secret req (historyOperations h) := by
  have hshort : (historyOperations h).length < req.scriptLength →
      ¬ Completes K config.secret req (historyOperations h) :=
    fun hlt hs => absurd hs.length hlt.ne
  cases hissue with
  | emptyUsername | weakPassword | hashFailed | lookupFailed | unknownUser | malformedHash
  | wrongPassword | rejected | wrongKind | consumeFailed | replayed =>
    exact iff_of_false (by simp) (hshort (by simp [Stmt.operation, Request.scriptLength]))
  | @createFailed body salt hash id n e =>
    refine iff_of_false (by simp) (hshort ?_)
    cases e <;> simp [Stmt.operation, Request.scriptLength]
  | findFailed hverify hkind hrows | userNotFound hverify hkind hrows =>
    refine iff_of_false (by simp) (hshort ?_)
    simp [Stmt.operation, Request.scriptLength, hrows]
  | accessUnsigned hacts | refreshUnsigned hacts =>
    exact iff_of_false (by simp) hacts.not_completes
  | storeFailed hacts =>
    refine iff_of_false (by simp) ?_
    simpa [Stmt.operation] using hacts.not_completes
  | issued hacts =>
    refine iff_of_true ⟨_, rfl⟩ ?_
    rw [historyOperations_sent]
    exact hacts.completes _ _

theorem Revokes.completes_iff {body : LogoutRequest} {r : Except ServirError Unit}
    (hrevoke : Revokes K config body h r) :
    r = .ok () ↔ Completes K config.secret (.logout body) (historyOperations h) := by
  cases hrevoke with
  | revoked hverify hkind =>
    exact iff_of_true rfl (.logout (verifyTokenAt_ok.1 hverify).1 hkind)
  | _ =>
    refine iff_of_false (by simp) (fun hs => ?_)
    have hlength := hs.length
    simp [Stmt.operation, Request.scriptLength] at hlength

theorem Replies.completes_iff (hrep : Replies K api req h o) (hwrites : req.writes = true) :
    o.error = none ↔ Completes K api.routes.secret req (historyOperations h) := by
  cases hrep with
  | @tokens _ _ r hissue =>
    rw [← hissue.completes_iff]
    cases r <;> simp [Outcome.error]
  | @loggedOut _ _ r hrevoke =>
    rw [← hrevoke.completes_iff]
    cases r <;> simp [Outcome.error]
  | identity => cases hwrites
  | accepted => cases hwrites

/-- At any time a request is within its script. -/
theorem Traces.within (h : Traces K A sh log) (hj : .spawned t (.request s api req) ∈ log) :
    Within K api.routes.secret req (historyOperations (history t log)) := by
  induction log generalizing sh with
  | nil => cases hj
  | cons ev log ih =>
    obtain ⟨sh₀, h₀⟩ : ∃ sh₀, Traces K A sh₀ log := by
      rw [← List.singleton_append] at h
      exact Traced.before h
    cases ev with
    | spawned t' job =>
      rw [history_spawned]
      rcases List.mem_cons.1 hj with he | hj
      · cases he
        rw [← List.nil_append (_ :: _)] at h
        rw [history_eq_nil (Traced.admitted h).2]
        exact .inl rfl
      · exact ih h₀ hj
    | performed t' e a =>
      have hj₀ : .spawned t (.request s api req) ∈ log := by simpa using hj
      by_cases ht : t' = t
      · subst ht
        rw [history_self]
        rw [← List.nil_append (_ :: _)] at h
        exact (Traces.attempted_by h hj₀).within (ih h₀ hj₀)
      · rw [history_ne ht]
        exact ih h₀ hj₀
    | replied t' o => exact ih h₀ (by simpa using hj)
    | dropped t' => exact ih h₀ (by simpa using hj)

/-- Every request keeps to the script of its kind, and a request that writes is answered OK
exactly if its script is complete. -/
theorem request_scripted {σ : Pool (service K)} (h : Reachable K A σ)
    (hj : .spawned t (.request s api req) ∈ σ.log) :
    Within K api.routes.secret req (ownOperations σ.log t) ∧
      ∀ o, .replied t o ∈ σ.log → req.writes = true →
        (o.error = none ↔ Completes K api.routes.secret req (ownOperations σ.log t)) := by
  have ht := h.traces
  rw [ownOperations_eq]
  refine ⟨ht.within hj, fun o ho hwrites => ?_⟩
  have hrep : Replies K api req (history t σ.log) o := Traced.replied ht hj ho
  exact hrep.completes_iff hwrites

theorem request_scripted_refreshed : ∃ σ : Pool (service Transparent.crypto),
    Reachable Transparent.crypto Unrestricted σ ∧ Completes Transparent.crypto Scenario.secret
      (.refresh ⟨Scenario.token (Scenario.ann 105 "r1")⟩) (ownOperations σ.log 2) := by
  open Scenario in
  obtain ⟨σ, hσ, hj, ho⟩ := Scenario.reach Unrestricted
    (starting ++ registering 1 "ann" "password" 105 "id" "a1" "r1" ++
      consuming 2 (token (ann 105 "r1")) 106 ++ rotating 2 107 "a2" "r2")
    (fun σ => .spawned 2 (.request 0 Scenario.api (.refresh ⟨token (ann 105 "r1")⟩)) ∈ σ.log ∧
      .replied 2 (.tokens (.ok ⟨accessToken "id" "ann" 107 "a2", token (ann 107 "r2"), "Bearer"⟩)) ∈
        σ.log)
    (by decide +kernel)
  exact ⟨σ, hσ, ((request_scripted hσ hj).2 _ ho rfl).1 rfl⟩

end Servir
