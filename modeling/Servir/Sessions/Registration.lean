import Servir.Runs.Erasure
import Servir.Sessions.Credentials

/-!
# A registration that fails

`register` inserts its row of `users` first, and nothing takes it back. Up to
that insert a failed registration leaves no trace, so it can be erased from the
run and made again. After it the username is taken, with or without a session.
-/

namespace Servir
open Interleaving

variable {K : Crypto} {A : Assumption (service K)} {sh : Shared} {log whole : Trail}
  {t s : ℕ} {api : Api} {body : RegisterRequest}

/-- Task `t` committed no row of `users`. -/
def Uncommitted (log : Trail) (t : ℕ) : Prop := ∀ r, ¬ Created log t r

theorem kept_registered_iff (h : Uncommitted log t) (r : UserRow) :
    Registered (kept (fun t' => t' != t) log) r ↔ Registered log r := by
  refine ⟨fun hr => hr.mono kept_subset, ?_⟩
  rintro ⟨t', hc⟩
  refine ⟨t', mem_kept.2 ⟨hc, bne_iff_ne.2 ?_⟩⟩
  rintro rfl
  exact h r hc

namespace Traces

theorem register_idle {later earlier : Trail} {ev : Happening}
    (h : Traces K A sh (later ++ ev :: earlier))
    (hj : .spawned ev.task (.request s api (.register body)) ∈ later ++ ev :: earlier)
    (hnone : Uncommitted (later ++ ev :: earlier) ev.task) (r : RefreshTokenRow) :
    ¬ Removes ev r ∧ ∀ t, ev ≠ insertion t r := by
  constructor
  · rintro (⟨t, now, rows, rfl, -⟩ | ⟨t, rows, rfl⟩)
    · obtain ⟨s', api', body', c, n, n', hj', -⟩ := consuming h
      cases Traced.spawned_unique h hj (earlier_subset hj')
    · obtain ⟨s', api', body', c, n, hj', -⟩ := revoking h
      cases Traced.spawned_unique h hj (earlier_subset hj')
  · rintro t rfl
    obtain ⟨s', api', req, h₀, user, n, n', n₁, n₂, jti, tok, tok', hj', hacts, -, -, -, hpast⟩ :=
      storing h
    cases Traced.spawned_unique h hj (earlier_subset hj')
    cases hacts with
    | @register _ salt hash id m =>
      have hmem : Created earlier t ⟨id, body.username, hash, m.toInt64⟩ :=
        mem_history.1 (by simp [hpast, refreshPast, accessPast])
      exact hnone _ (hmem.mono earlier_subset)

theorem created_username (h : Traces K A sh log) {r : UserRow}
    (hj : .spawned t (.request s api (.register body)) ∈ log) (hc : Created log t r) :
    r.username = body.username := by
  obtain ⟨later, earlier, rfl⟩ := List.append_of_mem hc
  obtain ⟨s', api', body', salt, n, hj', hname, -⟩ := creating h
  cases Traced.spawned_unique h hj (earlier_subset hj')
  exact hname

theorem registered_by_reply (h : Traces K A sh log) {resp : TokenResponse}
    (hj : .spawned t (.request s api (.register body)) ∈ log)
    (ho : .replied t (.tokens (.ok resp)) ∈ log) :
    ∃ r, Created log t r ∧ r.username = body.username := by
  obtain ⟨h₀, user, n, n', n₁, n₂, jti, jti', hacts, -, hpast⟩ := answered_tokens h hj ho
  cases hacts with
  | @register _ salt hash id m =>
    refine ⟨⟨id, body.username, hash, m.toInt64⟩, ?_, rfl⟩
    exact mem_history.1 (by simp [hpast, refreshPast, accessPast])

variable (hw : Traces K A sh whole) (hj : .spawned t (.request s api (.register body)) ∈ whole)
include hw hj

theorem builds_without_register : KeepsBuilds (fun t' => t' != t) whole := by
  intro t' b hj'
  apply bne_iff_ne.2
  rintro rfl
  cases Traced.spawned_unique hw hj hj'

theorem kept_stored_register (hnone : Uncommitted whole t) (hsub : log <:+ whole)
    (r : RefreshTokenRow) : Stored (kept (fun t' => t' != t) log) r ↔ Stored log r := by
  refine kept_stored_iff (fun later ev earlier hlog hkeep => ?_)
  obtain rfl : ev.task = t := by simpa using hkeep
  obtain ⟨l, rfl⟩ := hsub
  rw [hlog, ← List.append_assoc] at hw hj hnone
  obtain ⟨hrem, hins⟩ := register_idle hw hj hnone r
  exact ⟨fun _ => hrem, hins⟩

theorem independent_of_register (hnone : Uncommitted whole t) :
    Independent (protocol K) A Unrestricted Shared.init (fun t' => t' != t) [] [] whole := by
  have hbuilds := builds_without_register hw hj
  refine hw.independent_of_agree hbuilds (fun _ _ _ _ _ => trivial)
    (fun {log t' q x db db'} hsub _ hdb hdb' => ⟨fun r _ => ?_, fun r _ => ?_, fun r _ => ?_⟩)
  all_goals have hlog := (List.suffix_cons _ log).trans hsub
  · rw [hdb.users, hdb'.users]
    exact (kept_registered_iff (fun r' hc => hnone r' (hc.mono hlog.subset)) r).symm
  · rw [hdb.tokens, hdb'.tokens]
    exact (hw.kept_stored_register hj hnone hlog r).symm
  · rw [hdb.config, hdb'.config, hw.kept_configured hbuilds hlog.subset]

end Traces

/-- A registration is all or nothing up to its insert. If that took no effect, the tables are as if the
request had never been made, and its username can be registered. If it did, the user stays. -/
theorem registration_unmade {σ : Pool (service K)} {ls : List (Label (service K))}
    (hp : Path Unrestricted (.start Shared.init) ls σ)
    (hj : .spawned t (.request s api (.register body)) ∈ σ.log) :
    (Uncommitted σ.log t →
      (∃ σ', Path Unrestricted (.start Shared.init) (ls.filter (fun l => l.task != t)) σ' ∧
        σ'.log = kept (fun t' => t' != t) σ.log ∧
        (∀ r, r ∈ σ'.shared.db.users ↔ r ∈ σ.shared.db.users) ∧
        ∀ r, r ∈ σ'.shared.db.refreshTokens ↔ r ∈ σ.shared.db.refreshTokens) ∧
      ∀ t' s' api' body', .spawned t' (.request s' api' (.register body')) ∈ σ.log →
        body'.username = body.username → body'.username ≠ "" →
        8 ≤ body'.password.utf8ByteSize → FaultFree K σ.log t' →
        (∀ t₀ r, Created σ.log t₀ r → r.username = body.username → t₀ = t ∨ t₀ = t') →
        (∀ o, .replied t' o ∈ σ.log → ∃ resp, o = .tokens (.ok resp)) ∧
        ∀ job, Open σ.log t' job → ∃ ls' σ' o, Path NoFaults σ ls' σ' ∧
          (∀ l ∈ ls', l.task = t') ∧ .replied t' o ∈ σ'.log) ∧
    ∀ r, Created σ.log t r → r.username = body.username ∧
      ∀ ls' σ', Path Unrestricted σ ls' σ' → r ∈ σ'.shared.db.users ∧
        ∀ t' s' api' body' resp, .spawned t' (.request s' api' (.register body')) ∈ σ'.log →
          body'.username = body.username → .replied t' (.tokens (.ok resp)) ∈ σ'.log → t' = t := by
  have hσ : Reachable K Unrestricted σ := ⟨ls, hp⟩
  have ht := hσ.traces
  refine ⟨fun hnone => ⟨?_, ?_⟩, fun r hc => ⟨?_, fun ls' σ' hp' => ⟨?_, ?_⟩⟩⟩
  · obtain ⟨σ', hpath, ⟨new, hnew, hlog⟩, -⟩ := Path.erase (service_follows K)
      (ht.independent_of_register hj hnone) ⟨[], .nil _⟩ ⟨[], .nil _⟩ .start hp (List.suffix_refl _)
    rw [List.append_nil] at hnew hlog
    subst new
    have hrec := ht.recorded
    have hrec' := (Reachable.traces ⟨_, hpath⟩).recorded
    rw [hlog] at hrec'
    refine ⟨σ', hpath, hlog, fun r => ?_, fun r => ?_⟩
    · rw [hrec.users, hrec'.users]
      exact kept_registered_iff hnone r
    · rw [hrec.tokens, hrec'.tokens]
      exact ht.kept_stored_register hj hnone (List.suffix_refl _) r
  · intro t' s' api' body' hj' hname huser hlong hf hthird
    refine ⟨fun o ho => ?_, fun job hrun => Reach.completes (service_follows K)
      (responsive.mono (fun _ _ _ hA => hA.1.1)) hσ hrun⟩
    obtain ⟨hok, -⟩ | ⟨-, htaken⟩ := ht.register_reply hj' huser hlong hf ho
    · exact hok
    · obtain ⟨t₀, r, hne, hc, hname'⟩ := ht.taken_other htaken
      obtain rfl | heq := hthird t₀ r hc (hname'.trans hname)
      · exact absurd hc (hnone r)
      · exact absurd heq hne
  · exact ht.created_username hj hc
  · have hc' : Created σ'.log t r := hc.mono hp'.log_suffix.subset
    exact ((Reachable.traces (hσ.path hp')).recorded.users r).2 ⟨t, hc'⟩
  · intro t' s' api' body' resp hj' hname ho
    have ht' := Reachable.traces (hσ.path hp')
    obtain ⟨r', hr', hname'⟩ := ht'.registered_by_reply hj' ho
    have hc' : Created σ'.log t r := hc.mono hp'.log_suffix.subset
    have heq : r'.username = r.username :=
      (hname'.trans hname).trans (ht.created_username hj hc).symm
    exact (ht'.created_unique hr' hc' heq).1

open Scenario in
/-- The insert of a first registration of `ann` fails, and a second one succeeds: the run without the
first has the same tables. -/
theorem registration_unmade_retried : ∃ (σ σ' : Pool (service Transparent.crypto)) (ls : Script),
    Reachable Transparent.crypto Unrestricted σ ∧ Path Unrestricted (.start Shared.init) ls σ' ∧
    .replied 1 (.tokens (.error (.db (.userCreate "ann" "busy")))) ∈ σ.log ∧
    (∃ resp, .replied 2 (.tokens (.ok resp)) ∈ σ.log) ∧ (∀ ev ∈ σ'.log, ev.task ≠ 1) ∧
    ∀ r, r ∈ σ'.shared.db.refreshTokens ↔ r ∈ σ.shared.db.refreshTokens := by
  obtain ⟨σ, ⟨ls, hp⟩, hj, hj', hfault, ho, ho', hfree, hc⟩ := Scenario.reach Unrestricted
    (starting ++ requesting 1 (.register ⟨"ann", "password"⟩) ++
      answering 1 [.salt "salt", .uuid "id", .reading 105, .fault "busy"] ++ [.reply 1] ++
      registering 2 "ann" "password" 106 "id2" "a1" "r1")
    (fun σ => .spawned 1 (.request 0 Scenario.api (.register ⟨"ann", "password"⟩)) ∈ σ.log ∧
      .spawned 2 (.request 0 Scenario.api (.register ⟨"ann", "password"⟩)) ∈ σ.log ∧
      ran 1 (.insertUser "id" "ann" (Transparent.hashPassword "salt" "password") 105)
        (.error (.fault "busy")) ∈ σ.log ∧
      .replied 1 (.tokens (.error (.db (.userCreate "ann" "busy")))) ∈ σ.log ∧
      .replied 2 (.tokens (.ok ⟨accessToken "id2" "ann" 106 "a1", token (claims "id2" "ann" 106 "r1"),
        "Bearer"⟩)) ∈ σ.log ∧ σ.log.all (fun ev => ev.task != 2 || !isFault ev) = true ∧
      Created σ.log 2 ⟨"id2", "ann", Transparent.hashPassword "salt" "password", 106⟩)
    (by decide +kernel)
  have hσ : Reachable Transparent.crypto Unrestricted σ := ⟨ls, hp⟩
  have ht := hσ.traces
  have hnone : Uncommitted σ.log 1 := by
    intro r hr
    have heq := ht.stage_unique hfault hr (by simp [Effect.stage]) rfl
    injection heq with _ _ hanswer
    cases hanswer
  have hfree' := ht.faultFree Transparent.crypto_tokenSound (fun _ _ => ⟨_, rfl⟩)
    (fun q display hmem => absurd (List.all_eq_true.1 hfree (ran 2 q (.error (.fault display))) hmem)
      (by simp [isFault, Event.task]))
  obtain ⟨⟨σ', hp', hlog, -, htokens⟩, hretry⟩ := (registration_unmade hp hj).1 hnone
  obtain ⟨hreply, -⟩ := hretry 2 _ _ _ hj' rfl (by decide) (by decide) hfree' (fun t₀ r hr hname =>
    .inr (ht.created_unique hr hc hname).1)
  obtain ⟨resp, hresp⟩ := hreply _ ho'
  refine ⟨σ, σ', _, hσ, hp', ho, ⟨resp, hresp ▸ ho'⟩, fun ev hev => ?_, htokens⟩
  rw [hlog] at hev
  exact bne_iff_ne.1 (mem_kept.1 hev).2

open Scenario in
/-- Only the refresh token of a registration fails to be stored: the user stays, and the next
registration of `ann` is refused. -/
theorem registration_not_undone : ∃ (σ₀ σ σ' : Pool (service Transparent.crypto)) (ls ls' : Script),
    Reachable Transparent.crypto (Monotone ⊓ Unforged) σ₀ ∧ (∀ r, r ∉ σ₀.shared.db.users) ∧
    Path (Monotone ⊓ Unforged) σ₀ ls σ ∧ (∀ l ∈ ls, l.task = 1) ∧ σ.log.countP isFault = 1 ∧
    .replied 1 (.tokens (.error (.db (.storeRefreshToken "ann" "busy")))) ∈ σ.log ∧
    (∃ r ∈ σ.shared.db.users, r.username = "ann") ∧
    Path (NoFaults ⊓ Monotone ⊓ Unforged) σ ls' σ' ∧
    .replied 2 (.tokens (.error (.authUser (.alreadyExists "ann"
      (SqlxError.uniqueViolation 2067 "users.username").display)))) ∈ σ'.log := by
  obtain ⟨σ₀, σ, hσ₀, hp, hempty, hcount, ho, hu, hagain⟩ :=
    Scenario.reach_then (Monotone ⊓ Unforged) starting
      (requesting 1 (.register ⟨"ann", "password"⟩) ++
        answering 1 [.salt "salt", .uuid "id", .reading 105, .execute, .reading 105, .uuid "a1", .compute,
          .reading 105, .uuid "r1", .compute, .reading 105, .reading 105, .fault "busy"] ++ [.reply 1])
      (fun σ₀ σ => σ₀.shared.db.users.rows = [] ∧ σ.log.countP isFault = 1 ∧
        .replied 1 (.tokens (.error (.db (.storeRefreshToken "ann" "busy")))) ∈ σ.log ∧
        ⟨"id", "ann", Transparent.hashPassword "salt" "password", 105⟩ ∈ σ.shared.db.users ∧
        (run (NoFaults ⊓ Monotone ⊓ Unforged) σ (requesting 2 (.register ⟨"ann", "password"⟩) ++
            answering 2 [.salt "salt", .uuid "id2", .reading 106, .execute] ++ [.reply 2])).any
          (fun σ' => decide (.replied 2 (.tokens (.error (.authUser (.alreadyExists "ann"
            (SqlxError.uniqueViolation 2067 "users.username").display)))) ∈ σ'.log)) = true)
      (by decide +kernel)
  obtain ⟨σ', hrun, hP⟩ := (Option.any_eq_true _ _).1 hagain
  have hnone : ∀ r, r ∉ σ₀.shared.db.users := by
    intro r hr
    change r ∈ σ₀.shared.db.users.rows at hr
    rw [hempty] at hr
    cases hr
  exact ⟨σ₀, σ, σ', _, _, hσ₀, hnone, hp, by decide, hcount, ho, ⟨_, hu, rfl⟩, path_of_run hrun,
    of_decide_eq_true hP⟩

end Servir
