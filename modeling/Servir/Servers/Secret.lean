import Servir.Runs.Scenario

/-!
# The signing secret

A server loads the secret or stores one of its own. The primary key of
`auth_config` lets one insert through, and a caller that loses the race returns
an error, so every server that is built carries the stored secret. The error is
also the price: the loser does not read the secret that won.
-/

namespace Servir
open Interleaving

variable {K : Crypto} {A : Assumption (service K)} {sh : Shared} {log later earlier : Trail}
  {t : ℕ} {b : ServerBuilder} {secret : String}

/-- 64 lowercase hexadecimal digits. -/
def IsHex64 (s : String) : Prop := s.length = 64 ∧ ∀ c ∈ s.toList, c ∈ "0123456789abcdef".toList

theorem digitChar_mem {n : ℕ} (h : n < 16) : Nat.digitChar n ∈ "0123456789abcdef".toList := by
  interval_cases n <;> decide

theorem hexEncode_isHex64 (bytes : Vector UInt8 32) : IsHex64 (hexEncode bytes) := by
  constructor
  · rw [hexEncode, String.length_ofList, List.length_flatMap]
    simp
  · intro c hc
    rw [hexEncode, String.toList_ofList, List.mem_flatMap] at hc
    obtain ⟨byte, -, hc⟩ := hc
    have hbyte := byte.toNat_lt
    rcases List.mem_pair.1 hc with rfl | rfl
    · exact digitChar_mem (by omega)
    · exact digitChar_mem (by omega)

namespace Traces

theorem generating {r : Except SqlxError Unit}
    (h : Traces K A sh (later ++ ran t (.insertSigningSecret secret) r :: earlier)) :
    ∃ b bytes, .spawned t (.build b) ∈ earlier ∧ secret = hexEncode bytes ∧
      history t earlier = [drewBytes bytes, sent .selectSigningSecret (.ok none)] := by
  obtain ⟨job, hj, ha⟩ := Traced.attempted_at h
  cases job with
  | build b =>
    change BuildAttempts (history t earlier) _ at ha
    generalize history t earlier = past at ha ⊢
    cases ha with
    | insert => exact ⟨b, _, hj, rfl, rfl⟩
  | request s api req =>
    change Attempts K api.routes req (history t earlier) _ at ha
    generalize history t earlier = past at ha
    cases ha

theorem configured_hex (h : Traces K A sh log) (hv : Configured log secret) : IsHex64 secret := by
  obtain ⟨t, hmem⟩ := hv
  obtain ⟨later, earlier, rfl⟩ := List.append_of_mem hmem
  obtain ⟨b, bytes, -, rfl, -⟩ := generating h
  exact hexEncode_isHex64 bytes

theorem encoded_configured (h : Traces K A sh log) {c : Claims} {r : Except String String}
    (hr : encoded t secret c r ∈ log) : Configured log secret := by
  obtain ⟨later, earlier, rfl⟩ := List.append_of_mem hr
  obtain ⟨s, api, req, -, -, -, -, hj, rfl, -⟩ := signing h
  obtain ⟨b, secret', rfl, hs⟩ := request_api h (earlier_subset hj)
  exact hs

/-- The insert of a secret that meets no fault succeeds exactly if no secret is stored. -/
theorem inserted_iff {r : Except SqlxError Unit}
    (h : Traces K A sh (later ++ ran t (.insertSigningSecret secret) r :: earlier))
    (hr : ∀ display, r ≠ .error (.fault display)) :
    r = .ok () ↔ ∀ v, ¬ Configured earlier v := by
  obtain ⟨display, hd⟩ | ⟨db, hdb, ha⟩ := executed h
  · exact absurd hd (hr display)
  · obtain ⟨⟨code, column, he⟩, -, row, hrow, -⟩ | ⟨hok, hfree, -⟩ :=
      db.insertConfig_cases ⟨signingSecretKey, secret⟩
    · simp only [Stmt.exec, he] at ha
      subst ha
      exact iff_of_false (by simp) (fun hnone => hnone _ ((hdb.config row).1 hrow).2)
    · simp only [Stmt.exec, hok] at ha
      subst ha
      refine iff_of_true rfl (fun v hv => hfree ⟨⟨signingSecretKey, v⟩, ?_, rfl⟩)
      exact (hdb.config _).2 ⟨rfl, hv⟩

end Traces

/-- All calls that return a secret return the one that is stored, for ever, and nothing is signed or
verified under another one. -/
theorem secret_agreed_for_ever {σ : Pool (service K)} (h : Reachable K Unrestricted σ) :
    (∀ t t' v v', Loaded σ.log t v → Loaded σ.log t' v' → v = v') ∧
    (∀ t v, Loaded σ.log t v → IsHex64 v ∧
      ∀ r, r ∈ σ.shared.db.authConfig ↔ r = ⟨signingSecretKey, v⟩) ∧
    (∀ ls σ', Path Unrestricted σ ls σ' →
      ∀ r ∈ σ.shared.db.authConfig, r ∈ σ'.shared.db.authConfig) ∧
    (∀ t api, .replied t (.built (.ok api)) ∈ σ.log →
      Loaded σ.log t api.routes.secret ∧ Loaded σ.log t api.layer.secret) ∧
    (∀ t s api req, .spawned t (.request s api req) ∈ σ.log → ∀ t' v, Loaded σ.log t' v →
      api.routes.secret = v ∧ api.layer.secret = v) ∧
    (∀ t secret c r, encoded t secret c r ∈ σ.log → secret ≠ "" ∧
      ⟨signingSecretKey, secret⟩ ∈ σ.shared.db.authConfig) := by
  have ht := h.traces
  have hrec := ht.recorded
  refine ⟨?_, ?_, ?_, ?_, ?_, ?_⟩
  · intro t t' v v' hl hl'
    exact ht.configured_unique (ht.loaded_configured hl) (ht.loaded_configured hl')
  · intro t v hl
    have hv := ht.loaded_configured hl
    refine ⟨ht.configured_hex hv, fun r => ⟨fun hr => ?_, ?_⟩⟩
    · obtain ⟨hkey, hvalue⟩ := (hrec.config r).1 hr
      exact ConfigRow.ext hkey (ht.configured_unique hvalue hv)
    · rintro rfl
      exact (hrec.config _).2 ⟨rfl, hv⟩
  · intro ls σ' hp r hr
    obtain ⟨hkey, hvalue⟩ := (hrec.config r).1 hr
    have hrec' := (Reachable.traces (h.path hp)).recorded
    exact (hrec'.config r).2 ⟨hkey, hvalue.mono hp.log_suffix.subset⟩
  · intro t api hb
    obtain ⟨b, secret, rfl, hl⟩ := ht.built_loaded hb
    exact ⟨hl, hl⟩
  · intro t s api req hj t' v hl
    obtain ⟨b, secret, rfl, hs⟩ := ht.request_api hj
    obtain rfl := ht.configured_unique hs (ht.loaded_configured hl)
    exact ⟨rfl, rfl⟩
  · intro t secret c r hr
    have hs := ht.encoded_configured hr
    refine ⟨?_, (hrec.config _).2 ⟨rfl, hs⟩⟩
    rintro rfl
    exact absurd (ht.configured_hex hs).1 (by decide)

open Scenario in
/-- Two servers start at once and find no secret; the one that inserts second fails, and a restart
loads the secret of the other. -/
theorem reach_raced_starts : ∃ σ : Pool (service Transparent.crypto),
    Reachable Transparent.crypto NoFaults σ ∧
    (.spawned 0 (.build ⟨none, none⟩) ∈ σ.log ∧
      ran 0 (.insertSigningSecret Scenario.secret) (.ok ()) ∈ σ.log ∧
      .replied 0 (.built (.ok Scenario.api)) ∈ σ.log) ∧
    (.spawned 1 (.build ⟨none, none⟩) ∈ σ.log ∧
      .replied 1 (.built (.error (.db (.unknown "store_signing_secret"
        (SqlxError.uniqueViolation 1555 "auth_config.key").display)))) ∈ σ.log) ∧
    ran 2 .selectSigningSecret (.ok (some Scenario.secret)) ∈ σ.log ∧
    .replied 2 (.built (.ok Scenario.api)) ∈ σ.log ∧
    ⟨signingSecretKey, Scenario.secret⟩ ∈ σ.shared.db.authConfig :=
  Scenario.reach NoFaults
    (.spawn 0 (.build ⟨none, none⟩) :: .spawn 1 (.build ⟨none, none⟩) ::
      answering 0 [.execute, .bytes secretBytes] ++
      answering 1 [.execute, .bytes (Vector.replicate 32 7)] ++ answering 0 [.execute] ++
      [.reply 0] ++ answering 1 [.execute] ++ [.reply 1] ++ .spawn 2 (.build ⟨none, none⟩) ::
      answering 2 [.execute] ++ [.reply 2])
    (fun σ => (.spawned 0 (.build ⟨none, none⟩) ∈ σ.log ∧
        ran 0 (.insertSigningSecret Scenario.secret) (.ok ()) ∈ σ.log ∧
        .replied 0 (.built (.ok Scenario.api)) ∈ σ.log) ∧
      (.spawned 1 (.build ⟨none, none⟩) ∈ σ.log ∧
        .replied 1 (.built (.error (.db (.unknown "store_signing_secret"
          (SqlxError.uniqueViolation 1555 "auth_config.key").display)))) ∈ σ.log) ∧
      ran 2 .selectSigningSecret (.ok (some Scenario.secret)) ∈ σ.log ∧
      .replied 2 (.built (.ok Scenario.api)) ∈ σ.log ∧
      ⟨signingSecretKey, Scenario.secret⟩ ∈ σ.shared.db.authConfig) (by decide +kernel)

/-- Of two starts at once one stores its secret, and a restart loads it. -/
theorem secret_agreed_for_ever_raced : ∃ σ : Pool (service Transparent.crypto),
    Reachable Transparent.crypto Unrestricted σ ∧
    (∃ e, .replied 1 (.built (.error e)) ∈ σ.log) ∧
    Loaded σ.log 0 Scenario.secret ∧ Loaded σ.log 2 Scenario.secret ∧
    ∀ r, r ∈ σ.shared.db.authConfig ↔ r = ⟨signingSecretKey, Scenario.secret⟩ := by
  obtain ⟨σ, hσ, ⟨-, hfirst, -⟩, ⟨-, hlost⟩, hrestart, -⟩ := reach_raced_starts
  have h : Reachable Transparent.crypto Unrestricted σ := hσ.mono (fun _ _ _ _ => trivial)
  exact ⟨σ, h, ⟨_, hlost⟩, .inr hfirst, .inl hrestart,
    ((secret_agreed_for_ever h).2.1 0 _ (.inr hfirst)).2⟩

/-- The call of task `t` sent its insert when a secret was stored already. -/
def InsertedLate (log : Trail) (t : ℕ) : Prop :=
  ∃ later earlier secret stored r, log = later ++ ran t (.insertSigningSecret secret) r :: earlier ∧
    Configured earlier stored

private theorem start_reply (h : Traces K NoFaults sh log) (hj : .spawned t (.build b) ∈ log)
    {o : Outcome} (ho : .replied t o ∈ log) :
    (∃ api, o = .built (.ok api) ∧ ¬ InsertedLate log t) ∨
      ((∀ api, o ≠ .built (.ok api)) ∧ InsertedLate log t) := by
  obtain ⟨r, rfl, hbuild⟩ : ∃ r, o = .built r ∧ Builds b (history t log) r :=
    Traced.replied h hj ho
  generalize hpast : history t log = past at hbuild
  have hmem : ∀ {x : Entry signature}, x ∈ past → .performed t x.effect x.answer ∈ log :=
    fun hx => mem_history.1 (hpast ▸ hx)
  have hlate : InsertedLate log t → ∃ later earlier secret stored r, log =
      later ++ ran t (.insertSigningSecret secret) r :: earlier ∧ Configured earlier stored ∧
        sent (.insertSigningSecret secret) r ∈ past := by
    rintro ⟨later, earlier, secret, stored, r, hlog, hs⟩
    exact ⟨later, earlier, secret, stored, r, hlog, hs, hpast ▸ mem_history.2 (by simp [hlog])⟩
  cases hbuild with
  | @selectFailed e =>
    have hselect := hmem List.mem_cons_self
    obtain ⟨later, earlier, rfl⟩ := List.append_of_mem hselect
    have hfault : ∀ display, e ≠ .fault display := by
      rintro display rfl
      exact Traces.not_fault le_rfl h _ _ display hselect
    simpa using h.failed hfault
  | loaded =>
    refine .inl ⟨_, rfl, fun hl => ?_⟩
    obtain ⟨later, earlier, secret, stored, r, hlog, hs, hx⟩ := hlate hl
    simp at hx
  | @insertFailed bytes e =>
    have hinsert := hmem List.mem_cons_self
    obtain ⟨later, earlier, hlog⟩ := List.append_of_mem hinsert
    have hfault : ∀ display, (.error e : Except SqlxError Unit) ≠ .error (.fault display) := by
      rintro display he
      cases he
      exact Traces.not_fault le_rfl h _ _ display hinsert
    have hnot := (Traces.inserted_iff (hlog ▸ h) hfault).not.1 (by simp)
    obtain ⟨stored, hs⟩ := not_forall_not.1 hnot
    exact .inr ⟨by simp, later, earlier, _, stored, _, hlog, hs⟩
  | @generated bytes =>
    refine .inl ⟨_, rfl, fun hl => ?_⟩
    obtain ⟨later, earlier, secret, stored, r, hlog, hs, hx⟩ := hlate hl
    have hr : sent (.insertSigningSecret secret) r =
        sent (.insertSigningSecret (hexEncode bytes)) (.ok ()) := by simpa using hx
    cases hr
    exact (Traces.inserted_iff (hlog ▸ h) (by simp)).1 rfl stored hs

/-- A start returns the stored secret exactly if no other start stored one between its select and
its insert. -/
theorem start_ok_iff {σ : Pool (service K)} (h : Reachable K NoFaults σ) :
    (∀ t b o, .spawned t (.build b) ∈ σ.log → .replied t o ∈ σ.log →
      ((∃ api, o = .built (.ok api) ∧
        ⟨signingSecretKey, api.routes.secret⟩ ∈ σ.shared.db.authConfig) ↔
          ¬ InsertedLate σ.log t)) ∧
    ∀ t job, Open σ.log t job → ∃ ls σ' o, Path NoFaults σ ls σ' ∧ (∀ l ∈ ls, l.task = t) ∧
      .replied t o ∈ σ'.log := by
  have ht := h.traces
  refine ⟨fun t b o hj ho => ?_, fun t job ho => ?_⟩
  · obtain ⟨api, rfl, hin⟩ | ⟨herror, hlate⟩ := start_reply ht hj ho
    · obtain ⟨b', secret, rfl, hs⟩ := ht.built_secret ho
      exact iff_of_true ⟨_, rfl, (ht.recorded.config _).2 ⟨rfl, hs⟩⟩ hin
    · refine iff_of_false ?_ (not_not_intro hlate)
      rintro ⟨api, rfl, -⟩
      exact herror api rfl
  · exact Reach.completes (service_follows K) (responsive.mono (fun _ _ _ hA => hA.1.1)) h ho

/-- Of two starts at once the one that inserts first returns the secret that it stored. -/
theorem start_ok_iff_raced : ∃ σ : Pool (service Transparent.crypto),
    Reachable Transparent.crypto NoFaults σ ∧
    .replied 0 (.built (.ok Scenario.api)) ∈ σ.log ∧ ¬ InsertedLate σ.log 0 ∧
    (∃ e, .replied 1 (.built (.error e)) ∈ σ.log) ∧ InsertedLate σ.log 1 := by
  obtain ⟨σ, hσ, ⟨hj, -, ho⟩, ⟨hj', ho'⟩, -, -, hrow⟩ := reach_raced_starts
  have hiff := (start_ok_iff hσ).1
  have hearly := (hiff 0 _ _ hj ho).1 ⟨_, rfl, hrow⟩
  have hlate : InsertedLate σ.log 1 := by
    by_contra hnot
    obtain ⟨api, he, -⟩ := (hiff 1 _ _ hj' ho').2 hnot
    cases he
  exact ⟨σ, hσ, ho, hearly, ⟨_, ho'⟩, hlate⟩

/-- Two starts find no secret; the one that inserts second fails with DB_UNKNOWN. -/
theorem start_fails_in_race : ∃ σ : Pool (service Transparent.crypto),
    Reachable Transparent.crypto NoFaults σ ∧ (∃ api, .replied 0 (.built (.ok api)) ∈ σ.log) ∧
    ∃ e, .replied 1 (.built (.error e)) ∈ σ.log ∧ e.errorId = "DB_UNKNOWN" := by
  obtain ⟨σ, hσ, ⟨-, -, hfirst⟩, ⟨-, hsecond⟩, -⟩ := reach_raced_starts
  exact ⟨σ, hσ, ⟨_, hfirst⟩, _, hsecond, rfl⟩

end Servir
