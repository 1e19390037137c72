import Servir.Db.Reads
import Servir.Interleaving.Erasure
import Servir.Runs.Assumptions

/-!
# Erasing requests from a run

Requests can be erased from a run without a difference for the rest, if every
statement of the rest reads the same rows without them. The builds stay: a
request needs a server, and the servers share a secret.
-/

namespace Servir
open Interleaving

variable {K : Crypto} {A B : Assumption (service K)} {sh : Shared} {log whole : Trail}
  {keep : ℕ → Bool}

/-- No build is erased. -/
def KeepsBuilds (keep : ℕ → Bool) (log : Trail) : Prop :=
  ∀ t b, .spawned t (.build b) ∈ log → keep t = true

/-- A row is stored just as before if no erased event removes or inserts it. -/
theorem kept_stored_iff {r : RefreshTokenRow}
    (h : ∀ later ev earlier, log = later ++ ev :: earlier → keep ev.task = false →
      (Stored earlier r → ¬ Removes ev r) ∧ ∀ t, ev ≠ insertion t r) :
    Stored (kept keep log) r ↔ Stored log r := by
  induction log with
  | nil => rfl
  | cons ev log ih =>
    have hih : Stored (kept keep log) r ↔ Stored log r :=
      ih (fun later ev' earlier hlog => h (ev :: later) ev' earlier (by simp [hlog]))
    cases hkeep : keep ev.task with
    | true =>
      rw [kept_cons_of_keep hkeep]
      simp only [Stored, hih]
    | false =>
      rw [kept_cons_of_erased hkeep, hih]
      obtain ⟨hrem, hins⟩ := h [] ev log rfl hkeep
      constructor
      · exact fun hst => .inl ⟨hst, hrem hst⟩
      · rintro (⟨hst, -⟩ | ⟨t, rfl⟩)
        · exact hst
        · exact absurd rfl (hins t)

namespace Traces

theorem kept_configured (hw : Traces K A sh whole) (hbuilds : KeepsBuilds keep whole)
    (hsub : log ⊆ whole) (value : String) :
    Configured (kept keep log) value ↔ Configured log value := by
  refine ⟨fun h => h.mono kept_subset, ?_⟩
  rintro ⟨t, hmem⟩
  refine ⟨t, mem_kept.2 ⟨hmem, ?_⟩⟩
  obtain ⟨later, earlier, hlog⟩ := List.append_of_mem (hsub hmem)
  obtain ⟨job, hj, ha⟩ := Traced.attempted_at (hlog ▸ hw)
  cases job with
  | build b => exact hbuilds t b (hlog ▸ earlier_subset hj)
  | request s api req =>
    change Attempts K api.routes req (history t earlier) _ at ha
    generalize history t earlier = past at ha
    cases ha

theorem kept_admits (hw : Traces K A sh whole) (hbuilds : KeepsBuilds keep whole)
    (hsub : log ⊆ whole) {job : Job} (h : (service K).admits log job = true) :
    (service K).admits (kept keep log) job = true := by
  cases job with
  | build b => rfl
  | request s api req =>
    have hbuilt : .replied s (.built (.ok api)) ∈ log := hasBuilt_iff.1 h
    refine hasBuilt_iff.2 (mem_kept.2 ⟨hbuilt, ?_⟩)
    obtain ⟨job, hj⟩ := Traced.open_of_event hw (hsub hbuilt)
    have hr := Traced.replied hw hj (hsub hbuilt)
    cases job with
    | build b => exact hbuilds s b hj
    | request s' api' req' => cases hr

/-- What remains does not depend on the erased requests if its statements read the same rows. -/
theorem independent_of_agree (hw : Traces K A sh whole) (hbuilds : KeepsBuilds keep whole)
    (hallowed : ∀ sh sh' log ev, A sh log ev → B sh' (kept keep log) ev)
    (hagree : ∀ {log t q x db db'}, ran t q x :: log <:+ whole → keep t = true →
      Recorded db log → Recorded db' (kept keep log) → q.Agree db db') :
    Independent (protocol K) A B Shared.init keep [] [] whole where
  allowed sh₀ sh' log ev h := by
    simp only [List.append_nil] at h ⊢
    exact hallowed sh₀ sh' log ev h
  admitted log t job hsub _ hadmits := by
    simp only [List.append_nil] at hsub hadmits ⊢
    exact kept_admits hw hbuilds ((List.suffix_cons _ log).trans hsub).subset hadmits
  answered sh₀ sh' log t e c x sh₁ hsub hkeep h₀ h' hr := by
    simp only [List.append_nil] at hsub h₀ h'
    refine respond_congr hr (fun s he hs => ?_) ?_
    · cases he
      obtain ⟨t', ht'⟩ := (drawn_iff h' s).1 hs
      obtain ⟨later, rfl⟩ := hsub
      exact draw_fresh hw (kept_subset ht')
    · rintro q rfl
      exact (Stmt.exec_congr (hagree hsub hkeep (recorded h₀) (recorded h'))).symm

end Traces
end Servir
