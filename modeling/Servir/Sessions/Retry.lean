import Servir.Sessions.Refresh

/-!
# A refresh that fails

`refresh` deletes the row of its token first and stores the new one last, and
nothing puts the old row back. So a fault costs the client its session exactly
if the delete took effect before it. Otherwise the row is untouched and the
client can try again.
-/

namespace Servir
open Interleaving

variable {K : Crypto} {A : Assumption (service K)} {sh : Shared} {log later earlier new : Trail}
  {t s : ℕ} {api : Api} {body : RefreshRequest} {c : Claims} {r : RefreshTokenRow}

/-- In the events `new` nobody but task `t` removes the row `r`. -/
def OnlyRemover (new : Trail) (t : ℕ) (r : RefreshTokenRow) : Prop :=
  ∀ ev ∈ new, Removes ev r → ev.task = t

/-- Every refresh after the log that presents the token of `c` is answered with a new pair for the
user of the token, if it meets no fault, its readings are in time and nobody else removes the row. -/
def Retriable (K : Crypto) (σ : Pool (service K)) (body : RefreshRequest) (c : Claims)
    (r : RefreshTokenRow) : Prop :=
  ∀ ls σ' new t s api, Path Unrestricted σ ls σ' → σ'.log = new ++ σ.log →
    .spawned t (.request s api (.refresh body)) ∈ new → OnlyRemover new t r →
    FaultFree K σ'.log t →
    (∀ n, Checks σ'.log t n → n.toNat ≤ c.exp.toNat + leeway ∧ n.toInt64 < r.expiresAt) →
    (∀ o, .replied t o ∈ σ'.log → ∃ resp, o = .tokens (.ok resp) ∧
      ∃ u ∈ σ'.shared.db.users, u.id = c.sub ∧ TokensFor σ'.log t resp u) ∧
    ∀ job, Open σ'.log t job → ∃ ls' σ'' o, Path NoFaults σ' ls' σ'' ∧ (∀ l ∈ ls', l.task = t) ∧
      .replied t o ∈ σ''.log

namespace Traces

theorem removed_by_refresh {ev : Happening} (h : Traces K A sh (later ++ ev :: earlier))
    (hj : .spawned t (.request s api (.refresh body)) ∈ later ++ ev :: earlier) (ht : ev.task = t)
    (hst : Stored earlier r) (hrem : Removes ev r) :
    ∃ now rows, ev = ran t (.deleteRefreshToken r.jti now) (.ok rows) ∧ 0 < rows := by
  subst ht
  obtain ⟨t', now, rows, rfl, hnow⟩ | ⟨t', rows, rfl⟩ := hrem
  · exact ⟨now, rows, rfl, (consumed_iff h).2 ⟨r, hst, rfl, hnow⟩⟩
  · obtain ⟨s', api', body', c', n, hj', -⟩ := revoking h
    cases Traced.spawned_unique h hj (earlier_subset hj')

theorem kept_by_refresh (h : Traces K A sh (new ++ earlier))
    (hj : .spawned t (.request s api (.refresh body)) ∈ new ++ earlier)
    (hothers : OnlyRemover new t r) (hst : Stored earlier r)
    (hnot : ¬ Consumed (new ++ earlier) t r.jti) : Stored (new ++ earlier) r := by
  by_contra hgone
  obtain ⟨l, ev, m, rfl, hst', hrem⟩ := hst.lost hgone
  rw [List.append_assoc, List.cons_append] at h hj hnot
  obtain ⟨now, rows, rfl, hrows⟩ := h.removed_by_refresh hj (hothers ev (by simp) hrem) hst' hrem
  exact hnot ⟨now, rows, List.mem_append_right _ List.mem_cons_self, hrows⟩

theorem retry_row (h : Traces K A sh (later ++ .spawned t (.request s api (.refresh body)) :: earlier))
    (hothers : OnlyRemover later t r) (hst : Stored earlier r) {l m : Trail} {now : Int64}
    {x : Except SqlxError ℕ} (hm : later ++ .spawned t (.request s api (.refresh body)) :: earlier =
      l ++ ran t (.deleteRefreshToken r.jti now) x :: m) : Stored m r := by
  obtain ⟨k, rfl⟩ := Traced.spawned_suffix h rfl hm
  have hlater : later = l ++ ran t (.deleteRefreshToken r.jti now) x :: k := by
    rw [← List.cons_append, ← List.append_assoc] at hm
    exact List.append_cancel_right hm
  have hspawn : Stored (.spawned t (.request s api (.refresh body)) :: earlier) r :=
    .inl ⟨hst, by simp [Removes]⟩
  obtain ⟨sh₀, -, h₀, -⟩ := responds (hm ▸ h)
  apply h₀.kept_by_refresh (List.mem_append_right _ List.mem_cons_self) _ hspawn
  · rintro ⟨now', rows, hmem, -⟩
    exact absurd (stage_lt (hm ▸ h) (by simp [Effect.stage]) hmem) (by simp [Effect.stage])
  · exact fun ev hev => hothers ev (by simp [hlater, hev])

end Traces

theorem retriable (hK : K.TokenSound) {σ : Pool (service K)} {secret : String}
    (h : Reachable K Unrestricted σ) (hs : Signed σ.log secret body.refreshToken c)
    (hkind : c.kind = .refresh) (hr : r ∈ σ.shared.db.refreshTokens) (hjti : r.jti = c.jti) :
    Retriable K σ body c r := by
  intro ls σ' new t s api hp hnew hj hothers hf hreads
  have hσ' := h.path hp
  have ht := Reachable.traces hσ'
  obtain ⟨l, m, rfl⟩ := List.append_of_mem hj
  have hlog : σ'.log = l ++ .spawned t (.request s api (.refresh body)) :: (m ++ σ.log) := by
    simp [hnew]
  have hmem : .spawned t (.request s api (.refresh body)) ∈ σ'.log := by simp [hlog]
  have hsub : m ++ σ.log ⊆ σ'.log := hlog ▸ earlier_subset
  obtain ⟨u, hu, hid, -⟩ := h.traces.signed_registered hs
  have hold : σ.log ⊆ m ++ σ.log := List.subset_append_right m _
  have hu' : Registered (m ++ σ.log) u := hu.mono hold
  have hopen := ht.signed_opens hK hmem ((hs.mono hold).mono hsub)
  -- before it was made the request removed nothing
  have hbefore : ∀ ev ∈ m, ¬ Removes ev r := fun ev hev hrem =>
    (hlog ▸ ht).admitted.2 ev (List.mem_append_left _ hev) (hothers ev (by simp [hev]) hrem)
  have hst : Stored (m ++ σ.log) r := ((h.traces.recorded.tokens r).1 hr).keep hbefore
  have hothers' : OnlyRemover l t r := fun ev hev => hothers ev (by simp [hev])
  refine ⟨fun o ho => ?_, fun job hrun => Reach.completes (service_follows K)
    (responsive.mono (fun _ _ _ hA => hA.1.1)) hσ' hrun⟩
  obtain ⟨resp, rfl⟩ := ht.refresh_granted hlog hopen hkind hf hu' hid hjti
    (fun l' m' now x hm => Traces.retry_row (hlog ▸ ht) hothers' hst (hlog ▸ hjti ▸ hm)) hreads ho
  exact ⟨resp, rfl, u, (ht.recorded.users u).2 (hu'.mono hsub), hid,
    ht.refresh_tokens_for hmem hopen hid ho⟩

/-- A refresh that can be tried again while the row is there: the row, with its user and its expiry,
is kept exactly if the request did not consume it, and a consumed one never comes back. -/
theorem refresh_row_kept_iff (hK : K.TokenSound) {σ₀ σ : Pool (service K)}
    {ls : List (Label (service K))} {secret : String} (h₀ : Reachable K Unrestricted σ₀)
    (hp : Path Unrestricted σ₀ ls σ) (hnew : σ.log = new ++ σ₀.log)
    (hj : .spawned t (.request s api (.refresh body)) ∈ new)
    (hs : Signed σ₀.log secret body.refreshToken c) (hkind : c.kind = .refresh)
    (hr : r ∈ σ₀.shared.db.refreshTokens) (hjti : r.jti = c.jti) (hothers : OnlyRemover new t r) :
    (r ∈ σ.shared.db.refreshTokens ↔ ¬ Consumed σ.log t c.jti) ∧
    (r ∈ σ.shared.db.refreshTokens → Retriable K σ body c r) ∧
    (Consumed σ.log t c.jti → ∀ ls' σ', Path Unrestricted σ ls' σ' →
      r ∉ σ'.shared.db.refreshTokens ∧ ∀ t' resp, Presents σ'.log t' body.refreshToken →
        .replied t' (.tokens (.ok resp)) ∈ σ'.log → t' = t) := by
  have hσ := h₀.path hp
  have hj' : .spawned t (.request s api (.refresh body)) ∈ σ.log := by simp [hnew, hj]
  have hgone : ∀ ls' σ', Path Unrestricted σ ls' σ' → Consumed σ.log t c.jti →
      r ∉ σ'.shared.db.refreshTokens := by
    intro ls' σ' hp' hc hmem
    have ht := Reachable.traces (hσ.path hp')
    obtain ⟨-, -, -, -, -, -, -, -, -, hnone⟩ := ht.consumed_row (hc.mono hp'.log_suffix.subset)
    exact hnone r hjti ((ht.recorded.tokens r).1 hmem)
  refine ⟨⟨fun hmem hc => hgone _ _ (.nil σ) hc hmem, fun hnot => ?_⟩, fun hmem => ?_,
    fun hc ls' σ' hp' => ⟨hgone _ _ hp' hc, fun t' resp hpres ho => ?_⟩⟩
  · have ht := Reachable.traces hσ
    rw [ht.recorded.tokens]
    rw [hnew] at ht hj' hnot ⊢
    exact ht.kept_by_refresh hj' hothers ((h₀.traces.recorded.tokens r).1 hr) (hjti ▸ hnot)
  · exact retriable hK hσ (hs.mono hp.log_suffix.subset) hkind hmem hjti
  · have ht := Reachable.traces (hσ.path hp')
    have hsub := hp'.log_suffix.subset
    obtain ⟨jti, hcons⟩ := ht.tokens_consumed hpres ho
    exact ht.presents_unique hpres ⟨s, api, hsub hj'⟩ hcons (hc.mono hsub)

open Scenario in
/-- The delete fails, so `ann` keeps her row and refreshes again with the same token. -/
theorem refresh_row_kept_iff_retried : ∃ σ σ' : Pool (service Transparent.crypto),
    Reachable Transparent.crypto Unrestricted σ ∧ Reachable Transparent.crypto Unrestricted σ' ∧
    .replied 2 (.tokens (.error (.db (.consumeRefreshToken "busy")))) ∈ σ.log ∧
    row "id" 105 "r1" ∈ σ.shared.db.refreshTokens ∧
    ∃ u ∈ σ'.shared.db.users, ∃ resp, .replied 3 (.tokens (.ok resp)) ∈ σ'.log ∧
      TokensFor σ'.log 3 resp u := by
  let body : RefreshRequest := ⟨token (ann 105 "r1")⟩
  obtain ⟨σ₀, σ, hσ₀, hp, hlog, hj, hs, hr, hfault, ho, hquiet, hagain⟩ :=
    Scenario.reach_then Monotone
      (starting ++ registering 1 "ann" "password" 105 "id" "a1" "r1")
      (requesting 2 (.refresh body) ++
        answering 2 [.reading 106, .reading 106, .fault "busy"] ++ [.reply 2])
      (fun σ₀ σ => σ.log = σ.log.take 5 ++ σ₀.log ∧
        .spawned 2 (.request 0 Scenario.api (.refresh body)) ∈ σ.log.take 5 ∧
        Signed σ₀.log Scenario.secret body.refreshToken (ann 105 "r1") ∧
        row "id" 105 "r1" ∈ σ₀.shared.db.refreshTokens ∧
        ran 2 (.deleteRefreshToken "r1" 106) (.error (.fault "busy")) ∈ σ.log ∧
        .replied 2 (.tokens (.error (.db (.consumeRefreshToken "busy")))) ∈ σ.log ∧
        (σ.log.take 5).all (fun ev => ev.task == 2) = true ∧
        (run Monotone σ (consuming 3 body.refreshToken 107 ++ rotating 3 107 "a2" "r2")).any
          (fun σ' => decide (σ'.log = σ'.log.take 15 ++ σ.log ∧
            .spawned 3 (.request 0 Scenario.api (.refresh body)) ∈ σ'.log.take 15 ∧
            σ'.log.all (fun ev => ev.task != 3 || !isFault ev) = true ∧
            (σ'.log.take 15).all (fun ev => ev.task == 3) = true ∧ σ'.shared.clock = 107 ∧
            .replied 3 (.tokens (.ok ⟨accessToken "id" "ann" 107 "a2", token (ann 107 "r2"),
              "Bearer"⟩)) ∈ σ'.log)) = true)
      (by decide +kernel)
  obtain ⟨σ', hrun, hP⟩ := (Option.any_eq_true _ _).1 hagain
  obtain ⟨hlog', hj', hfree, hquiet', hclock, ho'⟩ := of_decide_eq_true hP
  have hany : ∀ sh log ev, (Monotone : Assumption (service Transparent.crypto)) sh log ev →
      Unrestricted sh log ev := fun _ _ _ _ => trivial
  have hp' := path_of_run hrun
  have ht := Reachable.traces (hσ₀.path hp)
  have ht' := Reachable.traces ((hσ₀.path hp).path hp')
  have hnot : ¬ Consumed σ.log 2 "r1" := by
    rintro ⟨now, rows, hmem, -⟩
    have heq := ht.stage_unique hfault hmem (by simp [Effect.stage]) rfl
    injection heq with _ _ hanswer
    cases hanswer
  obtain ⟨hkept, hretry, -⟩ := refresh_row_kept_iff Transparent.crypto_tokenSound (hσ₀.mono hany)
    (hp.mono hany) hlog hj hs rfl hr rfl
    (fun ev hev _ => by simpa using List.all_eq_true.1 hquiet ev hev)
  have hrow := hkept.2 hnot
  have hfaults : ∀ q display, ran 3 q (.error (.fault display)) ∉ σ'.log := fun q display hmem =>
    absurd (List.all_eq_true.1 hfree _ hmem) (by simp [isFault, Event.task])
  have hmem : .spawned 3 (.request 0 Scenario.api (.refresh body)) ∈ σ'.log :=
    List.mem_of_mem_take hj'
  have hreads : ∀ n, Checks σ'.log 3 n →
      n.toNat ≤ (ann 105 "r1").exp.toNat + leeway ∧ n.toInt64 < (row "id" 105 "r1").expiresAt := by
    rintro n ⟨newer, older, hpast, -⟩
    have hle : n ≤ Shared.clock σ'.shared :=
      ht'.read_le_clock le_rfl (mem_history.1 (hpast ▸ List.mem_append_right _ List.mem_cons_self))
    rw [hclock, UInt64.le_iff_toNat_le] at hle
    have hnow : (107 : UInt64).toNat = 107 := by decide
    have hexp : (ann 105 "r1").exp.toNat = 604905 := by decide
    have hexpires : (row "id" 105 "r1").expiresAt.toInt = 604905 := by decide
    rw [Int64.lt_iff_toInt_lt, toInt_toInt64, hexpires]
    split_ifs <;> omega
  obtain ⟨hreply, -⟩ := hretry hrow _ _ _ 3 0 _ (hp'.mono hany) hlog' hj'
    (fun ev hev _ => by simpa using List.all_eq_true.1 hquiet' ev hev)
    (ht'.refresh_faultFree Transparent.crypto_tokenSound hmem hfaults) hreads
  obtain ⟨resp, hresp, u, hu, -, htokens⟩ := hreply _ ho'
  exact ⟨σ, σ', (hσ₀.path hp).mono hany, ((hσ₀.path hp).path hp').mono hany, ho, hrow, u, hu, resp,
    hresp ▸ ho', htokens⟩

open Scenario in
/-- The lookup after the delete fails: `ann` is logged out although nobody used or revoked her token. -/
theorem refresh_row_lost : ∃ (σ₀ σ : Pool (service Transparent.crypto)) (ls : Script) (new : Trail),
    Reachable Transparent.crypto (NoFaults ⊓ Monotone ⊓ Unforged) σ₀ ∧
    Path (Monotone ⊓ Unforged) σ₀ ls σ ∧ σ.log = new ++ σ₀.log ∧
    row "id" 105 "r1" ∈ σ₀.shared.db.refreshTokens ∧
    .spawned 2 (.request 0 Scenario.api (.refresh ⟨token (ann 105 "r1")⟩)) ∈ new ∧
    (∀ ev ∈ new, ev.task = 2) ∧ new.countP isFault = 1 ∧
    .replied 2 (.tokens (.error (.db (.userFindById "id" "busy")))) ∈ new ∧
    row "id" 105 "r1" ∉ σ.shared.db.refreshTokens := by
  obtain ⟨σ₀, hσ₀, hrun⟩ := Scenario.reach (NoFaults ⊓ Monotone ⊓ Unforged)
    (starting ++ registering 1 "ann" "password" 105 "id" "a1" "r1")
    (fun σ₀ => (run (Monotone ⊓ Unforged) σ₀ (consuming 2 (token (ann 105 "r1")) 106 ++
        answering 2 [.fault "busy"] ++ [.reply 2])).any
      (fun σ => decide (σ.log = σ.log.take 6 ++ σ₀.log ∧
        row "id" 105 "r1" ∈ σ₀.shared.db.refreshTokens ∧
        .spawned 2 (.request 0 Scenario.api (.refresh ⟨token (ann 105 "r1")⟩)) ∈ σ.log.take 6 ∧
        (σ.log.take 6).all (fun ev => ev.task == 2) = true ∧
        (σ.log.take 6).countP isFault = 1 ∧
        .replied 2 (.tokens (.error (.db (.userFindById "id" "busy")))) ∈ σ.log.take 6 ∧
        row "id" 105 "r1" ∉ σ.shared.db.refreshTokens)) = true) (by decide +kernel)
  obtain ⟨σ, hrun, hP⟩ := (Option.any_eq_true _ _).1 hrun
  obtain ⟨hlog, hr, hj, hquiet, hcount, ho, hgone⟩ := of_decide_eq_true hP
  exact ⟨σ₀, σ, _, _, hσ₀, path_of_run hrun, hlog, hr, hj,
    fun ev hev => by simpa using List.all_eq_true.1 hquiet ev hev, hcount, ho, hgone⟩

end Servir
