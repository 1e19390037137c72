import Servir.Sessions.Refresh

/-!
# What a refusal as replay means

A refresh token expires twice, by the `exp` of the token and by the `expires_at`
of its row. The first check has a leeway of a minute and the second has none, so
between the two a token that nobody used is refused as replay. Where no row is
consumed after its `expires_at`, the refusal means that the row was used.
-/

namespace Servir
open Interleaving

variable {K : Crypto} {A : Assumption (service K)} {sh : Shared} {log later earlier : Trail}
  {t t₀ s : ℕ} {api : Api} {resp : TokenResponse} {c : Claims}

/-- The row of the token `c` was consumed by a refresh, or removed by a logout, before the refresh
`t` came to consume it. -/
def Used (log : Trail) (t : ℕ) (c : Claims) : Prop :=
  ∃ later earlier now x, log = later ++ ran t (.deleteRefreshToken c.jti now) x :: earlier ∧
    ((∃ t', Consumed earlier t' c.jti) ∨
      ∃ l m t' userId rows r, earlier = l ++ ran t' (.deleteRefreshTokensForUser userId) (.ok rows) :: m ∧
        Stored m r ∧ r.jti = c.jti ∧ r.userId = userId)

/-- Refreshes that present a token which had been returned: one answered `INVALID_REFRESH_TOKEN` came
after the use of the row, and one that did not is answered OK or `TOKEN_EXPIRED`. -/
def RefusalsExact (K : Crypto) (log : Trail) : Prop :=
  ∀ later earlier t t₀ s api resp c o,
    log = later ++ .spawned t (.request s api (.refresh ⟨resp.refreshToken⟩)) :: earlier →
    .replied t₀ (.tokens (.ok resp)) ∈ earlier →
    K.openToken api.routes.secret resp.refreshToken = .ok c → .replied t o ∈ log →
    (o = .tokens (.error (.authToken .invalidRefreshToken)) → Used log t c) ∧
    (¬ Used log t c → (∃ resp', o = .tokens (.ok resp')) ∨ o = .tokens (.error (.authToken .expired)))

/-- No row is consumed after its `expires_at`. -/
def NotOverdue : Assumption (service K) := fun sh _ ev =>
  ∀ t jti now x, ev = ran t (.deleteRefreshToken jti now) x →
    ∀ r ∈ sh.db.refreshTokens, r.jti = jti → now < r.expiresAt

namespace Traces

theorem used_of_not_consumed (hA : A ≤ NotOverdue) (h : Traces K A sh log)
    (hlog : log = later ++ .spawned t (.request s api (.refresh ⟨resp.refreshToken⟩)) :: earlier)
    {r : RefreshTokenRow} (hr : Inserted earlier t₀ r) (hjti : r.jti = c.jti) {now : Int64}
    (hc : ran t (.deleteRefreshToken c.jti now) (.ok 0) ∈ log) : Used log t c := by
  obtain ⟨l, m, hm⟩ := List.append_of_mem hc
  have hsub : earlier ⊆ m := fun ev hev =>
    (Traced.spawned_suffix h hlog hm).subset (List.mem_cons_of_mem _ hev)
  have hgone : ¬ Stored m r := by
    intro hst
    obtain ⟨sh₀, h₀, hdue⟩ := (hm ▸ h).assumed hA
    have hnow := hdue t c.jti now _ rfl r ((recorded h₀).tokens r |>.2 hst) hjti
    exact absurd ((consumed_iff (hm ▸ h)).2 ⟨r, hst, hjti, hnow⟩) (Nat.lt_irrefl 0)
  refine ⟨l, m, now, _, hm, ?_⟩
  obtain ⟨m₁, m₂, rfl⟩ := List.append_of_mem (hsub hr)
  obtain ⟨m₃, ev, m₄, rfl, hst, hrem⟩ := (stored_insertion t₀ r).lost hgone
  have hev : log = (l ++ ran t (.deleteRefreshToken c.jti now) (.ok 0) :: m₃) ++
      ev :: (m₄ ++ insertion t₀ r :: m₂) := by simp [hm]
  obtain ⟨t', now', rows, rfl, hnow⟩ | ⟨t', rows, rfl⟩ := hrem
  · have hrows := (consumed_iff (hev ▸ h)).2 ⟨r, hst, rfl, hnow⟩
    exact .inl ⟨t', now', rows, by simp [hjti], hrows⟩
  · exact .inr ⟨m₃, _, t', r.userId, rows, r, by simp, hst, hjti, rfl⟩

theorem used_gone (h : Traces K A sh log) (hused : Used log t c) {r : RefreshTokenRow}
    (hjti : r.jti = c.jti) : ¬ Stored log r := by
  obtain ⟨later, earlier, now, x, hm, ⟨t', hc⟩ | ⟨l, m, t', userId, rows, r', hm', hr', hjti', huser⟩⟩ :=
    hused
  · obtain ⟨-, -, -, -, -, -, -, -, -, hgone⟩ := consumed_row h (hc.mono (hm ▸ earlier_subset))
    exact hgone r hjti
  · obtain ⟨t₀, hins⟩ := hr'.inserted
    have hgone : ¬ Stored (ran t' (.deleteRefreshTokensForUser userId) (.ok rows) :: m) r' :=
      not_stored_removed (.inr ⟨t', rows, huser ▸ rfl⟩)
    have hlog : log = (later ++ ran t (.deleteRefreshToken c.jti now) x :: l) ++
        ran t' (.deleteRefreshTokensForUser userId) (.ok rows) :: m := by simp [hm, hm']
    rw [hlog] at h ⊢
    exact stays_removed h (List.mem_cons_of_mem _ hins) hgone (hjti.trans hjti'.symm)

end Traces

/-- A run in which no row is consumed after its `expires_at` refuses as replay only what was used. -/
theorem refusals_exact (hK : K.TokenSound) {σ : Pool (service K)}
    (h : Reachable K (NoFaults ⊓ NotOverdue) σ) : RefusalsExact K σ.log := by
  intro later earlier t t₀ s api resp c o hlog ho₀ hopen ho
  have ht := h.traces
  have hj : .spawned t (.request s api (.refresh ⟨resp.refreshToken⟩)) ∈ σ.log := by simp [hlog]
  have hsuffix : earlier <:+ σ.log := hlog ▸ (List.suffix_cons _ _).trans (List.suffix_append _ _)
  obtain ⟨sh₀, h₀⟩ := Traced.of_suffix ht hsuffix
  obtain ⟨s₀, api₀, req₀, hj₀, -⟩ := Traces.replied_request h₀ ho₀ (by simp)
  obtain ⟨c', r, u, hs, hkind, hins, hjti, -, hu, hid, -, -⟩ := Traces.issued_row h₀ hj₀ ho₀
  obtain rfl : c = c' := by
    rw [ht.signed_opens hK hj ⟨t₀, hsuffix.subset hs⟩] at hopen
    exact (Except.ok.inj hopen).symm
  have hf := ht.refresh_faultFree hK hj (ht.not_fault (fun _ _ _ hA => hA.1) t)
  obtain ⟨n, -, ⟨-, rfl⟩ | ⟨-, n', rows, -, hc, hend⟩⟩ := ht.refresh_reply hj hopen hkind hf ho
  · exact ⟨by simp, fun _ => .inr rfl⟩
  · obtain ⟨rfl, rfl⟩ | ⟨-, ⟨resp', rfl⟩ | hnone⟩ := hend
    · have hused := ht.used_of_not_consumed (fun _ _ _ hA => hA.2) hlog hins hjti hc
      exact ⟨fun _ => hused, fun hnot => absurd hused hnot⟩
    · exact ⟨by simp, fun _ => .inl ⟨resp', rfl⟩⟩
    · exact absurd hnone (ht.refresh_finds hlog hu hid)

def isDue (db : Db) : Happening → Bool
  | .performed _ (.sql (.deleteRefreshToken jti now)) _ =>
    db.refreshTokens.rows.all (fun r => r.jti != jti || decide (now < r.expiresAt))
  | _ => true

theorem notOverdue_of_isDue {sh : (service K).Shared} {ev : Happening}
    (h : isDue (Shared.db sh) ev = true) : NotOverdue sh log ev := by
  rintro t jti now x rfl r hr rfl
  simpa using List.all_eq_true.1 h r hr

open Scenario in
/-- A token that is presented twice is refused as replay, because the first refresh used it. -/
theorem refusals_exact_replayed : ∃ σ : Pool (service Transparent.crypto),
    Reachable Transparent.crypto (NoFaults ⊓ NotOverdue) σ ∧
    .replied 3 (.tokens (.error (.authToken .invalidRefreshToken))) ∈ σ.log ∧
    Used σ.log 3 (ann 105 "r1") := by
  let resp : TokenResponse := ⟨accessToken "id" "ann" 105 "a1", token (ann 105 "r1"), "Bearer"⟩
  obtain ⟨σ, hσ, hat, ho₀, ho⟩ := Scenario.reach
    (NoFaults ⊓ fun sh _ ev => isDue (Shared.db sh) ev = true)
    (starting ++ registering 1 "ann" "password" 105 "id" "a1" "r1" ++
      consuming 2 (token (ann 105 "r1")) 106 ++ rotating 2 107 "a2" "r2" ++
      consuming 3 (token (ann 105 "r1")) 108 ++ [.reply 3])
    (fun σ => σ.log[4]? = some (.spawned 3 (.request 0 Scenario.api (.refresh ⟨resp.refreshToken⟩))) ∧
      .replied 1 (.tokens (.ok resp)) ∈ σ.log.drop 5 ∧
      .replied 3 (.tokens (.error (.authToken .invalidRefreshToken))) ∈ σ.log) (by decide +kernel)
  have hσ' : Reachable Transparent.crypto (NoFaults ⊓ NotOverdue) σ :=
    hσ.mono (fun _ _ _ hA => ⟨hA.1, notOverdue_of_isDue hA.2⟩)
  have hlog := split_at hat
  have hopen : Transparent.crypto.openToken Scenario.api.routes.secret resp.refreshToken =
      .ok (ann 105 "r1") := Transparent.crypto_tokenSound.open_encode rfl
  have hexact := refusals_exact Transparent.crypto_tokenSound hσ' _ _ 3 1 0 _ resp _ _ hlog ho₀ hopen ho
  exact ⟨σ, hσ', ho, hexact.1 rfl⟩

open Scenario in
/-- A token that nobody used is refused as replay in the minute after its `exp`. -/
theorem refusals_not_exact : ∃ σ : Pool (service Transparent.crypto),
    Reachable Transparent.crypto (NoFaults ⊓ Monotone ⊓ Unforged) σ ∧
    row "id" 105 "r1" ∈ σ.shared.db.refreshTokens ∧ ¬ RefusalsExact Transparent.crypto σ.log := by
  let resp : TokenResponse := ⟨accessToken "id" "ann" 105 "a1", token (ann 105 "r1"), "Bearer"⟩
  obtain ⟨σ, hσ, hat, ho₀, ho, hrow⟩ := Scenario.reach (NoFaults ⊓ Monotone ⊓ Unforged)
    (starting ++ registering 1 "ann" "password" 105 "id" "a1" "r1" ++
      consuming 2 (token (ann 105 "r1")) 604905 ++ [.reply 2])
    (fun σ => σ.log[4]? = some (.spawned 2 (.request 0 Scenario.api (.refresh ⟨resp.refreshToken⟩))) ∧
      .replied 1 (.tokens (.ok resp)) ∈ σ.log.drop 5 ∧
      .replied 2 (.tokens (.error (.authToken .invalidRefreshToken))) ∈ σ.log ∧
      row "id" 105 "r1" ∈ σ.shared.db.refreshTokens) (by decide +kernel)
  have ht := hσ.traces
  have hlog := split_at hat
  have hopen : Transparent.crypto.openToken Scenario.api.routes.secret resp.refreshToken =
      .ok (ann 105 "r1") := Transparent.crypto_tokenSound.open_encode rfl
  refine ⟨σ, hσ, hrow, fun hexact => ?_⟩
  have hused := (hexact _ _ 2 1 0 _ resp _ _ hlog ho₀ hopen ho).1 rfl
  exact ht.used_gone hused rfl ((ht.recorded.tokens (row "id" 105 "r1")).1 hrow)

end Servir
