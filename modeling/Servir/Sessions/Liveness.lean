import Servir.Sessions.Refresh

/-!
# A live session is never lost

A refresh token that was returned has its row in the database, and the row stays
until the token is used or the user logs out. The row outlives the token, whatever
server issued it and whatever server it is presented to.
-/

namespace Servir
open Interleaving

variable {K : Crypto} {A : Assumption (service K)} {sh : Shared} {log later earlier : Trail}
  {t t₀ s s₀ : ℕ} {api api₀ : Api} {req₀ : Request} {resp : TokenResponse} {c : Claims}

/-- For the refresh request `t` the token `tok` that `t₀` returned is live: no other request that
presents it consumed it first, no logout of its user deleted between the insert of its row and the
consume of `t`, and `t` read the clock before its `exp`. -/
structure Live (log : Trail) (t₀ t : ℕ) (tok : String) (c : Claims) : Prop where
  unused : ∀ {later earlier now x t'},
    log = later ++ ran t (.deleteRefreshToken c.jti now) x :: earlier →
    Presents earlier t' tok → ¬ Consumed earlier t' c.jti
  unrevoked : ∀ {later mid earlier now x r t' x'},
    log = later ++ ran t (.deleteRefreshToken c.jti now) x :: (mid ++ insertion t₀ r :: earlier) →
    ran t' (.deleteRefreshTokensForUser c.sub) x' ∉ mid
  early : ∀ n, Checks log t n → n < c.exp

namespace Traces

theorem live_row (hA : A ≤ Unforged) (h : Traces K A sh log) {tok : String}
    (hlog : log = later ++ .spawned t (.request s api (.refresh ⟨tok⟩)) :: earlier)
    {secret : String} (hs : encoded t₀ secret c (.ok tok) ∈ earlier) (hkind : c.kind = .refresh)
    {r : RefreshTokenRow} (hr : Inserted earlier t₀ r) (hjti : r.jti = c.jti)
    (huser : r.userId = c.sub) (hlive : Live log t₀ t tok c) {l m : Trail} {now : Int64}
    {x : Except SqlxError ℕ} (hm : log = l ++ ran t (.deleteRefreshToken c.jti now) x :: m) :
    Stored m r := by
  have hsub : earlier ⊆ m := fun ev hev =>
    (Traced.spawned_suffix h hlog hm).subset (List.mem_cons_of_mem _ hev)
  obtain ⟨mid, m₀, rfl⟩ := List.append_of_mem (hsub hr)
  by_contra hgone
  obtain ⟨mid₁, ev, mid₂, rfl, hst, hrem⟩ := (stored_insertion t₀ r).lost hgone
  have hev : log = (l ++ ran t (.deleteRefreshToken c.jti now) x :: mid₁) ++
      ev :: (mid₂ ++ insertion t₀ r :: m₀) := by simp [hm]
  obtain ⟨t', now', rows, rfl, hnow⟩ | ⟨t', rows, rfl⟩ := hrem
  · -- the first removal by a refresh counts the row
    have hrows := (consumed_iff (hev ▸ h)).2 ⟨r, hst, rfl, hnow⟩
    have hs' : encoded t₀ secret c (.ok tok) ∈ log := by
      rw [hlog]
      exact earlier_subset hs
    obtain ⟨s', api', hj'⟩ := consumes_presents hA (hev ▸ h) (hev ▸ hs') hkind hjti
    have hpresents : Presents (mid₁ ++ ran t' (.deleteRefreshToken r.jti now') (.ok rows) :: mid₂ ++
        insertion t₀ r :: m₀) t' tok := by
      refine ⟨s', api', ?_⟩
      rw [List.append_assoc, List.cons_append]
      exact earlier_subset hj'
    exact hlive.unused hm hpresents (hjti ▸ ⟨now', rows, by simp, hrows⟩)
  · have hmem : ran t' (.deleteRefreshTokensForUser c.sub) (.ok rows) ∈
        mid₁ ++ ran t' (.deleteRefreshTokensForUser r.userId) (.ok rows) :: mid₂ := by simp [huser]
    exact hlive.unrevoked hm hmem

end Traces

/-- A refresh on a live token is answered with a new pair for its user, whatever else happens. -/
theorem live_session_refreshes (hK : K.TokenSound) {σ : Pool (service K)}
    (h : Reachable K (NoFaults ⊓ Monotone ⊓ Unforged) σ)
    (hlog : σ.log = later ++ .spawned t (.request s api (.refresh ⟨resp.refreshToken⟩)) :: earlier)
    (hj₀ : .spawned t₀ (.request s₀ api₀ req₀) ∈ earlier)
    (ho₀ : .replied t₀ (.tokens (.ok resp)) ∈ earlier)
    (hbound : ∀ n, read t₀ n ∈ earlier → n.toNat + api₀.routes.refreshTokenTtlSecs.toNat < 2 ^ 63)
    (hopen : K.openToken api.routes.secret resp.refreshToken = .ok c)
    (hlive : Live σ.log t₀ t resp.refreshToken c) :
    ∃ u ∈ σ.shared.db.users, u.id = c.sub ∧ u.username = c.username ∧
      (∀ o, .replied t o ∈ σ.log →
        ∃ resp', o = .tokens (.ok resp') ∧ TokensFor σ.log t resp' u) ∧
      ∀ job, Open σ.log t job → ∃ ls σ' o, Path (NoFaults ⊓ Monotone ⊓ Unforged) σ ls σ' ∧
        (∀ l ∈ ls, l.task = t) ∧ .replied t o ∈ σ'.log := by
  have ht := h.traces
  have hmono : (NoFaults ⊓ Monotone ⊓ Unforged : Assumption (service K)) ≤ Monotone :=
    fun _ _ _ hA => hA.1.2
  have hfaults : (NoFaults ⊓ Monotone ⊓ Unforged : Assumption (service K)) ≤ NoFaults :=
    fun _ _ _ hA => hA.1.1
  have hforged : (NoFaults ⊓ Monotone ⊓ Unforged : Assumption (service K)) ≤ Unforged :=
    fun _ _ _ hA => hA.2
  have hj : .spawned t (.request s api (.refresh ⟨resp.refreshToken⟩)) ∈ σ.log := by simp [hlog]
  have hsuffix : earlier <:+ σ.log := hlog ▸ (List.suffix_cons _ _).trans (List.suffix_append _ _)
  obtain ⟨sh₀, h₀⟩ := Traced.of_suffix ht hsuffix
  obtain ⟨c', r, u, hs, hkind, hins, hjti, huser, hu, hid, hname, hexp⟩ :=
    Traces.issued_row h₀ hj₀ ho₀
  have hopen' := ht.signed_opens hK hj ⟨t₀, hsuffix.subset hs⟩
  obtain rfl : c = c' := by
    rw [hopen'] at hopen
    exact (Except.ok.inj hopen).symm
  have hreads : ∀ n, Checks σ.log t n → n.toNat ≤ c.exp.toNat + leeway ∧ n.toInt64 < r.expiresAt := by
    intro n hn
    have hlt := UInt64.lt_iff_toNat_lt.1 (hlive.early n hn)
    exact ⟨by omega, hexp hmono hbound n (hlive.early n hn)⟩
  refine ⟨u, (ht.recorded.users u).2 (hu.mono hsuffix.subset), hid, hname, fun o ho => ?_,
    fun job hrun => Reach.completes (service_follows K) responsive h hrun⟩
  obtain ⟨resp', rfl⟩ := ht.refresh_granted hlog hopen hkind
    (ht.refresh_faultFree hK hj (ht.not_fault hfaults t)) hu hid hjti
    (fun l m now x hm => ht.live_row hforged hlog hs hkind hins hjti huser hlive hm)
    hreads ho
  exact ⟨resp', rfl, ht.refresh_tokens_for hj hopen hid ho⟩

def isRevocation : Happening → Bool
  | .performed _ (.sql (.deleteRefreshTokensForUser _)) _ => true
  | _ => false

open Scenario in
/-- In the last second of its token, after another login and on another server, `ann` still gets a new
pair. -/
theorem live_session_refreshes_restarted : ∃ σ : Pool (service Transparent.crypto),
    Reachable Transparent.crypto (NoFaults ⊓ Monotone ⊓ Unforged) σ ∧
    .spawned 4 (.request 3 (ServerBuilder.api ⟨some 1, none⟩ Scenario.secret)
      (.refresh ⟨token (ann 105 "r1")⟩)) ∈ σ.log ∧
    ∃ u ∈ σ.shared.db.users, ∃ resp, .replied 4 (.tokens (.ok resp)) ∈ σ.log ∧
      TokensFor σ.log 4 resp u := by
  let resp : TokenResponse := ⟨accessToken "id" "ann" 105 "a1", token (ann 105 "r1"), "Bearer"⟩
  let api' := ServerBuilder.api ⟨some 1, none⟩ Scenario.secret
  obtain ⟨σ, hσ, hat, hj₀, ho₀, hclock, hconsumed, hrevoked, ho⟩ := Scenario.reach
    (NoFaults ⊓ Monotone ⊓ Unforged)
    (starting ++ registering 1 "ann" "password" 105 "id" "a1" "r1" ++
      loggingIn 2 "ann" "password" 106 "a2" "r2" ++
      .spawn 3 (.build ⟨some 1, none⟩) :: answering 3 [.execute] ++ [.reply 3] ++
      .spawn 4 (.request 3 api' (.refresh ⟨token (ann 105 "r1")⟩)) ::
        answering 4 [.reading 604904, .reading 604904, .execute] ++ rotating 4 604904 "a3" "r3")
    (fun σ => σ.log[14]? = some (.spawned 4 (.request 3 api' (.refresh ⟨resp.refreshToken⟩))) ∧
      .spawned 1 (.request 0 Scenario.api (.register ⟨"ann", "password"⟩)) ∈ σ.log.drop 15 ∧
      .replied 1 (.tokens (.ok resp)) ∈ σ.log.drop 15 ∧ σ.shared.clock = 604904 ∧
      ran 4 (.deleteRefreshToken "r1" 604904) (.ok 1) ∈ σ.log ∧
      (∀ ev ∈ σ.log, isRevocation ev = false) ∧
      .replied 4 (.tokens (.ok ⟨token (accessClaims api'.routes ⟨"id", "ann", ""⟩ 604904 "a3"),
        token (ann 604904 "r3"), "Bearer"⟩)) ∈ σ.log) (by decide +kernel)
  have ht := hσ.traces
  have hlog := split_at hat
  have hj : .spawned 4 (.request 3 api' (.refresh ⟨resp.refreshToken⟩)) ∈ σ.log :=
    List.mem_of_getElem? hat
  have hreads : ∀ t n, read t n ∈ σ.log → n ≤ 604904 := fun t n hn =>
    hclock ▸ ht.read_le_clock (fun _ _ _ hA => hA.1.2) hn
  have hopen : Transparent.crypto.openToken api'.routes.secret resp.refreshToken = .ok (ann 105 "r1") :=
    Transparent.crypto_tokenSound.open_encode rfl
  have hlive : Live σ.log 1 4 resp.refreshToken (ann 105 "r1") := by
    refine ⟨?_, ?_, ?_⟩
    · rintro later earlier now x t' hm - hc
      have hself : Consumed σ.log 4 "r1" := ⟨_, _, hconsumed, Nat.one_pos⟩
      obtain rfl : t' = 4 := ht.consumed_unique (hc.mono (hm ▸ earlier_subset)) hself
      obtain ⟨now', rows, hmem, -⟩ := hc
      exact absurd (Traces.stage_lt (hm ▸ ht) (by simp [Effect.stage]) hmem) (by simp [Effect.stage])
    · rintro later mid earlier now x r t' x' hm hmem
      have hnone := hrevoked (ran t' (.deleteRefreshTokensForUser "id") x')
        (hm ▸ earlier_subset (List.mem_append_left _ hmem))
      cases hnone
    · rintro n ⟨newer, older, hpast, -⟩
      have hn : read 4 n ∈ σ.log := mem_history.1 (by simp [hpast])
      exact UInt64.lt_of_le_of_lt (hreads 4 n hn) (by decide)
  have hbound : ∀ n, read 1 n ∈ σ.log.drop 15 →
      n.toNat + Scenario.api.routes.refreshTokenTtlSecs.toNat < 2 ^ 63 := by
    intro n hn
    have hle := UInt64.le_iff_toNat_le.1 (hreads 1 n (List.mem_of_mem_drop hn))
    have hmax : (604904 : UInt64).toNat = 604904 := by decide
    have httl : Scenario.api.routes.refreshTokenTtlSecs.toNat = 604800 := by decide
    omega
  obtain ⟨u, hu, -, -, hreply, -⟩ :=
    live_session_refreshes Transparent.crypto_tokenSound hσ hlog hj₀ ho₀ hbound hopen hlive
  obtain ⟨resp', hresp', htokens⟩ := hreply _ ho
  exact ⟨σ, hσ, hj, u, hu, resp', hresp' ▸ ho, htokens⟩

end Servir
