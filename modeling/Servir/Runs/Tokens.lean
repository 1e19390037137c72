import Servir.Runs.Stages

/-!
# Tokens and their rows

Who signed a token, who stored a row, and the life of a row: a `jti` is drawn
once, stored at most once, and once its row is gone it never comes back.
-/

namespace Servir
open Interleaving

variable {K : Crypto} {A : Assumption (service K)} {sh : Shared} {log later earlier : Trail}
  {t t' : ℕ}

theorem earlier_subset {ev : Happening} : earlier ⊆ later ++ ev :: earlier :=
  fun _ h => List.mem_append_right _ (List.mem_cons_of_mem _ h)

theorem Created.mono {r : UserRow} (h : Created earlier t r) (hsub : earlier ⊆ log) :
    Created log t r := hsub h

theorem Registered.mono {r : UserRow} (h : Registered earlier r) (hsub : earlier ⊆ log) :
    Registered log r := h.imp (fun _ hc => hc.mono hsub)

theorem Configured.mono {v : String} (h : Configured earlier v) (hsub : earlier ⊆ log) :
    Configured log v := h.imp (fun _ hc => hsub hc)

theorem Inserted.mono {r : RefreshTokenRow} (h : Inserted earlier t r) (hsub : earlier ⊆ log) :
    Inserted log t r := hsub h

theorem Stored.inserted {r : RefreshTokenRow} (h : Stored log r) : ∃ t, Inserted log t r := by
  induction log with
  | nil => cases h
  | cons ev log ih =>
    rcases h with ⟨h, -⟩ | ⟨t, rfl⟩
    · exact (ih h).imp (fun _ => List.mem_cons_of_mem _)
    · exact ⟨t, List.mem_cons_self⟩

theorem Stored.keep {r : RefreshTokenRow} (h : Stored earlier r)
    (hkeep : ∀ ev ∈ later, ¬ Removes ev r) : Stored (later ++ earlier) r := by
  induction later with
  | nil => exact h
  | cons ev later ih =>
    exact .inl ⟨ih (fun ev' hev' => hkeep ev' (List.mem_cons_of_mem _ hev')),
      hkeep ev List.mem_cons_self⟩

theorem stored_insertion (t : ℕ) (r : RefreshTokenRow) : Stored (insertion t r :: log) r :=
  .inr ⟨t, rfl⟩

theorem Stored.before {r : RefreshTokenRow} (h : Stored (later ++ earlier) r)
    (hins : ∀ t, insertion t r ∉ later) :
    Stored earlier r ∧ ∀ ev ∈ later, ¬ Removes ev r := by
  induction later with
  | nil => exact ⟨h, by simp⟩
  | cons ev later ih =>
    rcases h with ⟨h, hkeep⟩ | ⟨t, rfl⟩
    · obtain ⟨hstored, hrest⟩ := ih h (fun t ht => hins t (List.mem_cons_of_mem _ ht))
      exact ⟨hstored, by simpa using ⟨hkeep, hrest⟩⟩
    · exact absurd List.mem_cons_self (hins t)

theorem Stored.lost {r : RefreshTokenRow} (h : Stored earlier r)
    (hgone : ¬ Stored (later ++ earlier) r) :
    ∃ l ev m, later = l ++ ev :: m ∧ Stored (m ++ earlier) r ∧ Removes ev r := by
  induction later with
  | nil => exact absurd h hgone
  | cons ev later ih =>
    by_cases hs : Stored (later ++ earlier) r
    · refine ⟨[], ev, later, rfl, hs, ?_⟩
      by_contra hkeep
      exact hgone (.inl ⟨hs, hkeep⟩)
    · obtain ⟨l, ev', m, rfl, hm⟩ := ih hs
      exact ⟨ev :: l, ev', m, rfl, hm⟩

theorem not_stored_removed {ev : Happening} {r : RefreshTokenRow} (h : Removes ev r) :
    ¬ Stored (ev :: log) r := by
  rintro (⟨-, hkeep⟩ | ⟨t, rfl⟩)
  · exact hkeep h
  · rcases h with ⟨_, _, _, he, -⟩ | ⟨_, _, he⟩ <;> cases he

namespace Traces

/-- The exact history behind a signature. -/
theorem signing {secret : String} {c : Claims} {r : Except String String}
    (h : Traces K A sh (later ++ encoded t secret c r :: earlier)) :
    ∃ s api req h₀ user n jti, .spawned t (.request s api req) ∈ earlier ∧
      secret = api.routes.secret ∧ Acts K api.routes req h₀ user ∧
      (∀ x ∈ h₀, x ∈ history t earlier) ∧
      ((c = accessClaims api.routes user n jti ∧
          history t earlier = drewUuid jti :: readClock n :: h₀) ∨
        ∃ n₀ jti₀ tok, c = refreshClaims api.routes user n jti ∧
          history t earlier = drewUuid jti :: readClock n ::
            accessPast api.routes user n₀ jti₀ (.ok tok) h₀) := by
  obtain ⟨s, api, req, hj, ha⟩ := requested h (by rintro _ ⟨⟩)
  generalize history t earlier = past at ha ⊢
  cases ha with
  | signAccess hacts =>
    exact ⟨s, api, req, _, _, _, _, hj, rfl, hacts, fun x hx => by simp [hx], .inl ⟨rfl, rfl⟩⟩
  | signRefresh hacts =>
    exact ⟨s, api, req, _, _, _, _, hj, rfl, hacts, fun x hx => by simp [accessPast, hx],
      .inr ⟨_, _, _, rfl, rfl⟩⟩

theorem storing {jti userId : String} {expires created : Int64} {r : Except SqlxError Unit}
    (h : Traces K A sh (later ++ ran t (.insertRefreshToken jti userId expires created) r ::
      earlier)) :
    ∃ s api req h₀ user n n' n₁ n₂ jti₀ tok tok', .spawned t (.request s api req) ∈ earlier ∧
      Acts K api.routes req h₀ user ∧ userId = user.id ∧
      expires = n₁.toInt64 + api.routes.refreshTokenTtlSecs.toInt64 ∧ created = n₂.toInt64 ∧
      history t earlier = readClock n₂ :: readClock n₁ ::
        refreshPast api.routes user n' jti (.ok tok')
          (accessPast api.routes user n jti₀ (.ok tok) h₀) := by
  obtain ⟨s, api, req, hj, ha⟩ := requested h (by rintro _ ⟨⟩)
  generalize history t earlier = past at ha ⊢
  cases ha with
  | store hacts =>
    exact ⟨s, api, req, _, _, _, _, _, _, _, _, _, hj, hacts, rfl, rfl, rfl, rfl⟩

theorem encoded_drew {secret : String} {c : Claims} {r : Except String String}
    (h : Traces K A sh log) (hr : encoded t secret c r ∈ log) : drew t c.jti ∈ log := by
  obtain ⟨later, earlier, rfl⟩ := List.append_of_mem hr
  obtain ⟨s, api, req, h₀, user, n, jti, -, -, -, -, ⟨rfl, hpast⟩ | ⟨n₀, jti₀, tok, rfl, hpast⟩⟩ :=
    signing h
  all_goals
    have hmem : drewUuid jti ∈ history t earlier := by simp [hpast]
    exact earlier_subset (mem_history.1 hmem)

theorem refresh_signed_once (h : Traces K A sh log) {secret secret' : String} {c c' : Claims}
    {r r' : Except String String} (hr : encoded t secret c r ∈ log)
    (hr' : encoded t secret' c' r' ∈ log) (hc : c.kind = .refresh) (hc' : c'.kind = .refresh) :
    c = c' ∧ r = r' := by
  have hev := stage_unique h hr hr' (by simp [Effect.stage, hc]) (by simp [Effect.stage, hc, hc'])
  cases hev
  exact ⟨rfl, rfl⟩

theorem refresh_signed_jti (h : Traces K A sh log) {secret secret' : String} {c c' : Claims}
    {r r' : Except String String} (hr : encoded t secret c r ∈ log)
    (hr' : encoded t' secret' c' r' ∈ log) (hc : c.kind = .refresh) (hc' : c'.kind = .refresh)
    (hjti : c.jti = c'.jti) : t = t' ∧ c = c' := by
  obtain rfl : t = t' := draw_unique h (encoded_drew h hr) (hjti ▸ encoded_drew h hr')
  exact ⟨rfl, (refresh_signed_once h hr hr' hc hc').1⟩

theorem insertion_signed {r : RefreshTokenRow}
    (h : Traces K A sh (later ++ insertion t r :: earlier)) :
    ∃ secret c tok, encoded t secret c (.ok tok) ∈ earlier ∧ c.kind = .refresh ∧
      c.jti = r.jti ∧ c.sub = r.userId := by
  obtain ⟨s, api, req, h₀, user, n, n', n₁, n₂, jti₀, tok, tok', -, -, huser, -, -, hpast⟩ :=
    storing h
  have hmem : signed api.routes.secret (refreshClaims api.routes user n' r.jti) (.ok tok') ∈
      history t earlier := by simp [hpast, refreshPast]
  exact ⟨_, _, _, mem_history.1 hmem, rfl, rfl, huser.symm⟩

theorem inserted_signed (h : Traces K A sh log) {r : RefreshTokenRow} (hr : Inserted log t r) :
    ∃ secret c tok, encoded t secret c (.ok tok) ∈ log ∧ c.kind = .refresh ∧
      c.jti = r.jti ∧ c.sub = r.userId := by
  obtain ⟨later, earlier, rfl⟩ := List.append_of_mem hr
  obtain ⟨secret, c, tok, hmem, hc⟩ := insertion_signed h
  exact ⟨secret, c, tok, earlier_subset hmem, hc⟩

theorem inserted_drew (h : Traces K A sh log) {r : RefreshTokenRow} (hr : Inserted log t r) :
    drew t r.jti ∈ log := by
  obtain ⟨secret, c, tok, hmem, -, hjti, -⟩ := inserted_signed h hr
  exact hjti ▸ encoded_drew h hmem

theorem created_once (h : Traces K A sh log) {r r' : UserRow} (hr : Created log t r)
    (hr' : Created log t r') : r = r' := by
  have hev := stage_unique h hr hr' (by simp [Effect.stage]) rfl
  injection hev with _ hq _
  injection hq with hq
  injection hq with h₁ h₂ h₃ h₄
  exact UserRow.ext h₁ h₂ h₃ h₄

theorem inserted_once (h : Traces K A sh log) {r r' : RefreshTokenRow} (hr : Inserted log t r)
    (hr' : Inserted log t r') : r = r' := by
  have hev := stage_unique h hr hr' (by simp [Effect.stage]) rfl
  injection hev with _ hq _
  injection hq with hq
  injection hq with h₁ h₂ h₃ h₄
  exact RefreshTokenRow.ext h₁ h₂ h₃ h₄

/-- A `jti` is stored at most once, by the task that drew it. -/
theorem inserted_unique (h : Traces K A sh log) {r r' : RefreshTokenRow} (hr : Inserted log t r)
    (hr' : Inserted log t' r') (hjti : r.jti = r'.jti) : t = t' ∧ r = r' := by
  obtain rfl : t = t' := draw_unique h (inserted_drew h hr) (hjti ▸ inserted_drew h hr')
  exact ⟨rfl, inserted_once h hr hr'⟩

theorem insertion_first {r r' : RefreshTokenRow}
    (h : Traces K A sh (later ++ insertion t r :: earlier)) (hr' : Inserted earlier t' r') :
    r'.jti ≠ r.jti := by
  intro hjti
  have hself : Inserted (later ++ insertion t r :: earlier) t r :=
    List.mem_append_right _ List.mem_cons_self
  obtain ⟨rfl, -⟩ := inserted_unique h (hr'.mono earlier_subset) hself hjti
  exact absurd (stage_lt h (by simp [Effect.stage]) hr') (by simp [Effect.stage])

/-- A `jti` whose row is gone never comes back. -/
theorem stays_removed {r r' : RefreshTokenRow} (h : Traces K A sh (later ++ earlier))
    (hr : Inserted earlier t r) (hgone : ¬ Stored earlier r) (hjti : r'.jti = r.jti) :
    ¬ Stored (later ++ earlier) r' := by
  intro hstored
  obtain ⟨t', ht'⟩ := hstored.inserted
  obtain ⟨-, rfl⟩ := inserted_unique h ht' (hr.mono (List.subset_append_right _ _)) hjti
  refine hgone (hstored.before ?_).1
  intro t'' hmem
  obtain ⟨l₁, l₂, rfl⟩ := List.append_of_mem hmem
  rw [List.append_assoc, List.cons_append] at h
  exact insertion_first h (hr.mono (List.subset_append_right _ _)) rfl

end Traces

/-- `consume_refresh_token` of task `t` answered `true` for `jti`. -/
def Consumed (log : Trail) (t : ℕ) (jti : String) : Prop :=
  ∃ now rows, ran t (.deleteRefreshToken jti now) (.ok rows) ∈ log ∧ 0 < rows

theorem Consumed.mono {jti : String} (h : Consumed earlier t jti) (hsub : earlier ⊆ log) :
    Consumed log t jti := by
  obtain ⟨now, rows, hmem, hrows⟩ := h
  exact ⟨now, rows, hsub hmem, hrows⟩

namespace Traces

/-- The row that a request consumed was stored just before, and is gone for good. -/
theorem consumed_row {jti : String} (h : Traces K A sh log) (hc : Consumed log t jti) :
    ∃ later earlier now rows r, log = later ++ ran t (.deleteRefreshToken jti now) (.ok rows) ::
        earlier ∧ Stored earlier r ∧ r.jti = jti ∧ now < r.expiresAt ∧
      ∀ r', r'.jti = jti → ¬ Stored log r' := by
  obtain ⟨now, rows, hmem, hrows⟩ := hc
  obtain ⟨later, earlier, rfl⟩ := List.append_of_mem hmem
  obtain ⟨r, hr, rfl, hnow⟩ := (consumed_iff h).1 hrows
  refine ⟨later, earlier, now, rows, r, rfl, hr, rfl, hnow, fun r' hjti => ?_⟩
  obtain ⟨t₀, ht₀⟩ := hr.inserted
  have hgone : ¬ Stored (ran t (.deleteRefreshToken r.jti now) (.ok rows) :: earlier) r :=
    not_stored_removed (.inl ⟨t, now, rows, rfl, hnow⟩)
  exact stays_removed h (List.mem_cons_of_mem _ ht₀) hgone hjti

theorem not_consumed_before {jti : String} {now : Int64} {rows : ℕ}
    (h : Traces K A sh (later ++ ran t (.deleteRefreshToken jti now) (.ok rows) :: earlier))
    (hrows : 0 < rows) : ¬ Consumed earlier t' jti := by
  intro hc
  obtain ⟨r, hr, hjti, -⟩ := (consumed_iff h).1 hrows
  obtain ⟨sh₀, -, h₀, -⟩ := responds h
  obtain ⟨-, -, -, -, -, -, -, -, -, hgone⟩ := consumed_row h₀ hc
  exact hgone r hjti hr

theorem consumed_unique {jti : String} (h : Traces K A sh log) (hc : Consumed log t jti)
    (hc' : Consumed log t' jti) : t = t' := by
  obtain ⟨now, rows, hmem, hrows⟩ := hc
  obtain ⟨now', rows', hmem', hrows'⟩ := hc'
  obtain heq | ⟨later, earlier, rfl, hm⟩ | ⟨later, earlier, rfl, hm⟩ := ordered_of_mem hmem hmem'
  · cases heq
    rfl
  · exact absurd ⟨now', rows', hm, hrows'⟩ (not_consumed_before h hrows)
  · exact absurd ⟨now, rows, hm, hrows⟩ (not_consumed_before h hrows')

end Traces
end Servir
