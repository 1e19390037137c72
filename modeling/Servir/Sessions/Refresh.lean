import Servir.Sessions.Identity
import Servir.Sessions.SingleUse
import Servir.Tokens.Expiry
import Servir.Sessions.Credentials

/-!
# How a refresh ends

A refresh reads the clock twice before it sends a statement, once to verify its
token and once to consume its row. Without a fault these two readings and the
answer of the consume decide how it ends.
-/

namespace Servir
open Interleaving

variable {K : Crypto} {A : Assumption (service K)} {sh : Shared} {log later earlier : Trail}
  {t s : ℕ} {api : Api} {body : RefreshRequest} {c : Claims}

/-- Task `t` read the clock as `n` before it sent a statement. -/
def Checks (log : Trail) (t : ℕ) (n : UInt64) : Prop :=
  ∃ newer older, history t log = newer ++ readClock n :: older ∧ ∀ x ∈ older, x.effect.stage = 0

theorem checks_of_suffix {n n' : UInt64} (h : [readClock n', readClock n] <:+ history t log) :
    Checks log t n ∧ Checks log t n' := by
  obtain ⟨newer, hpast⟩ := h
  refine ⟨⟨newer ++ [readClock n'], [], by simp [← hpast], by simp⟩, newer, [readClock n],
    hpast.symm, ?_⟩
  simp [Effect.stage]

namespace Traces

theorem refresh_reply (h : Traces K A sh log)
    (hj : .spawned t (.request s api (.refresh body)) ∈ log)
    (hopen : K.openToken api.routes.secret body.refreshToken = .ok c) (hkind : c.kind = .refresh)
    (hf : FaultFree K log t) {o : Outcome} (ho : .replied t o ∈ log) :
    ∃ n, Checks log t n ∧
      ((c.exp.toNat + leeway < n.toNat ∧ o = .tokens (.error (.authToken .expired))) ∨
        n.toNat ≤ c.exp.toNat + leeway ∧ ∃ n' rows, Checks log t n' ∧
          ran t (.deleteRefreshToken c.jti n'.toInt64) (.ok rows) ∈ log ∧
          ((rows = 0 ∧ o = .tokens (.error (.authToken .invalidRefreshToken))) ∨
            0 < rows ∧ ((∃ resp, o = .tokens (.ok resp)) ∨
              ran t (.selectUserById c.sub) (.ok none) ∈ log))) := by
  have hrep : Replies K api (.refresh body) (history t log) o := Traced.replied h hj ho
  have hmem : ∀ {x : Entry signature}, x ∈ history t log → .performed t x.effect x.answer ∈ log :=
    fun hx => mem_history.1 hx
  have hclaims : ∀ {c' n}, verifyTokenAt K body.refreshToken api.routes n = .ok c' →
      c = c' ∧ n.toNat ≤ c.exp.toNat + leeway := by
    intro c' n hverify
    obtain ⟨hopen', hexp⟩ := verifyTokenAt_ok.1 hverify
    rw [hopen] at hopen'
    cases hopen'
    exact ⟨rfl, hexp⟩
  generalize hpast : history t log = past at hrep hmem
  cases hrep with
  | tokens hissue =>
    cases hissue with
    | @rejected _ n e hverify =>
      refine ⟨n, ⟨[], [], hpast, by simp⟩, .inl ?_⟩
      by_cases hexp : n.toNat ≤ c.exp.toNat + leeway
      · rw [verifyTokenAt_ok.2 ⟨hopen, hexp⟩] at hverify
        cases hverify
      · rw [verifyTokenAt_expired hopen (Nat.lt_of_not_le hexp)] at hverify
        cases hverify
        exact ⟨Nat.lt_of_not_le hexp, rfl⟩
    | wrongKind hverify hkind' =>
      obtain ⟨rfl, -⟩ := hclaims hverify
      exact absurd hkind hkind'
    | consumeFailed => simpa using failed_insert hf h (hmem List.mem_cons_self)
    | @replayed _ n n' _ hverify =>
      obtain ⟨rfl, hexp⟩ := hclaims hverify
      obtain ⟨hn, hn'⟩ := checks_of_suffix ⟨[_], hpast.symm⟩
      exact ⟨n, hn, .inr ⟨hexp, n', 0, hn', hmem List.mem_cons_self, .inl ⟨rfl, rfl⟩⟩⟩
    | findFailed => simpa using failed_insert hf h (hmem List.mem_cons_self)
    | @userNotFound _ n n' _ rows hverify _ hrows =>
      obtain ⟨rfl, hexp⟩ := hclaims hverify
      obtain ⟨hn, hn'⟩ := checks_of_suffix ⟨[_, _], hpast.symm⟩
      exact ⟨n, hn, .inr ⟨hexp, n', rows, hn', hmem (List.mem_cons_of_mem _ List.mem_cons_self),
        .inr ⟨hrows, .inr (hmem List.mem_cons_self)⟩⟩⟩
    | accessUnsigned => exact absurd (hmem List.mem_cons_self) (hf.signatures _ _ _)
    | refreshUnsigned => exact absurd (hmem List.mem_cons_self) (hf.signatures _ _ _)
    | storeFailed => simpa using failed_insert hf h (hmem List.mem_cons_self)
    | issued hacts =>
      cases hacts with
      | @refresh _ _ n n' rows _ hverify _ hrows =>
        obtain ⟨rfl, hexp⟩ := hclaims hverify
        obtain ⟨hn, hn'⟩ := checks_of_suffix ⟨[_, _, _, _, _, _, _, _, _, _, _], hpast.symm⟩
        have hc : ran t (.deleteRefreshToken c.jti n'.toInt64) (.ok rows) ∈ log :=
          mem_history.1 (by simp [hpast, refreshPast, accessPast])
        exact ⟨n, hn, .inr ⟨hexp, n', rows, hn', hc, .inr ⟨hrows, .inl ⟨_, rfl⟩⟩⟩⟩

theorem refresh_faultFree (hK : K.TokenSound) (h : Traces K A sh log)
    (hj : .spawned t (.request s api (.refresh body)) ∈ log)
    (hstmts : ∀ q display, ran t q (.error (.fault display)) ∉ log) : FaultFree K log t where
  statements := hstmts
  signatures _ _ _ := not_unsigned hK h
  hashes s' api' body' salt e hj' _ := by cases Traced.spawned_unique h hj hj'

theorem consumes_presents (hA : A ≤ Unforged) {t₀ : ℕ} {secret tok jti : String} {now : Int64}
    {x : Except SqlxError ℕ} (h : Traces K A sh (later ++ ran t (.deleteRefreshToken jti now) x :: earlier))
    (hs : encoded t₀ secret c (.ok tok) ∈ later ++ ran t (.deleteRefreshToken jti now) x :: earlier)
    (hkind : c.kind = .refresh) (hjti : jti = c.jti) : Presents earlier t tok := by
  obtain ⟨s, api, ⟨tok'⟩, c', n, n', hj, hverify, hkind', rfl, -, -⟩ := consuming h
  obtain ⟨t₁, hs'⟩ := genuine hA h (earlier_subset hj) rfl (verifyTokenAt_ok.1 hverify).1
  obtain ⟨rfl, rfl⟩ := refresh_signed_jti h hs' hs hkind' hkind hjti
  cases (refresh_signed_once h hs' hs hkind hkind).2
  exact ⟨s, api, hj⟩

theorem refresh_finds (h : Traces K A sh log)
    (hlog : log = later ++ .spawned t (.request s api (.refresh body)) :: earlier) {u : UserRow}
    (hu : Registered earlier u) {id : String} (hid : u.id = id) :
    ran t (.selectUserById id) (.ok none) ∉ log := by
  intro hnone
  obtain ⟨l, m, hm⟩ := List.append_of_mem hnone
  have hsub : earlier ⊆ m := fun ev hev =>
    (Traced.spawned_suffix h hlog hm).subset (List.mem_cons_of_mem _ hev)
  have hfound : (none : Option User) = some u.toUser :=
    (found_id (hm ▸ h) u.toUser).2 ⟨u, hu.mono hsub, hid, rfl⟩
  cases hfound

/-- A refresh that meets no fault is answered with a token pair, if its readings are in time and the
row is stored when it consumes it. -/
theorem refresh_granted (h : Traces K A sh log)
    (hlog : log = later ++ .spawned t (.request s api (.refresh body)) :: earlier)
    (hopen : K.openToken api.routes.secret body.refreshToken = .ok c) (hkind : c.kind = .refresh)
    (hf : FaultFree K log t) {u : UserRow} (hu : Registered earlier u) (hid : u.id = c.sub)
    {r : RefreshTokenRow} (hjti : r.jti = c.jti)
    (hstored : ∀ l m now x, log = l ++ ran t (.deleteRefreshToken c.jti now) x :: m → Stored m r)
    (hreads : ∀ n, Checks log t n → n.toNat ≤ c.exp.toNat + leeway ∧ n.toInt64 < r.expiresAt)
    {o : Outcome} (ho : .replied t o ∈ log) : ∃ resp, o = .tokens (.ok resp) := by
  have hj : .spawned t (.request s api (.refresh body)) ∈ log := by simp [hlog]
  obtain ⟨n, hn, ⟨hlate, -⟩ | ⟨-, n', rows, hn', hc, hend⟩⟩ := refresh_reply h hj hopen hkind hf ho
  · have := (hreads n hn).1
    omega
  · obtain ⟨l, m, hm⟩ := List.append_of_mem hc
    have hrows : 0 < rows := (consumed_iff (hm ▸ h)).2 ⟨r, hstored _ _ _ _ hm, hjti, (hreads n' hn').2⟩
    obtain ⟨hzero, -⟩ | ⟨-, hok | hnone⟩ := hend
    · exact absurd hzero (Nat.pos_iff_ne_zero.1 hrows)
    · exact hok
    · exact absurd hnone (refresh_finds h hlog hu hid)

theorem refresh_tokens_for (h : Traces K A sh log)
    (hj : .spawned t (.request s api (.refresh body)) ∈ log)
    (hopen : K.openToken api.routes.secret body.refreshToken = .ok c) {u : UserRow}
    (hid : u.id = c.sub) {resp : TokenResponse} (ho : .replied t (.tokens (.ok resp)) ∈ log) :
    TokensFor log t resp u := by
  obtain ⟨h₀, user, hacts, hpast, hfield⟩ := field_signed h hj ho
  have huser : user.id = u.id := by
    cases hacts with
    | refresh hverify =>
      rw [(verifyTokenAt_ok.1 hverify).1] at hopen
      cases hopen
      obtain ⟨l, m, hm⟩ := List.append_of_mem (mem_history.1 (hpast _ List.mem_cons_self))
      obtain ⟨u', -, hid', rfl⟩ := (found_id (hm ▸ h) _).1 rfl
      exact hid'.trans hid.symm
  intro k
  obtain ⟨c', hs, hkind, hsub⟩ := hfield k
  exact ⟨_, c', hs, hkind, hsub.trans huser⟩

/-- The refresh token of an OK response, its row and its user. Under a clock that does not go back the
row outlives the token, as long as the arithmetic of the two does not wrap. -/
theorem issued_row (h : Traces K A sh log) {req : Request} {resp : TokenResponse}
    (hj : .spawned t (.request s api req) ∈ log) (ho : .replied t (.tokens (.ok resp)) ∈ log) :
    ∃ c r u, encoded t api.routes.secret c (.ok resp.refreshToken) ∈ log ∧ c.kind = .refresh ∧
      Inserted log t r ∧ r.jti = c.jti ∧ r.userId = c.sub ∧
      Registered log u ∧ u.id = c.sub ∧ u.username = c.username ∧
      (A ≤ Monotone →
        (∀ n, read t n ∈ log → n.toNat + api.routes.refreshTokenTtlSecs.toNat < 2 ^ 63) →
        ∀ n : UInt64, n < c.exp → n.toInt64 < r.expiresAt) := by
  obtain ⟨h₀, user, n, n', n₁, n₂, jti, jti', hacts, -, hpast⟩ := answered_tokens h hj ho
  have hall : ∀ x ∈ h₀, x ∈ history t log :=
    fun x hx => by simp [hpast, refreshPast, accessPast, hx]
  obtain ⟨u, hu, rfl⟩ := acts_registered h hacts hall
  have hs : encoded t api.routes.secret (refreshClaims api.routes u.toUser n' jti')
      (.ok resp.refreshToken) ∈ log := mem_history.1 (by simp [hpast, refreshPast])
  refine ⟨_, ⟨jti', u.id, n₁.toInt64 + api.routes.refreshTokenTtlSecs.toInt64, n₂.toInt64⟩, u, hs, rfl,
    mem_history.1 (hpast ▸ List.mem_cons_self), rfl, rfl, hu, rfl, rfl, fun hA hbound m hm => ?_⟩
  have hn' : read t n' ∈ log := mem_history.1 (by simp [hpast, refreshPast])
  have hn₁ : read t n₁ ∈ log := mem_history.1 (by simp [hpast])
  have hsplit : history t log = [sent (storeStmt api.routes u.toUser jti' n₁ n₂) (.ok ()),
      readClock n₂] ++ readClock n₁ :: refreshPast api.routes u.toUser n' jti'
        (.ok resp.refreshToken) (accessPast api.routes u.toUser n jti (.ok resp.accessToken) h₀) :=
    hpast
  obtain ⟨later, earlier, hlog, hbelow⟩ := history_split hsplit
  have hbefore : read t n' ∈ earlier := mem_history.1 (by simp [hbelow, refreshPast])
  have hle : n' ≤ n₁ := reads_ordered hA (hlog ▸ h) hbefore
  have hbound' := hbound n' hn'
  have hexp : (n' + api.routes.refreshTokenTtlSecs).toNat =
      n'.toNat + api.routes.refreshTokenTtlSecs.toNat :=
    (exp_exact_iff _ _).2 (hbound'.trans (by norm_num))
  have hm' : m.toNat < (n' + api.routes.refreshTokenTtlSecs).toNat := UInt64.lt_iff_toNat_lt.1 hm
  have hle' := UInt64.le_iff_toNat_le.1 hle
  rw [Int64.lt_iff_toInt_lt, (expires_exact_iff _ _).2 (hbound n₁ hn₁), toInt_toInt64]
  split_ifs <;> omega

end Traces
end Servir
