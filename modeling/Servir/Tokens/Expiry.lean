import Servir.Runs.Scenario

/-!
# Lifetimes of tokens

A TTL takes two integer paths: an addition of unsigned words for the `exp` claim,
and a cast with an addition of signed words for `expires_at`. Both are exact
below their bounds and wrap above them. What `exp` means is up to the validation,
which adds a leeway of a minute.
-/

namespace Servir
open Interleaving

theorem exp_exact_iff (now ttl : UInt64) :
    (now + ttl).toNat = now.toNat + ttl.toNat ↔ now.toNat + ttl.toNat < 2 ^ 64 := by
  have hnow := now.toNat_lt
  have httl := ttl.toNat_lt
  rw [UInt64.toNat_add]
  omega

theorem toInt_toInt64 (x : UInt64) :
    x.toInt64.toInt = if x.toNat < 2 ^ 63 then (x.toNat : ℤ) else x.toNat - 2 ^ 64 := by
  change x.toBitVec.toInt = _
  have hx : x.toBitVec.toNat = x.toNat := rfl
  rw [BitVec.toInt_eq_toNat_cond, hx]
  split_ifs <;> omega

theorem expires_exact_iff (now ttl : UInt64) :
    (now.toInt64 + ttl.toInt64).toInt = now.toNat + ttl.toNat ↔
      now.toNat + ttl.toNat < 2 ^ 63 := by
  have hnow := now.toNat_lt
  have httl := ttl.toNat_lt
  rw [← UInt64.toInt64_add, toInt_toInt64, UInt64.toNat_add]
  split_ifs <;> omega

theorem expires_after (now ttl : UInt64) (hpos : 0 < ttl.toNat)
    (hbound : now.toNat + ttl.toNat < 2 ^ 63) : now.toInt64 < now.toInt64 + ttl.toInt64 := by
  rw [Int64.lt_iff_toInt_lt, (expires_exact_iff now ttl).2 hbound, toInt_toInt64]
  split_ifs <;> omega

/-- At the clock reading `now`, the `exp` of both tokens and the `expires_at` of the row are the sums
of the unbounded integers, and a row stored with a positive TTL can be consumed in the same second. -/
structure ExpiryExact (config : AuthConfig) (now : UInt64) : Prop where
  access : ∀ user jti, (accessClaims config user now jti).exp.toNat =
    now.toNat + config.accessTokenTtlSecs.toNat
  refresh : ∀ user jti, (refreshClaims config user now jti).exp.toNat =
    now.toNat + config.refreshTokenTtlSecs.toNat
  row : ∀ user jti now' jti' userId expires created,
    storeStmt config user jti now now' = .insertRefreshToken jti' userId expires created →
      expires.toInt = now.toNat + config.refreshTokenTtlSecs.toNat
  fresh : 0 < config.refreshTokenTtlSecs → ∀ db user jti now' db',
    Stmt.exec db (storeStmt config user jti now now') = (.ok (), db') →
      ∃ rows, (Stmt.exec db' (.deleteRefreshToken jti now.toInt64)).1 = .ok rows ∧ 0 < rows

theorem stored_consumed {db db' : Db} {jti userId : String} {expires created now : Int64}
    (h : Stmt.exec db (.insertRefreshToken jti userId expires created) = (.ok (), db'))
    (hnow : now < expires) :
    ∃ rows, (Stmt.exec db' (.deleteRefreshToken jti now)).1 = .ok rows ∧ 0 < rows := by
  have hc := Stmt.exec_changes (.insertRefreshToken jti userId expires created) db
  rw [h] at hc
  have hrow : (⟨jti, userId, expires, created⟩ : RefreshTokenRow) ∈ db'.refreshTokens :=
    (hc.tokens _).2 (.inr rfl)
  exact ⟨_, rfl, Store.Table.count_pos.2 ⟨_, hrow, by simp [hnow]⟩⟩

/-- The expiry arithmetic is exact exactly below the bounds of the two integer types. -/
theorem expiry_exact_iff (config : AuthConfig) (now : UInt64) :
    ExpiryExact config now ↔ now.toNat + config.accessTokenTtlSecs.toNat < 2 ^ 64 ∧
      now.toNat + config.refreshTokenTtlSecs.toNat < 2 ^ 63 := by
  constructor
  · intro h
    exact ⟨(exp_exact_iff _ _).1 (h.access ⟨"", "", ""⟩ ""),
      (expires_exact_iff _ _).1 (h.row ⟨"", "", ""⟩ "" now _ _ _ _ rfl)⟩
  · rintro ⟨haccess, hrefresh⟩
    refine ⟨fun _ _ => (exp_exact_iff _ _).2 haccess,
      fun _ _ => (exp_exact_iff _ _).2 (by omega), ?_, ?_⟩
    · rintro user jti now' _ _ _ _ he
      cases he
      exact (expires_exact_iff _ _).2 hrefresh
    · intro hpos db user jti now' db' hexec
      exact stored_consumed hexec (expires_after _ _ (UInt64.lt_iff_toNat_lt.1 hpos) hrefresh)

/-- The builder takes a TTL under which every row has expired before it is stored. -/
theorem expiry_not_exact : ∃ (b : ServerBuilder) (now : UInt64), now.toNat < 2 ^ 63 ∧
    ¬ ExpiryExact b.config now ∧
    now.toInt64 + b.config.refreshTokenTtlSecs.toInt64 < now.toInt64 := by
  refine ⟨⟨none, some 9223372036854775808⟩, 100, by decide, ?_, by decide⟩
  rw [expiry_exact_iff]
  decide

variable {K : Crypto} {A : Assumption (service K)} {sh : Shared} {log later earlier : Trail}
  {t s : ℕ} {api : Api} {req : Request} {tok : String} {c : Claims}

/-- The kind of token that an endpoint accepts on the word of `verify_token`. -/
def Request.verifies : Request → Option TokenKind
  | .me _ | .guarded _ => some .access
  | .logout _ => some .refresh
  | _ => none

def AuthConfig.ttl (config : AuthConfig) : TokenKind → UInt64
  | .access => config.accessTokenTtlSecs
  | .refresh => config.refreshTokenTtlSecs

theorem errorId_expired {e : ServirError} :
    e.errorId = "TOKEN_EXPIRED" ↔ e = .authToken .expired := by
  constructor
  · intro h
    cases e with
    | authToken e => cases e <;> simp [ServirError.errorId, AuthTokenError.errorId] at h ⊢
    | db e => cases e <;> simp [ServirError.errorId, DbError.errorId] at h
    | authUser e => cases e <;> simp [ServirError.errorId, AuthUserError.errorId] at h
    | _ => simp [ServirError.errorId] at h
  · rintro rfl
    rfl

namespace Traces

theorem signed_exp (h : Traces K A sh log) {secret : String} {r : Except String String}
    (hr : encoded t secret c r ∈ log) : ∃ s api req, .spawned t (.request s api req) ∈ log ∧
      c.exp = c.iat + api.routes.ttl c.kind := by
  obtain ⟨later, earlier, rfl⟩ := List.append_of_mem hr
  obtain ⟨s, api, req, h₀, user, n, jti, hj, -, -, -, hcase⟩ := signing h
  refine ⟨s, api, req, earlier_subset hj, ?_⟩
  obtain ⟨rfl, -⟩ | ⟨n₀, jti₀, tok, rfl, -⟩ := hcase
  · rfl
  · rfl

/-- An endpoint that only verifies refuses a token as expired from a minute after its `exp`. -/
theorem expired_reply (h : Traces K A sh log) (hj : .spawned t (.request s api req) ∈ log)
    (htok : req.presents = some tok) (hopen : K.openToken api.routes.secret tok = .ok c)
    (hkind : req.verifies = some c.kind) {n : UInt64} (hn : read t n ∈ log) {o : Outcome}
    (ho : .replied t o ∈ log) :
    o.error = some (.authToken .expired) ↔ c.exp.toNat + leeway < n.toNat := by
  have hlayer := h.api_layer hj
  cases req with
  | register body => cases htok
  | login body => cases htok
  | refresh body => cases hkind
  | logout body =>
    cases htok
    obtain ⟨hlate, hearly⟩ := h.logout_reply hj hopen (Option.some.inj hkind).symm hn ho
    rcases Nat.lt_or_ge (c.exp.toNat + leeway) n.toNat with hexp | hexp
    · exact iff_of_true (congrArg Outcome.error (hlate hexp)) hexp
    · refine iff_of_false ?_ (Nat.not_lt.2 hexp)
      obtain rfl | ⟨display, rfl⟩ := hearly hexp <;> simp [Outcome.error]
  | me authorization =>
    rw [← hlayer] at hopen
    obtain ⟨hlate, hearly⟩ := h.me_reply hj htok hopen (Option.some.inj hkind).symm hn ho
    rcases Nat.lt_or_ge (c.exp.toNat + leeway) n.toNat with hexp | hexp
    · exact iff_of_true (congrArg Outcome.error (hlate hexp)) hexp
    · exact iff_of_false (by simp [hearly hexp, Outcome.error]) (Nat.not_lt.2 hexp)
  | guarded authorization =>
    rw [← hlayer] at hopen
    obtain ⟨hlate, hearly⟩ := h.guarded_reply hj htok hopen (Option.some.inj hkind).symm hn ho
    rcases Nat.lt_or_ge (c.exp.toNat + leeway) n.toNat with hexp | hexp
    · exact iff_of_true (congrArg Outcome.error (hlate hexp)) hexp
    · exact iff_of_false (by simp [hearly hexp, Outcome.error]) (Nat.not_lt.2 hexp)

end Traces

end Servir
