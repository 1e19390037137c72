import Servir.Sessions.Credentials

/-!
# The credential policy

The documentation counts the characters of a password and `register` its bytes.
The two differ on a short password with characters of several bytes. On every
other input a registration ends as documented.
-/

namespace Servir
open Interleaving

variable {K : Crypto} {A : Assumption (service K)} {sh : Shared} {log : Trail} {t s : ℕ} {api : Api}
  {body : RegisterRequest} {o : Outcome}

theorem utf8ByteSize_ofList_cons (c : Char) (cs : List Char) :
    (String.ofList (c :: cs)).utf8ByteSize = c.utf8Size + (String.ofList cs).utf8ByteSize := by
  have hsplit : String.ofList (c :: cs) = String.singleton c ++ String.ofList cs := by
    rw [String.singleton_eq_ofList, ← String.ofList_append]
    rfl
  rw [hsplit, String.utf8ByteSize_append, String.utf8ByteSize_singleton]

theorem length_le_utf8ByteSize (s : String) : s.length ≤ s.utf8ByteSize := by
  rw [← String.length_toList]
  conv_rhs => rw [← String.ofList_toList (s := s)]
  generalize s.toList = cs
  induction cs with
  | nil => simp
  | cons c cs ih =>
    rw [List.length_cons, utf8ByteSize_ofList_cons]
    have hpos := c.utf8Size_pos
    omega

def Outcome.Fails (o : Outcome) (errorId : String) : Prop := ∃ e, o.error = some e ∧ e.errorId = errorId

@[simp] theorem fails_error (e : ServirError) (errorId : String) :
    (Outcome.tokens (.error e)).Fails errorId ↔ e.errorId = errorId := by
  simp [Outcome.Fails, Outcome.error]

@[simp] theorem not_fails_ok (resp : TokenResponse) (errorId : String) :
    ¬ (Outcome.tokens (.ok resp)).Fails errorId := by
  simp [Outcome.Fails, Outcome.error]

/-- Task `t` wrote one row of `users`, for `username`, and one row of `refresh_tokens`, which belongs
to the new user and to the refresh token `tok`. -/
def Registers (log : Trail) (t : ℕ) (username tok : String) : Prop :=
  ∃ u row secret c, (∀ r, Created log t r ↔ r = u) ∧ u.username = username ∧
    (∀ r, Inserted log t r ↔ r = row) ∧ row.userId = u.id ∧
    encoded t secret c (.ok tok) ∈ log ∧ c.kind = .refresh ∧ row.jti = c.jti

/-- What the documentation says of the outcome `o` of the register request `t`. -/
structure PolicyMet (log : Trail) (t : ℕ) (body : RegisterRequest) (o : Outcome) : Prop where
  empty : o.Fails "EMPTY_USERNAME" ↔ body.username = ""
  weak : o.Fails "WEAK_PASSWORD" ↔ body.username ≠ "" ∧ body.password.length < 8
  taken : body.username ≠ "" → 8 ≤ body.password.length → Taken log t body.username →
    o.Fails "ALREADY_EXISTS"
  free : body.username ≠ "" → 8 ≤ body.password.length → ¬ Taken log t body.username →
    ∃ resp, o = .tokens (.ok resp) ∧ Registers log t body.username resp.refreshToken

/-- The password has 8 bytes or more but fewer than 8 characters. -/
def BytesMiscounted (body : RegisterRequest) : Prop :=
  body.username ≠ "" ∧ body.password.length < 8 ∧ 8 ≤ body.password.utf8ByteSize

namespace Traces

theorem register_checked (h : Traces K A sh log)
    (hj : .spawned t (.request s api (.register body)) ∈ log) (ho : .replied t o ∈ log) :
    (body.username = "" ∧ o = .tokens (.error (.authUser .emptyUsername))) ∨
    (body.username ≠ "" ∧ body.password.utf8ByteSize < 8 ∧
      o = .tokens (.error (.authUser .weakPassword))) ∨
    (body.username ≠ "" ∧ 8 ≤ body.password.utf8ByteSize) := by
  have hrep : Replies K api (.register body) (history t log) o := Traced.replied h hj ho
  have hvalid : ∀ {past user}, Acts K api.routes (.register body) past user →
      body.username ≠ "" ∧ 8 ≤ body.password.utf8ByteSize := by
    intro past user hacts
    cases hacts with
    | register hname hlong => exact ⟨hname, hlong⟩
  generalize history t log = past at hrep
  cases hrep with
  | tokens hissue =>
    cases hissue with
    | emptyUsername hempty => exact .inl ⟨hempty, rfl⟩
    | weakPassword hname hweak => exact .inr (.inl ⟨hname, hweak, rfl⟩)
    | hashFailed hname hlong => exact .inr (.inr ⟨hname, hlong⟩)
    | createFailed hname hlong => exact .inr (.inr ⟨hname, hlong⟩)
    | accessUnsigned hacts => exact .inr (.inr (hvalid hacts))
    | refreshUnsigned hacts => exact .inr (.inr (hvalid hacts))
    | storeFailed hacts => exact .inr (.inr (hvalid hacts))
    | issued hacts => exact .inr (.inr (hvalid hacts))

theorem registers (h : Traces K A sh log) {resp : TokenResponse}
    (hj : .spawned t (.request s api (.register body)) ∈ log)
    (ho : .replied t (.tokens (.ok resp)) ∈ log) :
    Registers log t body.username resp.refreshToken := by
  obtain ⟨h₀, user, n, n', n₁, n₂, jti, jti', hacts, -, hpast⟩ := answered_tokens h hj ho
  cases hacts with
  | @register _ salt hash id m =>
    let u : UserRow := ⟨id, body.username, hash, m.toInt64⟩
    let row : RefreshTokenRow := ⟨jti', id,
      n₁.toInt64 + api.routes.refreshTokenTtlSecs.toInt64, n₂.toInt64⟩
    have hcreated : Created log t u := mem_history.1 (by simp [hpast, refreshPast, accessPast, u])
    have hinserted : Inserted log t row := mem_history.1 (hpast ▸ List.mem_cons_self)
    have hsigned : encoded t api.routes.secret
        (refreshClaims api.routes ⟨id, body.username, hash⟩ n' jti') (.ok resp.refreshToken) ∈ log :=
      mem_history.1 (by simp [hpast, refreshPast])
    refine ⟨u, row, _, _, fun r => ⟨fun hr => ?_, fun hr => hr ▸ hcreated⟩, rfl,
      fun r => ⟨fun hr => ?_, fun hr => hr ▸ hinserted⟩, rfl, hsigned, rfl, rfl⟩
    · exact created_once h hr hcreated
    · exact inserted_once h hr hinserted

/-- A valid registration that meets no fault ends as documented if its password is long enough. -/
theorem policyMet_valid (h : Traces K A sh log)
    (hj : .spawned t (.request s api (.register body)) ∈ log) (hf : FaultFree K log t)
    (ho : .replied t o ∈ log) (hname : body.username ≠ "") (hlong : 8 ≤ body.password.length) :
    PolicyMet log t body o := by
  have hbytes : 8 ≤ body.password.utf8ByteSize := hlong.trans (length_le_utf8ByteSize _)
  obtain ⟨⟨resp, rfl⟩, r, hc, hcname⟩ | ⟨⟨display, rfl⟩, htaken⟩ :=
    register_reply h hj hname hbytes hf ho
  · constructor
    · simp [hname]
    · simp [hlong]
    · intro _ _ htaken
      obtain ⟨t', r', hne, hc', hcname'⟩ := taken_other h htaken
      exact absurd (created_unique h hc' hc (hcname'.trans hcname.symm)).1 hne
    · exact fun _ _ _ => ⟨resp, rfl, registers h hj ho⟩
  · constructor
    · simp [hname, ServirError.errorId, AuthUserError.errorId]
    · simp [hlong, ServirError.errorId, AuthUserError.errorId]
    · simp [ServirError.errorId, AuthUserError.errorId]
    · exact fun _ _ hfree => absurd htaken hfree

end Traces

/-- A registration that meets no fault ends as documented, unless its password has fewer than 8
characters in 8 bytes or more. -/
theorem credential_policy_iff {σ : Pool (service K)} (h : Reachable K Unrestricted σ) :
    (∀ t s api body o, .spawned t (.request s api (.register body)) ∈ σ.log →
      FaultFree K σ.log t → .replied t o ∈ σ.log →
      (PolicyMet σ.log t body o ↔ ¬ BytesMiscounted body)) ∧
    ∀ t job, Open σ.log t job → ∃ ls σ' o, Path NoFaults σ ls σ' ∧ (∀ l ∈ ls, l.task = t) ∧
      .replied t o ∈ σ'.log := by
  have ht := h.traces
  refine ⟨?_, fun t job hrun => Reach.completes (service_follows K)
    (responsive.mono (fun _ _ _ hA => hA.1.1)) h hrun⟩
  intro t s api body o hj hf ho
  have hle := length_le_utf8ByteSize body.password
  obtain ⟨hempty, rfl⟩ | ⟨hname, hweak, rfl⟩ | ⟨hname, hbytes⟩ := ht.register_checked hj ho
  · apply iff_of_true
    · constructor <;> simp [hempty, ServirError.errorId, AuthUserError.errorId]
    · exact fun hmis => hmis.1 hempty
  · have hshort : body.password.length < 8 := by omega
    apply iff_of_true
    · constructor <;> simp [hname, hshort, ServirError.errorId, AuthUserError.errorId]
    · rintro ⟨-, -, hlong⟩
      omega
  · by_cases hshort : body.password.length < 8
    · -- the bytes let the password pass
      apply iff_of_false _ (not_not_intro ⟨hname, hshort, hbytes⟩)
      intro hmet
      have hfails := hmet.weak.2 ⟨hname, hshort⟩
      obtain ⟨⟨resp, rfl⟩, -⟩ | ⟨⟨display, rfl⟩, -⟩ := ht.register_reply hj hname hbytes hf ho
      · exact not_fails_ok _ _ hfails
      · simp [ServirError.errorId, AuthUserError.errorId] at hfails
    · exact iff_of_true (ht.policyMet_valid hj hf ho hname (Nat.le_of_not_lt hshort))
        (fun hmis => hshort hmis.2.1)

open Scenario in
/-- A password of 8 letters is accepted, with one user and one refresh token written. -/
theorem credential_policy_iff_letters : ∃ σ : Pool (service Transparent.crypto),
    Reachable Transparent.crypto Unrestricted σ ∧
    ∃ o, .replied 1 o ∈ σ.log ∧ PolicyMet σ.log 1 ⟨"ann", "password"⟩ o := by
  obtain ⟨σ, hσ, hj, ho⟩ := Scenario.reach NoFaults
    (starting ++ registering 1 "ann" "password" 105 "id" "a1" "r1")
    (fun σ => .spawned 1 (.request 0 Scenario.api (.register ⟨"ann", "password"⟩)) ∈ σ.log ∧
      .replied 1 (.tokens (.ok ⟨accessToken "id" "ann" 105 "a1", token (ann 105 "r1"), "Bearer"⟩)) ∈
        σ.log) (by decide +kernel)
  have hσ' : Reachable Transparent.crypto Unrestricted σ := hσ.mono (fun _ _ _ _ => trivial)
  have hf := hσ.traces.faultFree Transparent.crypto_tokenSound (fun _ _ => ⟨_, rfl⟩)
    (hσ.traces.not_fault le_rfl 1)
  exact ⟨σ, hσ', _, ho, ((credential_policy_iff hσ').1 1 0 _ _ _ hj hf ho).2
    (fun hmis => absurd hmis.2.1 (by decide))⟩

open Scenario in
/-- A password of 4 characters in 8 bytes is accepted. -/
theorem credential_policy_not_met : ∃ σ : Pool (service Transparent.crypto),
    Reachable Transparent.crypto (NoFaults ⊓ Monotone ⊓ Unforged) σ ∧ "éééé".length = 4 ∧
    .spawned 1 (.request 0 Scenario.api (.register ⟨"ann", "éééé"⟩)) ∈ σ.log ∧
    ∃ resp, .replied 1 (.tokens (.ok resp)) ∈ σ.log ∧
      ¬ PolicyMet σ.log 1 ⟨"ann", "éééé"⟩ (.tokens (.ok resp)) := by
  obtain ⟨σ, hσ, hj, ho⟩ := Scenario.reach (NoFaults ⊓ Monotone ⊓ Unforged)
    (starting ++ registering 1 "ann" "éééé" 105 "id" "a1" "r1")
    (fun σ => .spawned 1 (.request 0 Scenario.api (.register ⟨"ann", "éééé"⟩)) ∈ σ.log ∧
      .replied 1 (.tokens (.ok ⟨accessToken "id" "ann" 105 "a1", token (ann 105 "r1"), "Bearer"⟩)) ∈
        σ.log) (by decide +kernel)
  refine ⟨σ, hσ, by decide, hj, _, ho, fun hmet => ?_⟩
  exact not_fails_ok _ _ (hmet.weak.2 ⟨by decide, by decide⟩)

end Servir
