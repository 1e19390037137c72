import Servir.Http.Encoding
import Servir.Runs.Scenario

/-!
# The identifiers of errors

An error that names a resource names the user that its request is about, by the
username or by the id. The exception is `logout`: it passes a user id to
`DbError::DeleteRefreshTokensForUser`, which reports it under `username`.
-/

namespace Servir
open Interleaving

variable {K : Crypto} {A : Assumption (service K)} {sh : Shared} {log : Trail} {t s : ℕ} {api : Api}
  {req : Request} {o : Outcome} {e : ServirError} {i : Identifier}

def Request.username : Request → Option String
  | .register body => some body.username
  | .login body => some body.username
  | _ => none

/-- The token of the request opens as the claims `c`. -/
def Opens (K : Crypto) (api : Api) (req : Request) (c : Claims) : Prop :=
  ∃ tok, req.presents = some tok ∧ K.openToken (req.config api).secret tok = .ok c

theorem Opens.unique {c c' : Claims} (h : Opens K api req c) (h' : Opens K api req c') : c = c' := by
  obtain ⟨tok, htok, hopen⟩ := h
  obtain ⟨tok', htok', hopen'⟩ := h'
  rw [htok] at htok'
  cases htok'
  rw [hopen] at hopen'
  exact Except.ok.inj hopen'

/-- The user that the request is about goes by this username: the request gives it, or `users` has
it for the user of the token. -/
def NamesUser (K : Crypto) (log : Trail) (api : Api) (req : Request) (username : String) : Prop :=
  req.username = some username ∨
    ∃ c u, Opens K api req c ∧ Registered log u ∧ u.id = c.sub ∧ u.username = username

/-- The token of the request is for this user id, which is registered if the token was signed by a
server. -/
def IdentifiesUser (K : Crypto) (log : Trail) (api : Api) (req : Request) (userId : String) : Prop :=
  ∃ c, Opens K api req c ∧ c.sub = userId ∧
    ((∃ tok, req.presents = some tok ∧ Signed log (req.config api).secret tok c) →
      ∃ u, Registered log u ∧ u.id = userId)

/-- What a response says under `username` and `user_id` is true. -/
structure Truthful (K : Crypto) (log : Trail) (api : Api) (req : Request) (r : HttpResponse) :
    Prop where
  username : ∀ v, r.entry "username" = some v → NamesUser K log api req v
  userId : ∀ v, r.entry "user_id" = some v → IdentifiesUser K log api req v

/-- Task `t` failed to delete the refresh tokens of a user whose id is not also the username. -/
def RevokeMislabelled (log : Trail) (t : ℕ) : Prop :=
  ∃ userId e, ran t (.deleteRefreshTokensForUser userId) (.error e) ∈ log ∧
    ∀ u, Registered log u → u.id = userId → u.username ≠ userId

theorem createUserError_identifier (username : String) (e : SqlxError) :
    (createUserError username e).context.identifier = some ⟨"username", username⟩ := by
  unfold createUserError
  split <;> rfl

theorem verifyTokenAt_identifier {token : String} {config : AuthConfig} {now : UInt64}
    (h : verifyTokenAt K token config now = .error e) : e.context.identifier = none := by
  obtain rfl | ⟨display, rfl⟩ := verifyTokenAt_error h <;> rfl

theorem Traces.revoke_logout (h : Traces K A sh log) {userId : String} {r : Except SqlxError ℕ}
    (hj : .spawned t (.request s api req) ∈ log)
    (hr : ran t (.deleteRefreshTokensForUser userId) r ∈ log) : ∃ body, req = .logout body := by
  obtain ⟨later, earlier, rfl⟩ := List.append_of_mem hr
  obtain ⟨s', api', body, c, n, hj', -⟩ := revoking h
  cases Traced.spawned_unique h hj (earlier_subset hj')
  exact ⟨body, rfl⟩

namespace Traces

theorem opens_of_verify (h : Traces K A sh log) {tok : String} {c : Claims} {n : UInt64}
    (hj : .spawned t (.request s api req) ∈ log) (htok : req.presents = some tok)
    (hverify : verifyTokenAt K tok api.routes n = .ok c) : Opens K api req c := by
  refine ⟨tok, htok, ?_⟩
  rw [request_config h hj]
  exact (verifyTokenAt_ok.1 hverify).1

theorem identifiesUser (h : Traces K A sh log) {c : Claims} (hopen : Opens K api req c) :
    IdentifiesUser K log api req c.sub := by
  refine ⟨c, hopen, rfl, ?_⟩
  rintro ⟨tok, -, hs⟩
  obtain ⟨u, hu, hid, -⟩ := signed_registered h hs
  exact ⟨u, hu, hid⟩

theorem acts_names_user (h : Traces K A sh log) {h₀ : Past} {user : User}
    (hj : .spawned t (.request s api req) ∈ log) (hacts : Acts K api.routes req h₀ user)
    (hpast : ∀ x ∈ h₀, x ∈ history t log) : NamesUser K log api req user.username := by
  cases hacts with
  | register => exact .inl rfl
  | login =>
    have hmem := mem_history.1 (hpast _ List.mem_cons_self)
    obtain ⟨later, earlier, rfl⟩ := List.append_of_mem hmem
    obtain ⟨u, -, hname, rfl⟩ := (found_username h _).1 rfl
    exact .inl (congrArg some hname.symm)
  | @refresh body c n n' rows _ hverify =>
    have hmem := mem_history.1 (hpast _ List.mem_cons_self)
    obtain ⟨later, earlier, rfl⟩ := List.append_of_mem hmem
    obtain ⟨u, hu, hid, rfl⟩ := (found_id h _).1 rfl
    exact .inr ⟨c, u, opens_of_verify h hj rfl hverify, hu.mono earlier_subset, hid, rfl⟩

private theorem issues_identifier (h : Traces K A sh log)
    (hj : .spawned t (.request s api req) ∈ log) {past : Past} (hpast : history t log = past)
    (hissue : Issues K api.routes req past (.error e)) (hid : e.context.identifier = some i) :
    (∃ v, i = ⟨"username", v⟩ ∧ NamesUser K log api req v) ∨
      ∃ v, i = ⟨"user_id", v⟩ ∧ IdentifiesUser K log api req v := by
  cases hissue with
  | emptyUsername | weakPassword | hashFailed | wrongKind | consumeFailed | replayed
  | accessUnsigned | refreshUnsigned => cases hid
  | createFailed =>
    rw [createUserError_identifier] at hid
    cases hid
    exact .inl ⟨_, rfl, .inl rfl⟩
  | lookupFailed | unknownUser | wrongPassword =>
    cases hid
    exact .inl ⟨_, rfl, .inl rfl⟩
  | malformedHash hverify =>
    obtain ⟨display, rfl⟩ := verifyPassword_error hverify
    cases hid
  | rejected hverify =>
    rw [verifyTokenAt_identifier hverify] at hid
    cases hid
  | findFailed hverify | userNotFound hverify =>
    cases hid
    exact .inr ⟨_, rfl, identifiesUser h (opens_of_verify h hj rfl hverify)⟩
  | @storeFailed _ h₀ _ _ _ _ _ _ _ _ _ _ hacts =>
    cases hid
    have hbelow : ∀ x ∈ h₀, x ∈ history t log := by
      intro x hx
      simp [hpast, refreshPast, accessPast, hx]
    exact .inl ⟨_, rfl, acts_names_user h hj hacts hbelow⟩

private theorem truthful_of_identifier {r : HttpResponse} (hr : o.response = some r)
    (h : ∀ e i, o.error = some e → e.context.identifier = some i →
      (∃ v, i = ⟨"username", v⟩ ∧ NamesUser K log api req v) ∨
        ∃ v, i = ⟨"user_id", v⟩ ∧ IdentifiesUser K log api req v) :
    Truthful K log api req r := by
  constructor
  · intro v hv
    obtain ⟨e, he, rfl⟩ := Outcome.response_entry hr hv
    rw [e.entry_intoResponse (by decide)] at hv
    obtain ⟨v', hi, hname⟩ | ⟨v', hi, -⟩ := h e _ he hv
    · cases hi
      exact hname
    · simp at hi
  · intro v hv
    obtain ⟨e, he, rfl⟩ := Outcome.response_entry hr hv
    rw [e.entry_intoResponse (by decide)] at hv
    obtain ⟨v', hi, -⟩ | ⟨v', hi, hid⟩ := h e _ he hv
    · simp at hi
    · cases hi
      exact hid

theorem truthful_other (h : Traces K A sh log) {r : HttpResponse}
    (hj : .spawned t (.request s api req) ∈ log) (ho : .replied t o ∈ log)
    (hr : o.response = some r) (hreq : ∀ body, req ≠ .logout body) : Truthful K log api req r := by
  have hrep : Replies K api req (history t log) o := Traced.replied h hj ho
  apply truthful_of_identifier hr
  intro e i he hid
  generalize hpast : history t log = past at hrep
  cases hrep with
  | @tokens _ _ x hissue =>
    cases x with
    | ok resp => cases he
    | error e' =>
      cases he
      exact issues_identifier h hj hpast hissue hid
  | loggedOut => exact absurd rfl (hreq _)
  | @identity _ _ x hextract =>
    cases hextract with
    | missingHeader | wrongKind =>
      cases he
      cases hid
    | rejected _ hverify =>
      cases he
      rw [verifyTokenAt_identifier hverify] at hid
      cases hid
    | accepted => cases he
  | accepted => cases hr

/-- A logout reports the user id of its token as a username if its delete fails. -/
theorem truthful_logout_iff (h : Traces K A sh log) {r : HttpResponse} {body : LogoutRequest}
    (hj : .spawned t (.request s api (.logout body)) ∈ log) (ho : .replied t o ∈ log)
    (hr : o.response = some r) :
    Truthful K log api (.logout body) r ↔ ¬ RevokeMislabelled log t := by
  obtain ⟨x, rfl, hrevoke⟩ := h.logout_exit hj ho
  generalize hpast : history t log = past at hrevoke
  -- where nothing is named and no delete failed, both sides hold
  have hquiet : (∀ e, (Outcome.loggedOut x).error = some e → e.context.identifier = none) →
      (∀ userId e, sent (.deleteRefreshTokensForUser userId) (.error e) ∉ past) →
      (Truthful K log api (.logout body) r ↔ ¬ RevokeMislabelled log t) := by
    intro hnone hsent
    apply iff_of_true
    · apply truthful_of_identifier hr
      intro e i he hid
      rw [hnone e he] at hid
      cases hid
    · rintro ⟨userId, e, hmem, -⟩
      exact hsent userId e (hpast ▸ mem_history.2 hmem)
  cases hrevoke with
  | rejected hverify =>
    apply hquiet
    · rintro e ⟨⟩
      exact verifyTokenAt_identifier hverify
    · simp
  | wrongKind =>
    apply hquiet
    · rintro e ⟨⟩
      rfl
    · simp
  | revoked => exact hquiet nofun (by simp)
  | @revokeFailed n c x hverify =>
    have hopen := opens_of_verify h hj rfl hverify
    have hmem : ran t (.deleteRefreshTokensForUser c.sub) (.error x) ∈ log :=
      mem_history.1 (hpast ▸ List.mem_cons_self)
    obtain rfl := Option.some.inj hr
    constructor
    · rintro htrue ⟨userId, x', hmem', hne⟩
      have hsent := mem_history.2 hmem'
      obtain ⟨rfl, -⟩ : userId = c.sub ∧ x' = x := by simpa [hpast] using hsent
      obtain hgiven | ⟨c', u, hopen', hu, hid, hname⟩ := htrue.username c.sub rfl
      · cases hgiven
      · obtain rfl := hopen.unique hopen'
        exact hne u hu hid hname
    · intro hlabel
      obtain ⟨u, hu, hid, hname⟩ : ∃ u, Registered log u ∧ u.id = c.sub ∧ u.username = c.sub := by
        by_contra! hnone
        exact hlabel ⟨c.sub, x, hmem, hnone⟩
      apply truthful_of_identifier hr
      intro e i he hi
      cases he
      cases hi
      exact .inl ⟨c.sub, rfl, .inr ⟨c, u, hopen, hu, hid, hname⟩⟩

end Traces

/-- A response names its user by the username and the id, unless it answers a logout whose delete
failed. -/
theorem identifiers_truthful_iff {σ : Pool (service K)} (h : Reachable K Unrestricted σ) :
    ∀ t s api req o r, .spawned t (.request s api req) ∈ σ.log → .replied t o ∈ σ.log →
      o.response = some r → (Truthful K σ.log api req r ↔ ¬ RevokeMislabelled σ.log t) := by
  intro t s api req o r hj ho hr
  have ht := h.traces
  by_cases hreq : ∃ body, req = .logout body
  · obtain ⟨body, rfl⟩ := hreq
    exact ht.truthful_logout_iff hj ho hr
  · refine iff_of_true (ht.truthful_other hj ho hr (fun body hb => hreq ⟨body, hb⟩)) ?_
    rintro ⟨userId, x, hmem, -⟩
    exact hreq (ht.revoke_logout hj hmem)

open Scenario in
/-- A registration whose refresh token is not stored names the user by the username. -/
theorem identifiers_truthful_iff_store : ∃ σ : Pool (service Transparent.crypto),
    Reachable Transparent.crypto Unrestricted σ ∧ ∃ o r, .replied 1 o ∈ σ.log ∧
      o.response = some r ∧ r.entry "username" = some "ann" ∧
      Truthful Transparent.crypto σ.log Scenario.api (.register ⟨"ann", "password"⟩) r := by
  obtain ⟨σ, hσ, hj, ho⟩ := Scenario.reach Unrestricted
    (starting ++ requesting 1 (.register ⟨"ann", "password"⟩) ++
      answering 1 [.salt "salt", .uuid "id", .reading 105, .execute, .reading 105, .uuid "a1", .compute,
        .reading 105, .uuid "r1", .compute, .reading 105, .reading 105, .fault "busy"] ++ [.reply 1])
    (fun σ => .spawned 1 (.request 0 Scenario.api (.register ⟨"ann", "password"⟩)) ∈ σ.log ∧
      .replied 1 (.tokens (.error (.db (.storeRefreshToken "ann" "busy")))) ∈ σ.log)
    (by decide +kernel)
  refine ⟨σ, hσ, _, _, ho, rfl, rfl, (identifiers_truthful_iff hσ 1 0 _ _ _ _ hj ho rfl).2 ?_⟩
  rintro ⟨userId, e, hmem, -⟩
  obtain ⟨body, hbody⟩ := hσ.traces.revoke_logout hj hmem
  cases hbody

open Scenario in
/-- A logout whose delete fails reports the id of `ann` as a username. -/
theorem logout_reports_id_as_username : ∃ σ : Pool (service Transparent.crypto),
    Reachable Transparent.crypto (Monotone ⊓ Unforged) σ ∧ ∃ req o r,
      .spawned 2 (.request 0 Scenario.api req) ∈ σ.log ∧ .replied 2 o ∈ σ.log ∧
      o.response = some r ∧ r.entry "username" = some "id" ∧
      (∃ u ∈ σ.shared.db.users, u.id = "id" ∧ u.username = "ann") ∧
      ¬ Truthful Transparent.crypto σ.log Scenario.api req r := by
  obtain ⟨σ, hσ, hj, ho, hrows⟩ := Scenario.reach (Monotone ⊓ Unforged)
    (starting ++ registering 1 "ann" "password" 105 "id" "a1" "r1" ++
      requesting 2 (.logout ⟨token (ann 105 "r1")⟩) ++ answering 2 [.reading 105, .fault "busy"] ++
      [.reply 2])
    (fun σ => .spawned 2 (.request 0 Scenario.api (.logout ⟨token (ann 105 "r1")⟩)) ∈ σ.log ∧
      .replied 2 (.loggedOut (.error (.db (.deleteRefreshTokensForUser "id" "busy")))) ∈ σ.log ∧
      σ.shared.db.users.rows.map (fun u => (u.id, u.username)) = [("id", "ann")])
    (by decide +kernel)
  have hmem : ∀ v w, (∃ u ∈ σ.shared.db.users, u.id = v ∧ u.username = w) ↔
      v = "id" ∧ w = "ann" := by
    intro v w
    have hrow : (v, w) ∈ σ.shared.db.users.rows.map (fun u => (u.id, u.username)) ↔
        v = "id" ∧ w = "ann" := by simp [hrows]
    simpa [Store.Table.mem_rows] using hrow
  refine ⟨σ, hσ, _, _, _, hj, ho, rfl, rfl, (hmem _ _).2 ⟨rfl, rfl⟩, fun htrue => ?_⟩
  obtain hgiven | ⟨c, u, -, hu, hid, hname⟩ := htrue.username "id" rfl
  · cases hgiven
  · have hreg := (hσ.traces.recorded.users u).2 hu
    exact absurd ((hmem u.id "id").1 ⟨u, hreg, rfl, hname⟩).2 (by decide)

end Servir
