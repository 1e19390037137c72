import Servir.Sessions.Refusals

/-!
# Server errors

Without faults of the database the only request that servir answers with a 5xx
status is a register whose password the library cannot hash. Every other
internal error of the handlers lies behind a statement that failed.
-/

namespace Servir
open Interleaving

variable {K : Crypto} {A : Assumption (service K)} {sh : Shared} {log : Trail} {t s : ℕ} {api : Api}
  {req : Request}

/-- The library could not hash the password of the register request `t`. -/
def HashFailed (K : Crypto) (log : Trail) (t : ℕ) (req : Request) : Prop :=
  ∃ body salt e, req = .register body ∧ .performed t .generateSalt salt ∈ log ∧
    K.hashPassword salt body.password = .error e

theorem Traces.lookup_fault (h : Traces K A sh log) {q : Stmt} {e : SqlxError}
    (hmem : ran t q (.error e) ∈ log)
    (hfault : ∀ q display, ran t q (.error (.fault display)) ∉ log) :
    (∃ id username hash created, q = .insertUser id username hash created) ∨
      (∃ jti userId expires created, q = .insertRefreshToken jti userId expires created) ∨
      ∃ value, q = .insertSigningSecret value := by
  obtain ⟨later, earlier, rfl⟩ := List.append_of_mem hmem
  refine failed h ?_
  rintro display rfl
  exact hfault q display hmem

theorem StatusCode.internal_iff {code : StatusCode} :
    500 ≤ code.asU16 ↔ code = .internalServerError := by
  cases code <;> decide

/-- Without faults a token request is refused with an internal error only if its password cannot be
hashed. -/
theorem Traces.issues_refused (hK : K.TokenSound)
    (hparse : ∀ {salt password hash}, K.hashPassword salt password = .ok hash →
      K.parseHash hash = .ok ())
    (h : Traces K A sh log) (hfault : ∀ q display, ran t q (.error (.fault display)) ∉ log)
    {e : ServirError} (hissue : Issues K api.routes req (history t log) (.error e))
    (hcode : e.statusCode = .internalServerError) : HashFailed K log t req := by
  generalize hpast : history t log = past at hissue
  have hmem : ∀ {x : Entry signature}, x ∈ past → .performed t x.effect x.answer ∈ log :=
    fun hx => mem_history.1 (hpast ▸ hx)
  cases hissue with
  | hashFailed hname hlong hhash => exact ⟨_, _, _, rfl, hmem List.mem_cons_self, hhash⟩
  | @createFailed body salt hash id n e hname hlong hhash =>
    have hcreate := hmem List.mem_cons_self
    obtain ⟨later, earlier, hlog⟩ := List.append_of_mem hcreate
    have he : ∀ display, e ≠ .fault display := by
      rintro display rfl
      exact hfault _ display hcreate
    have hunique := (create_conflict (hlog ▸ h) he).1
    rw [createUserError, if_pos hunique] at hcode
    cases hcode
  | malformedHash hverify =>
    have hlookup := hmem List.mem_cons_self
    obtain ⟨later, earlier, rfl⟩ := List.append_of_mem hlookup
    obtain ⟨r, hr, -, rfl⟩ := (found_username h _).1 rfl
    exact absurd hverify (h.password_parsed hparse (hr.mono earlier_subset) _ _)
  | rejected hverify => obtain rfl | ⟨display, rfl⟩ := verifyTokenAt_error hverify <;> cases hcode
  | lookupFailed | consumeFailed | findFailed =>
    simpa using h.lookup_fault (hmem List.mem_cons_self) hfault
  | accessUnsigned | refreshUnsigned => exact absurd (hmem List.mem_cons_self) (not_unsigned hK h)
  | storeFailed =>
    have hstore := hmem List.mem_cons_self
    obtain ⟨later, earlier, hlog⟩ := List.append_of_mem hstore
    obtain ⟨display, rfl⟩ := store_fault (hlog ▸ h)
    exact absurd hstore (hfault _ display)
  | _ => cases hcode

theorem Acts.salted {config : AuthConfig} {body : RegisterRequest} {past : Past} {user : User}
    (ha : Acts K config (.register body) past user) (salt : String) (hs : drewSalt salt ∈ past) :
    ∃ hash, K.hashPassword salt body.password = .ok hash := by
  cases ha with
  | register _ _ hhash =>
    obtain rfl : salt = _ := by simpa [drewSalt, Entry] using hs
    exact ⟨_, hhash⟩

theorem Traces.hash_failed_reply (h : Traces K A sh log) {o : Outcome}
    (hj : .spawned t (.request s api req) ∈ log) (ho : .replied t o ∈ log)
    (hfailed : HashFailed K log t req) :
    ∃ display, o = .tokens (.error (.authUser (.passwordHashFailed display))) := by
  obtain ⟨body, salt, e, rfl, hsalt, hhash⟩ := hfailed
  have hrep : Replies K api (.register body) (history t log) o := Traced.replied h hj ho
  have hdrew : drewSalt salt ∈ history t log := mem_history.2 hsalt
  generalize history t log = past at hrep hdrew
  cases hrep with
  | tokens hissue =>
    cases hissue with
    | emptyUsername | weakPassword => cases hdrew
    | hashFailed => exact ⟨_, rfl⟩
    | createFailed _ _ hhash' =>
      obtain rfl : salt = _ := by simpa [drewSalt, Entry] using hdrew
      rw [hhash] at hhash'
      cases hhash'
    | accessUnsigned hacts | refreshUnsigned hacts | storeFailed hacts | issued hacts =>
      obtain ⟨hash, hok⟩ := hacts.salted salt (by simpa [refreshPast, accessPast] using hdrew)
      rw [hhash] at hok
      cases hok

theorem Extracts.error_status {config : AuthConfig} {authorization : Option HeaderValue}
    {past : Past} {e : ServirError} (h : Extracts K config authorization past (.error e)) :
    e.statusCode = .unauthorized := by
  cases h with
  | missingHeader => rfl
  | rejected htok hverify => obtain rfl | ⟨display, rfl⟩ := verifyTokenAt_error hverify <;> rfl
  | wrongKind => rfl

theorem Traces.revokes_refused (h : Traces K A sh log)
    (hfault : ∀ q display, ran t q (.error (.fault display)) ∉ log) {body : LogoutRequest}
    {e : ServirError} (hrevoke : Revokes K api.routes body (history t log) (.error e)) :
    e.statusCode = .unauthorized := by
  generalize hpast : history t log = past at hrevoke
  cases hrevoke with
  | rejected hverify => obtain rfl | ⟨display, rfl⟩ := verifyTokenAt_error hverify <;> rfl
  | wrongKind => rfl
  | @revokeFailed n c e =>
    have hfailed : ran t (.deleteRefreshTokensForUser c.sub) (.error e) ∈ log :=
      mem_history.1 (hpast ▸ List.mem_cons_self)
    exfalso
    simpa using h.lookup_fault hfailed hfault

/-- Without faults a request is answered with an internal error exactly if it is a register whose
password could not be hashed. -/
theorem Traces.internal_error_iff (hK : K.TokenSound)
    (hparse : ∀ {salt password hash}, K.hashPassword salt password = .ok hash →
      K.parseHash hash = .ok ())
    (h : Traces K A sh log) (hfault : ∀ q display, ran t q (.error (.fault display)) ∉ log)
    {o : Outcome} (hj : .spawned t (.request s api req) ∈ log) (ho : .replied t o ∈ log) :
    (∃ e, o.error = some e ∧ e.statusCode = .internalServerError) ↔ HashFailed K log t req := by
  constructor
  · rintro ⟨e, he, hcode⟩
    have hrep : Replies K api req (history t log) o := Traced.replied h hj ho
    cases hrep with
    | @tokens _ _ result hissue =>
      cases result with
      | ok resp => cases he
      | error e' =>
        cases he
        exact h.issues_refused hK hparse hfault hissue hcode
    | @loggedOut _ _ result hrevoke =>
      cases result with
      | ok _ => cases he
      | error e' =>
        cases he
        rw [h.revokes_refused hfault hrevoke] at hcode
        cases hcode
    | @identity _ _ result hextract | @accepted _ _ result hextract =>
      cases result with
      | ok c => cases he
      | error e' =>
        cases he
        rw [hextract.error_status] at hcode
        cases hcode
  · intro hfailed
    obtain ⟨display, rfl⟩ := h.hash_failed_reply hj ho hfailed
    exact ⟨_, rfl, rfl⟩

end Servir
