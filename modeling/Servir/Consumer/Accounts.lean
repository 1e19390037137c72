import Servir.Consumer.Scenario
import Servir.Sessions.ServerErrors

/-!
# Profiles and accounts

The two databases have no key in common that either could enforce. A profile
still belongs to a user of servir at every step, because each statement on the
profiles is made for the claims of an access token that a handler signed.
-/

namespace Servir.Consumer.App
open Interleaving

variable {K : Crypto} {X : JsonExtractor} {σ : Pool (app K X)} {t s : ℕ} {api : Api}
  {req : HttpRequest}

section Behind
variable {A₁ : Assumption (Servir.service K)} {A₂ : Assumption service}
  {σ₁ : Pool (Servir.service K)} {σ₂ : Pool service}

namespace Behind

theorem users (h : Behind A₁ A₂ σ σ₁ σ₂) (u : UserRow) :
    u ∈ σ.shared.1.db.users ↔ Servir.Registered σ₁.log u := by
  rw [h.projection.shared]
  exact h.auth.recorded.users u

theorem profileRows (h : Behind A₁ A₂ σ σ₁ σ₂) (p : UserProfile) :
    p ∈ σ.shared.2.userProfiles ↔ Consumer.Created σ₂.log p := by
  rw [h.projection.shared]
  exact h.profiles.recorded p

theorem signed (h : Behind A₁ A₂ σ σ₁ σ₂) {secret tok : String} {c : Claims} :
    Servir.Signed σ₁.log secret tok c ↔ Signed σ.log secret tok c :=
  exists_congr (fun _ => h.projection.log.performed_first)

theorem verified (h : Behind Servir.Unforged A₂ σ σ₁ σ₂) {request : Request} {tok : String}
    {c : Claims} {n : UInt64} (hj₁ : .spawned t (.request s api request) ∈ σ₁.log)
    (htok : request.presents = some tok)
    (hverify : verifyTokenAt K tok (request.config api) n = .ok c) :
    Signed σ.log api.routes.secret tok c ∧
      ∃ u, Servir.Registered σ₁.log u ∧ u.id = c.sub ∧ u.username = c.username := by
  have hopen := (verifyTokenAt_ok.1 hverify).1
  rw [h.auth.request_config hj₁] at hopen
  have hsigned := h.auth.genuine le_rfl hj₁ htok hopen
  exact ⟨h.signed.1 hsigned, h.auth.signed_registered hsigned⟩

theorem profile_registered (h : Behind Servir.Unforged A₂ σ σ₁ σ₂) {p : UserProfile}
    (hp : Consumer.Created σ₂.log p) :
    ∃ u, Servir.Registered σ₁.log u ∧ u.id = p.id ∧ u.username = p.username := by
  obtain ⟨t, job, hj₂, hid, hname⟩ := h.profiles.creating hp
  obtain ⟨s, api, req, tok, c, n, -, -, hj₁, -, -, htok, hverify, -, rfl⟩ := h.profile_asked hj₂
  obtain ⟨-, u, hu, hsub, huser⟩ := h.verified hj₁ htok hverify
  exact ⟨u, hu, hsub.trans hid.symm, huser.trans hname.symm⟩

end Behind
end Behind

theorem user_stays {A : Assumption (app K X)} {A₁ : Assumption (Servir.service K)}
    {A₂ : Assumption service} (hA : (pipeline X).Covers A A₁ A₂) (h : Reachable K X A σ)
    {ls : List (Label (app K X))} {σ' : Pool (app K X)} (hp : Path A σ ls σ') :
    (∀ u ∈ σ.shared.1.db.users, u ∈ σ'.shared.1.db.users) ∧
      ∀ p ∈ σ.shared.2.userProfiles, p ∈ σ'.shared.2.userProfiles := by
  obtain ⟨σ₁, σ₂, hb⟩ := h.behind hA
  obtain ⟨σ₁', σ₂', hb'⟩ := Reachable.behind hA (h.path hp)
  have hlog := hp.log_suffix.subset
  constructor
  · intro u hu
    obtain ⟨t, ht⟩ := (hb.users u).1 hu
    exact (hb'.users u).2 ⟨t, hb'.projection.log.performed_first.2
      (hlog (hb.projection.log.performed_first.1 ht))⟩
  · intro p hp
    obtain ⟨t, ht⟩ := (hb.profileRows p).1 hp
    exact (hb'.profileRows p).2 ⟨t, hb'.projection.log.performed_second.2
      (hlog (hb.projection.log.performed_second.1 ht))⟩

/-- Every profile belongs to exactly one user, under the same username, and stays with it. -/
theorem profile_account (h : Reachable K X Unforged σ) {p : UserProfile}
    (hp : p ∈ σ.shared.2.userProfiles) : ∃ u,
      (∀ u', u' ∈ σ.shared.1.db.users ∧ u'.id = p.id ↔ u' = u) ∧
      (∀ p', p' ∈ σ.shared.2.userProfiles ∧ p'.id = u.id ↔ p' = p) ∧ u.username = p.username ∧
      ∀ ls σ', Path Unforged σ ls σ' →
        u ∈ σ'.shared.1.db.users ∧ p ∈ σ'.shared.2.userProfiles := by
  obtain ⟨σ₁, σ₂, hb⟩ := h.behind unforged_covers
  have hc := (hb.profileRows p).1 hp
  obtain ⟨u, hu, hid, hname⟩ := hb.profile_registered hc
  refine ⟨u, fun u' => ?_, fun p' => ?_, hname, fun ls σ' hpath => ?_⟩
  · rw [hb.users]
    constructor
    · rintro ⟨hu', hid'⟩
      exact hb.auth.registered_id hu' hu (hid'.trans hid.symm)
    · rintro rfl
      exact ⟨hu, hid⟩
  · rw [hb.profileRows]
    constructor
    · rintro ⟨hp', hid'⟩
      exact hb.profiles.created_unique hp' hc (hid'.trans hid)
    · rintro rfl
      exact ⟨hc, hid.symm⟩
  · obtain ⟨husers, hprofiles⟩ := user_stays unforged_covers h hpath
    exact ⟨husers u ((hb.users u).2 hu), hprofiles p hp⟩

open Scripts in
/-- The profile of `ann` is that of the user `ann`. -/
theorem profile_account_ann : ∃ σ, Reachable Transparent.crypto extractor Unforged σ ∧
    ∃ u ∈ σ.shared.1.db.users, u.id = "id" ∧ u.username = "ann" := by
  obtain ⟨σ, hσ, -, -, -, hp⟩ := reach_raced
  have h : Reachable Transparent.crypto extractor Unforged σ := hσ.mono (fun _ _ _ hA => hA.2)
  obtain ⟨u, hu, -, hname, -⟩ := profile_account h hp
  exact ⟨σ, h, u, ((hu u).2 rfl).1, ((hu u).2 rfl).2, hname⟩

theorem Attempts.statement {job : Job} {past : Past} {q : Stmt} (h : Attempts job past (.sql q)) :
    q = .selectProfile job.userId ∨
      ∃ createdAt, q = .insertProfile job.userId job.username createdAt := by
  cases h with
  | select => exact .inl rfl
  | insert => exact .inr ⟨_, rfl⟩

/-- No statement reaches the profiles but for a request for a profile whose access token verified:
one that a handler signed for a registered user, on whose profile the statement is. -/
theorem profile_mediated (h : Reachable K X Unforged σ) {q : Stmt} {r : Except SqlxError q.Answer}
    (hq : ranProfile t q r ∈ σ.log) : ∃ s api req tok c n u,
      .spawned t (.http s api req) ∈ σ.log ∧ AsksProfile req ∧
      bearerToken req.authorization = some tok ∧ Signed σ.log api.routes.secret tok c ∧
      c.kind = .access ∧ .performed t (.inl .nowSecs) n ∈ σ.log ∧
      n.toNat ≤ c.exp.toNat + leeway ∧
      u ∈ σ.shared.1.db.users ∧ u.id = c.sub ∧ u.username = c.username ∧
      (q = .selectProfile u.id ∨ ∃ createdAt, q = .insertProfile u.id u.username createdAt) := by
  obtain ⟨σ₁, σ₂, hb⟩ := h.behind unforged_covers
  have hq₂ : ran t q r ∈ σ₂.log := hb.projection.log.performed_second.2 hq
  obtain ⟨later, earlier, hlog⟩ := List.append_of_mem hq₂
  obtain ⟨job, hj₂, hattempt⟩ := Traced.attempted_at (hlog ▸ hb.profiles)
  have hj₂' : .spawned t job ∈ σ₂.log :=
    hlog ▸ List.mem_append_right _ (List.mem_cons_of_mem _ hj₂)
  obtain ⟨s, api, req, tok, c, n, hj, hasks, hj₁, -, hn, htok, hverify, hkind, rfl⟩ :=
    hb.profile_asked hj₂'
  obtain ⟨hsigned, u, hu, hid, hname⟩ := hb.verified hj₁ htok hverify
  refine ⟨s, api, req, tok, c, n, u, hj, hasks, htok, hsigned, hkind, hn,
    (verifyTokenAt_ok.1 hverify).2, (hb.users u).2 hu, hid, hname, ?_⟩
  rw [hid, hname]
  exact Attempts.statement hattempt

open Scripts in
/-- The insert of the profile of `ann` was made for her token. -/
theorem profile_mediated_ann : ∃ σ, Reachable Transparent.crypto extractor Unforged σ ∧
    ∃ t r s api req tok c, ranProfile t (.insertProfile "id" "ann" 109) r ∈ σ.log ∧
      .spawned t (.http s api req) ∈ σ.log ∧ bearerToken req.authorization = some tok ∧
      Signed σ.log api.routes.secret tok c ∧ c.sub = "id" := by
  obtain ⟨σ, hσ, -, -, -, hp⟩ := reach_raced
  have h : Reachable Transparent.crypto extractor Unforged σ := hσ.mono (fun _ _ _ hA => hA.2)
  obtain ⟨σ₁, σ₂, hb⟩ := h.behind unforged_covers
  obtain ⟨t, ht⟩ := (hb.profileRows _).1 hp
  have hq : ranProfile t (.insertProfile "id" "ann" 109) (.ok ()) ∈ σ.log :=
    hb.projection.log.performed_second.1 ht
  obtain ⟨s, api, req, tok, c, n, u, hj, -, htok, hsigned, -, -, -, -, hsub, -,
    hselect | ⟨_, hinsert⟩⟩ := profile_mediated h hq
  · cases hselect
  · injection hinsert with hid
    exact ⟨σ, h, t, _, s, api, req, tok, c, hq, hj, htok, hsigned, hsub.symm.trans hid.symm⟩

/-- The path of `GET /auth/me`, once nested. -/
def mePath : String := "/api/v1/auth/me"

theorem routed_me (hpath : req.path = mePath) (hmethod : req.method = .get ∨ req.method = .head) :
    routed X api req = .inr (.me req.authorization) := by
  rcases hmethod with hmethod | hmethod <;>
    simp [routed, hpath, hmethod, mePath, endpoints, endpointFor, endpoint,
      HttpRequest.authorization]

/-- A job on the profiles replies with the row of its user, or after a statement that failed. -/
theorem user_replied {A₂ : Assumption service} {db : Db} {l₂ : Trail} (h : Traces A₂ db l₂)
    {c : Claims} (hj : .spawned t (.user c) ∈ l₂) {o : Outcome} (ho : .replied t o ∈ l₂) :
    (∃ p, Consumer.Created l₂ p ∧ p.id = c.sub ∧ o.response = .ok p.response) ∨
      ∃ q e operation, ran t q (.error e) ∈ l₂ ∧
        o.response = .error (.db (.unknown operation e.display)) := by
  obtain ⟨r, rfl, hfinds⟩ : ∃ r, o = Job.outcome (.user c) r ∧ Finds (.user c) (history t l₂) r :=
    Traced.replied h hj ho
  generalize hpast : history t l₂ = past at hfinds
  have hmem : ∀ {x : Entry signature}, x ∈ past → .performed t x.effect x.answer ∈ l₂ :=
    fun hx => mem_history.1 (hpast ▸ hx)
  cases hfinds with
  | @selectFailed e => exact .inr ⟨_, e, _, hmem List.mem_cons_self, rfl⟩
  | @found p =>
    obtain ⟨later, earlier, hlog⟩ := List.append_of_mem (hmem List.mem_cons_self)
    obtain ⟨hp, hid⟩ := Traces.found (hlog ▸ h)
    exact .inl ⟨p, hlog ▸ hp.from_earlier, hid, rfl⟩
  | @insertFailed n e => exact .inr ⟨_, e, _, hmem List.mem_cons_self, rfl⟩
  | created => exact .inl ⟨_, ⟨t, hmem List.mem_cons_self⟩, rfl, rfl⟩

section Behind
variable {A₁ : Assumption (Servir.service K)} {A₂ : Assumption service}
  {σ₁ : Pool (Servir.service K)} {σ₂ : Pool service}

namespace Behind

theorem refused_apart (h : Behind A₁ A₂ σ σ₁ σ₂) {e : ServirError}
    (ho : .replied t (.accepted (.error e)) ∈ σ₁.log) (q : Stmt) (r : Except SqlxError q.Answer) :
    ranProfile t q r ∉ σ.log := by
  intro hq
  obtain ⟨job, hj₂⟩ := Traced.open_of_event h.profiles (h.projection.log.performed_second.2 hq)
  obtain ⟨-, -, -, -, c, -, -, -, -, ho', -⟩ := h.profile_asked hj₂
  cases Traced.replied_unique h.auth ho ho'

theorem me_answered (h : Behind A₁ A₂ σ σ₁ σ₂) (hj : .spawned t (.http s api req) ∈ σ.log)
    (hpath : req.path = mePath) (hmethod : req.method = .get ∨ req.method = .head)
    {response : HttpResponse} (ho : .replied t (.sent response) ∈ σ.log)
    (hok : response.status = 200) :
    ∃ tok c n, .spawned t (.request s api (.me req.authorization)) ∈ σ₁.log ∧
      bearerToken req.authorization = some tok ∧ verifyTokenAt K tok api.layer n = .ok c ∧
      response = req.sent (intoResponse (.ok (me c))) := by
  have hrouted : routed X api req = .inr (.me req.authorization) := routed_me hpath hmethod
  have hasks : ¬ AsksProfile req := by
    rintro ⟨hpath', -⟩
    rw [hpath] at hpath'
    exact absurd hpath' (by decide)
  obtain ⟨r, -, he, rfl | hnow⟩ | ⟨request, o₁, r, hj₁, ho₁, hrouted', hr, he⟩ :=
    h.own_answered hj hasks ho
  · cases he
    simp at hok
  · rw [hrouted] at hnow
    cases hnow
  · rw [hrouted] at hrouted'
    cases hrouted'
    cases he
    obtain ⟨result, rfl, hextract⟩ := Replies.of_me (Traced.replied h.auth hj₁ ho₁)
    cases hr
    rw [HttpRequest.sent_status, intoResponse_ok] at hok
    generalize history t σ₁.log = past at hextract
    cases hextract with
    | accepted htok hverify _ => exact ⟨_, _, _, hj₁, htok, hverify, rfl⟩
    | _ => simp [Except.map] at hok

theorem same_claims (h : Behind A₁ A₂ σ σ₁ σ₂) {t' s' : ℕ} {api' : Api} {request request' : Request}
    (hj : .spawned t (.request s api request) ∈ σ₁.log)
    (hj' : .spawned t' (.request s' api' request') ∈ σ₁.log) {tok : String} {c c' : Claims}
    {n n' : UInt64} (hverify : verifyTokenAt K tok api.layer n = .ok c)
    (hverify' : verifyTokenAt K tok api'.layer n' = .ok c') : c' = c := by
  have hopen := (verifyTokenAt_ok.1 hverify).1
  have hopen' := (verifyTokenAt_ok.1 hverify').1
  rw [h.auth.api_layer hj, h.auth.secret_agreed hj hj'] at hopen
  rw [h.auth.api_layer hj', hopen] at hopen'
  exact (Except.ok.inj hopen').symm

end Behind
end Behind

/-- A request for a profile is answered 401 without a statement on the profiles, 500 after one that
failed, or 200 with the user whose access token it carries: its row of users, its profile, and what
`GET /auth/me` answers to the token. -/
theorem user_answered (h : Reachable K X Unforged σ) (hj : .spawned t (.http s api req) ∈ σ.log)
    (hasks : AsksProfile req) {response : HttpResponse}
    (ho : .replied t (.sent response) ∈ σ.log) :
    (response.status = 401 ∧ ∀ q r, ranProfile t q r ∉ σ.log) ∨
    (response.status = 500 ∧ ∃ q e, ranProfile t q (.error e) ∈ σ.log) ∨
    ∃ tok c, ∃ u ∈ σ.shared.1.db.users, ∃ p ∈ σ.shared.2.userProfiles,
      bearerToken req.authorization = some tok ∧ Signed σ.log api.routes.secret tok c ∧
      c.kind = .access ∧ u.id = c.sub ∧ p.id = u.id ∧ p.username = u.username ∧
      response = req.sent (intoResponse (.ok (UserResponse.mk u.id u.username))) ∧
      ∀ t' s' api' req' response', .spawned t' (.http s' api' req') ∈ σ.log →
        req'.path = mePath → (req'.method = .get ∨ req'.method = .head) →
        bearerToken req'.authorization = some tok → .replied t' (.sent response') ∈ σ.log →
        response'.status = 200 →
        response' = req'.sent (intoResponse (.ok (MeResponse.mk u.id u.username))) := by
  obtain ⟨σ₁, σ₂, hb⟩ := h.behind unforged_covers
  obtain ⟨hj₁, ⟨e, ho₁, he⟩ | ⟨c, o₂, ho₁, hj₂, ho₂, he⟩⟩ := hb.profile_answered hj hasks ho
  · cases he
    obtain ⟨r, hr, hextract⟩ := Replies.of_guarded (Traced.replied hb.auth hj₁ ho₁)
    cases hr
    refine .inl ⟨?_, hb.refused_apart ho₁⟩
    rw [HttpRequest.sent_status]
    exact congrArg StatusCode.asU16 (hextract.error_status)
  · cases he
    obtain ⟨p, hp, hid, hr⟩ | ⟨q, e, operation, hq, hr⟩ := user_replied hb.profiles hj₂ ho₂
    · obtain ⟨s₀, api₀, authorization, tok, n, hj₀, -, htok, hverify, hkind⟩ :=
        hb.auth.extracted ho₁
      cases Traced.spawned_unique hb.auth hj₁ hj₀
      obtain ⟨hsigned, u, hu, hsub, hname⟩ := hb.verified hj₁ htok hverify
      obtain ⟨u', hu', hid', hname'⟩ := hb.profile_registered hp
      obtain rfl : u' = u := hb.auth.registered_id hu' hu (by rw [hid', hid, hsub])
      refine .inr (.inr ⟨tok, c, u', (hb.users u').2 hu, p, (hb.profileRows p).2 hp, htok, hsigned,
        hkind, hsub, hid'.symm, hname'.symm, ?_, ?_⟩)
      · rw [hr, hid', hname']
        rfl
      · intro t' s' api' req' response' hj' hpath hmethod htok' ho' hok
        obtain ⟨tok', c', n', hj₁', htok'', hverify', rfl⟩ :=
          hb.me_answered hj' hpath hmethod ho' hok
        rw [htok'] at htok''
        cases htok''
        obtain rfl : c' = c := hb.same_claims hj₁ hj₁' hverify hverify'
        rw [hsub, hname]
        rfl
    · refine .inr (.inl ⟨?_, q, e, hb.projection.log.performed_second.1 hq⟩)
      rw [HttpRequest.sent_status, hr]
      rfl

open Scripts in
/-- `ann` is answered with her own profile. -/
theorem user_answered_ann : ∃ σ, Reachable Transparent.crypto extractor Unforged σ ∧
    ∃ u ∈ σ.shared.1.db.users, ∃ response, .replied 2 (.sent response) ∈ σ.log ∧
      response = intoResponse (.ok (UserResponse.mk u.id u.username)) := by
  obtain ⟨σ, hσ, ⟨hj, ho⟩, -, -, -⟩ := reach_raced
  have h : Reachable Transparent.crypto extractor Unforged σ := hσ.mono (fun _ _ _ hA => hA.2)
  obtain ⟨response, ho, hcode⟩ := wasAnswered_iff.1 ho
  obtain ⟨hbad, -⟩ | ⟨hbad, -⟩ | ⟨tok, c, u, hu, p, hp, -, -, -, -, -, -, hresponse, -⟩ :=
    user_answered h (wasSpawned_iff.1 hj) ⟨rfl, .inl rfl⟩ ho
  · omega
  · omega
  · exact ⟨σ, h, u, hu, response, ho, hresponse⟩

end Servir.Consumer.App
