import Servir.Consumer.Accounts
import Servir.Http.Envelope

/-!
# Statuses and what they say

Which responses of the application are server errors, what a client error leaves
behind in the two databases, and that every request can be answered.
-/

namespace Servir.Consumer
open Interleaving

/-- Task `t` found no profile, and its own was refused because another task had stored one. -/
def LostRace (log : Trail) (t : ℕ) : Prop :=
  ∃ t' userId username createdAt username' createdAt' code column, t' ≠ t ∧
    ran t (.selectProfile userId) (.ok .none) ∈ log ∧
    ran t' (.insertProfile userId username' createdAt') (.ok ()) ∈ log ∧
    ran t (.insertProfile userId username createdAt) (.error (.uniqueViolation code column)) ∈ log

section Race
variable {db : Db} {log later earlier : Trail} {t : ℕ}

theorem Traces.insert_refused {userId username : String} {createdAt : Int64} {e : SqlxError}
    (h : Traces NoFaults db
      (later ++ ran t (.insertProfile userId username createdAt) (.error e) :: earlier)) :
    (∃ code column, e = .uniqueViolation code column) ∧ ∃ p, Created earlier p ∧ p.id = userId := by
  obtain ⟨display, hd⟩ | ⟨db₀, hrows, ha⟩ := h.executed
  · cases hd
    exact absurd (List.mem_append_right _ List.mem_cons_self) (h.not_fault t _ display)
  · obtain ⟨⟨code, column, he⟩, -, p, hp, hid⟩ | ⟨hok, -⟩ :=
      db₀.insertProfile_cases ⟨userId, username, createdAt⟩
    · exact ⟨⟨code, column, Except.error.inj (ha.trans he)⟩, p, (hrows p).1 hp, hid⟩
    · cases ha.trans hok

/-- Without faults a job fails exactly if it lost the race for the first access. -/
theorem Traces.user_failed_iff (h : Traces NoFaults db log) {c : Claims}
    (hj : .spawned t (.user c) ∈ log) {o : Outcome} (ho : .replied t o ∈ log) :
    (∃ e, o.response = .error e) ↔ LostRace log t := by
  obtain ⟨r, rfl, hfinds⟩ : ∃ r, o = Job.outcome (.user c) r ∧ Finds (.user c) (history t log) r :=
    Traced.replied h hj ho
  generalize hpast : history t log = past at hfinds
  have hmem : ∀ {x : Entry signature}, x ∈ past ↔ .performed t x.effect x.answer ∈ log := by
    intro x
    rw [← hpast]
    exact mem_history
  cases hfinds with
  | @selectFailed e =>
    have hselect := hmem.1 (List.mem_singleton_self _)
    obtain ⟨later, earlier, hlog⟩ := List.append_of_mem hselect
    obtain ⟨display, rfl⟩ := Traces.select_fault (hlog ▸ h)
    exact absurd hselect (h.not_fault t _ display)
  | @found p =>
    refine iff_of_false nofun ?_
    rintro ⟨t', userId, username, createdAt, username', createdAt', code, column, -, hnone, -⟩
    have hx : sent (.selectProfile userId) (.ok .none) ∈ _ := hmem.2 hnone
    cases List.mem_singleton.1 hx
  | @insertFailed n e =>
    have hinsert := hmem.1 List.mem_cons_self
    obtain ⟨later, earlier, hlog⟩ := List.append_of_mem hinsert
    obtain ⟨⟨code, column, rfl⟩, p, ⟨t', hp⟩, hid⟩ := insert_refused (hlog ▸ h)
    have hstored : ran t' (.insertProfile p.id p.username p.createdAt) (.ok ()) ∈ log :=
      hlog ▸ List.mem_append_right _ (List.mem_cons_of_mem _ hp)
    have hselect := hmem.1 (List.mem_cons_of_mem _ (List.mem_cons_of_mem _ List.mem_cons_self))
    refine iff_of_true ⟨_, rfl⟩ ⟨t', _, _, _, p.username, p.createdAt, code, column, ?_, hselect,
      hid ▸ hstored, hinsert⟩
    rintro rfl
    have hx : sent (.insertProfile p.id p.username p.createdAt) (.ok ()) ∈ _ := hmem.2 hstored
    simp at hx
  | @created n =>
    refine iff_of_false nofun ?_
    rintro ⟨t', userId, username, createdAt, username', createdAt', code, column, -, -, -, hfailed⟩
    have hx : sent (.insertProfile userId username createdAt)
      (.error (.uniqueViolation code column)) ∈ _ := hmem.2 hfailed
    simp at hx

end Race

namespace App

variable {K : Crypto} {X : JsonExtractor} {σ : Pool (app K X)} {t s : ℕ} {api : Api}
  {req : HttpRequest}

def LostFirstAccess (log : AppTrail) (t : ℕ) : Prop :=
  ∃ t' userId username createdAt username' createdAt' code column, t' ≠ t ∧
    ranProfile t (.selectProfile userId) (.ok .none) ∈ log ∧
    ranProfile t' (.insertProfile userId username' createdAt') (.ok ()) ∈ log ∧
    ranProfile t (.insertProfile userId username createdAt)
      (.error (.uniqueViolation code column)) ∈ log

/-- The library could not hash the password that the request registers. -/
def HashFailed (K : Crypto) (X : JsonExtractor) (log : AppTrail) (t : ℕ) (api : Api)
    (req : HttpRequest) : Prop :=
  ∃ body salt e, routed X api req = .inr (.register body) ∧
    .performed t (.inl .generateSalt) salt ∈ log ∧ K.hashPassword salt body.password = .error e

theorem routed_ne_user {request : Request} (h : routed X api req = .inr request) :
    req.path ≠ userPath := by
  intro hpath
  simp [routed, endpoints, userPath, hpath] at h

theorem Behind.apart {A₁ : Assumption (Servir.service K)} {A₂ : Assumption service}
    {σ₁ : Pool (Servir.service K)} {σ₂ : Pool service} (h : Behind A₁ A₂ σ σ₁ σ₂)
    (hj : .spawned t (.http s api req) ∈ σ.log) (hasks : ¬ AsksProfile req) (q : Stmt)
    (r : Except SqlxError q.Answer) : ranProfile t q r ∉ σ.log := by
  intro hq
  obtain ⟨job, hj₂⟩ := Traced.open_of_event h.profiles (h.projection.log.performed_second.2 hq)
  obtain ⟨s', api', req', -, -, -, hj', hasks', -⟩ := h.profile_asked hj₂
  cases h.once hj hj'
  exact hasks hasks'

theorem outcome_status {o₁ : Servir.Outcome} {response : HttpResponse}
    (h : o₁.response = some response) :
    (o₁.error = .none ∧ response.status = 200) ∨
      ∃ e, o₁.error = some e ∧ response.status = e.statusCode.asU16 := by
  rcases o₁ with r | r | r | r | r <;> cases h <;> cases r with
  | ok a => exact .inl ⟨rfl, rfl⟩
  | error e => exact .inr ⟨e, rfl, rfl⟩

/-- Without faults a response is a server error exactly if its task lost the race for the first
access to a profile, or registers a password that cannot be hashed. -/
theorem server_error_iff (hK : K.TokenSound) (hparse : ∀ {salt password hash},
      K.hashPassword salt password = .ok hash → K.parseHash hash = .ok ())
    (h : Reachable K X NoFaults σ) (hj : .spawned t (.http s api req) ∈ σ.log)
    {response : HttpResponse} (ho : .replied t (.sent response) ∈ σ.log) :
    500 ≤ response.status ↔ LostFirstAccess σ.log t ∨ HashFailed K X σ.log t api req := by
  obtain ⟨σ₁, σ₂, hb⟩ := h.behind noFaults_covers
  have hlog := hb.projection.log
  have hlost : LostFirstAccess σ.log t ↔ LostRace σ₂.log t := by
    simp only [LostFirstAccess, LostRace, ranProfile, hlog.performed_second]
  by_cases hasks : AsksProfile req
  · have hnot : ¬ HashFailed K X σ.log t api req := by
      rintro ⟨body, salt, e, hrouted, -⟩
      exact routed_ne_user hrouted hasks.1
    obtain ⟨hj₁, ⟨e, ho₁, he⟩ | ⟨c, o₂, -, hj₂, ho₂, he⟩⟩ := hb.profile_answered hj hasks ho
    · cases he
      obtain ⟨r, hr, hextract⟩ := Replies.of_guarded (Traced.replied hb.auth hj₁ ho₁)
      cases hr
      have hcode : (req.sent e.intoResponse).status = 401 :=
        (req.sent_status _).trans (congrArg StatusCode.asU16 hextract.error_status)
      refine iff_of_false (by omega) ?_
      rintro (⟨_, _, _, _, _, _, _, _, _, hnone, -⟩ | hfailed)
      · exact hb.refused_apart ho₁ _ _ hnone
      · exact hnot hfailed
    · cases he
      rw [or_iff_left hnot, hlost, ← hb.profiles.user_failed_iff hj₂ ho₂, HttpRequest.sent_status]
      obtain ⟨p, -, -, hr⟩ | ⟨q, e, operation, -, hr⟩ := user_replied hb.profiles hj₂ ho₂
      · rw [hr]
        have hcode : (intoResponse (.ok p.response)).status = 200 := rfl
        exact iff_of_false (by omega) nofun
      · rw [hr]
        have hcode : (intoResponse (.error (.db (.unknown operation e.display)) :
          Except ServirError UserResponse)).status = 500 := rfl
        exact iff_of_true (by omega) ⟨_, rfl⟩
  · have hnot : ¬ LostFirstAccess σ.log t := by
      rintro ⟨_, _, _, _, _, _, _, _, _, hnone, -⟩
      exact hb.apart hj hasks _ _ hnone
    rw [or_iff_right hnot]
    obtain ⟨r, hfirst, he, hwhat⟩ | ⟨request, o₁, r, hj₁, ho₁, hrouted, hr, he⟩ :=
      hb.own_answered hj hasks ho
    · cases he
      have hcode : r.status < 500 := by
        obtain rfl | hrouted := hwhat
        · decide
        · obtain rfl | rfl | ⟨e, rfl, hlt⟩ := routed_known X hrouted
          · decide
          · decide
          · exact hlt
      rw [HttpRequest.sent_status]
      refine iff_of_false (by omega) ?_
      rintro ⟨body, salt, e, hrouted, -⟩
      have hfirst' : (pipeline X).first (.http s api req) =
          .inr (.request s api (.register body)) := by
        simp [pipeline, AppJob.first, routed_ne_user hrouted, hrouted]
      rw [hfirst] at hfirst'
      cases hfirst'
    · cases he
      have hfault : ∀ q display, Servir.ran t q (.error (.fault display)) ∉ σ₁.log :=
        hb.auth.not_fault le_rfl t
      have hinternal := hb.auth.internal_error_iff hK hparse hfault hj₁ ho₁
      have hregister : Servir.HashFailed K σ₁.log t request ↔ HashFailed K X σ.log t api req := by
        simp only [Servir.HashFailed, HashFailed, hlog.performed_first, hrouted, Sum.inr.injEq]
      rw [HttpRequest.sent_status, ← hregister, ← hinternal]
      obtain ⟨hnone, hcode⟩ | ⟨e, herror, hcode⟩ := outcome_status hr
      · exact iff_of_false (by omega) (by simp [hnone])
      · rw [hcode, StatusCode.internal_iff, herror]
        simp

open Scripts in
/-- Of two first accesses at once the one that comes second is answered 500. -/
theorem server_error_iff_raced : ∃ σ, Reachable Transparent.crypto extractor NoFaults σ ∧
    LostFirstAccess σ.log 3 := by
  obtain ⟨σ, hσ, -, ⟨hj, ho⟩, -, -⟩ := reach_raced
  have h : Reachable Transparent.crypto extractor NoFaults σ := hσ.mono (fun _ _ _ hA => hA.1)
  obtain ⟨response, ho, hcode⟩ := wasAnswered_iff.1 ho
  obtain hlost | ⟨body, salt, e, hrouted, -⟩ := (server_error_iff Transparent.crypto_tokenSound
    Transparent.crypto_hashSound.parse_hash h (wasSpawned_iff.1 hj) ho).1 (by omega)
  · exact ⟨σ, h, hlost⟩
  · exact absurd rfl (routed_ne_user hrouted)

theorem step_databases {A : Assumption (app K X)} {σ σ' : Pool (app K X)} {l : Label (app K X)}
    (h : Step A σ l σ') :
    (σ'.shared.1.db = σ.shared.1.db ∧ σ'.shared.2 = σ.shared.2) ∨
    (∃ q, σ'.log = ranAuth l.task q (q.exec σ.shared.1.db).1 :: σ.log ∧
      σ'.shared.1.db = (q.exec σ.shared.1.db).2 ∧ σ'.shared.2 = σ.shared.2) ∨
    ∃ q r, σ'.log = ranProfile l.task q r :: σ.log := by
  obtain hsame | ⟨e, a, c, hlog, hr⟩ := h.shared
  · exact .inl ⟨congrArg (fun sh => sh.1.db) hsame, congrArg Prod.snd hsame⟩
  · cases e with
    | inl e =>
      obtain ⟨c₁, hr₁, hsame⟩ := Service.beside_inl hr
      have hresp : Responds K σ.shared.1 e a σ'.shared.1 := respond_iff.1 ⟨c₁, hr₁⟩
      generalize hsh : σ'.shared.1 = sh at hresp
      cases hresp with
      | sql q => exact .inr (.inl ⟨q, hlog, rfl, hsame⟩)
      | _ => exact .inl ⟨rfl, hsame⟩
    | inr e =>
      obtain ⟨c₂, hr₂, hsame⟩ := Service.beside_inr hr
      cases e with
      | sql q => exact .inr (.inr ⟨q, a, hlog⟩)
      | nowSecs =>
        cases c₂ with
        | reading now => exact .inl ⟨by rw [hsame], (congrArg Prod.snd (Option.some.inj hr₂)).symm⟩
        | _ => cases hr₂

/-- What a request that is answered with a 4xx status did to either database. -/
theorem Behind.client_error {A₂ : Assumption service} {σ₁ : Pool (Servir.service K)}
    {σ₂ : Pool service} (h : Behind Servir.Unforged A₂ σ σ₁ σ₂)
    (hj : .spawned t (.http s api req) ∈ σ.log) {response : HttpResponse}
    (ho : .replied t (.sent response) ∈ σ.log) (hlow : 400 ≤ response.status)
    (hhigh : response.status < 500) :
    (∀ q r, Servir.ran t q r ∈ σ₁.log → q.Harmless r) ∧ ∀ q r, ranProfile t q r ∉ σ.log := by
  by_cases hasks : AsksProfile req
  · obtain ⟨hj₁, ⟨e, ho₁, he⟩ | ⟨c, o₂, -, hj₂, ho₂, he⟩⟩ := h.profile_answered hj hasks ho
    · cases he
      rw [HttpRequest.sent_status] at hhigh
      exact ⟨fun q r hq => h.auth.rejected_harmless le_rfl hj₁ ho₁ rfl hhigh hq,
        h.refused_apart ho₁⟩
    · cases he
      rw [HttpRequest.sent_status] at hlow hhigh
      obtain ⟨p, -, -, hr⟩ | ⟨q, e, operation, -, hr⟩ := user_replied h.profiles hj₂ ho₂
      · rw [hr] at hlow
        exact absurd hlow (by change ¬ 400 ≤ 200; decide)
      · rw [hr] at hhigh
        exact absurd hhigh (by change ¬ 500 < 500; decide)
  · refine ⟨?_, h.apart hj hasks⟩
    obtain ⟨r, hfirst, -⟩ | ⟨request, o₁, r, hj₁, ho₁, -, hr, he⟩ := h.own_answered hj hasks ho
    · intro q x hq
      obtain ⟨j₁, hj₁⟩ := Traced.open_of_event h.auth hq
      obtain ⟨job, hj', hfirst'⟩ := h.projection.log.spawned_first.1 hj₁
      rw [h.once hj' hj, hfirst] at hfirst'
      cases hfirst'
    · cases he
      rw [HttpRequest.sent_status] at hlow hhigh
      obtain ⟨-, hcode⟩ | ⟨e, herror, hcode⟩ := outcome_status hr
      · omega
      · exact fun q x hq => h.auth.rejected_harmless le_rfl hj₁ ho₁ herror (hcode ▸ hhigh) hq

/-- No step of task `t` on the way to `σ` changed a row of either database. -/
def Unchanging (A : Assumption (app K X)) (σ : Pool (app K X)) (t : ℕ) : Prop :=
  ∀ σ₀ l σ' ls, Step A σ₀ l σ' → Path A σ' ls σ → l.task = t →
    σ'.shared.1.db = σ₀.shared.1.db ∧ σ'.shared.2 = σ₀.shared.2

/-- A request that is answered with a 4xx status changed nothing. -/
theorem client_error_unchanged (h : Reachable K X Unforged σ)
    (hj : .spawned t (.http s api req) ∈ σ.log) {response : HttpResponse}
    (ho : .replied t (.sent response) ∈ σ.log) (hlow : 400 ≤ response.status)
    (hhigh : response.status < 500) : Unchanging Unforged σ t := by
  obtain ⟨σ₁, σ₂, hb⟩ := h.behind unforged_covers
  obtain ⟨hharmless, hapart⟩ := hb.client_error hj ho hlow hhigh
  rintro σ₀ l σ' ls hs hp rfl
  have hsub := hp.log_suffix.subset
  obtain hsame | ⟨q, hlog, hdb, hsame⟩ | ⟨q, r, hlog⟩ := step_databases hs
  · exact hsame
  · have hq : ranAuth l.task q (q.exec σ₀.shared.1.db).1 ∈ σ.log :=
      hsub (hlog ▸ List.mem_cons_self)
    have hq₁ := hharmless q _ (hb.projection.log.performed_first.2 hq)
    exact ⟨hdb.trans (Stmt.exec_harmless hq₁), hsame⟩
  · exact absurd (hsub (hlog ▸ List.mem_cons_self)) (hapart q r)

open Scripts in
/-- Of two registers of `ann` at once the one whose insert comes second is answered 409, and it
changed nothing. -/
theorem client_error_unchanged_taken : ∃ σ, Reachable Transparent.crypto extractor Unforged σ ∧
    wasAnswered σ.log 1 200 = true ∧ wasAnswered σ.log 2 409 = true ∧ Unchanging Unforged σ 2 := by
  let request := posting "/api/v1/auth/register" annBody
  obtain ⟨σ, hσ, hj, ho, hwon⟩ := Scripts.reach Unforged
    (starting ++ sending 2 request ++ auth 2 [.salt "salt", .uuid "id2", .reading 105] ++
      registering 1 105 ++ auth 2 [.execute] ++ [.reply 2])
    (fun σ => wasSpawned σ.log 2 (.http 0 Scenario.api request) = true ∧
      wasAnswered σ.log 2 409 = true ∧ wasAnswered σ.log 1 200 = true) (by decide +kernel)
  obtain ⟨response, hr, hcode⟩ := wasAnswered_iff.1 ho
  exact ⟨σ, hσ, hwon, ho,
    client_error_unchanged hσ (wasSpawned_iff.1 hj) hr (by omega) (by omega)⟩

theorem unforged_performed (sh : (app K X).Shared) (log : AppTrail) (t : ℕ)
    (e : appSignature.Effect) (a : appSignature.Answer e) :
    (Unforged : Assumption (app K X)) sh log (.performed t e a) := by
  intro t' job s api request tok c he
  cases he

theorem responsive : Responsive (NoFaults ⊓ Unforged : Assumption (app K X)) where
  answers sh log t e := by
    cases e with
    | inl e =>
      obtain ⟨c, a, sh', hr, ⟨hfault, -⟩, -⟩ := (Servir.responsive (K := K)).answers sh.1 [] t e
      refine ⟨.inl c, a, (sh', sh.2), ?_, fun t' => ⟨?_, ?_⟩,
        unforged_performed sh log t (.inl e) a⟩
      · exact congrArg (Option.map (fun r => (r.1, (r.2, sh.2)))) hr
      · intro q display he
        cases he
        exact hfault t q display rfl
      · intro q display he
        injection he with _ he
        cases he
    | inr e =>
      obtain ⟨c, a, sh', hr, hfault⟩ := Consumer.responsive.answers sh.2 [] t e
      refine ⟨.inr c, a, (sh.1, sh'), ?_, fun t' => ⟨?_, ?_⟩,
        unforged_performed sh log t (.inr e) a⟩
      · exact congrArg (Option.map (fun r => (r.1, (sh.1, r.2)))) hr
      · intro q display he
        injection he with _ he
        cases he
      · intro q display he
        cases he
        exact hfault t q display rfl
  replies sh log t o := by
    refine ⟨fun t' => ⟨?_, ?_⟩, ?_⟩
    · intro q display he
      cases he
    · intro q display he
      cases he
    · intro t' job s api request tok c he
      cases he

/-- The default 405, or a response in the envelope under another status. -/
def Standard (response : HttpResponse) : Prop :=
  response = ⟨405, .empty⟩ ∨ (response.Enveloped ∧ response.status ≠ 405)

theorem Standard.error (e : ServirError) : Standard e.intoResponse := by
  refine .inr ⟨e.intoResponse_enveloped, ?_⟩
  change e.statusCode.asU16 ≠ 405
  cases e.statusCode <;> decide

theorem Standard.result {α : Type} [Serialize α] (r : Except ServirError α) :
    Standard (intoResponse r) := by
  cases r with
  | error e => exact .error e
  | ok a => exact .inr ⟨intoResponse_enveloped _, by change 200 ≠ 405; decide⟩

theorem Standard.sent_iff {response : HttpResponse} (h : Standard response) (req : HttpRequest) :
    (req.sent response).Enveloped ↔ req.method ≠ .head ∧ (req.sent response).status ≠ 405 := by
  rw [HttpRequest.sent_status]
  by_cases hhead : req.method = .head
  · simp [HttpRequest.sent, hhead, not_enveloped_empty]
  · obtain rfl | ⟨henv, hcode⟩ := h
    · simp [HttpRequest.sent, hhead, not_enveloped_empty]
    · simp [HttpRequest.sent, hhead, henv, hcode]

/-- Whatever else is under way, a request can be carried to its answer by its own steps, and the
answer has the envelope exactly if it is not to a `HEAD` and not the default 405. -/
theorem request_answered (h : Reachable K X Unrestricted σ) :
    (∀ t job, Open σ.log t job → ∃ ls σ' o, Path (NoFaults ⊓ Unforged) σ ls σ' ∧
      (∀ l ∈ ls, l.task = t) ∧ .replied t o ∈ σ'.log) ∧
    ∀ t s api req response, .spawned t (.http s api req) ∈ σ.log →
      .replied t (.sent response) ∈ σ.log →
      (response.Enveloped ↔ req.method ≠ .head ∧ response.status ≠ 405) := by
  refine ⟨fun t job ho => Reach.completes (app K X).follows_any responsive h ho, ?_⟩
  intro t s api req response hj ho
  obtain ⟨σ₁, σ₂, hb⟩ := h.behind unrestricted_covers
  by_cases hasks : AsksProfile req
  · obtain ⟨-, ⟨e, -, he⟩ | ⟨c, o₂, -, -, -, he⟩⟩ := hb.profile_answered hj hasks ho
    · cases he
      exact (Standard.error e).sent_iff req
    · cases he
      exact (Standard.result _).sent_iff req
  · obtain ⟨r, -, he, hwhat⟩ | ⟨request, o₁, r, -, -, -, hr, he⟩ := hb.own_answered hj hasks ho
    · cases he
      apply Standard.sent_iff
      obtain rfl | hrouted := hwhat
      · exact .inl rfl
      · obtain rfl | rfl | ⟨e, rfl, -⟩ := routed_known X hrouted
        · exact .inl rfl
        · exact .result (.ok (HealthResponse.mk "healthy"))
        · exact .error e
    · cases he
      apply Standard.sent_iff
      rcases o₁ with r | r | r | r | r <;> cases hr <;> exact .result _

open Scripts in
/-- The lost race of a first access is answered in the envelope. -/
theorem request_answered_raced : ∃ σ, Reachable Transparent.crypto extractor Unrestricted σ ∧
    ∃ response, .replied 3 (.sent response) ∈ σ.log ∧ response.status = 500 ∧
      response.Enveloped := by
  obtain ⟨σ, hσ, -, ⟨hj, ho⟩, -, -⟩ := reach_raced
  have h : Reachable Transparent.crypto extractor Unrestricted σ :=
    hσ.mono (fun _ _ _ _ => trivial)
  obtain ⟨response, ho, hcode⟩ := wasAnswered_iff.1 ho
  have henv := (request_answered h).2 3 0 _ _ response (wasSpawned_iff.1 hj) ho
  exact ⟨σ, h, response, ho, hcode, henv.2 ⟨nofun, by omega⟩⟩

end App
end Servir.Consumer
