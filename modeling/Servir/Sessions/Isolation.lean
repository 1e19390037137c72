import Servir.Runs.Erasure
import Servir.Runs.Scenario
import Servir.Sessions.Identity

/-!
# Users cannot affect one another

Every statement of a request reads and writes rows of one user only, the one
that the request names in its body or by the claims of its token. So the
requests of all other users can be erased from a run without a difference for
those of one user.
-/

namespace Servir
open Interleaving

variable {K : Crypto} {A : Assumption (service K)} {sh : Shared} {log later earlier : Trail}
  {t s : ℕ} {api : Api} {req : Request} {a n : String}

/-- The username that a request is about: the one in its body, or in the claims of the refresh token
that it presents. -/
def Request.names (K : Crypto) (api : Api) : Request → Option String
  | .register body => some body.username
  | .login body => some body.username
  | .refresh body => (K.openToken api.routes.secret body.refreshToken).toOption.map Claims.username
  | .logout body => (K.openToken api.routes.secret body.refreshToken).toOption.map Claims.username
  | .me _ | .guarded _ => none

/-- Task `t` is a request about the username `n`. -/
def Names (K : Crypto) (log : Trail) (t : ℕ) (n : String) : Prop :=
  ∃ s api req, .spawned t (.request s api req) ∈ log ∧ req.names K api = some n

theorem Names.mono {log' : Trail} (h : Names K log t n) (hsub : log ⊆ log') : Names K log' t n := by
  obtain ⟨s, api, req, hj, hn⟩ := h
  exact ⟨s, api, req, hsub hj, hn⟩

/-- Task `t` is a request about another user than `a`. -/
def foreign (K : Crypto) (a : String) (log : Trail) (t : ℕ) : Bool :=
  log.any (fun ev => match ev with
    | .spawned t' (.request _ api req) => t' == t && (req.names K api).any (fun n => n != a)
    | _ => false)

/-- Task `t` remains when the requests about other users than `a` are erased. -/
abbrev remains (K : Crypto) (a : String) (log : Trail) (t : ℕ) : Bool := !foreign K a log t

theorem foreign_iff : foreign K a log t = true ↔ ∃ n, Names K log t n ∧ n ≠ a := by
  simp only [foreign, List.any_eq_true, Names]
  constructor
  · rintro ⟨ev, hev, h⟩
    split at h
    · simp only [Bool.and_eq_true, beq_iff_eq, Option.any_eq_true, bne_iff_ne] at h
      obtain ⟨rfl, n, hn, hne⟩ := h
      exact ⟨n, ⟨_, _, _, hev, hn⟩, hne⟩
    · cases h
  · rintro ⟨n, ⟨s, api, req, hj, hn⟩, hne⟩
    exact ⟨_, hj, by simp [hn, hne]⟩

namespace Traces

theorem names_unique (h : Traces K A sh log) {n' : String} (hn : Names K log t n)
    (hn' : Names K log t n') : n = n' := by
  obtain ⟨s, api, req, hj, hn⟩ := hn
  obtain ⟨s', api', req', hj', hn'⟩ := hn'
  cases Traced.spawned_unique h hj hj'
  rw [hn] at hn'
  exact Option.some.inj hn'

theorem names_remains (h : Traces K A sh log) (hn : Names K log t n) :
    remains K a log t = true ↔ n = a := by
  rw [Bool.not_eq_true', ← not_iff_not, Bool.not_eq_false, foreign_iff]
  constructor
  · rintro ⟨n', hn', hne⟩
    rwa [h.names_unique hn hn']
  · exact fun hne => ⟨n, hn, hne⟩

theorem presenter (hA : A ≤ Unforged) (h : Traces K A sh log) {tok : String} {c : Claims}
    (hj : .spawned t (.request s api req) ∈ log) (htok : req.presents = some tok)
    (hopen : K.openToken api.routes.secret tok = .ok c) :
    ∃ u, Registered log u ∧ u.id = c.sub ∧ u.username = c.username :=
  signed_registered h (genuine hA h hj htok hopen)

theorem acts_names (hA : A ≤ Unforged) (h : Traces K A sh log) {h₀ : Past} {user : User}
    (hj : .spawned t (.request s api req) ∈ log) (hacts : Acts K api.routes req h₀ user)
    (hpast : ∀ x ∈ h₀, x ∈ history t log) : Names K log t user.username := by
  refine ⟨s, api, req, hj, ?_⟩
  cases id hacts with
  | register => rfl
  | login =>
    obtain ⟨later, earlier, rfl⟩ := List.append_of_mem (mem_history.1 (hpast _ List.mem_cons_self))
    obtain ⟨r, -, hname, rfl⟩ := (found_username h _).1 rfl
    exact congrArg some hname.symm
  | refresh hverify =>
    have hopen := (verifyTokenAt_ok.1 hverify).1
    obtain ⟨-, hname⟩ := refresh_user hA h hj hacts hpast hopen
    simp [Request.names, hopen, hname, Except.toOption]

theorem inserted_names (hA : A ≤ Unforged) (h : Traces K A sh log) {r : RefreshTokenRow}
    (hr : Inserted log t r) :
    ∃ u, Registered log u ∧ u.id = r.userId ∧ Names K log t u.username := by
  obtain ⟨later, earlier, rfl⟩ := List.append_of_mem hr
  obtain ⟨s, api, req, h₀, user, n, n', n₁, n₂, jti₀, tok, tok', hj, hacts, huser, -, -, hpast⟩ :=
    storing h
  obtain ⟨sh₀, -, h₁, -⟩ := responds h
  have hall : ∀ x ∈ h₀, x ∈ history t earlier :=
    fun x hx => by simp [hpast, refreshPast, accessPast, hx]
  obtain ⟨u, hu, rfl⟩ := acts_registered h₁ hacts hall
  exact ⟨u, hu.mono earlier_subset, huser.symm,
    (acts_names hA h₁ hj hacts hall).mono earlier_subset⟩

theorem created_names (h : Traces K A sh log) {r : UserRow} (hr : Created log t r) :
    Names K log t r.username := by
  obtain ⟨later, earlier, rfl⟩ := List.append_of_mem hr
  obtain ⟨s, api, body, salt, n, hj, hname, -, -⟩ := creating h
  exact ⟨s, api, _, earlier_subset hj, congrArg some hname.symm⟩

/-- The rows of `users` that a statement reads belong to the user that its request names. -/
theorem reads_user (hA : A ≤ Unforged) {q : Stmt} {x : Except SqlxError q.Answer}
    (h : Traces K A sh (later ++ ran t q x :: earlier)) {r : UserRow} (hr : Registered earlier r)
    (hreads : q.readsUser r) : Names K earlier t r.username := by
  have hbuild : ∀ past, ¬ BuildAttempts past (.sql q) := by
    intro past hb
    cases hb <;> cases hreads
  obtain ⟨s, api, req, hj, ha⟩ := requested h hbuild
  obtain ⟨sh₀, -, h₀, -⟩ := responds h
  generalize hpast : history t earlier = past at ha
  cases ha with
  | @insertUser body salt hash id n =>
    obtain hid | hname := hreads
    · -- the UUID of the new row was drawn by this request, and it has not inserted before
      obtain ⟨t', hc⟩ := hr
      have hdrew : drew t r.id ∈ earlier := mem_history.1 (by simp [hpast, hid])
      obtain rfl := draw_unique h₀ (created_drew h₀ hc) hdrew
      exact absurd (stage_lt h (by simp [Effect.stage]) hc) (by simp [Effect.stage])
    · exact ⟨s, api, _, hj, congrArg some hname.symm⟩
  | selectByUsername => exact ⟨s, api, _, hj, congrArg some hreads.symm⟩
  | consume => cases hreads
  | revoke => cases hreads
  | selectById hverify =>
    have hopen := (verifyTokenAt_ok.1 hverify).1
    obtain ⟨u, hu, hid, hname⟩ := presenter hA h₀ hj rfl hopen
    obtain rfl := registered_id h₀ hr hu (Eq.trans hreads hid.symm)
    exact ⟨s, api, _, hj, by simp [Request.names, hopen, hname, Except.toOption]⟩
  | @store _ h' user n n' n₁ n₂ jti jti' tok tok' hacts =>
    have hall : ∀ x ∈ h', x ∈ history t earlier :=
      fun x hx => by simp [hpast, refreshPast, accessPast, hx]
    obtain ⟨u, hu, rfl⟩ := acts_registered h₀ hacts hall
    obtain rfl := registered_id h₀ hr hu hreads
    exact acts_names hA h₀ hj hacts hall

theorem reads_token (hA : A ≤ Unforged) {q : Stmt} {x : Except SqlxError q.Answer}
    (h : Traces K A sh (later ++ ran t q x :: earlier)) {r : RefreshTokenRow} (hr : Stored earlier r)
    (hreads : q.readsToken r) :
    ∃ u, Registered earlier u ∧ u.id = r.userId ∧ Names K earlier t u.username := by
  have hbuild : ∀ past, ¬ BuildAttempts past (.sql q) := by
    intro past hb
    cases hb <;> cases hreads
  obtain ⟨s, api, req, hj, ha⟩ := requested h hbuild
  obtain ⟨sh₀, -, h₀, -⟩ := responds h
  obtain ⟨t₀, hins⟩ := hr.inserted
  generalize hpast : history t earlier = past at ha
  cases ha with
  | insertUser => cases hreads
  | selectByUsername => cases hreads
  | selectById => cases hreads
  | @consume body c n n' hverify hkind =>
    have hopen := (verifyTokenAt_ok.1 hverify).1
    obtain ⟨u, hu, hid, hname⟩ := presenter hA h₀ hj rfl hopen
    have huser := row_user h₀ (genuine hA h₀ hj rfl hopen) hkind hins hreads.1
    exact ⟨u, hu, hid.trans huser.symm, s, api, _, hj,
      by simp [Request.names, hopen, hname, Except.toOption]⟩
  | @revoke body c n hverify hkind =>
    have hopen := (verifyTokenAt_ok.1 hverify).1
    obtain ⟨u, hu, hid, hname⟩ := presenter hA h₀ hj rfl hopen
    exact ⟨u, hu, Eq.trans hid hreads.symm, s, api, _, hj,
      by simp [Request.names, hopen, hname, Except.toOption]⟩
  | @store _ h' user n n' n₁ n₂ jti jti' tok tok' hacts =>
    exact absurd hreads (store_fresh h hins)

theorem removes_names (hA : A ≤ Unforged) {ev : Happening}
    (h : Traces K A sh (later ++ ev :: earlier)) {r : RefreshTokenRow} (hr : Stored earlier r)
    (hev : Removes ev r) :
    ∃ u, Registered earlier u ∧ u.id = r.userId ∧ Names K earlier ev.task u.username := by
  obtain ⟨t, now, rows, rfl, hnow⟩ | ⟨t, rows, rfl⟩ := hev
  · exact reads_token hA h hr ⟨rfl, hnow⟩
  · exact reads_token hA h hr rfl

end Traces

/-- The row belongs to the user `a`. -/
def Owned (log : Trail) (a : String) (r : RefreshTokenRow) : Prop :=
  ∃ u, Registered log u ∧ u.username = a ∧ u.id = r.userId

section Kept
variable {whole : Trail}

theorem registered_of_kept {r : UserRow} (h : Registered (kept (remains K a whole) log) r) :
    Registered log r := h.mono kept_subset

theorem Traces.kept_registered (hw : Traces K A sh whole) (hsub : log ⊆ whole) {r : UserRow}
    (hr : Registered log r) : Registered (kept (remains K a whole) log) r ↔ r.username = a := by
  constructor
  · rintro ⟨t, hc⟩
    obtain ⟨hmem, hkeep⟩ := mem_kept.1 hc
    exact (hw.names_remains (hw.created_names (hsub hmem))).1 hkeep
  · intro hname
    obtain ⟨t, hc⟩ := hr
    exact ⟨t, mem_kept.2 ⟨hc, (hw.names_remains (hw.created_names (hsub hc))).2 hname⟩⟩

theorem Traces.kept_owned (hA : A ≤ Unforged) (hw : Traces K A sh whole) (hsub : log ⊆ whole)
    {r : RefreshTokenRow} (hr : Stored (kept (remains K a whole) log) r) : Owned whole a r := by
  obtain ⟨t, hins⟩ := hr.inserted
  obtain ⟨hmem, hkeep⟩ := mem_kept.1 hins
  obtain ⟨u, hu, hid, hnames⟩ := hw.inserted_names hA (hsub hmem)
  exact ⟨u, hu, (hw.names_remains hnames).1 hkeep, hid⟩

theorem Traces.kept_stored (hA : A ≤ Unforged) (hw : Traces K A sh whole) (hsub : log <:+ whole)
    {r : RefreshTokenRow} (hr : Owned whole a r) :
    Stored (kept (remains K a whole) log) r ↔ Stored log r := by
  obtain ⟨u, hu, hname, hid⟩ := hr
  have howner : ∀ {t u'}, Registered whole u' → u'.id = r.userId → Names K whole t u'.username →
      remains K a whole t = true := by
    intro t u' hu' hid' hnames
    obtain rfl := hw.registered_id hu' hu (hid'.trans hid.symm)
    exact (hw.names_remains hnames).2 hname
  refine kept_stored_iff (fun later ev earlier hlog hkeep => ⟨fun hst hrem => ?_, ?_⟩)
  · obtain ⟨l, rfl⟩ := hsub
    have hearlier : earlier ⊆ l ++ log := fun ev' hev => by simp [hlog, hev]
    rw [hlog, ← List.append_assoc] at hw
    obtain ⟨u', hu', hid', hnames⟩ := Traces.removes_names hA hw hst hrem
    exact absurd (howner (hu'.mono hearlier) hid' (hnames.mono hearlier))
      (Bool.eq_false_iff.1 hkeep)
  · rintro t rfl
    have hmem : Inserted whole t r := hsub.subset (by simp [hlog])
    obtain ⟨u', hu', hid', hnames⟩ := hw.inserted_names hA hmem
    exact absurd (howner hu' hid' hnames) (Bool.eq_false_iff.1 hkeep)

theorem Traces.builds_remain (hw : Traces K A sh whole) : KeepsBuilds (remains K a whole) whole := by
  intro t b hj
  rw [Bool.not_eq_true', ← Bool.not_eq_true, foreign_iff]
  rintro ⟨n, ⟨s, api, req, hj', -⟩, -⟩
  cases Traced.spawned_unique hw hj hj'

/-- A remaining statement reads the same rows without the erased requests. -/
theorem Traces.kept_agree (hA : A ≤ Unforged) (hw : Traces K A sh whole) {q : Stmt}
    {x : Except SqlxError q.Answer} (hsub : ran t q x :: log <:+ whole)
    (hkeep : remains K a whole t = true) {db db' : Db} (hdb : Recorded db log)
    (hdb' : Recorded db' (kept (remains K a whole) log)) : q.Agree db db' := by
  have hlog : log <:+ whole := (List.suffix_cons _ log).trans hsub
  obtain ⟨later, hlater⟩ := hsub
  refine ⟨fun r hreads => ?_, fun r hreads => ?_, fun r _ => ?_⟩
  · rw [hdb.users, hdb'.users]
    refine ⟨fun hr => ?_, registered_of_kept⟩
    have hnames := Traces.reads_user hA (hlater ▸ hw) hr hreads
    exact (hw.kept_registered hlog.subset hr).2
      ((hw.names_remains (hnames.mono hlog.subset)).1 hkeep)
  · rw [hdb.tokens, hdb'.tokens]
    constructor
    · intro hr
      obtain ⟨u, hu, hid, hnames⟩ := Traces.reads_token hA (hlater ▸ hw) hr hreads
      have hname := (hw.names_remains (hnames.mono hlog.subset)).1 hkeep
      exact (hw.kept_stored hA hlog ⟨u, hu.mono hlog.subset, hname, hid⟩).2 hr
    · exact fun hr => (hw.kept_stored hA hlog (hw.kept_owned hA hlog.subset hr)).1 hr
  · rw [hdb.config, hdb'.config, hw.kept_configured hw.builds_remain hlog.subset]

theorem Traces.independent (hA : A ≤ NoFaults ⊓ Unforged) (hw : Traces K A sh whole) :
    Independent (protocol K) A NoFaults Shared.init (remains K a whole) [] [] whole :=
  hw.independent_of_agree hw.builds_remain (fun _ _ _ _ h => (hA _ _ _ h).1)
    (fun hsub hkeep hdb hdb' => hw.kept_agree (fun _ _ _ h => (hA _ _ _ h).2) hsub hkeep hdb hdb')

end Kept

/-- Erase from a run without faults all requests about other users than `a`: what is left is a run
with the same draws, readings and responses, and after each of its steps the rows of `a` are the
same. -/
theorem users_isolated (a : String) {σ₁ σ : Pool (service K)} {ls ls' : List (Label (service K))}
    (hp : Path (NoFaults ⊓ Unforged) (.start Shared.init) ls σ₁)
    (hp' : Path (NoFaults ⊓ Unforged) σ₁ ls' σ) :
    ∃ σ₁' : Pool (service K), Path NoFaults (.start Shared.init)
        (ls.filter (fun l => remains K a σ.log l.task)) σ₁' ∧
      σ₁'.log = kept (remains K a σ.log) σ₁.log ∧
      (∀ t o, remains K a σ.log t = true →
        (.replied t o ∈ σ₁'.log ↔ .replied t o ∈ σ₁.log)) ∧
      (∀ r : UserRow, r.username = a → (r ∈ σ₁'.shared.db.users ↔ r ∈ σ₁.shared.db.users)) ∧
      ∀ u ∈ σ₁.shared.db.users, u.username = a → ∀ r : RefreshTokenRow, r.userId = u.id →
        (r ∈ σ₁'.shared.db.refreshTokens ↔ r ∈ σ₁.shared.db.refreshTokens) := by
  have hσ₁ : Reachable K (NoFaults ⊓ Unforged) σ₁ := ⟨ls, hp⟩
  have hw := Reachable.traces (hσ₁.path hp')
  have hsub := hp'.log_suffix
  have hA : (NoFaults ⊓ Unforged : Assumption (service K)) ≤ Unforged := fun _ _ _ h => h.2
  obtain ⟨σ₁', hpath, ⟨new, hnew, hlog⟩, -⟩ := Path.erase (service_follows K)
    (hw.independent (a := a) le_rfl) ⟨[], .nil _⟩ ⟨[], .nil _⟩ .start hp hsub
  rw [List.append_nil] at hnew hlog
  subst new
  have hrec := hσ₁.traces.recorded
  have hrec' := (Reachable.traces ⟨_, hpath⟩).recorded
  rw [hlog] at hrec'
  refine ⟨σ₁', hpath, hlog, fun t o hkeep => ?_, fun r hname => ?_, fun u hu hname r hid => ?_⟩
  · rw [hlog, mem_kept]
    exact and_iff_left hkeep
  · rw [hrec.users, hrec'.users]
    exact ⟨registered_of_kept, fun hr => (hw.kept_registered hsub.subset hr).2 hname⟩
  · rw [hrec.tokens, hrec'.tokens]
    exact hw.kept_stored hA hsub ⟨u, ((hrec.users u).1 hu).mono hsub.subset, hname, hid.symm⟩

open Scenario in
/-- Without the requests of `bob`, who registers in the middle of it, the run of `ann` is the
same. -/
theorem users_isolated_pair : ∃ (σ' : Pool (service Transparent.crypto)) (ls' : Script),
    Path NoFaults (.start Shared.init) ls' σ' ∧ (∀ ev ∈ σ'.log, ev.task ≠ 2) ∧
    .replied 3 (.tokens (.ok ⟨accessToken "id" "ann" 107 "a2", token (ann 107 "r2"), "Bearer"⟩)) ∈
      σ'.log ∧ row "id" 107 "r2" ∈ σ'.shared.db.refreshTokens := by
  obtain ⟨σ, ⟨ls, hp⟩, hj, hj', ho, hu, hr⟩ := Scenario.reach (NoFaults ⊓ Unforged)
    (starting ++ registering 1 "ann" "password" 105 "id" "a1" "r1" ++
      consuming 3 (token (ann 105 "r1")) 106 ++ registering 2 "bob" "password" 106 "id2" "b1" "q1" ++
      rotating 3 107 "a2" "r2")
    (fun σ => .spawned 2 (.request 0 Scenario.api (.register ⟨"bob", "password"⟩)) ∈ σ.log ∧
      .spawned 3 (.request 0 Scenario.api (.refresh ⟨token (ann 105 "r1")⟩)) ∈ σ.log ∧
      .replied 3 (.tokens (.ok ⟨accessToken "id" "ann" 107 "a2", token (ann 107 "r2"), "Bearer"⟩)) ∈
        σ.log ∧ ⟨"id", "ann", Transparent.hashPassword "salt" "password", 105⟩ ∈ σ.shared.db.users ∧
      row "id" 107 "r2" ∈ σ.shared.db.refreshTokens) (by decide +kernel)
  have ht : Traces Transparent.crypto (NoFaults ⊓ Unforged) σ.shared σ.log :=
    Reachable.traces ⟨ls, hp⟩
  obtain ⟨σ', hp', hlog, hreply, -, htokens⟩ := users_isolated "ann" hp (.nil σ)
  have hopen : Transparent.crypto.openToken Scenario.secret (token (ann 105 "r1")) =
      .ok (ann 105 "r1") := Transparent.crypto_tokenSound.open_encode rfl
  have hbob : Names Transparent.crypto σ.log 2 "bob" := ⟨_, _, _, hj, rfl⟩
  have hann : Names Transparent.crypto σ.log 3 "ann" :=
    ⟨_, _, _, hj', congrArg (fun r => r.toOption.map Claims.username) hopen⟩
  refine ⟨σ', _, hp', fun ev hev hev' => ?_,
    (hreply 3 _ ((ht.names_remains hann).2 rfl)).2 ho, (htokens _ hu rfl _ rfl).2 hr⟩
  rw [hlog, mem_kept, hev'] at hev
  exact absurd ((ht.names_remains hbob).1 hev.2) (by decide)

end Servir
