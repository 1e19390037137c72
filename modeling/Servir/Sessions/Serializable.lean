import Servir.Db.Reads
import Servir.Interleaving.Serial
import Servir.Runs.Scenario

/-!
# Runs without logouts are serial

No handler uses a transaction, but each is decided by its first statement: the
insert of a register, the lookup of a login, the consume of a refresh. What a
request sends later reads only the row of its own user, who stays, and a `jti`
that nobody else has. So the requests could as well have come one after the
other, in the order of these statements.
-/

namespace Servir
open Interleaving

variable {K : Crypto} {A : Assumption (service K)} {sh : Shared} {base new later earlier : Trail}
  {t s : ℕ} {api : Api} {ev : Happening}

def Request.issues : Request → Bool
  | .register _ | .login _ | .refresh _ => true
  | _ => false

/-- The events `new` after `base` belong to register, login and refresh requests made since. A string
that such a refresh verifies had been returned before it was presented. -/
structure Batch (K : Crypto) (base new : Trail) : Prop where
  requested : ∀ ev ∈ new, ∃ s api req, .spawned ev.task (.request s api req) ∈ new ∧
    req.issues = true
  held : ∀ {later earlier t s api body n c},
    new = later ++ .spawned t (.request s api (.refresh body)) :: earlier → read t n ∈ new →
    verifyTokenAt K body.refreshToken api.routes n = .ok c →
    Granted (earlier ++ base) body.refreshToken

/-- The statement that decides a request. -/
def Deciding : Happening → Prop
  | .performed _ e _ => e.stage = 1
  | _ => False

theorem deciding_created (t : ℕ) (r : UserRow) :
    Deciding (ran t (.insertUser r.id r.username r.passwordHash r.createdAt) (.ok ())) := rfl

theorem deciding_consumed (t rows : ℕ) (jti : String) (now : Int64) :
    Deciding (ran t (.deleteRefreshToken jti now) (.ok rows)) := rfl

theorem consumed_append {jti : String} :
    Consumed (later ++ earlier) t jti ↔ Consumed later t jti ∨ Consumed earlier t jti := by
  simp only [Consumed, List.mem_append, or_and_right, exists_or]

namespace Traces

/-- Without a logout, an event removes a stored row exactly if it consumes its `jti`. -/
theorem removes_iff_consumes (h : Traces K A sh (ev :: earlier)) {r : RefreshTokenRow}
    (hr : Stored earlier r)
    (hrevoke : ∀ t userId rows, ev ≠ ran t (.deleteRefreshTokensForUser userId) (.ok rows)) :
    Removes ev r ↔ ∃ t, Consumed [ev] t r.jti := by
  have h' : Traces K A sh ([] ++ ev :: earlier) := h
  constructor
  · rintro (⟨t, now, rows, rfl, hnow⟩ | ⟨t, rows, rfl⟩)
    · exact ⟨t, now, rows, List.mem_cons_self, (consumed_iff h').2 ⟨r, hr, rfl, hnow⟩⟩
    · exact absurd rfl (hrevoke _ _ _)
  · rintro ⟨t, now, rows, hmem, hrows⟩
    obtain rfl := List.mem_singleton.1 hmem
    obtain ⟨r', hr', hjti, hnow⟩ := (consumed_iff h').1 hrows
    obtain ⟨sh₀, -, h₀, -⟩ := responds h'
    obtain rfl := stored_jti h₀ hr' hr hjti
    exact .inl ⟨t, now, rows, rfl, hnow⟩

theorem insertion_not_consumed {r : RefreshTokenRow} {t' : ℕ}
    (h : Traces K A sh (insertion t r :: earlier)) : ¬ Consumed earlier t' r.jti := by
  have h' : Traces K A sh ([] ++ insertion t r :: earlier) := h
  rintro ⟨now, rows, hmem, hrows⟩
  obtain ⟨sh₀, -, h₀, -⟩ := responds h'
  obtain ⟨l, m, rfl⟩ := List.append_of_mem hmem
  obtain ⟨r', hr', hjti, -⟩ := (consumed_iff h₀).1 hrows
  obtain ⟨t₀, hr'⟩ := hr'.inserted
  exact insertion_first h' (hr'.mono earlier_subset) hjti

/-- The rows of `refresh_tokens` after a time without logouts: a row that was there or was inserted
since, and was not consumed. -/
theorem stored_iff (h : Traces K A sh (new ++ base))
    (hrevoke : ∀ t userId rows, ran t (.deleteRefreshTokensForUser userId) (.ok rows) ∉ new)
    (r : RefreshTokenRow) : Stored (new ++ base) r ↔
      (Stored base r ∨ ∃ t, Inserted new t r) ∧ ∀ t, ¬ Consumed new t r.jti := by
  induction new generalizing sh with
  | nil => simp [Inserted, Consumed]
  | cons ev new ih =>
    obtain ⟨sh₀, h₀⟩ := Traced.of_suffix h (List.suffix_cons ev (new ++ base))
    have hih := ih h₀ (fun t userId rows hmem => hrevoke t userId rows (List.mem_cons_of_mem _ hmem))
    by_cases hins : ∃ t, ev = insertion t r
    · obtain ⟨t, rfl⟩ := hins
      refine iff_of_true (stored_insertion t r) ⟨.inr ⟨t, List.mem_cons_self⟩, ?_⟩
      rintro t' ⟨now, rows, hmem, hrows⟩
      rcases List.mem_cons.1 hmem with he | hmem
      · cases he
      · exact insertion_not_consumed h ⟨now, rows, List.mem_append_left _ hmem, hrows⟩
    · have hinserted : (∃ t, Inserted (ev :: new) t r) ↔ ∃ t, Inserted new t r := by
        refine exists_congr (fun t => List.mem_cons.trans (or_iff_right ?_))
        rintro rfl
        exact hins ⟨t, rfl⟩
      have hconsumed : (∀ t, ¬ Consumed (ev :: new) t r.jti) ↔
          (∀ t, ¬ Consumed new t r.jti) ∧ ¬ ∃ t, Consumed [ev] t r.jti := by
        rw [not_exists, ← forall_and]
        refine forall_congr' (fun t => ?_)
        rw [← List.singleton_append, consumed_append, not_or, and_comm]
      rw [hinserted, hconsumed, ← and_assoc, ← hih]
      simp only [Stored, List.cons_append, hins, or_false]
      refine and_congr_right (fun hr => not_congr (removes_iff_consumes h hr ?_))
      rintro t userId rows rfl
      exact hrevoke _ _ _ List.mem_cons_self

theorem deciding_unique {log : Trail} (h : Traces K A sh log) {x y : Happening} (hx : x ∈ log)
    (hy : y ∈ log) (hpx : Deciding x) (hpy : Deciding y) (ht : x.task = y.task) : x = y := by
  cases x with
  | performed t e a =>
    cases y with
    | performed t' e' a' =>
      obtain rfl : t = t' := ht
      have he : e.stage = 1 := hpx
      exact stage_unique h hx hy (by omega) (Eq.trans hpy he.symm)
    | _ => cases hpy
  | _ => cases hpx

theorem deciding_once (h : Traces K A sh (later ++ ev :: earlier)) (hev : Deciding ev) :
    ¬ Decided Deciding earlier ev.task := by
  rintro ⟨y, hy, hpoint, ht⟩
  cases ev with
  | performed t e a =>
    cases y with
    | performed t' e' a' =>
      obtain rfl : t' = t := ht
      have he : e.stage = 1 := hev
      have he' : e'.stage = 1 := hpoint
      have hlt := stage_lt h (by omega) hy
      omega
    | _ => cases hpoint
  | _ => cases hev

theorem deciding_split {log later' earlier' : Trail} (h : Traces K A sh log)
    (hlog : log = later ++ ev :: earlier) (hlog' : log = later' ++ ev :: earlier')
    (hev : Deciding ev) : earlier = earlier' := by
  have honce : ∀ {l m}, log = l ++ ev :: m → ev ∉ m := by
    rintro l m rfl hmem
    exact deciding_once h hev ⟨ev, hmem, hev, rfl⟩
  exact split_unique (hlog.symm.trans hlog') (honce hlog) (honce hlog')

end Traces

theorem Acts.decided {config : AuthConfig} {req : Request} {h : Past} {user : User}
    (ha : Acts K config req h user) : ∃ x ∈ h, x.effect.stage = 1 := by
  cases ha with
  | register => exact ⟨_, List.mem_cons_self, rfl⟩
  | login => exact ⟨_, List.mem_cons_self, rfl⟩
  | refresh => exact ⟨_, List.mem_cons_of_mem _ List.mem_cons_self, rfl⟩

theorem Attempts.decided {config : AuthConfig} {req : Request} {h : Past} {q : Stmt}
    (ha : Attempts K config req h (.sql q)) :
    (Effect.sql q).stage = 1 ∨ ∃ x ∈ h, x.effect.stage = 1 := by
  cases ha with
  | selectById => exact .inr ⟨_, List.mem_cons_self, rfl⟩
  | store hacts =>
    obtain ⟨x, hx, hstage⟩ := hacts.decided
    exact .inr ⟨x, by simp [refreshPast, accessPast, hx], hstage⟩
  | _ => exact .inl rfl

theorem Attempts.not_readsConfig {config : AuthConfig} {req : Request} {h : Past} {q : Stmt}
    (ha : Attempts K config req h (.sql q)) (r : ConfigRow) : ¬ q.readsConfig r := by
  cases ha <;> exact id

namespace Batch
variable {q : Stmt} {x : Except SqlxError q.Answer}

theorem fresh (hb : Batch K base new) (hw : Traces K A sh (new ++ base)) (hev : ev ∈ new) :
    ∀ ev' ∈ base, ev'.task ≠ ev.task := by
  obtain ⟨s, api, req, hj, -⟩ := hb.requested ev hev
  obtain ⟨l, m, rfl⟩ := List.append_of_mem hj
  rw [List.append_assoc, List.cons_append] at hw
  exact fun ev' hev' => (Traced.admitted hw).2 ev' (List.mem_append_right _ hev')

theorem attempts (hb : Batch K base new) (hw : Traces K A sh (new ++ base))
    (hnew : new = later ++ ran t q x :: earlier) :
    ∃ s api req, .spawned t (.request s api req) ∈ earlier ∧ req.issues = true ∧
      Attempts K api.routes req (history t earlier) (.sql q) := by
  subst hnew
  have hmem : ran t q x ∈ later ++ ran t q x :: earlier :=
    List.mem_append_right _ List.mem_cons_self
  have hbase : ∀ ev ∈ base, ev.task ≠ t := hb.fresh hw hmem
  obtain ⟨s, api, req, hj, hissues⟩ := hb.requested _ hmem
  have hj₀ := List.mem_append_left base hj
  rw [List.append_assoc, List.cons_append] at hw hj₀
  obtain ⟨job, hj', ha⟩ := Traced.attempted_at hw
  cases Traced.spawned_unique hw hj₀ (earlier_subset hj')
  rw [history_append, history_eq_nil hbase, List.append_nil] at ha
  rcases List.mem_append.1 hj' with hj' | hj'
  · exact ⟨s, api, req, hj', hissues, ha⟩
  · exact absurd rfl (hbase _ hj')

theorem not_revoked (hb : Batch K base new) (hw : Traces K A sh (new ++ base)) (userId : String)
    (x : Except SqlxError ℕ) : ran t (.deleteRefreshTokensForUser userId) x ∉ new := by
  intro hmem
  obtain ⟨l, m, hnew⟩ := List.append_of_mem hmem
  obtain ⟨s, api, req, -, hissues, ha⟩ := hb.attempts hw hnew
  generalize history t m = past at ha
  cases ha with
  | revoke => cases hissues

theorem decided (hb : Batch K base new) (hw : Traces K A sh (new ++ base))
    (hnew : new = later ++ ran t q x :: earlier) (hstage : (Effect.sql q).stage ≠ 1) :
    Decided Deciding earlier t := by
  obtain ⟨s, api, req, -, -, ha⟩ := hb.attempts hw hnew
  obtain ⟨y, hy, hy'⟩ := ha.decided.resolve_left hstage
  exact ⟨_, mem_history.1 hy, hy', rfl⟩

theorem decided_inserted (hb : Batch K base new) (hw : Traces K A sh (new ++ base))
    (hsuffix : earlier <:+ new) {r : RefreshTokenRow} (hr : Inserted earlier t r) :
    Decided Deciding earlier t := by
  obtain ⟨l, m, rfl⟩ := List.append_of_mem hr
  obtain ⟨later, rfl⟩ := hsuffix
  obtain ⟨y, hy, hpoint, ht⟩ :=
    hb.decided hw (List.append_assoc later l _).symm (by simp [Effect.stage])
  exact ⟨y, earlier_subset hy, hpoint, ht⟩

theorem granted (hK : K.TokenSound) (hb : Batch K base new) (hw : Traces K A sh (new ++ base))
    {body : RefreshRequest} {c : Claims} {n : UInt64} (hsuffix : earlier <:+ new)
    (hj : .spawned t (.request s api (.refresh body)) ∈ earlier) (hn : read t n ∈ new)
    (hverify : verifyTokenAt K body.refreshToken api.routes n = .ok c) (hkind : c.kind = .refresh) :
    (∃ t₀ r, Inserted (earlier ++ base) t₀ r ∧ r.jti = c.jti) ∧
      ∃ u, Registered (earlier ++ base) u ∧ u.id = c.sub := by
  obtain ⟨l, m, rfl⟩ := List.append_of_mem hj
  obtain ⟨later, rfl⟩ := hsuffix
  have hheld := hb.held (List.append_assoc later l _).symm hn hverify
  rw [← List.append_assoc, List.append_assoc, List.cons_append] at hw
  obtain ⟨⟨t₀, r, hins, hjti⟩, u, hu, hid⟩ :=
    Traces.granted_row hK hw hheld (verifyTokenAt_ok.1 hverify).1 hkind
  have hsub : m ++ base ⊆ l ++ .spawned t (.request s api (.refresh body)) :: m ++ base := by
    rw [List.append_assoc, List.cons_append]
    exact earlier_subset
  exact ⟨⟨t₀, r, hins.mono hsub, hjti⟩, u, hu.mono hsub, hid⟩

section Replay
variable {order : List ℕ} {sh₀ sh' : Shared} {log later' : Trail}

theorem serial_deciding (hw : Traces K A sh (new ++ base)) (hsub : earlier ⊆ new)
    (horder : ∀ t, t ∈ order ↔ Decided Deciding earlier t) (hev : Deciding ev) :
    ev ∈ serial new order ↔ ev ∈ earlier := by
  rw [mem_serial, horder]
  constructor
  · rintro ⟨hmem, y, hy, hpoint, ht⟩
    rwa [Traces.deciding_unique hw (List.mem_append_left _ hmem)
      (List.mem_append_left _ (hsub hy)) hev hpoint ht.symm]
  · exact fun hmem => ⟨hsub hmem, ev, hmem, hev, rfl⟩

/-- When a request is decided, the replayed log has the same decisions. -/
theorem replayed_deciding (hw : Traces K A sh (new ++ base)) (hsub : earlier ⊆ new)
    (horder : ∀ t, t ∈ order ↔ Decided Deciding earlier t) (hev : Deciding ev) {keep : ℕ → Bool} :
    ev ∈ kept keep earlier ++ serial new order ↔ ev ∈ earlier := by
  rw [List.mem_append, serial_deciding hw hsub horder hev]
  exact or_iff_right_of_imp (fun h => kept_subset h)

theorem replayed_inserted (hb : Batch K base new) (hw : Traces K A sh (new ++ base))
    (hsuffix : earlier <:+ new) (horder : ∀ t, t ∈ order ↔ Decided Deciding earlier t)
    {keep : ℕ → Bool} {t₀ : ℕ} {r r₀ : RefreshTokenRow} (hins₀ : Inserted (earlier ++ base) t₀ r₀)
    (hjti : r.jti = r₀.jti) :
    (Stored base r ∨ ∃ t, Inserted earlier t r) ↔
      (Stored base r ∨ ∃ t, Inserted (kept keep earlier ++ serial new order) t r) := by
  have hsub : earlier ⊆ new := hsuffix.subset
  constructor
  · rintro (hr | ⟨t, hins⟩)
    · exact .inl hr
    · have ht : t ∈ order := (horder t).2 (hb.decided_inserted hw hsuffix hins)
      exact .inr ⟨t, List.mem_append_right _ (mem_serial.2 ⟨hsub hins, ht⟩)⟩
  · rintro (hr | ⟨t, hins⟩)
    · exact .inl hr
    · have hins' : Inserted new t r := by
        rcases List.mem_append.1 hins with hmem | hmem
        · exact hsub (kept_subset hmem)
        · exact (mem_serial.1 hmem).1
      have hmono : earlier ++ base ⊆ new ++ base :=
        fun y hy => List.mem_append.2 ((List.mem_append.1 hy).imp_left (fun h => hsub h))
      obtain ⟨rfl, rfl⟩ := Traces.inserted_unique hw (hins'.mono (List.subset_append_left _ _))
        (hins₀.mono hmono) hjti
      rcases List.mem_append.1 hins₀ with hmem | hmem
      · exact .inr ⟨t, hmem⟩
      · exact absurd rfl (hb.fresh hw hins' _ hmem)

theorem decided_agree (hK : K.TokenSound) (hb : Batch K base new) (hw : Traces K A sh (new ++ base))
    (hnew : new = later ++ ran t q x :: earlier) (hstage : (Effect.sql q).stage = 1)
    (horder : ∀ t, t ∈ order ↔ Decided Deciding earlier t) (h₀ : Traces K ⊤ sh₀ (earlier ++ base))
    (h' : Traces K ⊤ sh' (kept (fun t' => t' == t) earlier ++ serial new order ++ base)) :
    q.Agree sh₀.db sh'.db := by
  have hsuffix : earlier <:+ new :=
    hnew ▸ (List.suffix_cons _ earlier).trans (List.suffix_append _ _)
  have hsub : earlier ⊆ new := hsuffix.subset
  have hsame : ∀ y, Deciding y →
      (y ∈ kept (fun t' => t' == t) earlier ++ serial new order ↔ y ∈ earlier) :=
    fun y hy => replayed_deciding hw hsub horder hy
  obtain ⟨s, api, req, hj, hissues, ha⟩ := hb.attempts hw hnew
  refine ⟨fun r _ => ?_, ?_, fun r hr => absurd hr (ha.not_readsConfig r)⟩
  · rw [h₀.recorded.users, h'.recorded.users]
    refine exists_congr (fun t' => ?_)
    rw [Created, Created, List.mem_append, List.mem_append, hsame _ (deciding_created t' r)]
  · generalize hpast : history t earlier = past at ha
    cases ha with
    | insertUser => exact fun r hr => hr.elim
    | selectByUsername => exact fun r hr => hr.elim
    | selectById => cases hstage
    | store => cases hstage
    | revoke => cases hissues
    | @consume body c n n' hverify hkind =>
      rintro r ⟨hjti, -⟩
      have hn : read t n ∈ new := hsub (mem_history.1 (by simp [hpast]))
      obtain ⟨⟨t₀, r₀, hins₀, hjti₀⟩, -⟩ := hb.granted hK hw hsuffix hj hn hverify hkind
      have hserial : kept (fun t' => t' == t) earlier ++ serial new order ⊆ new :=
        List.append_subset.2 ⟨fun y hy => hsub (kept_subset hy), fun y hy => (mem_serial.1 hy).1⟩
      rw [h₀.recorded.tokens, h'.recorded.tokens,
        Traces.stored_iff h₀ (fun _ _ _ hmem => hb.not_revoked hw _ _ (hsub hmem)),
        Traces.stored_iff h' (fun _ _ _ hmem => hb.not_revoked hw _ _ (hserial hmem))]
      refine and_congr (hb.replayed_inserted hw hsuffix horder hins₀ (hjti.trans hjti₀.symm))
        (forall_congr' (fun t' => not_congr ?_))
      simp only [Consumed]
      refine exists₂_congr (fun now rows => and_congr_left (fun _ => ?_))
      rw [hsame _ (deciding_consumed t' rows r.jti now)]

/-- A refresh presents a token of a user who was registered when it was decided. -/
theorem granted_user (hK : K.TokenSound) (hb : Batch K base new) (hw : Traces K A sh (new ++ base))
    {body : RefreshRequest} {c : Claims} {n : UInt64} {now : Int64} {rows : ℕ}
    (hnew : new = later ++ ev :: earlier)
    (hev : ran t (.deleteRefreshToken c.jti now) (.ok rows) = ev)
    (hj : .spawned t (.request s api (.refresh body)) ∈ new) (hn : read t n ∈ new)
    (hverify : verifyTokenAt K body.refreshToken api.routes n = .ok c) (hkind : c.kind = .refresh) :
    ∃ u, Registered (earlier ++ base) u ∧ u.id = c.sub := by
  subst hev
  have hsuffix : earlier <:+ new :=
    hnew ▸ (List.suffix_cons _ earlier).trans (List.suffix_append _ _)
  obtain ⟨s', api', req, hj', -, -⟩ := hb.attempts hw hnew
  cases Traced.spawned_unique hw (List.mem_append_left _ hj)
    (List.mem_append_left _ (hsuffix.subset hj'))
  exact (hb.granted hK hw hsuffix hj' hn hverify hkind).2

theorem settled_user (hK : K.TokenSound) (hb : Batch K base new) (hw : Traces K A sh (new ++ base))
    (hnew : new = later ++ ran t q x :: log) (hlog : log = later' ++ ev :: earlier)
    (hpoint : Deciding ev) (ht : ev.task = t) (hstage : (Effect.sql q).stage ≠ 1) :
    ∃ u, Registered (ev :: earlier ++ base) u ∧ ∀ r, q.readsUser r → r.id = u.id := by
  have hnewev : new = (later ++ ran t q x :: later') ++ ev :: earlier := by simp [hnew, hlog]
  have hsub : log ⊆ new := hnew ▸ earlier_subset
  have hdecision : ∀ y ∈ log, Deciding y → y.task = t → y = ev := fun y hy hp htask =>
    Traces.deciding_unique hw (List.mem_append_left _ (hsub hy))
      (List.mem_append_left _ (hsub (hlog ▸ (by simp)))) hp hpoint (htask.trans ht.symm)
  have hbefore : earlier ++ base ⊆ ev :: earlier ++ base := List.subset_cons_self _ _
  obtain ⟨s, api, req, hj, -, ha⟩ := hb.attempts hw hnew
  generalize hpast : history t log = past at ha
  cases ha with
  | insertUser => exact absurd rfl hstage
  | selectByUsername => exact absurd rfl hstage
  | consume => exact absurd rfl hstage
  | revoke => exact absurd rfl hstage
  | @selectById body c n n' rows hverify hkind =>
    have hn : read t n ∈ log := mem_history.1 (by simp [hpast])
    have hc : ran t (.deleteRefreshToken c.jti n'.toInt64) (.ok rows) ∈ log :=
      mem_history.1 (by simp [hpast])
    obtain ⟨u, hu, hid⟩ := hb.granted_user hK hw hnewev (hdecision _ hc rfl rfl) (hsub hj)
      (hsub hn) hverify hkind
    exact ⟨u, hu.mono hbefore, fun r hr => Eq.trans hr hid.symm⟩
  | @store _ h₀ user n n' n₁ n₂ jti jti' tok tok' hacts =>
    have hall : ∀ y ∈ h₀, .performed t y.effect y.answer ∈ log :=
      fun y hy => mem_history.1 (by simp [hpast, refreshPast, accessPast, hy])
    cases hacts with
    | @register body salt hash id m =>
      have hev := hdecision _ (hall _ List.mem_cons_self) rfl rfl
      exact ⟨⟨id, body.username, hash, m.toInt64⟩, ⟨t, hev ▸ List.mem_cons_self⟩, fun r hr => hr⟩
    | login =>
      obtain rfl := hdecision _ (hall _ List.mem_cons_self) rfl rfl
      rw [hnewev, List.append_assoc, List.cons_append] at hw
      obtain ⟨u, hu, -, rfl⟩ := (Traces.found_username hw _).1 rfl
      exact ⟨u, hu.mono hbefore, fun r hr => hr⟩
    | @refresh body c m m' rows _ hverify hkind =>
      have hfound := hall _ List.mem_cons_self
      have hc := hall _ (List.mem_cons_of_mem _ List.mem_cons_self)
      have hn : read t m ∈ log := hall (readClock m) (by simp)
      obtain ⟨u, hu, hid⟩ := hb.granted_user hK hw hnewev (hdecision _ hc rfl rfl) (hsub hj)
        (hsub hn) hverify hkind
      obtain ⟨l, l', hl⟩ := List.append_of_mem (List.mem_append_left base (hsub hfound))
      obtain ⟨u', -, hid', rfl⟩ := (Traces.found_id (hl ▸ hw) _).1 rfl
      exact ⟨u, hu.mono hbefore, fun r hr => Eq.trans hr (hid'.trans hid.symm)⟩

theorem settled_agree (hK : K.TokenSound) (hb : Batch K base new) (hw : Traces K A sh (new ++ base))
    (hnew : new = later ++ ran t q x :: log) (hlog : log = later' ++ ev :: earlier)
    (hpoint : Deciding ev) (ht : ev.task = t) (hstage : (Effect.sql q).stage ≠ 1)
    (horder : ∀ t, t ∈ order ↔ Decided Deciding earlier t) (hnot : t ∉ order)
    (h₀ : Traces K ⊤ sh₀ (log ++ base))
    (h' : Traces K ⊤ sh' (kept (fun t' => t' == t) log ++ serial new order ++ base)) :
    q.Agree sh₀.db sh'.db := by
  have hsub : log ⊆ new := hnew ▸ earlier_subset
  have hearlier : earlier ⊆ log := hlog ▸ earlier_subset
  have hwhole : log ++ base ⊆ new ++ base :=
    fun y hy => List.mem_append.2 ((List.mem_append.1 hy).imp_left (fun h => hsub h))
  have hreplayed : kept (fun t' => t' == t) log ++ serial new order ++ base ⊆ new ++ base := by
    intro y hy
    rw [List.mem_append, List.mem_append, mem_serial] at hy
    rcases hy with (hy | ⟨hy, -⟩) | hy
    · exact List.mem_append_left _ (hsub (kept_subset hy))
    · exact List.mem_append_left _ hy
    · exact List.mem_append_right _ hy
  have hev : ev ∈ log := hlog ▸ (by simp)
  obtain ⟨u, ⟨t₀, hu⟩, hown⟩ := hb.settled_user hK hw hnew hlog hpoint ht hstage
  have hu₀ : Registered (log ++ base) u := by
    rcases List.mem_append.1 hu with hmem | hmem
    · rcases List.mem_cons.1 hmem with heq | hmem
      · exact ⟨t₀, List.mem_append_left _ (heq ▸ hev)⟩
      · exact ⟨t₀, List.mem_append_left _ (hearlier hmem)⟩
    · exact ⟨t₀, List.mem_append_right _ hmem⟩
  have hu' : Registered (kept (fun t' => t' == t) log ++ serial new order ++ base) u := by
    refine ⟨t₀, ?_⟩
    rw [Created, List.mem_append, List.mem_append]
    rcases List.mem_append.1 hu with hmem | hmem
    · rcases List.mem_cons.1 hmem with heq | hmem
      · rw [heq]
        exact .inl (.inl (mem_kept.2 ⟨hev, by simpa using ht⟩))
      · exact .inl (.inr ((serial_deciding hw (fun y hy => hsub (hearlier hy)) horder
          (deciding_created t₀ u)).2 hmem))
    · exact .inr hmem
  obtain ⟨s, api, req, -, -, ha⟩ := hb.attempts hw hnew
  refine ⟨fun r hr => ?_, ?_, fun r hr => absurd hr (ha.not_readsConfig r)⟩
  · rw [h₀.recorded.users, h'.recorded.users]
    have hown' := hown r hr
    constructor
    · intro hreg
      rwa [Traces.registered_id hw (hreg.mono hwhole) (hu₀.mono hwhole) hown']
    · intro hreg
      rwa [Traces.registered_id hw (hreg.mono hreplayed) (hu₀.mono hwhole) hown']
  · generalize history t log = past at ha
    cases ha with
    | insertUser => exact absurd rfl hstage
    | selectByUsername => exact absurd rfl hstage
    | consume => exact absurd rfl hstage
    | revoke => exact absurd rfl hstage
    | selectById => exact fun r hr => hr.elim
    | @store _ h₁ user n n' n₁ n₂ jti jti' tok tok' hacts =>
      intro r hjti
      rw [h₀.recorded.tokens, h'.recorded.tokens]
      have hw' := hw
      rw [hnew, List.append_assoc, List.cons_append] at hw'
      refine iff_of_false (fun hr => ?_) (fun hr => ?_)
      · obtain ⟨t', hins⟩ := hr.inserted
        exact Traces.store_fresh hw' hins hjti
      · obtain ⟨t', hins⟩ := hr.inserted
        have hdrew : drew t r.jti ∈ new ++ base :=
          hwhole ((show r.jti = jti' from hjti) ▸ Traces.store_drew hw')
        obtain rfl : t' = t :=
          Traces.draw_unique hw (Traces.inserted_drew hw (hins.mono hreplayed)) hdrew
        rw [Inserted, List.mem_append, List.mem_append, mem_kept, mem_serial] at hins
        rcases hins with (⟨hins, -⟩ | ⟨-, hins⟩) | hins
        · exact Traces.store_fresh hw' (List.mem_append_left base hins) hjti
        · exact hnot hins
        · exact hb.fresh hw (hsub hev) _ hins ht.symm

/-- A request gets its draws and answers again if its statements do. -/
theorem independent (hb : Batch K base new) (hw : Traces K A sh (new ++ base))
    (hnot : t ∉ order)
    (hagree : ∀ {later log q sh₀ sh'} {x : Except SqlxError q.Answer},
      new = later ++ ran t q x :: log → Traces K ⊤ sh₀ (log ++ base) →
      Traces K ⊤ sh' (kept (fun t' => t' == t) log ++ serial new order ++ base) →
      q.Agree sh₀.db sh'.db) :
    Independent (protocol K) (NoFaults : Assumption (service K)) NoFaults Shared.init
      (fun t' => t' == t) base (serial new order ++ base) (new ++ base) where
  allowed _ _ _ _ h := h
  admitted log t' job hsub _ hadmits := by
    obtain ⟨later, hlater⟩ := hsub
    have hnew : new = later ++ .spawned t' job :: log :=
      (List.append_cancel_right (by simpa using hlater)).symm
    cases job with
    | build b => rfl
    | request s api req =>
      have hbuilt : .replied s (.built (.ok api)) ∈ log ++ base := hasBuilt_iff.1 hadmits
      refine hasBuilt_iff.2 (List.mem_append_right _ (List.mem_append_right _ ?_))
      refine (List.mem_append.1 hbuilt).resolve_left (fun hmem => ?_)
      have hmem' : .replied s (.built (.ok api)) ∈ new := hnew ▸ earlier_subset hmem
      obtain ⟨s', api', req', hj, -⟩ := hb.requested _ hmem'
      cases Traced.replied hw (List.mem_append_left _ hj) (List.mem_append_left _ hmem')
  answered sh₀ sh' log t' e c a sh₁ hsub hkeep h₀ h' hr := by
    obtain rfl : t' = t := by simpa using hkeep
    obtain ⟨later, hlater⟩ := hsub
    have hnew : new = later ++ .performed t' e a :: log :=
      (List.append_cancel_right (by simpa using hlater)).symm
    refine respond_congr hr (fun s he hs => ?_) ?_
    · cases he
      obtain ⟨t'', ht'⟩ := (Traces.drawn_iff h' s).1 hs
      rw [List.mem_append, List.mem_append, mem_kept, mem_serial] at ht'
      rw [hnew, List.append_assoc, List.cons_append] at hw
      rcases ht' with ⟨ht', -⟩ | ⟨ht', hmem⟩ | ht'
      · exact Traces.draw_fresh hw (List.mem_append_left base ht')
      · have hdrew : drew t' s ∈ later ++ drew t' s :: (log ++ base) :=
          List.mem_append_right _ List.mem_cons_self
        have hdrew' := List.mem_append_left base (hnew ▸ ht')
        rw [List.append_assoc, List.cons_append] at hdrew'
        exact hnot (Traces.draw_unique hw hdrew hdrew' ▸ hmem)
      · exact Traces.draw_fresh hw (List.mem_append_right log ht')
    · rintro q rfl
      exact (Stmt.exec_congr (hagree hnew h₀ (by rwa [List.append_assoc]))).symm

theorem decisive (hK : K.TokenSound) (hb : Batch K base new) (hw : Traces K A sh (new ++ base)) :
    Decisive (protocol K) (NoFaults : Assumption (service K)) NoFaults Shared.init base new
      Deciding where
  fresh ev hev := hb.fresh hw hev
  once later ev earlier hnew hpoint := by
    rw [hnew, List.append_assoc, List.cons_append] at hw
    rintro ⟨y, hy, hdecided⟩
    exact Traces.deciding_once hw hpoint ⟨y, List.mem_append_left _ hy, hdecided⟩
  decided later ev earlier hnew hpoint order horder := by
    have hev : ev ∈ new := hnew ▸ (by simp)
    have hw' := hw
    rw [hnew, List.append_assoc, List.cons_append] at hw'
    have hnot : ev.task ∉ order := by
      intro hmem
      obtain ⟨y, hy, hdecided⟩ := (horder _).1 hmem
      exact Traces.deciding_once hw' hpoint ⟨y, List.mem_append_left _ hy, hdecided⟩
    have hsplit : ∀ {l m}, new = l ++ ev :: m → earlier = m := by
      intro l m hm
      have hm' : new ++ base = l ++ ev :: (m ++ base) := by simp [hm]
      have hnew' : new ++ base = later ++ ev :: (earlier ++ base) := by simp [hnew]
      exact List.append_cancel_right (Traces.deciding_split hw hnew' hm' hpoint)
    refine hb.independent hw hnot (fun {l log q sh₀ sh' x} hran h₀ h' => ?_)
    by_cases hstage : (Effect.sql q).stage = 1
    · -- the statement that decides the request
      have heq : ran ev.task q x = ev := Traces.deciding_unique hw
        (List.mem_append_left _ (hran ▸ (by simp))) (List.mem_append_left _ hev) hstage hpoint rfl
      have hlog : earlier = log := hsplit (heq ▸ hran)
      rw [← hlog] at hran h₀ h'
      exact hb.decided_agree hK hw hran hstage horder h₀ h'
    · -- a later one
      obtain ⟨y, hy, hpoint', ht⟩ := hb.decided hw hran hstage
      obtain rfl : y = ev := Traces.deciding_unique hw
        (List.mem_append_left _ (hran ▸ earlier_subset hy)) (List.mem_append_left _ hev)
        hpoint' hpoint ht
      obtain ⟨l', m, hlog⟩ := List.append_of_mem hy
      obtain rfl : earlier = m := hsplit (by rw [hran, hlog, ← List.cons_append, ← List.append_assoc])
      exact hb.settled_agree hK hw hran hlog hpoint rfl hstage horder hnot h₀ h'
  quiet ev hev hquiet order hnot := by
    refine hb.independent hw hnot (fun {later log q sh₀ sh' x} hran _ _ => absurd ?_ hquiet)
    by_cases hstage : (Effect.sql q).stage = 1
    · have hmem : ran ev.task q x ∈ new := hran ▸ (by simp)
      exact ⟨_, hmem, hstage, rfl⟩
    · obtain ⟨y, hy, hdecided⟩ := hb.decided hw hran hstage
      exact ⟨y, hran ▸ earlier_subset hy, hdecided⟩

end Replay
end Batch

/-- Register, login and refresh requests that run interleaved answer, and leave the tables, as if they
had come one whole request after the other in some order, with the same draws and readings. -/
theorem logout_free_serializable (hK : K.TokenSound) {σ₀ σ : Pool (service K)}
    {ls : List (Label (service K))} {new : Trail} (hσ₀ : Reachable K Unrestricted σ₀)
    (hp : Path NoFaults σ₀ ls σ) (hlog : σ.log = new ++ σ₀.log) (hbatch : Batch K σ₀.log new) :
    ∃ (order : List ℕ) (σ' : Pool (service K)), order.Nodup ∧
      (∀ t, t ∈ order ↔ ∃ ev ∈ new, ev.task = t) ∧
      Path NoFaults σ₀ (order.flatMap (fun t => ls.filter (fun l => l.task == t))) σ' ∧
      (∀ t o, .replied t o ∈ σ'.log ↔ .replied t o ∈ σ.log) ∧
      (∀ r, r ∈ σ'.shared.db.users ↔ r ∈ σ.shared.db.users) ∧
      ∀ r, r ∈ σ'.shared.db.refreshTokens ↔ r ∈ σ.shared.db.refreshTokens := by
  have hreach : Reach ⊤ Shared.init σ₀ := hσ₀.mono (fun _ _ _ _ => trivial)
  have hw : Traces K ⊤ σ.shared σ.log :=
    Reachable.traces (hreach.path (hp.mono (fun _ _ _ _ => trivial)))
  have hw₀ := hw
  rw [hlog] at hw₀
  obtain ⟨order, σ', hserial, horder⟩ :=
    (hbatch.decisive hK hw₀).serialize (service_follows K) hreach hp hlog
  have hw' : Traces K ⊤ σ'.shared σ'.log :=
    Reachable.traces (hreach.path (hserial.path.mono (fun _ _ _ _ => trivial)))
  have hsame : ∀ ev, ev ∈ σ'.log ↔ ev ∈ σ.log := fun ev => hserial.mem_log hlog horder
  have hnew : ∀ ev, ev ∈ serial new order ↔ ev ∈ new := fun ev =>
    mem_serial.trans (and_iff_left_of_imp (fun hev => (horder _).2 ⟨ev, hev, rfl⟩))
  refine ⟨order, σ', hserial.nodup, horder, hserial.path, fun t o => hsame _, fun r => ?_,
    fun r => ?_⟩
  · rw [hw.recorded.users, hw'.recorded.users]
    exact exists_congr (fun t => hsame _)
  · have hw₁ := hw'
    rw [hserial.log] at hw₁
    rw [hw.recorded.tokens, hw'.recorded.tokens, hlog, hserial.log,
      Traces.stored_iff hw₀ (fun _ _ _ => hbatch.not_revoked hw₀ _ _),
      Traces.stored_iff hw₁ (fun _ _ _ hmem => hbatch.not_revoked hw₀ _ _ ((hnew _).1 hmem))]
    simp only [Inserted, Consumed, hnew]

open Scenario in
/-- Two refreshes race for one token: also one after the other, the slower is refused. -/
theorem logout_free_serializable_race : ∃ (σ₀ σ' : Pool (service Transparent.crypto)) (ls : Script)
    (order : List ℕ), Reachable Transparent.crypto NoFaults σ₀ ∧
      Path NoFaults σ₀ (order.flatMap (fun t => ls.filter (fun l => l.task == t))) σ' ∧
      order.Nodup ∧ (∀ t, t ∈ order ↔ t = 2 ∨ t = 3) ∧
      .replied 3 (.tokens (.error (.authToken .invalidRefreshToken))) ∈ σ'.log ∧
      row "id" 107 "r2" ∈ σ'.shared.db.refreshTokens := by
  let tok := token (ann 105 "r1")
  obtain ⟨σ₀, σ, hσ₀, hp, hg, htask, hj₂, hj₃, ho, hrow⟩ := Scenario.reach_then NoFaults
    (starting ++ registering 1 "ann" "password" 105 "id" "a1" "r1")
    (requesting 3 (.refresh ⟨tok⟩) ++ answering 3 [.reading 106] ++ consuming 2 tok 106 ++
      answering 3 [.reading 106, .execute] ++ rotating 2 107 "a2" "r2" ++ [.reply 3])
    (fun σ₀ σ =>
      .replied 1 (.tokens (.ok ⟨accessToken "id" "ann" 105 "a1", tok, "Bearer"⟩)) ∈ σ₀.log ∧
      (∀ ev ∈ σ.log.take (σ.log.length - σ₀.log.length), ev.task = 2 ∨ ev.task = 3) ∧
      .spawned 2 (.request 0 Scenario.api (.refresh ⟨tok⟩)) ∈
        σ.log.take (σ.log.length - σ₀.log.length) ∧
      .spawned 3 (.request 0 Scenario.api (.refresh ⟨tok⟩)) ∈
        σ.log.take (σ.log.length - σ₀.log.length) ∧
      .replied 3 (.tokens (.error (.authToken .invalidRefreshToken))) ∈ σ.log ∧
      row "id" 107 "r2" ∈ σ.shared.db.refreshTokens) (by decide +kernel)
  obtain ⟨new, hnew⟩ := hp.log_suffix
  have htake : σ.log.take (σ.log.length - σ₀.log.length) = new := by
    rw [← hnew, List.length_append, Nat.add_sub_cancel, List.take_left]
  rw [htake] at htask hj₂ hj₃
  have hw : Traces Transparent.crypto NoFaults σ.shared σ.log := Reachable.traces (hσ₀.path hp)
  have hspawned : ∀ ev ∈ new, .spawned ev.task (.request 0 Scenario.api (.refresh ⟨tok⟩)) ∈ new := by
    intro ev hev
    rcases htask ev hev with ht | ht
    · rwa [ht]
    · rwa [ht]
  have hbatch : Batch Transparent.crypto σ₀.log new := by
    refine ⟨fun ev hev => ⟨0, _, _, hspawned ev hev, rfl⟩, ?_⟩
    intro later earlier t s api body n c hsplit _ _
    have hj : .spawned t (.request s api (.refresh body)) ∈ new := hsplit ▸ (by simp)
    cases Traced.spawned_unique hw (hnew ▸ List.mem_append_left _ hj)
      (hnew ▸ List.mem_append_left _ (hspawned _ hj))
    exact ⟨1, _, List.mem_append_right _ hg, .inr rfl⟩
  obtain ⟨order, σ', hnodup, horder, hp', hreply, -, htokens⟩ := logout_free_serializable
    Transparent.crypto_tokenSound (hσ₀.mono (fun _ _ _ _ => trivial)) hp hnew.symm hbatch
  refine ⟨σ₀, σ', _, order, hσ₀, hp', hnodup, fun t => ?_, (hreply _ _).2 ho, (htokens _).2 hrow⟩
  rw [horder]
  constructor
  · rintro ⟨ev, hev, rfl⟩
    exact htask ev hev
  · rintro (rfl | rfl)
    · exact ⟨_, hj₂, rfl⟩
    · exact ⟨_, hj₃, rfl⟩

end Servir
