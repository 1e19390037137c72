import Servir.Sessions.SingleUse
import Servir.Sessions.Identity

/-!
# What a logout revokes

The delete of a logout removes the rows that are stored at that moment. A request
in flight may hold a session without a row: it consumed the old row, or signed the
new token, and has not stored a row yet. Such a session survives the logout, and
it is the only kind that does.
-/

namespace Servir
open Interleaving Relation

variable {K : Crypto} {A : Assumption (service K)} {sh : Shared} {log later earlier old : Trail}
  {t rows : ℕ} {userId jti : String}

/-- The tokens of a user issued in the log `old`, and what was rotated out of them by `log`. -/
def Lineage (old log : Trail) (userId jti : String) : Prop :=
  ∃ t c, IssuedRefresh old t c ∧ c.sub = userId ∧ ReflTransGen (Rotates log) c.jti jti

/-- Once a logout was answered OK, no later refresh consumes a token of the user that its token
names, if that token was issued before the logout began or rotated out of such a token. -/
def LogoutRevokes (K : Crypto) (log : Trail) : Prop :=
  ∀ later mid old t s api body c jti,
    log = later ++ .replied t (.loggedOut (.ok ())) :: mid ++
      .spawned t (.request s api (.logout body)) :: old →
    K.openToken api.routes.secret body.refreshToken = .ok c → Lineage old log c.sub jti →
    ∀ t' s' api' body', .spawned t' (.request s' api' (.refresh body')) ∈ later →
      ¬ Consumed log t' jti

/-- A request in flight holds a session of the user without a row: it issued a token in the log
`old`, or consumed a token of the lineage, and has not stored a token. -/
def Holds (old log : Trail) (userId : String) (t : ℕ) : Prop :=
  (∃ job, Open log t job) ∧ (∀ r, ¬ Inserted log t r) ∧
    ((∃ c, IssuedRefresh old t c ∧ c.sub = userId) ∨
      ∃ jti, Lineage old log userId jti ∧ Consumed log t jti)

/-- When the delete of a logout is executed, no request in flight holds a session that is older
than the logout. -/
def NothingHeld : Assumption (service K) := fun _ log ev =>
  ∀ t userId rows mid s api body old,
    ev = ran t (.deleteRefreshTokensForUser userId) (.ok rows) →
    log = mid ++ .spawned t (.request s api (.logout body)) :: old →
    ∀ t', ¬ Holds old log userId t'

theorem IssuedRefresh.mono {c : Claims} (h : IssuedRefresh earlier t c) (hsub : earlier ⊆ log) :
    IssuedRefresh log t c := by
  obtain ⟨hkind, secret, tok, hmem⟩ := h
  exact ⟨hkind, secret, tok, hsub hmem⟩

theorem IssuedRefresh.signed {c : Claims} (h : IssuedRefresh log t c) :
    ∃ secret tok, Signed log secret tok c := by
  obtain ⟨-, secret, tok, hmem⟩ := h
  exact ⟨secret, tok, t, hmem⟩

namespace Traces

theorem issuedRefresh_jti (h : Traces K A sh log) {t' : ℕ} {c c' : Claims}
    (hc : IssuedRefresh log t c) (hc' : IssuedRefresh log t' c') (hjti : c.jti = c'.jti) :
    t = t' ∧ c = c' := by
  obtain ⟨hkind, _, _, hmem⟩ := hc
  obtain ⟨hkind', _, _, hmem'⟩ := hc'
  exact refresh_signed_jti h hmem hmem' hkind hkind' hjti

theorem inserted_issued (h : Traces K A sh log) {r : RefreshTokenRow} (hr : Inserted log t r) :
    ∃ c, IssuedRefresh log t c ∧ c.jti = r.jti ∧ c.sub = r.userId := by
  obtain ⟨secret, c, tok, hmem, hkind, hjti, hsub⟩ := inserted_signed h hr
  exact ⟨c, ⟨hkind, secret, tok, hmem⟩, hjti, hsub⟩

theorem lineage_user (hA : A ≤ Unforged) (h : Traces K A sh log) (hold : old ⊆ log)
    (hl : Lineage old log userId jti) : ∃ t c, IssuedRefresh log t c ∧ c.jti = jti ∧ c.sub = userId := by
  obtain ⟨t₀, c₀, hc₀, hsub₀, hrot⟩ := hl
  induction hrot with
  | refl => exact ⟨t₀, c₀, hc₀.mono hold, rfl, hsub₀⟩
  | tail _ hstep ih =>
    obtain ⟨t₁, c₁, hc₁, hjti₁, hsub₁⟩ := ih
    obtain ⟨t₂, c₂, hcons, hc₂, hjti₂⟩ := hstep
    refine ⟨t₂, c₂, hc₂, hjti₂, ?_⟩
    obtain ⟨s, api, body, c, hj, hopen, hkind, hjti⟩ := consumed_request h hcons
    obtain ⟨t₃, hmem⟩ := genuine hA h hj rfl hopen
    obtain ⟨-, rfl⟩ := issuedRefresh_jti h hc₁ ⟨hkind, _, _, hmem⟩ (hjti₁.trans hjti.symm)
    obtain ⟨-, secret, tok, hmem₂⟩ := hc₂
    exact (refresh_signs_user hA h hj hopen hmem₂).1.trans hsub₁

section Delete
variable {ev : Happening}

/-- At the delete, every token of the lineage has had all its life: it will not be stored or
consumed any more. -/
private structure Settled (old earlier log : Trail) (userId jti : String) : Prop where
  inserted : ∀ {t r}, Inserted log t r → r.jti = jti → Inserted earlier t r
  consumed : ∀ {t}, Consumed log t jti → Consumed earlier t jti
  lineage : ∀ {t r}, Inserted earlier t r → r.jti = jti → Lineage old earlier userId jti

private theorem not_stored_deleted (hA : A ≤ Unforged) (hold : old ⊆ earlier)
    (hev : ev = ran t (.deleteRefreshTokensForUser userId) (.ok rows))
    (h : Traces K A sh (later ++ ev :: earlier)) {log' : Trail}
    (hlog' : log' <:+ later) {t' : ℕ} {r : RefreshTokenRow}
    (hl : Lineage old (later ++ ev :: earlier) userId r.jti) (hr : Inserted earlier t' r) :
    ¬ Stored (log' ++ ev :: earlier) r := by
  obtain ⟨t₀, c, hc, hjti, hsub⟩ := lineage_user hA h (List.Subset.trans hold earlier_subset) hl
  obtain ⟨c', hc', hjti', hsub'⟩ := inserted_issued h (hr.mono earlier_subset)
  obtain ⟨-, rfl⟩ := issuedRefresh_jti h hc hc' (hjti.trans hjti'.symm)
  have hgone : ¬ Stored (ev :: earlier) r :=
    not_stored_removed (.inr ⟨t, rows, by rw [hev, ← hsub', hsub]⟩)
  obtain ⟨pre, rfl⟩ := hlog'
  obtain ⟨sh', h'⟩ : ∃ sh', Traces K A sh' (log' ++ ev :: earlier) :=
    Traced.of_suffix h ⟨pre, by simp⟩
  exact stays_removed h' (List.mem_cons_of_mem _ hr) hgone rfl

/-- What is stored after the delete is stored by a request that was in flight without a row. -/
private theorem late_insertion (hev : ev = ran t (.deleteRefreshTokensForUser userId) (.ok rows))
    (h : Traces K A sh (later ++ ev :: earlier)) {t' : ℕ} {job : Job} {r : RefreshTokenRow}
    (hr : Inserted (later ++ ev :: earlier) t' r) (hnot : ¬ Inserted earlier t' r)
    (hj : .spawned t' job ∈ earlier) :
    Open earlier t' job ∧ ∀ r', ¬ Inserted earlier t' r' := by
  have hlate : insertion t' r ∈ later := by
    rcases List.mem_append.1 hr with hl | he
    · exact hl
    · rcases List.mem_cons.1 he with he | he
      · rw [hev] at he
        cases he
      · exact absurd he hnot
  obtain ⟨l, m, rfl⟩ := List.append_of_mem hlate
  have h' : Traces K A sh (l ++ insertion t' r :: (m ++ ev :: earlier)) := by simpa using h
  obtain ⟨job', ho⟩ := Traced.open_at h'
  obtain ⟨sh₁, h₁⟩ : ∃ sh₁, Traces K A sh₁ (m ++ ev :: earlier) :=
    Traced.of_suffix h' ⟨l ++ [insertion t' r], by simp⟩
  obtain rfl := Traced.spawned_unique h₁ ho.spawned
    (List.mem_append_right _ (List.mem_cons_of_mem _ hj))
  rw [← List.singleton_append, ← List.append_assoc] at ho
  refine ⟨ho.of_append hj, fun r' hr' => ?_⟩
  have hbelow : insertion t' r' ∈ m ++ ev :: earlier := earlier_subset hr'
  exact absurd (stage_lt h' (by simp [Effect.stage]) hbelow) (by simp [Effect.stage])

/-- The row of an issued token was stored before the delete, unless its task was in flight without a
row. -/
private theorem inserted_early (hev : ev = ran t (.deleteRefreshTokensForUser userId) (.ok rows))
    (h : Traces K A sh (later ++ ev :: earlier)) {t₁ : ℕ} {c₁ : Claims} {job : Job}
    (hc₁ : IssuedRefresh (later ++ ev :: earlier) t₁ c₁) (hj : .spawned t₁ job ∈ earlier)
    (hflight : (∃ job, Open earlier t₁ job) → ¬ ∀ r, ¬ Inserted earlier t₁ r) {t' : ℕ}
    {r : RefreshTokenRow} (hr : Inserted (later ++ ev :: earlier) t' r) (hjti : r.jti = c₁.jti) :
    Inserted earlier t' r := by
  by_contra hnot
  obtain ⟨c, hc, hcj, -⟩ := inserted_issued h hr
  obtain ⟨rfl, -⟩ := issuedRefresh_jti h hc hc₁ (hcj.trans hjti)
  obtain ⟨ho, hnone⟩ := late_insertion hev h hr hnot hj
  exact hflight ⟨job, ho⟩ hnone

private theorem consumed_before (hA : A ≤ Unforged) (hold : old ⊆ earlier)
    (hev : ev = ran t (.deleteRefreshTokensForUser userId) (.ok rows))
    (h : Traces K A sh (later ++ ev :: earlier))
    (hl : Lineage old (later ++ ev :: earlier) userId jti)
    (hins : ∀ {t r}, Inserted (later ++ ev :: earlier) t r → r.jti = jti → Inserted earlier t r)
    {t' : ℕ} (hc : Consumed (later ++ ev :: earlier) t' jti) : Consumed earlier t' jti := by
  obtain ⟨now, n, hmem, hn⟩ := hc
  rcases List.mem_append.1 hmem with hlate | he
  · obtain ⟨l, m, rfl⟩ := List.append_of_mem hlate
    have h' : Traces K A sh (l ++ ran t' (.deleteRefreshToken jti now) (.ok n) ::
        (m ++ ev :: earlier)) := by simpa using h
    obtain ⟨r, hr, rfl, -⟩ := (consumed_iff h').1 hn
    obtain ⟨t₀, ht₀⟩ := hr.inserted
    have hsub : m ++ ev :: earlier ⊆ l ++ ran t' (.deleteRefreshToken r.jti now) (.ok n) :: m ++
        ev :: earlier := by simp
    have hfirst := hins (ht₀.mono hsub) rfl
    exact absurd hr (not_stored_deleted hA hold hev h
      ⟨l ++ [ran t' (.deleteRefreshToken r.jti now) (.ok n)], by simp⟩ hl hfirst)
  · rcases List.mem_cons.1 he with he | he
    · rw [hev] at he
      cases he
    · exact ⟨now, n, he, hn⟩

private theorem lineage_settled (hA : A ≤ Unforged) (hold : old ⊆ earlier)
    (hev : ev = ran t (.deleteRefreshTokensForUser userId) (.ok rows))
    (h : Traces K A sh (later ++ ev :: earlier)) (hquiet : ∀ t', ¬ Holds old earlier userId t')
    (hl : Lineage old (later ++ ev :: earlier) userId jti) :
    Settled old earlier (later ++ ev :: earlier) userId jti := by
  obtain ⟨sh₁, h₁⟩ : ∃ sh₁, Traces K A sh₁ earlier := Traced.of_suffix h ⟨later ++ [ev], by simp⟩
  obtain ⟨t₀, c₀, hc₀, hsub₀, hrot⟩ := hl
  induction hrot with
  | refl =>
    obtain ⟨-, secret, tok, hmem⟩ := id hc₀
    obtain ⟨job, hj⟩ := Traced.open_of_event h₁ (hold hmem)
    have hins : ∀ {t' r}, Inserted (later ++ ev :: earlier) t' r → r.jti = c₀.jti →
        Inserted earlier t' r :=
      inserted_early hev h (hc₀.mono (List.Subset.trans hold earlier_subset)) hj
        (fun ho hnone => hquiet t₀ ⟨ho, hnone, .inl ⟨c₀, hc₀, hsub₀⟩⟩)
    exact ⟨hins, consumed_before hA hold hev h ⟨t₀, c₀, hc₀, hsub₀, .refl⟩ hins,
      fun _ _ => ⟨t₀, c₀, hc₀, hsub₀, .refl⟩⟩
  | @tail j jti hrot hstep ih =>
    obtain ⟨t₂, c₂, hcons, hc₂, hjti₂⟩ := id hstep
    have hcons₁ := ih.consumed hcons
    obtain ⟨l, m, now, n, r₀, hlog, hr₀, hjti₀, -⟩ := consumed_row h₁ hcons₁
    obtain ⟨t₁, ht₁⟩ := hr₀.inserted
    have hl₁ := ih.lineage (ht₁.mono (hlog ▸ earlier_subset)) hjti₀
    obtain ⟨now', n', hmem, -⟩ := id hcons₁
    obtain ⟨job, hj⟩ := Traced.open_of_event h₁ hmem
    have hins : ∀ {t' r}, Inserted (later ++ ev :: earlier) t' r → r.jti = jti →
        Inserted earlier t' r := by
      intro t' r hr hjti
      apply inserted_early hev h hc₂ hj _ hr (hjti.trans hjti₂.symm)
      exact fun ho hnone => hquiet t₂ ⟨ho, hnone, .inr ⟨j, hl₁, hcons₁⟩⟩
    refine ⟨hins, consumed_before hA hold hev h ⟨t₀, c₀, hc₀, hsub₀, hrot.tail hstep⟩ hins, ?_⟩
    intro t' r hr hjti
    obtain ⟨c, hc, hcj, -⟩ := inserted_issued h₁ hr
    obtain ⟨rfl, rfl⟩ := issuedRefresh_jti h (hc.mono earlier_subset) hc₂
      ((hcj.trans hjti).trans hjti₂.symm)
    obtain ⟨t₃, c₃, hc₃, hsub₃, hrot₃⟩ := hl₁
    exact ⟨t₃, c₃, hc₃, hsub₃, hrot₃.tail ⟨t', c, hcons₁, hc, hjti₂⟩⟩

end Delete

/-- A logout that is answered OK deletes between its start and its answer. -/
theorem revoked_meanwhile {mid : Trail} {s : ℕ} {api : Api} {body : LogoutRequest} {c : Claims}
    (h : Traces K A sh (later ++ .replied t (.loggedOut (.ok ())) :: mid ++
      .spawned t (.request s api (.logout body)) :: old))
    (hopen : K.openToken api.routes.secret body.refreshToken = .ok c) :
    ∃ rows, ran t (.deleteRefreshTokensForUser c.sub) (.ok rows) ∈ mid := by
  rw [List.append_assoc, List.cons_append] at h
  obtain ⟨sh₁, h₁⟩ : ∃ sh₁, Traces K A sh₁ (.replied t (.loggedOut (.ok ())) ::
      (mid ++ .spawned t (.request s api (.logout body)) :: old)) :=
    Traced.of_suffix h (List.suffix_append _ _)
  have hj : .spawned t (.request s api (.logout body)) ∈ Event.replied t
      (.loggedOut (.ok ())) :: (mid ++ .spawned t (.request s api (.logout body)) :: old) := by simp
  obtain ⟨c', rows, hopen', -, hran⟩ := logged_out h₁ hj List.mem_cons_self
  rw [hopen'] at hopen
  cases hopen
  rw [← List.cons_append] at h₁ hran
  rcases List.mem_append.1 hran with hmid | hold
  · exact ⟨rows, by simpa using hmid⟩
  · have hold' : ran t (.deleteRefreshTokensForUser c.sub) (.ok rows) ∈ old := by simpa using hold
    exact absurd rfl ((Traced.admitted h₁).2 _ hold')

end Traces

/-- Logout revokes in every run in which no delete of a logout meets a held session. -/
theorem logout_revokes {σ : Pool (service K)} (h : Reachable K (Unforged ⊓ NothingHeld) σ) :
    LogoutRevokes K σ.log := by
  intro later mid old t s api body c jti hlog hopen hl t' s' api' body' hj hc
  have ht := h.traces
  obtain ⟨rows, hdel⟩ := Traces.revoked_meanwhile (hlog ▸ ht) hopen
  obtain ⟨m₂, m₁, rfl⟩ := List.append_of_mem hdel
  have hsplit : σ.log = (later ++ .replied t (.loggedOut (.ok ())) :: m₂) ++
      ran t (.deleteRefreshTokensForUser c.sub) (.ok rows) ::
        (m₁ ++ .spawned t (.request s api (.logout body)) :: old) := by simp [hlog]
  rw [hsplit] at ht hl hc
  obtain ⟨sh₀, -, -, hnone⟩ := ht.assumed le_rfl
  have hquiet := hnone t c.sub rows m₁ s api body old rfl rfl
  have hsettled := Traces.lineage_settled inf_le_left earlier_subset rfl ht hquiet hl
  obtain ⟨now, n, hmem, -⟩ := hsettled.consumed hc
  obtain ⟨l, m, rfl⟩ := List.append_of_mem hj
  rw [List.append_assoc, List.append_assoc, List.cons_append] at ht
  exact (Traced.admitted ht).2 _
    (List.mem_append_right _ (List.mem_append_right _ (List.mem_cons_of_mem _ hmem))) rfl

def hasReplied (log : Trail) (t : ℕ) : Bool := log.any (fun ev => match ev with
  | .replied t' _ => t' == t
  | _ => false)

theorem hasReplied_iff : hasReplied log t = true ↔ ∃ o, .replied t o ∈ log := by
  simp only [hasReplied, List.any_eq_true]
  constructor
  · rintro ⟨ev, hmem, hev⟩
    split at hev
    · rw [beq_iff_eq] at hev
      subst hev
      exact ⟨_, hmem⟩
    · cases hev
  · rintro ⟨o, hmem⟩
    exact ⟨_, hmem, by simp⟩

/-- A check for `NothingHeld`: whoever signed or consumed a token has replied. -/
def isQuiet (log : Trail) : Happening → Bool
  | .performed _ (.sql (.deleteRefreshTokensForUser _)) _ => log.all (fun ev => match ev with
    | .performed t (.encode ..) _ => hasReplied log t
    | .performed t (.sql (.deleteRefreshToken ..)) _ => hasReplied log t
    | _ => true)
  | _ => true

theorem nothingHeld_of_isQuiet {sh : (service K).Shared} {ev : Happening}
    (h : isQuiet log ev = true) : NothingHeld sh log ev := by
  rintro t userId rows mid s api body old rfl hlog t' ⟨⟨job, ho⟩, -, hheld⟩
  have hall := List.all_eq_true.1 h
  suffices hrep : hasReplied log t' = true by
    obtain ⟨o, hmem⟩ := hasReplied_iff.1 hrep
    exact ho.not_replied o hmem
  obtain ⟨c, ⟨-, secret, tok, hmem⟩, -⟩ | ⟨jti, -, now, n, hmem, -⟩ := hheld
  · exact hall (encoded t' secret c (.ok tok)) (hlog ▸ earlier_subset hmem)
  · exact hall (ran t' (.deleteRefreshToken jti now) (.ok n)) hmem

open Scenario in
/-- A logout while another login of the user is in flight: the login is answered OK, and the token
that was revoked is refused. -/
theorem logout_revokes_meanwhile : ∃ σ : Pool (service Transparent.crypto),
    Reachable Transparent.crypto (Unforged ⊓ NothingHeld) σ ∧
    .replied 2 (.loggedOut (.ok ())) ∈ σ.log ∧
    .replied 3 (.tokens (.error (.authToken .invalidRefreshToken))) ∈ σ.log ∧
    (∃ resp, .replied 4 (.tokens (.ok resp)) ∈ σ.log) ∧
    LogoutRevokes Transparent.crypto σ.log := by
  let r1 := ann 105 "r1"
  obtain ⟨σ, hσ, hout, hrefused, hlogin⟩ := Scenario.reach
    (Unforged ⊓ fun _ log ev => isQuiet log ev = true)
    (starting ++ registering 1 "ann" "password" 105 "id" "a1" "r1" ++
      requesting 4 (.login ⟨"ann", "password"⟩) ++ answering 4 [.execute] ++
      loggingOut 2 (token r1) 106 ++ issuing 4 107 "b1" "q1" ++ [.reply 4] ++
      consuming 3 (token r1) 108 ++ [.reply 3])
    (fun σ => .replied 2 (.loggedOut (.ok ())) ∈ σ.log ∧
      .replied 3 (.tokens (.error (.authToken .invalidRefreshToken))) ∈ σ.log ∧
      .replied 4 (.tokens (.ok ⟨accessToken "id" "ann" 107 "b1", token (ann 107 "q1"), "Bearer"⟩)) ∈
        σ.log) (by decide +kernel)
  have hσ' : Reachable Transparent.crypto (Unforged ⊓ NothingHeld) σ :=
    hσ.mono (fun _ _ _ hA => ⟨hA.1, nothingHeld_of_isQuiet hA.2⟩)
  exact ⟨σ, hσ', hout, hrefused, ⟨_, hlogin⟩, logout_revokes hσ'⟩

open Scenario in
/-- A refresh in flight carries an old session over a logout: `r1` is consumed, the logout
deletes all rows, then `r2` is stored, and a later refresh that presents `r2` is answered OK. -/
theorem logout_revokes_not_always : ∃ σ : Pool (service Transparent.crypto),
    Reachable Transparent.crypto (NoFaults ⊓ Monotone ⊓ Unforged) σ ∧
    (∃ resp, .replied 5 (.tokens (.ok resp)) ∈ σ.log) ∧ ¬ LogoutRevokes Transparent.crypto σ.log := by
  let r1 := ann 105 "r1"
  let q1 := ann 106 "q1"
  let r2 := ann 109 "r2"
  let r3 := ann 109 "r3"
  let logout : Happening := .spawned 4 (.request 0 api (.logout ⟨token q1⟩))
  obtain ⟨σ, hσ, hlog, hr1, hcons, hr2, hj, hcons', hr3⟩ :=
    Scenario.reach (NoFaults ⊓ Monotone ⊓ Unforged)
    (starting ++ registering 1 "ann" "password" 105 "id" "a1" "r1" ++
      loggingIn 2 "ann" "password" 106 "b1" "q1" ++ consuming 3 (token r1) 107 ++
      loggingOut 4 (token q1) 108 ++ rotating 3 109 "a2" "r2" ++ consuming 5 (token r2) 109 ++
      rotating 5 109 "a3" "r3")
    (fun σ => σ.log = σ.log.take 26 ++ .replied 4 (.loggedOut (.ok ())) ::
          (σ.log.drop 27).take 2 ++ logout :: σ.log.drop 30 ∧
      encoded 1 secret r1 (.ok (token r1)) ∈ σ.log.drop 30 ∧
      ran 3 (.deleteRefreshToken "r1" 107) (.ok 1) ∈ σ.log ∧
      encoded 3 secret r2 (.ok (token r2)) ∈ σ.log ∧
      .spawned 5 (.request 0 api (.refresh ⟨token r2⟩)) ∈ σ.log.take 26 ∧
      ran 5 (.deleteRefreshToken "r2" 109) (.ok 1) ∈ σ.log ∧
      .replied 5 (.tokens (.ok ⟨accessToken "id" "ann" 109 "a3", token r3, "Bearer"⟩)) ∈ σ.log)
    (by decide +kernel)
  refine ⟨σ, hσ, ⟨_, hr3⟩, fun hrevokes => ?_⟩
  have hrot : Rotates σ.log "r1" "r2" :=
    ⟨3, r2, ⟨107, 1, hcons, Nat.one_pos⟩, ⟨rfl, secret, _, hr2⟩, rfl⟩
  exact hrevokes _ _ _ 4 0 api _ q1 "r2" hlog (Transparent.crypto_tokenSound.open_encode rfl)
    ⟨1, r1, ⟨rfl, secret, _, hr1⟩, rfl, .single hrot⟩ 5 0 api _ hj ⟨109, 1, hcons', Nat.one_pos⟩

end Servir
