import Servir.Sessions.Logout

/-!
# Every session was opened

A stored row belongs to one session, and the session to a register or login of the
user of the row. A session has one row at most, so refreshing multiplies no session:
a user never has more rows than registers and logins that stored one.
-/

namespace Servir
open Interleaving Relation

/-- Where each element has at most one predecessor, a chain has one beginning. -/
theorem root_unique {α : Type} {r : α → α → Prop} {a b c : α} (hr : Relator.LeftUnique r)
    (ha : ∀ x, ¬ r x a) (hb : ∀ x, ¬ r x b) (hac : ReflTransGen r a c) (hbc : ReflTransGen r b c) :
    a = b := by
  have hswap : Relator.RightUnique (Function.swap r) := fun x y z hxy hxz => hr hxy hxz
  obtain h | h := ReflTransGen.total_of_right_unique hswap (reflTransGen_swap.2 hac)
    (reflTransGen_swap.2 hbc)
  · obtain rfl | ⟨x, hx, -⟩ := ReflTransGen.cases_head h
    · rfl
    · exact absurd hx (ha x)
  · obtain rfl | ⟨x, hx, -⟩ := ReflTransGen.cases_head h
    · rfl
    · exact absurd hx (hb x)

variable {K : Crypto} {A : Assumption (service K)} {sh : Shared} {log earlier : Trail}
  {t root : ℕ} {r : RefreshTokenRow}

/-- Task `t` is a register that committed `u`, or a login with the password of `u`. -/
def SignsIn (K : Crypto) (log : Trail) (t : ℕ) (u : UserRow) : Prop :=
  (∃ s api body, .spawned t (.request s api (.register body)) ∈ log ∧ Created log t u) ∨
    ∃ s api body, .spawned t (.request s api (.login body)) ∈ log ∧ Registered log u ∧
      u.username = body.username ∧ verifyPassword K body.password u.passwordHash = .ok true

/-- The session of the row was opened by the sign-in `root` of its user, with a row of its own. -/
structure Opened (K : Crypto) (log : Trail) (r : RefreshTokenRow) (root : ℕ) : Prop where
  session : Session log root r.jti
  signed_in : ∃ u, SignsIn K log root u ∧ u.id = r.userId
  first : ∃ r₀, Inserted log root r₀ ∧ r₀.userId = r.userId

theorem Rotates.mono {jti jti' : String} (h : Rotates earlier jti jti') (hsub : earlier ⊆ log) :
    Rotates log jti jti' := by
  obtain ⟨t, c, hc, hissued, hjti⟩ := h
  exact ⟨t, c, hc.mono hsub, hissued.mono hsub, hjti⟩

theorem Session.mono {jti : String} (h : Session earlier root jti) (hsub : earlier ⊆ log) :
    Session log root jti := by
  obtain ⟨s, api, req, c, hj, hopens, hissued, hchain⟩ := h
  refine ⟨s, api, req, c, hsub hj, hopens, hissued.mono hsub, ?_⟩
  exact ReflTransGen.mono (fun _ _ hr => Rotates.mono hr hsub) _ _ hchain

theorem SignsIn.mono {u : UserRow} (h : SignsIn K earlier t u) (hsub : earlier ⊆ log) :
    SignsIn K log t u := by
  obtain ⟨s, api, body, hj, hu⟩ | ⟨s, api, body, hj, hu, hname, hverify⟩ := h
  · exact .inl ⟨s, api, body, hsub hj, hu.mono hsub⟩
  · exact .inr ⟨s, api, body, hsub hj, hu.mono hsub, hname, hverify⟩

theorem Opened.mono (h : Opened K earlier r root) (hsub : earlier ⊆ log) : Opened K log r root where
  session := h.session.mono hsub
  signed_in := h.signed_in.imp (fun _ hu => ⟨hu.1.mono hsub, hu.2⟩)
  first := h.first.imp (fun _ hr => ⟨hr.1.mono hsub, hr.2⟩)

namespace Traces

theorem opened_here (h : Traces K A sh log) {s : ℕ} {api : Api} {req : Request} {u : UserRow}
    (hj : .spawned t (.request s api req) ∈ log) (hopens : req.opensSession = true)
    (hr : Inserted log t r) (hu : SignsIn K log t u) (hid : u.id = r.userId) :
    Opened K log r t := by
  obtain ⟨secret, c, tok, hmem, hkind, hjti, -⟩ := inserted_signed h hr
  refine ⟨⟨s, api, req, c, hj, hopens, ⟨hkind, secret, tok, hmem⟩, ?_⟩, ⟨u, hu, hid⟩, r, hr, rfl⟩
  rw [hjti]

theorem opened_onward (h : Traces K A sh log) {r₀ : RefreshTokenRow} (ho : Opened K log r₀ root)
    (hc : Consumed log t r₀.jti) (hr : Inserted log t r) (huser : r.userId = r₀.userId) :
    Opened K log r root := by
  obtain ⟨secret, c, tok, hmem, hkind, hjti, -⟩ := inserted_signed h hr
  obtain ⟨s, api, req, c₀, hj, hopens, hissued, hchain⟩ := ho.session
  refine ⟨⟨s, api, req, c₀, hj, hopens, hissued, hchain.tail ?_⟩, ?_, ?_⟩
  · exact ⟨t, c, hc, ⟨hkind, secret, tok, hmem⟩, hjti⟩
  · simpa only [huser] using ho.signed_in
  · simpa only [huser] using ho.first

private theorem opened_insertion (hA : A ≤ Unforged) (h : Traces K A sh (insertion t r :: log))
    (ih : ∀ t' r', Inserted log t' r' → ∃ root, Opened K log r' root) :
    ∃ root, Opened K (insertion t r :: log) r root := by
  have hins : Inserted (insertion t r :: log) t r := List.mem_cons_self
  have hsub : log ⊆ insertion t r :: log := List.subset_cons_self _ _
  have hwhole := h
  rw [← List.nil_append (_ :: _)] at h
  obtain ⟨sh₀, -, h₀, -⟩ := responds h
  obtain ⟨s, api, req, past, user, n, n', n₁, n₂, jti₀, tok, tok', hj, hacts, huser, -, -, hpast⟩ :=
    storing h
  have hmem : ∀ x ∈ past, x ∈ history t log := by
    intro x hx
    simp [hpast, refreshPast, accessPast, hx]
  cases hacts with
  | @register body salt hash id n hname hlong hhash =>
    have hu : Created log t ⟨id, body.username, hash, n.toInt64⟩ :=
      mem_history.1 (hmem _ List.mem_cons_self)
    have hsigns : SignsIn K log t ⟨id, body.username, hash, n.toInt64⟩ :=
      .inl ⟨s, api, body, hj, hu⟩
    exact ⟨t, opened_here hwhole (hsub hj) rfl hins (hsigns.mono hsub) huser.symm⟩
  | @login body user hverify =>
    obtain ⟨l, m, rfl⟩ := List.append_of_mem (mem_history.1 (hmem _ List.mem_cons_self))
    obtain ⟨u, hu, hname, rfl⟩ := (found_username h₀ _).1 rfl
    have hsigns := SignsIn.mono (.inr ⟨s, api, body, hj, hu.mono earlier_subset, hname, hverify⟩)
      hsub
    exact ⟨t, opened_here hwhole (hsub hj) rfl hins hsigns huser.symm⟩
  | @refresh body c m m' rows user hverify hkind hrows =>
    have hconsumed : Consumed log t c.jti := by
      refine ⟨m'.toInt64, rows, mem_history.1 (hmem _ ?_), hrows⟩
      exact List.mem_cons_of_mem _ List.mem_cons_self
    have hopen := (verifyTokenAt_ok.1 hverify).1
    obtain ⟨later, earlier, now, rows', r₀, hlog, hr₀, hjti, -⟩ := consumed_row h₀ hconsumed
    obtain ⟨t₀, hins₀⟩ := hr₀.inserted
    have hins₀' : Inserted log t₀ r₀ := hlog ▸ hins₀.mono earlier_subset
    obtain ⟨root, ho⟩ := ih t₀ r₀ hins₀'
    have hsame : user.id = c.sub :=
      (refresh_user hA h₀ hj (.refresh hverify hkind hrows) hmem hopen).1
    have hrow : r₀.userId = c.sub := row_user h₀ (genuine hA h₀ hj rfl hopen) hkind hins₀' hjti
    refine ⟨root, opened_onward hwhole (ho.mono hsub) (hjti ▸ hconsumed.mono hsub) hins ?_⟩
    exact (huser.trans hsame).trans hrow.symm

/-- Every row that was ever stored has its session. -/
theorem opened (hA : A ≤ Unforged) (h : Traces K A sh log) (hr : Inserted log t r) :
    ∃ root, Opened K log r root := by
  induction log generalizing sh t r with
  | nil => cases hr
  | cons ev log ih =>
    obtain ⟨sh₀, h₀⟩ : ∃ sh₀, Traces K A sh₀ log := by
      rw [← List.singleton_append] at h
      exact Traced.before h
    have hbefore : ∀ t' r', Inserted log t' r' → ∃ root, Opened K log r' root :=
      fun t' r' hr' => ih h₀ hr'
    rcases List.mem_cons.1 hr with rfl | hr
    · exact opened_insertion hA h hbefore
    · exact (hbefore t r hr).imp (fun _ ho => ho.mono (List.subset_cons_self _ _))

end Traces

namespace Traces

theorem consumed_jti (h : Traces K A sh log) {jti jti' : String} (hc : Consumed log t jti)
    (hc' : Consumed log t jti') : jti = jti' := by
  obtain ⟨now, rows, hmem, -⟩ := hc
  obtain ⟨now', rows', hmem', -⟩ := hc'
  have he := stage_unique h hmem hmem' (by simp [Effect.stage]) rfl
  cases he
  rfl

theorem rotates_leftUnique (h : Traces K A sh log) : Relator.LeftUnique (Rotates log) := by
  rintro jti₁ jti jti₂ ⟨t, c, hc, hissued, hjti⟩ ⟨t', c', hc', hissued', hjti'⟩
  obtain rfl := (issuedRefresh_jti h hissued hissued' (hjti.trans hjti'.symm)).1
  exact consumed_jti h hc hc'

theorem root_first (h : Traces K A sh log) {s : ℕ} {api : Api} {req : Request} {c : Claims}
    (hj : .spawned root (.request s api req) ∈ log) (hopens : req.opensSession = true)
    (hissued : IssuedRefresh log root c) (jti : String) : ¬ Rotates log jti c.jti := by
  rintro ⟨t, c', hc, hissued', hjti⟩
  obtain rfl := (issuedRefresh_jti h hissued' hissued hjti).1
  obtain ⟨s', api', body, -, hj', -⟩ := consumed_request h hc
  cases Traced.spawned_unique h hj hj'
  cases hopens

theorem session_unique (h : Traces K A sh log) {root' : ℕ} {jti : String}
    (hs : Session log root jti) (hs' : Session log root' jti) : root = root' := by
  obtain ⟨s, api, req, c, hj, hopens, hissued, hchain⟩ := hs
  obtain ⟨s', api', req', c', hj', hopens', hissued', hchain'⟩ := hs'
  refine (issuedRefresh_jti h hissued hissued' ?_).1
  apply root_unique (rotates_leftUnique h) _ _ hchain hchain'
  · exact root_first h hj hopens hissued
  · exact root_first h hj' hopens' hissued'

end Traces

/-- The task that the event stores a row of the user for. -/
def storesFor (userId : String) : Happening → Option ℕ
  | .performed t (.sql (.insertRefreshToken _ userId' _ _)) (.ok _) =>
    if userId' = userId then some t else none
  | _ => none

def opensSession (t : ℕ) : Happening → Bool
  | .spawned t' (.request _ _ req) => t' == t && req.opensSession
  | _ => false

/-- The registers and logins that stored a row of the user. -/
def signIns (log : Trail) (userId : String) : Finset ℕ :=
  (log.filterMap (storesFor userId)).toFinset.filter (fun t => log.any (opensSession t) = true)

theorem Opened.mem_signIns (h : Opened K log r root) : root ∈ signIns log r.userId := by
  obtain ⟨s, api, req, c, hj, hopens, -, -⟩ := h.session
  obtain ⟨r₀, hr₀, huser⟩ := h.first
  rw [signIns, Finset.mem_filter, List.mem_toFinset, List.mem_filterMap]
  refine ⟨⟨insertion root r₀, hr₀, ?_⟩, List.any_eq_true.2 ⟨_, hj, ?_⟩⟩
  · exact if_pos huser
  · simp [opensSession, hopens]

/-- Every stored row belongs to one session, opened by a register or login of its user, and a user
has no more rows than registers and logins that stored one. -/
theorem sessions_not_multiplied {σ : Pool (service K)} (h : Reachable K Unforged σ) :
    (∀ r ∈ σ.shared.db.refreshTokens, ∃ root, ∀ root', Opened K σ.log r root' ↔ root' = root) ∧
      ∀ userId, σ.shared.db.refreshTokens.count (fun r => r.userId == userId) ≤
        (signIns σ.log userId).card := by
  have ht := h.traces
  have hopened : ∀ r ∈ σ.shared.db.refreshTokens, ∃ root, Opened K σ.log r root := by
    intro r hr
    obtain ⟨t, hins⟩ := ((ht.recorded.tokens r).1 hr).inserted
    exact ht.opened le_rfl hins
  constructor
  · intro r hr
    obtain ⟨root, ho⟩ := hopened r hr
    refine ⟨root, fun root' => ⟨fun ho' => ht.session_unique ho'.session ho.session, ?_⟩⟩
    rintro rfl
    exact ho
  · intro userId
    choose! root hroot using hopened
    have hrows : ∀ r, r ∈ (σ.shared.db.refreshTokens.rows.filter
        (fun r => r.userId == userId)).toFinset ↔
          ∃ r' ∈ σ.shared.db.refreshTokens, (r'.userId == userId) = true ∧ id r' = r := by
      simp [Store.Table.mem_rows]
    rw [Store.Table.count_eq_card () (fun r r' he => congrArg RefreshTokenRow.jti he) hrows]
    apply Finset.card_le_card_of_injOn root
    · intro r hr
      obtain ⟨r, hmem, huser, rfl⟩ := (hrows r).1 hr
      exact beq_iff_eq.1 huser ▸ (hroot r hmem).mem_signIns
    · intro r hr r' hr' he
      obtain ⟨r, hmem, -, rfl⟩ := (hrows r).1 hr
      obtain ⟨r', hmem', -, rfl⟩ := (hrows r').1 hr'
      exact ht.session_row_unique ((ht.recorded.tokens r).1 hmem) ((ht.recorded.tokens r').1 hmem')
        (hroot r hmem).session (he ▸ (hroot r' hmem').session)

/-- `ann` is signed in twice, and refreshes one of the two sessions. -/
theorem sessions_not_multiplied_twice : ∃ σ : Pool (service Transparent.crypto),
    Reachable Transparent.crypto Unforged σ ∧
    σ.shared.db.refreshTokens.count (fun r => r.userId == "id") = 2 ∧
    2 ≤ (signIns σ.log "id").card := by
  open Scenario in
  obtain ⟨σ, hσ, hcount⟩ := Scenario.reach Unforged
    (starting ++ registering 1 "ann" "password" 105 "id" "a1" "r1" ++
      loggingIn 2 "ann" "password" 106 "b1" "q1" ++
      consuming 3 (token (ann 105 "r1")) 107 ++ rotating 3 108 "a2" "r2")
    (fun σ => σ.shared.db.refreshTokens.count (fun r => r.userId == "id") = 2)
    (by decide +kernel)
  exact ⟨σ, hσ, hcount, hcount ▸ (sessions_not_multiplied hσ).2 "id"⟩

end Servir
