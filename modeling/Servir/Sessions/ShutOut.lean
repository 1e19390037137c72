import Servir.Sessions.Lineage

/-!
# How soon a logout shuts a user out

Access tokens are not revoked, they expire. If no request of the user is in flight
at the delete of a logout and the user does not sign in again, no row is stored for
the user any more, so nothing renews the access tokens: each was issued before the
delete and dies within its lifetime.
-/

namespace Servir
open Interleaving

variable {K : Crypto} {A : Assumption (service K)} {sh : Shared}
  {log later mid earlier : Trail} {t t₀ rows : ℕ} {u : String}

def Ended (log : Trail) (t : ℕ) : Prop := (∃ o, .replied t o ∈ log) ∨ .dropped t ∈ log

/-- Task `t₀` deleted the rows of the user with id `u` when every sign-in of the user, of any time,
and every refresh of a row of the user so far had ended. -/
structure SignedOut (K : Crypto) (log earlier : Trail) (t₀ rows : ℕ) (u : String) : Prop where
  deletes : ∃ later, log = later ++ ran t₀ (.deleteRefreshTokensForUser u) (.ok rows) :: earlier
  signIns : ∀ t row, SignsIn K log t row → row.id = u → Ended earlier t
  refreshes : ∀ t r, (∃ t', Inserted earlier t' r) → r.userId = u → Consumed earlier t r.jti →
    Ended earlier t

namespace Traces

theorem not_ended {e : Effect} {a : e.Answer} (h : Traces K A sh (later ++ .performed t e a :: log))
    (hsub : earlier ⊆ log) : ¬ Ended earlier t := by
  obtain ⟨job, hopen⟩ := Traced.open_at h
  rintro (⟨o, ho⟩ | hd)
  · exact hopen.not_replied o (hsub ho)
  · exact hopen.not_dropped (hsub hd)

/-- Nothing is stored for the user since the delete, as far as `mid` goes. -/
private def Rowless (mid : Trail) (delete : Happening) (earlier : Trail) (u : String) : Prop :=
  ∀ part, part <:+ mid → ∀ r, Stored (part ++ delete :: earlier) r → r.userId ≠ u

/-- A task that is still at work consumes no token of the user. -/
private theorem not_consumed (hout : SignedOut K log earlier t₀ rows u) {delete : Happening}
    (hdelete : delete = ran t₀ (.deleteRefreshTokensForUser u) (.ok rows))
    (h : Traces K A sh (mid ++ delete :: earlier)) (hended : ¬ Ended earlier t)
    (hrowless : Rowless mid delete earlier u) {jti : String}
    (howner : ∀ t' r, Inserted (mid ++ delete :: earlier) t' r → r.jti = jti → r.userId = u) :
    ¬ Consumed (mid ++ delete :: earlier) t jti := by
  rintro ⟨now, n, hc, hn⟩
  rcases List.mem_append.1 hc with hlate | hc
  -- consumed after the delete: the row was stored then
  · obtain ⟨l, part, rfl⟩ := List.append_of_mem hlate
    have hpart : part <:+ l ++ ran t (.deleteRefreshToken jti now) (.ok n) :: part :=
      (List.suffix_cons _ part).trans (List.suffix_append _ _)
    rw [List.append_assoc, List.cons_append] at h howner
    obtain ⟨r, hr, hjti, -⟩ := (consumed_iff h).1 hn
    obtain ⟨t', hins⟩ := hr.inserted
    exact hrowless part hpart r hr (howner t' r (hins.mono earlier_subset) hjti)
  · rcases List.mem_cons.1 hc with he | hc
    · rw [hdelete] at he
      cases he
    -- consumed before the delete: the refresh had ended
    · obtain ⟨sh₁, h₁⟩ : ∃ sh₁, Traces K A sh₁ earlier :=
        Traced.of_suffix h ⟨mid ++ [delete], by simp⟩
      have hconsumed : Consumed earlier t jti := ⟨now, n, hc, hn⟩
      obtain ⟨l, part, _, _, r, hlog, hr, rfl, -⟩ := consumed_row h₁ hconsumed
      obtain ⟨t', hins⟩ := hr.inserted
      have hins' : Inserted earlier t' r := hlog ▸ hins.mono earlier_subset
      have huser := howner t' r (hins'.mono earlier_subset) rfl
      exact hended (hout.refreshes t r ⟨t', hins'⟩ huser hconsumed)

private theorem acts_other (hA : A ≤ Unforged) (hout : SignedOut K log earlier t₀ rows u)
    {delete : Happening} (hdelete : delete = ran t₀ (.deleteRefreshTokensForUser u) (.ok rows))
    (hsub : mid ++ delete :: earlier ⊆ log) (h : Traces K A sh (mid ++ delete :: earlier))
    (hended : ¬ Ended earlier t) (hrowless : Rowless mid delete earlier u) {s : ℕ} {api : Api}
    {req : Request} {past : Past} {user : User}
    (hj : .spawned t (.request s api req) ∈ mid ++ delete :: earlier)
    (hacts : Acts K api.routes req past user)
    (hpast : ∀ x ∈ past, x ∈ history t (mid ++ delete :: earlier)) : user.id ≠ u := by
  intro huser
  have hmem : ∀ x ∈ past, .performed t x.effect x.answer ∈ mid ++ delete :: earlier :=
    fun x hx => mem_history.1 (hpast x hx)
  cases hacts with
  | @register body salt hash id n hname hlong hhash =>
    have hcreated : Created log t ⟨id, body.username, hash, n.toInt64⟩ :=
      hsub (hmem _ List.mem_cons_self)
    exact hended (hout.signIns t _ (.inl ⟨s, api, body, hsub hj, hcreated⟩) huser)
  | @login body user hverify =>
    obtain ⟨l, m, hlog⟩ := List.append_of_mem (hmem _ List.mem_cons_self)
    obtain ⟨row, hrow, hname, rfl⟩ := (found_username (hlog ▸ h) _).1 rfl
    have hrow' : Registered log row := hrow.mono (fun x hx => hsub (hlog ▸ earlier_subset hx))
    exact hended (hout.signIns t row (.inr ⟨s, api, body, hsub hj, hrow', hname, hverify⟩) huser)
  | @refresh body c m m' n user hverify hkind hn =>
    have hopen := (verifyTokenAt_ok.1 hverify).1
    have hsigned := genuine hA h hj rfl hopen
    have hsame := (refresh_user hA h hj (.refresh hverify hkind hn) hpast hopen).1
    have hconsumed : Consumed (mid ++ delete :: earlier) t c.jti :=
      ⟨_, n, hmem _ (List.mem_cons_of_mem _ List.mem_cons_self), hn⟩
    refine not_consumed hout hdelete h hended hrowless (fun t' r hr hjti => ?_) hconsumed
    rw [row_user h hsigned hkind hr hjti, ← hsame, huser]

private theorem rowless (hA : A ≤ Unforged) (hout : SignedOut K log earlier t₀ rows u)
    {delete : Happening} (hdelete : delete = ran t₀ (.deleteRefreshTokensForUser u) (.ok rows))
    (hsub : mid ++ delete :: earlier ⊆ log) (h : Traces K A sh (mid ++ delete :: earlier)) :
    Rowless mid delete earlier u := by
  induction mid generalizing sh with
  | nil =>
    intro part hpart r hr huser
    obtain rfl := List.suffix_nil.1 hpart
    exact not_stored_removed (.inr ⟨t₀, rows, huser ▸ hdelete⟩) hr
  | cons ev mid ih =>
    obtain ⟨sh₁, h₁⟩ : ∃ sh₁, Traces K A sh₁ (mid ++ delete :: earlier) :=
      Traced.of_suffix h (List.suffix_cons _ _)
    have hsub₁ : mid ++ delete :: earlier ⊆ log := fun x hx => hsub (List.mem_cons_of_mem _ hx)
    have hmid := ih hsub₁ h₁
    intro part hpart r hr huser
    rcases List.suffix_cons_iff.1 hpart with rfl | hpart
    · rcases hr with ⟨hr, -⟩ | ⟨t, rfl⟩
      · exact hmid mid List.suffix_rfl r hr huser
      · rw [List.cons_append, ← List.nil_append (_ :: _)] at h
        obtain ⟨s, api, req, past, user, n, n', n₁, n₂, jti₀, tok, tok', hj, hacts, hid, -, -,
          hpast⟩ := storing h
        refine acts_other hA hout hdelete hsub₁ h₁ (not_ended h earlier_subset) hmid hj hacts ?_
          (hid.symm.trans huser)
        intro x hx
        simp [hpast, refreshPast, accessPast, hx]
    · exact hmid part hpart r hr huser

private theorem signed_early (hA : A ≤ Unforged) (hout : SignedOut K log earlier t₀ rows u)
    {delete : Happening} (hdelete : delete = ran t₀ (.deleteRefreshTokensForUser u) (.ok rows))
    (hlog : log = later ++ delete :: earlier) (h : Traces K A sh log) {secret : String} {c : Claims}
    {r : Except String String} (hsigned : encoded t secret c r ∈ log) (huser : c.sub = u) :
    encoded t secret c r ∈ earlier := by
  rw [hlog] at hsigned
  rcases List.mem_append.1 hsigned with hlate | he
  · exfalso
    obtain ⟨l, mid, rfl⟩ := List.append_of_mem hlate
    rw [List.append_assoc, List.cons_append] at hlog
    have hsub : mid ++ delete :: earlier ⊆ log := hlog ▸ earlier_subset
    rw [hlog] at h
    obtain ⟨s, api, req, past, user, n, jti, hj, -, hacts, hpast, hcase⟩ := signing h
    obtain ⟨sh₁, h₁⟩ : ∃ sh₁, Traces K A sh₁ (mid ++ delete :: earlier) :=
      Traced.of_suffix h ((List.suffix_cons _ _).trans (List.suffix_append _ _))
    have hid : user.id = c.sub := by
      obtain ⟨rfl, -⟩ | ⟨n₀, jti₀, tok, rfl, -⟩ := hcase <;> rfl
    exact acts_other hA hout hdelete hsub h₁ (not_ended h earlier_subset)
      (rowless hA hout hdelete hsub h₁) hj hacts hpast (hid.trans huser)
  · rcases List.mem_cons.1 he with he | he
    · rw [hdelete] at he
      cases he
    · exact he

end Traces

/-- After a logout that nothing of the user outlives, the user has no row, and an access token of
the user is accepted no longer than its lifetime: it was signed before the delete, at a reading of
its request, and its `exp` lies no further from there than the TTL of the server that signed it. -/
theorem logout_shuts_out {σ : Pool (service K)} (h : Reachable K Unforged σ)
    (hout : SignedOut K σ.log earlier t₀ rows u) :
    (∀ r ∈ σ.shared.db.refreshTokens, r.userId ≠ u) ∧
      ∀ t s api req tok n c, .spawned t (.request s api req) ∈ σ.log → req.presents = some tok →
        verifyTokenAt K tok (req.config api) n = .ok c → c.kind = .access → c.sub = u →
        ∃ t₁ s₁ api₁ req₁, .spawned t₁ (.request s₁ api₁ req₁) ∈ earlier ∧
          encoded t₁ api₁.routes.secret c (.ok tok) ∈ earlier ∧ read t₁ c.iat ∈ earlier ∧
          n.toNat ≤ c.iat.toNat + api₁.routes.accessTokenTtlSecs.toNat + leeway := by
  have ht := h.traces
  obtain ⟨later, hlog⟩ := hout.deletes
  constructor
  · intro r hr
    have hstored := (ht.recorded.tokens r).1 hr
    have hsub : later ++ ran t₀ (.deleteRefreshTokensForUser u) (.ok rows) :: earlier ⊆ σ.log :=
      fun x hx => hlog ▸ hx
    have hrowless := Traces.rowless le_rfl hout rfl hsub (hlog ▸ ht)
    exact hrowless later List.suffix_rfl r (hlog ▸ hstored)
  · intro t s api req tok n c hj htok hverify hkind hsub
    obtain ⟨hopen, hn⟩ := verifyTokenAt_ok.1 hverify
    rw [ht.request_config hj] at hopen
    obtain ⟨t₁, hsigned⟩ := ht.genuine le_rfl hj htok hopen
    have hearly := ht.signed_early le_rfl hout rfl hlog hsigned hsub
    obtain ⟨l, m, rfl⟩ := List.append_of_mem hearly
    rw [hlog, ← List.cons_append, ← List.append_assoc] at ht
    obtain ⟨s₁, api₁, req₁, past, user, n₁, jti, hj₁, hsecret, -, -, ⟨rfl, hpast⟩ |
      ⟨_, _, _, rfl, -⟩⟩ := ht.signing
    · rw [hsecret] at hearly
      refine ⟨t₁, s₁, api₁, req₁, earlier_subset hj₁, ?_, earlier_subset ?_, ?_⟩
      · exact hsecret ▸ List.mem_append_right _ List.mem_cons_self
      · exact mem_history.1 (hpast ▸ List.mem_cons_of_mem _ List.mem_cons_self)
      · have hexp : (accessClaims api₁.routes user n₁ jti).exp.toNat ≤
            n₁.toNat + api₁.routes.accessTokenTtlSecs.toNat := by
          rw [accessClaims, UInt64.toNat_add]
          exact Nat.mod_le _ _
        exact hn.trans (Nat.add_le_add_right hexp _)
    · cases hkind

/-- A check for `SignedOut`: whoever signs in, or consumed a token by then, has replied. -/
def isSignedOut (log earlier : Trail) : Bool :=
  log.all (fun ev => match ev with
    | .spawned t (.request _ _ req) => !req.opensSession || hasReplied earlier t
    | _ => true) &&
  earlier.all (fun ev => match ev with
    | .performed t (.sql (.deleteRefreshToken ..)) _ => hasReplied earlier t
    | _ => true)

theorem signedOut_of_check (hdeletes : ∃ later, log = later ++
      ran t₀ (.deleteRefreshTokensForUser u) (.ok rows) :: earlier)
    (h : isSignedOut log earlier = true) : SignedOut K log earlier t₀ rows u := by
  obtain ⟨hspawned, hconsumed⟩ := Bool.and_eq_true_iff.1 h
  have hsignsIn : ∀ t s api req, .spawned t (.request s api req) ∈ log → req.opensSession = true →
      Ended earlier t := by
    intro t s api req hj hopens
    have hcheck := List.all_eq_true.1 hspawned _ hj
    exact .inl (hasReplied_iff.1 (by simpa [hopens] using hcheck))
  refine ⟨hdeletes, ?_, ?_⟩
  · rintro t row (⟨s, api, body, hj, -⟩ | ⟨s, api, body, hj, -⟩) -
    · exact hsignsIn t s api _ hj rfl
    · exact hsignsIn t s api _ hj rfl
  · rintro t r - - ⟨now, n, hmem, -⟩
    exact .inl (hasReplied_iff.1 (List.all_eq_true.1 hconsumed _ hmem))

/-- `ann` is known to `me` after her logout, with an access token from before. -/
theorem logout_shuts_out_outlived : ∃ (σ : Pool (service Transparent.crypto)) (earlier : Trail),
    Reachable Transparent.crypto Unforged σ ∧
    SignedOut Transparent.crypto σ.log earlier 3 1 "id" ∧
    .replied 4 (.identity (.ok ⟨"id", "ann"⟩)) ∈ σ.log ∧
    (∀ r ∈ σ.shared.db.refreshTokens, r.userId ≠ "id") ∧
    ∃ t₁ s₁ api₁ req₁, .spawned t₁ (.request s₁ api₁ req₁) ∈ earlier ∧
      encoded t₁ api₁.routes.secret
        (accessClaims Scenario.api.routes ⟨"id", "ann", ""⟩ 107 "a2")
        (.ok (Scenario.accessToken "id" "ann" 107 "a2")) ∈ earlier ∧
      read t₁ 107 ∈ earlier ∧ 109 ≤ 107 + api₁.routes.accessTokenTtlSecs.toNat + leeway := by
  open Scenario in
  obtain ⟨σ, hσ, hlog, hcheck, hj, ho⟩ := Scenario.reach Unforged
    (starting ++ registering 1 "ann" "password" 105 "id" "a1" "r1" ++
      consuming 2 (token (ann 105 "r1")) 106 ++ rotating 2 107 "a2" "r2" ++
      loggingOut 3 (token (ann 107 "r2")) 108 ++
      requesting 4 (.me (bearer (accessToken "id" "ann" 107 "a2"))) ++ answering 4 [.reading 109] ++
      [.reply 4])
    (fun σ => σ.log = σ.log.take 4 ++
        ran 3 (.deleteRefreshTokensForUser "id") (.ok 1) :: σ.log.drop 5 ∧
      isSignedOut σ.log (σ.log.drop 5) = true ∧
      .spawned 4 (.request 0 api (.me (bearer (accessToken "id" "ann" 107 "a2")))) ∈ σ.log ∧
      .replied 4 (.identity (.ok ⟨"id", "ann"⟩)) ∈ σ.log) (by decide +kernel)
  have hout : SignedOut Transparent.crypto σ.log (σ.log.drop 5) 3 1 "id" :=
    signedOut_of_check ⟨_, hlog⟩ hcheck
  obtain ⟨hrows, hdies⟩ := logout_shuts_out hσ hout
  obtain ⟨t₁, s₁, api₁, req₁, hj₁, henc, hread, hle⟩ := hdies 4 0 Scenario.api _
    (Scenario.accessToken "id" "ann" 107 "a2") 109
    (accessClaims Scenario.api.routes ⟨"id", "ann", ""⟩ 107 "a2") hj (by decide +kernel)
    (by decide +kernel) rfl rfl
  exact ⟨σ, _, hσ, hout, ho, hrows, t₁, s₁, api₁, req₁, hj₁, henc, hread, hle⟩

end Servir
