import Servir.Tokens.Expiry

/-!
# Access tokens on every server

An access token is signed from one copy of the configuration and verified from
another, maybe by another process. The copies share the stored secret, and the
header carries the token unchanged because a token is visible ASCII.
-/

namespace Servir
open Interleaving

variable {K : Crypto} {A : Assumption (service K)} {sh : Shared} {log later earlier : Trail}
  {t s : ℕ} {api : Api} {req : Request} {tok : String}

/-- Only visible ASCII characters, as in the segments of a JWT and the dots between them. -/
def Visible (s : String) : Prop := ∀ c ∈ s.toList, 32 < c.toNat ∧ c.toNat < 127

instance (s : String) : Decidable (Visible s) :=
  decidable_of_iff (s.toList.all (fun c => 32 < c.toNat && c.toNat < 127) = true)
    (by simp [Visible])

/-- The value `Bearer <token>`, one byte for each ASCII character. -/
def bearerValue (tok : String) : HeaderValue :=
  ("Bearer " ++ tok).toList.map (fun c => UInt8.ofNat c.toNat)

theorem byte_toNat {c : Char} (h : c.toNat < 127) : (UInt8.ofNat c.toNat).toNat = c.toNat := by
  rw [UInt8.toNat_ofNat']
  omega

theorem toStr_ascii {cs : List Char} (h : ∀ c ∈ cs, 32 ≤ c.toNat ∧ c.toNat < 127) :
    HeaderValue.toStr (cs.map (fun c => UInt8.ofNat c.toNat)) = some (String.ofList cs) := by
  have hvisible : (cs.map (fun c => UInt8.ofNat c.toNat)).all
      (fun b => (32 ≤ b && b < 127) || b == 9) = true := by
    rw [List.all_map, List.all_eq_true]
    intro c hc
    obtain ⟨hlow, hhigh⟩ := h c hc
    have hbyte := byte_toNat hhigh
    simp [UInt8.le_iff_toNat_le, UInt8.lt_iff_toNat_lt, hbyte, hlow, hhigh]
  have hchars : (cs.map (fun c => UInt8.ofNat c.toNat)).map (fun b => Char.ofNat b.toNat) = cs := by
    rw [List.map_map]
    refine (List.map_congr_left (fun c hc => ?_)).trans (List.map_id cs)
    change Char.ofNat (UInt8.ofNat c.toNat).toNat = c
    rw [byte_toNat (h c hc).2, Char.ofNat_toNat]
  rw [HeaderValue.toStr, if_pos hvisible, hchars]

theorem bearerToken_bearerValue (h : Visible tok) :
    bearerToken (some (bearerValue tok)) = some tok := by
  have hscheme : "Bearer ".toList.all (fun c => 32 ≤ c.toNat && c.toNat < 127) = true := by decide
  have hascii : ∀ c ∈ ("Bearer " ++ tok).toList, 32 ≤ c.toNat ∧ c.toNat < 127 := by
    intro c hc
    rw [String.toList_append, List.mem_append] at hc
    rcases hc with hc | hc
    · simpa using List.all_eq_true.1 hscheme c hc
    · exact ⟨(h c hc).1.le, (h c hc).2⟩
  have hvalue : HeaderValue.toStr (bearerValue tok) = some ("Bearer " ++ tok) := by
    rw [bearerValue, toStr_ascii hascii, String.ofList_toList]
  rw [bearerToken, Option.bind_some, hvalue, Option.bind_some, stripPrefix, String.toList_append,
    List.dropPrefix?_append_of_beq _ (by simp), Option.map_some, String.ofList_toList]

/-- The user that an OK response of request `t` is for. -/
def Serves (K : Crypto) (log : Trail) (t : ℕ) (api : Api) (u : UserRow) : Request → Prop
  | .register _ => Created log t u
  | .login body => Registered log u ∧ u.username = body.username
  | .refresh body => Registered log u ∧
      ∃ c, K.openToken api.routes.secret body.refreshToken = .ok c ∧ u.id = c.sub
  | _ => False

namespace Traces

theorem acts_serves (h : Traces K A sh log) {h₀ : Past} {user : User}
    (hacts : Acts K api.routes req h₀ user) (hpast : ∀ x ∈ h₀, x ∈ history t log) :
    ∃ u, Registered log u ∧ u.toUser = user ∧ Serves K log t api u req := by
  cases hacts with
  | @register body salt hash id n =>
    have hc : Created log t ⟨id, body.username, hash, n.toInt64⟩ :=
      mem_history.1 (hpast _ List.mem_cons_self)
    exact ⟨_, ⟨t, hc⟩, rfl, hc⟩
  | login hverify =>
    obtain ⟨later, earlier, hlog⟩ :=
      List.append_of_mem (mem_history.1 (hpast _ List.mem_cons_self))
    obtain ⟨u, hu, hname, huser⟩ := (found_username (hlog ▸ h) _).1 rfl
    have hu' : Registered log u := hu.mono (hlog ▸ earlier_subset)
    exact ⟨u, hu', huser, hu', hname⟩
  | refresh hverify hkind hrows =>
    obtain ⟨later, earlier, hlog⟩ :=
      List.append_of_mem (mem_history.1 (hpast _ List.mem_cons_self))
    obtain ⟨u, hu, hid, huser⟩ := (found_id (hlog ▸ h) _).1 rfl
    have hu' : Registered log u := hu.mono (hlog ▸ earlier_subset)
    exact ⟨u, hu', huser, hu', _, (verifyTokenAt_ok.1 hverify).1, hid⟩

end Traces

end Servir
