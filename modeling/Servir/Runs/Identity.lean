import Servir.Runs.Tokens

/-!
# Servers, users and genuine tokens

All servers on one database share one secret. Every request that signs a token
does so for a registered user, and under the assumption that tokens cannot be
forged, every token that opens was signed by such a request.
-/

namespace Servir
open Interleaving

variable {K : Crypto} {A : Assumption (service K)} {sh : Shared} {log later earlier : Trail}
  {t s : ℕ} {api : Api} {req : Request}

@[simp] theorem ServerBuilder.config_secret (b : ServerBuilder) : b.config.secret = "" := by
  rcases b with ⟨_ | _, _ | _⟩ <;> rfl

@[simp] theorem ServerBuilder.api_routes_secret (b : ServerBuilder) (secret : String) :
    (b.api secret).routes.secret = secret := rfl

@[simp] theorem ServerBuilder.api_layer (b : ServerBuilder) (secret : String) :
    (b.api secret).layer = (b.api secret).routes := rfl

/-- `load_or_generate_secret` of task `t` returned `secret`: it was stored already, or stored by
the call. -/
def Loaded (log : Trail) (t : ℕ) (secret : String) : Prop :=
  ran t .selectSigningSecret (.ok (some secret)) ∈ log ∨
    ran t (.insertSigningSecret secret) (.ok ()) ∈ log

namespace Traces

theorem loaded_configured {secret : String} (h : Traces K A sh log)
    (hl : Loaded log t secret) : Configured log secret := by
  rcases hl with hmem | hmem
  · obtain ⟨later, earlier, rfl⟩ := List.append_of_mem hmem
    exact ((found_secret h _).1 rfl).mono earlier_subset
  · exact ⟨t, hmem⟩

theorem built_loaded (h : Traces K A sh log) {api : Api}
    (hb : .replied t (.built (.ok api)) ∈ log) :
    ∃ b secret, api = ServerBuilder.api b secret ∧ Loaded log t secret := by
  obtain ⟨job, hj⟩ := Traced.open_of_event h hb
  have hr := Traced.replied h hj hb
  cases job with
  | request server api' req' => cases hr
  | build b =>
    obtain ⟨r, hr, hbuild⟩ := hr
    cases hr
    change Builds b (history t log) _ at hbuild
    generalize hpast : history t log = past at hbuild
    cases hbuild with
    | loaded => exact ⟨b, _, rfl, .inl (mem_history.1 (hpast ▸ List.mem_cons_self))⟩
    | generated => exact ⟨b, _, rfl, .inr (mem_history.1 (hpast ▸ List.mem_cons_self))⟩

theorem built_secret (h : Traces K A sh log) (hb : .replied s (.built (.ok api)) ∈ log) :
    ∃ (b : ServerBuilder) (secret : String), api = b.api secret ∧ Configured log secret := by
  obtain ⟨b, secret, hapi, hl⟩ := built_loaded h hb
  exact ⟨b, secret, hapi, loaded_configured h hl⟩

theorem request_api (h : Traces K A sh log) (hj : .spawned t (.request s api req) ∈ log) :
    ∃ (b : ServerBuilder) (secret : String), api = b.api secret ∧ Configured log secret := by
  obtain ⟨later, earlier, rfl⟩ := List.append_of_mem hj
  have hbuilt := hasBuilt_iff.1 (Traced.admitted h).1
  exact built_secret h (earlier_subset hbuilt)

theorem api_layer (h : Traces K A sh log) (hj : .spawned t (.request s api req) ∈ log) :
    api.layer = api.routes := by
  obtain ⟨b, secret, rfl, -⟩ := request_api h hj
  rfl

/-- All requests are served under one secret. -/
theorem secret_agreed (h : Traces K A sh log) {t' s' : ℕ} {api' : Api} {req' : Request}
    (hj : .spawned t (.request s api req) ∈ log)
    (hj' : .spawned t' (.request s' api' req') ∈ log) : api.routes.secret = api'.routes.secret := by
  obtain ⟨b, secret, rfl, hs⟩ := request_api h hj
  obtain ⟨b', secret', rfl, hs'⟩ := request_api h hj'
  exact configured_unique h hs hs'

/-- A request acts for a registered user. -/
theorem acts_registered (h : Traces K A sh log) {config : AuthConfig} {h₀ : Past} {user : User}
    (ha : Acts K config req h₀ user) (hpast : ∀ x ∈ h₀, x ∈ history t log) :
    ∃ r, Registered log r ∧ r.toUser = user := by
  have hmem : ∀ x ∈ h₀, .performed t x.effect x.answer ∈ log :=
    fun x hx => mem_history.1 (hpast x hx)
  cases ha with
  | @register body salt hash id n hname hlong hhash =>
    exact ⟨⟨id, body.username, hash, n.toInt64⟩, ⟨t, hmem _ List.mem_cons_self⟩, rfl⟩
  | login hverify =>
    obtain ⟨later, earlier, rfl⟩ := List.append_of_mem (hmem _ List.mem_cons_self)
    obtain ⟨r, hr, -, huser⟩ := (found_username h _).1 rfl
    exact ⟨r, hr.mono earlier_subset, huser⟩
  | refresh hverify hkind hrows =>
    obtain ⟨later, earlier, rfl⟩ := List.append_of_mem (hmem _ List.mem_cons_self)
    obtain ⟨r, hr, -, huser⟩ := (found_id h _).1 rfl
    exact ⟨r, hr.mono earlier_subset, huser⟩

theorem encoded_registered {secret : String} {c : Claims} {r : Except String String}
    (h : Traces K A sh (later ++ encoded t secret c r :: earlier)) :
    ∃ u, Registered earlier u ∧ u.id = c.sub ∧ u.username = c.username := by
  obtain ⟨sh₀, -, h₀, -⟩ := responds h
  obtain ⟨s, api, req, past, user, n, jti, -, -, hacts, hpast, hcase⟩ := signing h
  obtain ⟨u, hu, rfl⟩ := acts_registered h₀ hacts hpast
  obtain ⟨rfl, -⟩ | ⟨n₀, jti₀, tok, rfl, -⟩ := hcase
  · exact ⟨u, hu, rfl, rfl⟩
  · exact ⟨u, hu, rfl, rfl⟩

end Traces
end Servir
