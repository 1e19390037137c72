import Servir.Auth.Transparent
import Servir.Runs.Requests

/-!
# Scripted runs

Label lists from which a concrete run is put together, on the transparent
instance of the libraries and one server with default options.
-/

namespace Servir.Scenario
open Interleaving Transparent

abbrev Script := List (Label (service crypto))

theorem reach (A : Assumption (service crypto)) [∀ sh log ev, Decidable (A sh log ev)]
    (script : Script) (P : Pool (service crypto) → Prop) [DecidablePred P]
    (h : (run A (.start Shared.init) script).any (fun σ => decide (P σ)) = true) :
    ∃ σ, Reachable crypto A σ ∧ P σ := reach_of_run h

theorem reach_then (A : Assumption (service crypto)) [∀ sh log ev, Decidable (A sh log ev)]
    (script script' : Script) (P : Pool (service crypto) → Pool (service crypto) → Prop)
    [∀ σ σ', Decidable (P σ σ')]
    (h : (run A (.start Shared.init) script).any
      (fun σ => (run A σ script').any (fun σ' => decide (P σ σ'))) = true) :
    ∃ σ σ', Reachable crypto A σ ∧ Path A σ script' σ' ∧ P σ σ' := reach_of_run_then h

/-- The log around the event at place `k` from its end. -/
theorem split_at {log : Trail} {k : ℕ} {ev : Happening} (h : log[k]? = some ev) :
    log = log.take k ++ ev :: log.drop (k + 1) := by
  obtain ⟨hlt, hget⟩ := List.getElem?_eq_some_iff.1 h
  rw [← hget, ← List.drop_eq_getElem_cons hlt, List.take_append_drop]

/-- Task `t` gets these answers one after the other. -/
def answering (t : ℕ) (cs : List Choice) : Script := cs.map (fun c => .perform t c)

def secretBytes : Vector UInt8 32 := Vector.replicate 32 42

def secret : String := hexEncode secretBytes

def api : Api := ServerBuilder.api ⟨none, none⟩ secret

/-- Task `0` builds the server. -/
def starting : Script :=
  .spawn 0 (.build ⟨none, none⟩) :: answering 0 [.execute, .bytes secretBytes, .execute] ++
    [.reply 0]

def requesting (t : ℕ) (req : Request) : Script := [.spawn t (.request 0 api req)]

/-- The claims of a refresh token that the server issues at `now`. -/
def claims (userId username : String) (now : UInt64) (jti : String) : Claims :=
  refreshClaims api.routes ⟨userId, username, ""⟩ now jti

/-- The refresh tokens of the user `ann`. -/
def ann (now : UInt64) (jti : String) : Claims := claims "id" "ann" now jti

def token (c : Claims) : String := String.ofList (putToken secret c)

def accessToken (userId username : String) (now : UInt64) (jti : String) : String :=
  token (accessClaims api.routes ⟨userId, username, ""⟩ now jti)

/-- The row of a refresh token that the server issues at `now`. -/
def row (userId : String) (now : UInt64) (jti : String) : RefreshTokenRow :=
  ⟨jti, userId, now.toInt64 + api.routes.refreshTokenTtlSecs.toInt64, now.toInt64⟩

/-- The `Authorization` header that carries a token. -/
def bearer (tok : String) : Option HeaderValue :=
  some (("Bearer " ++ tok).toList.map (fun c => UInt8.ofNat c.toNat))

/-- Both tokens are signed and the refresh token is stored, all at `now`. -/
def issuing (t : ℕ) (now : UInt64) (access refresh : String) : Script :=
  answering t [.reading now, .uuid access, .compute, .reading now, .uuid refresh, .compute,
    .reading now, .reading now, .execute]

def registering (t : ℕ) (username password : String) (now : UInt64)
    (id access refresh : String) : Script :=
  requesting t (.register ⟨username, password⟩) ++
    answering t [.salt "salt", .uuid id, .reading now, .execute] ++
    issuing t now access refresh ++ [.reply t]

def loggingIn (t : ℕ) (username password : String) (now : UInt64) (access refresh : String) :
    Script :=
  requesting t (.login ⟨username, password⟩) ++ answering t [.execute] ++
    issuing t now access refresh ++ [.reply t]

/-- `refresh` up to the answer of `consume_refresh_token`. -/
def consuming (t : ℕ) (tok : String) (now : UInt64) : Script :=
  requesting t (.refresh ⟨tok⟩) ++ answering t [.reading now, .reading now, .execute]

/-- `refresh` from there to its reply. -/
def rotating (t : ℕ) (now : UInt64) (access refresh : String) : Script :=
  answering t [.execute] ++ issuing t now access refresh ++ [.reply t]

def loggingOut (t : ℕ) (tok : String) (now : UInt64) : Script :=
  requesting t (.logout ⟨tok⟩) ++ answering t [.reading now, .execute] ++ [.reply t]

theorem reach_refreshed_me : ∃ σ : Pool (service crypto), Reachable crypto (Unforged ⊓ Held) σ ∧
    .replied 3 (.identity (.ok ⟨"id", "ann"⟩)) ∈ σ.log :=
  reach (Unforged ⊓ Held)
    (starting ++ registering 1 "ann" "password" 105 "id" "a1" "r1" ++
      consuming 2 (token (ann 105 "r1")) 106 ++ rotating 2 107 "a2" "r2" ++
      requesting 3 (.me (bearer (accessToken "id" "ann" 107 "a2"))) ++ answering 3 [.reading 108] ++
      [.reply 3])
    (fun σ => .replied 3 (.identity (.ok ⟨"id", "ann"⟩)) ∈ σ.log) (by decide +kernel)

end Servir.Scenario
