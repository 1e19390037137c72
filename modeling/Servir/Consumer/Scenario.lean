import Servir.Consumer.Projected
import Servir.Runs.Scenario

/-!
# Scripted runs of the application

Label lists from which a concrete run of the application is put together. The
requests are the ones that `curl` sends, with their bodies as JSON text.
-/

namespace Servir

deriving instance DecidableEq for HttpRequest
deriving instance DecidableEq for Consumer.AppJob

end Servir

namespace Servir.Consumer.App
open Interleaving

section Decidable
variable {K : Crypto} {X : JsonExtractor} (sh : (app K X).Shared) (log : AppTrail)
  (ev : Event appSignature AppJob AppOutcome)

instance (A B : Assumption (app K X)) [Decidable (A sh log ev)] [Decidable (B sh log ev)] :
    Decidable ((A ⊓ B) sh log ev) := inferInstanceAs (Decidable (A sh log ev ∧ B sh log ev))

def isFault : Event appSignature AppJob AppOutcome → Bool
  | .performed _ (.inl (.sql _)) (.error (.fault _)) => true
  | .performed _ (.inr (.sql _)) (.error (.fault _)) => true
  | _ => false

instance : Decidable ((NoFaults : Assumption (app K X)) sh log ev) :=
  decidable_of_iff (isFault ev = false) (by
    unfold isFault NoFaults
    constructor
    · intro hev t
      constructor
      · rintro q display rfl
        simp at hev
      · rintro q display rfl
        simp at hev
    · intro hev
      split
      · exact absurd rfl ((hev _).1 _ _)
      · exact absurd rfl ((hev _).2 _ _)
      · rfl)

def wasSigned (log : AppTrail) (secret tok : String) (c : Claims) : Bool :=
  log.any (fun ev => match ev with
    | .performed _ (.inl (.encode secret' c')) (.ok tok') =>
      secret' == secret && c' == c && tok' == tok
    | _ => false)

theorem wasSigned_iff {log : AppTrail} {secret tok : String} {c : Claims} :
    wasSigned log secret tok c = true ↔ Signed log secret tok c := by
  simp only [wasSigned, List.any_eq_true, Signed]
  constructor
  · rintro ⟨ev, hmem, hev⟩
    split at hev
    · simp only [Bool.and_eq_true, beq_iff_eq] at hev
      obtain ⟨⟨rfl, rfl⟩, rfl⟩ := hev
      exact ⟨_, hmem⟩
    · cases hev
  · rintro ⟨t, hmem⟩
    exact ⟨_, hmem, by simp⟩

/-- Was the token that the request presents signed, if it opens? -/
def checkPresented (K : Crypto) (X : JsonExtractor) (log : AppTrail) :
    Event appSignature AppJob AppOutcome → Bool
  | .spawned _ job => match job.first X with
    | .inr (.request _ api request) => match request.presents with
      | some tok => match K.openToken (request.config api).secret tok with
        | .ok c => wasSigned log (request.config api).secret tok c
        | .error _ => true
      | .none => true
    | _ => true
  | _ => true

instance : Decidable ((Unforged : Assumption (app K X)) sh log ev) :=
  decidable_of_iff (checkPresented K X log ev = true) (by
    constructor
    · rintro hev t job s api request tok c rfl hfirst htok hopen
      exact wasSigned_iff.1 (by simpa [checkPresented, hfirst, htok, hopen] using hev)
    · intro hev
      unfold checkPresented
      split
      · split
        · split
          · split
            · exact wasSigned_iff.2 (hev _ _ _ _ _ _ _ rfl ‹_› ‹_› ‹_›)
            · rfl
          · rfl
        · rfl
      · rfl)

end Decidable

def wasSpawned (log : AppTrail) (t : ℕ) (job : AppJob) : Bool :=
  log.any (fun ev => match ev with
    | .spawned t' job' => t' == t && job' == job
    | _ => false)

theorem wasSpawned_iff {log : AppTrail} {t : ℕ} {job : AppJob} :
    wasSpawned log t job = true ↔ .spawned t job ∈ log := by
  simp only [wasSpawned, List.any_eq_true]
  constructor
  · rintro ⟨ev, hmem, hev⟩
    split at hev
    · simp only [Bool.and_eq_true, beq_iff_eq] at hev
      obtain ⟨rfl, rfl⟩ := hev
      exact hmem
    · cases hev
  · exact fun hmem => ⟨_, hmem, by simp⟩

def wasAnswered (log : AppTrail) (t status : ℕ) : Bool :=
  log.any (fun ev => match ev with
    | .replied t' (.sent response) => t' == t && response.status == status
    | _ => false)

theorem wasAnswered_iff {log : AppTrail} {t status : ℕ} :
    wasAnswered log t status = true ↔
      ∃ response, .replied t (.sent response) ∈ log ∧ response.status = status := by
  simp only [wasAnswered, List.any_eq_true]
  constructor
  · rintro ⟨ev, hmem, hev⟩
    split at hev
    · simp only [Bool.and_eq_true, beq_iff_eq] at hev
      obtain ⟨rfl, hcode⟩ := hev
      exact ⟨_, hmem, hcode⟩
    · cases hev
  · rintro ⟨response, hmem, rfl⟩
    exact ⟨_, hmem, by simp⟩

namespace Scripts
open Servir.Scenario (secretBytes api bearer accessToken)

/-- The bytes of a text of ASCII characters. -/
def bytes (text : String) : List UInt8 := text.toList.map (fun c => UInt8.ofNat c.toNat)

def annBody : String := "\x7b\"username\":\"ann\",\"password\":\"password\"\x7d"

/-- The extractor on the one body of the scripts. -/
def extractor : JsonExtractor :=
  let rejected := "Failed to parse the request body as JSON"
  ⟨fun req => if req.body = bytes annBody then .ok ⟨"ann", "password"⟩ else .error rejected,
    fun req => if req.body = bytes annBody then .ok ⟨"ann", "password"⟩ else .error rejected,
    fun _ => .error rejected, fun _ => .error rejected⟩

abbrev Script := List (Label (app Transparent.crypto extractor))

theorem reach (A : Assumption (app Transparent.crypto extractor))
    [∀ sh log ev, Decidable (A sh log ev)] (script : Script)
    (P : Pool (app Transparent.crypto extractor) → Prop) [DecidablePred P]
    (h : (run A (.start (Shared.init, Db.migrated)) script).any (fun σ => decide (P σ)) = true) :
    ∃ σ, Reachable Transparent.crypto extractor A σ ∧ P σ := reach_of_run h

/-- Servir answers task `t` these effects one after the other. -/
def auth (t : ℕ) (cs : List Servir.Choice) : Script := cs.map (fun c => .perform t (.inl c))

/-- The profiles answer task `t` these effects one after the other. -/
def profiles (t : ℕ) (cs : List Choice) : Script := cs.map (fun c => .perform t (.inr c))

/-- Task `0` starts the application. -/
def starting : Script :=
  .spawn 0 (.build ⟨.none, .none⟩) :: auth 0 [.execute, .bytes secretBytes, .execute] ++ [.reply 0]

def posting (path body : String) : HttpRequest :=
  ⟨.post, path, [("content-type", bytes "application/json")], bytes body, .none⟩

def getting (path : String) (tok : Option String) : HttpRequest :=
  ⟨.get, path, tok.toList.map (fun tok => ("authorization", bytes ("Bearer " ++ tok))), [], .none⟩

def sending (t : ℕ) (req : HttpRequest) : Script := [.spawn t (.http 0 api req)]

/-- Task `t` registers `ann`, all at `now`. -/
def registering (t : ℕ) (now : UInt64) : Script :=
  sending t (posting "/api/v1/auth/register" annBody) ++
    auth t [.salt "salt", .uuid "id", .reading now, .execute, .reading now, .uuid "a1", .compute,
      .reading now, .uuid "r1", .compute, .reading now, .reading now, .execute] ++ [.reply t]

/-- The access token of `ann`. -/
def annToken (now : UInt64) : String := accessToken "id" "ann" now "a1"

/-- Task `t` asks for the profile of `ann` and finds none. -/
def looking (t : ℕ) (now issued : UInt64) : Script :=
  sending t (getting userPath (some (annToken issued))) ++ auth t [.reading now] ++
    profiles t [.execute]

/-- Task `t` stores the profile, or fails to. -/
def storing (t : ℕ) (now : UInt64) : Script := profiles t [.reading now, .execute] ++ [.reply t]

/-- `ann` registers and asks for her profile, twice at once, and once more without a token. -/
theorem reach_raced : ∃ σ : Pool (app Transparent.crypto extractor),
    Reachable Transparent.crypto extractor (NoFaults ⊓ Unforged) σ ∧
    (wasSpawned σ.log 2 (.http 0 api (getting userPath (some (annToken 105)))) = true ∧
      wasAnswered σ.log 2 200 = true) ∧
    (wasSpawned σ.log 3 (.http 0 api (getting userPath (some (annToken 105)))) = true ∧
      wasAnswered σ.log 3 500 = true) ∧
    (wasSpawned σ.log 4 (.http 0 api (getting userPath .none)) = true ∧
      wasAnswered σ.log 4 401 = true) ∧
    UserProfile.mk "id" "ann" 109 ∈ σ.shared.2.userProfiles :=
  reach (NoFaults ⊓ Unforged)
    (starting ++ registering 1 105 ++ looking 2 108 105 ++ looking 3 108 105 ++ storing 2 109 ++ storing 3 109 ++
      sending 4 (getting userPath .none) ++ [.reply 4])
    (fun σ => (wasSpawned σ.log 2 (.http 0 api (getting userPath (some (annToken 105)))) = true ∧
      wasAnswered σ.log 2 200 = true) ∧
    (wasSpawned σ.log 3 (.http 0 api (getting userPath (some (annToken 105)))) = true ∧
      wasAnswered σ.log 3 500 = true) ∧
    (wasSpawned σ.log 4 (.http 0 api (getting userPath .none)) = true ∧
      wasAnswered σ.log 4 401 = true) ∧
    UserProfile.mk "id" "ann" 109 ∈ σ.shared.2.userProfiles) (by decide +kernel)

end Scripts
end Servir.Consumer.App
