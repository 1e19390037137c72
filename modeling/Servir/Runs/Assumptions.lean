import Servir.Interleaving.Progress
import Servir.Runs.Identity

/-!
# Assumptions on runs

What a claim may assume of the surroundings of the servers: that the database
meets no fault, that the clock does not go back, and that tokens cannot be
forged. Each is checked at every step of a run.
-/

namespace Servir
open Interleaving

/-- The token that a request presents. -/
def Request.presents : Request → Option String
  | .refresh body => some body.refreshToken
  | .logout body => some body.refreshToken
  | .me authorization => bearerToken authorization
  | .guarded authorization => bearerToken authorization
  | _ => none

/-- The configuration that verifies the token. -/
def Request.config (api : Api) : Request → AuthConfig
  | .me _ => api.layer
  | .guarded _ => api.layer
  | _ => api.routes

/-- The string `tok` was signed as the token of `c`. -/
def Signed (log : Trail) (secret tok : String) (c : Claims) : Prop :=
  ∃ t, encoded t secret c (.ok tok) ∈ log

theorem Signed.mono {log log' : Trail} {secret tok : String} {c : Claims}
    (h : Signed log secret tok c) (hsub : log ⊆ log') : Signed log' secret tok c :=
  h.imp (fun _ hmem => hsub hmem)

variable {K : Crypto}

/-- Any statement may fail and any task may be dropped. -/
def Unrestricted : Assumption (service K) := fun _ _ _ => True

/-- No statement fails for a reason of the database itself. -/
def NoFaults : Assumption (service K) := fun _ _ ev =>
  ∀ t q display, ev ≠ ran t q (.error (.fault display))

/-- The clock does not go back. -/
def Monotone : Assumption (service K) := fun sh _ ev => ∀ t now, ev = read t now → sh.clock ≤ now

/-- Of every presented string that opens, `Q` holds for its secret, itself and its claims. -/
def Presenting (Q : Trail → String → String → Claims → Prop) : Assumption (service K) :=
  fun _ log ev => ∀ t s api req tok c, ev = .spawned t (.request s api req) →
    req.presents = some tok → K.openToken (req.config api).secret tok = .ok c →
    Q log (req.config api).secret tok c

/-- A presented string that opens was signed before by a handler. -/
def Unforged : Assumption (service K) := Presenting Signed

/-- The string is a token of an OK response. -/
def Granted (log : Trail) (tok : String) : Prop :=
  ∃ t resp, .replied t (.tokens (.ok resp)) ∈ log ∧
    (tok = resp.accessToken ∨ tok = resp.refreshToken)

/-- A presented string that opens was returned before in an OK response. -/
def Held : Assumption (service K) := Presenting fun log _ tok _ => Granted log tok

/-- The environment can always answer without a fault and without turning the clock back. -/
theorem responsive : Responsive (NoFaults ⊓ Monotone ⊓ Unforged : Assumption (service K)) where
  answers sh log t e := by
    have hallowed : ∀ a, (∀ q display, (.performed t e a : Happening) ≠
        ran t q (.error (.fault display))) → (∀ now, (.performed t e a : Happening) = read t now →
        sh.clock ≤ now) → (NoFaults ⊓ Monotone ⊓ Unforged : Assumption (service K)) sh log
          (.performed t e a) := by
      intro a hfault hclock
      refine ⟨⟨?_, ?_⟩, by simp [Unforged, Presenting]⟩
      · rintro t' q display he
        cases he
        exact hfault q display rfl
      · rintro t' now he
        cases he
        exact hclock now rfl
    cases e with
    | nowSecs =>
      refine ⟨.reading sh.clock, _, _, rfl, hallowed _ (by simp) ?_⟩
      rintro now he
      cases he
      exact UInt64.le_refl _
    | newV4 =>
      obtain ⟨s, hs⟩ := Infinite.exists_notMem_finset sh.drawn.toFinset
      refine ⟨.uuid s, s, _, if_neg (by simpa using hs), hallowed _ (by simp) (by simp)⟩
    | generateSalt => exact ⟨.salt "", _, _, rfl, hallowed _ (by simp) (by simp)⟩
    | fillBytes => exact ⟨.bytes (Vector.replicate 32 0), _, _, rfl, hallowed _ (by simp) (by simp)⟩
    | encode secret c => exact ⟨.compute, _, _, rfl, hallowed _ (by simp) (by simp)⟩
    | sql q =>
      refine ⟨.execute, _, _, rfl, hallowed _ ?_ (by simp)⟩
      intro q' display he
      injection he with _ hq ha
      injection hq with hq
      subst q'
      exact Stmt.exec_ne_fault q sh.db display (eq_of_heq ha)
  replies sh log t o := by simp [NoFaults, Monotone, Unforged, Presenting]

section Decidable
variable (sh : (service K).Shared) (log : Trail) (ev : Happening)

instance : Decidable (Unrestricted sh log ev) := isTrue trivial

instance (A B : Assumption (service K)) [Decidable (A sh log ev)] [Decidable (B sh log ev)] :
    Decidable ((A ⊓ B) sh log ev) := inferInstanceAs (Decidable (A sh log ev ∧ B sh log ev))

def isFault : Happening → Bool
  | .performed _ (.sql _) (.error (.fault _)) => true
  | _ => false

instance : Decidable (NoFaults sh log ev) :=
  decidable_of_iff (isFault ev = false) (by
    unfold isFault NoFaults
    constructor
    · rintro hev t q display rfl
      simp at hev
    · intro hev
      split
      · exact absurd rfl (hev _ _ _)
      · rfl)

instance : Decidable (Monotone sh log ev) :=
  match ev with
  | .performed _ .nowSecs now => decidable_of_iff (sh.clock ≤ now) (by simp [Monotone])
  | .performed _ .newV4 _ | .performed _ .generateSalt _ | .performed _ .fillBytes _
  | .performed _ (.encode ..) _ | .performed _ (.sql _) _ | .spawned .. | .replied ..
  | .dropped _ => isTrue (by simp [Monotone])

instance (secret tok : String) (c : Claims) : Decidable (Signed log secret tok c) :=
  decidable_of_iff (log.any (fun ev => match ev with
      | .performed _ (.encode secret' c') (.ok tok') => secret' = secret ∧ c' = c ∧ tok' = tok
      | _ => False) = true) (by
    simp only [List.any_eq_true, Signed]
    constructor
    · rintro ⟨ev, hmem, hev⟩
      split at hev
      · simp only [decide_eq_true_eq] at hev
        obtain ⟨rfl, rfl, rfl⟩ := hev
        exact ⟨_, hmem⟩
      · simp at hev
    · rintro ⟨t, hmem⟩
      exact ⟨_, hmem, by simp⟩)

instance (tok : String) : Decidable (Granted log tok) :=
  decidable_of_iff (log.any (fun ev => match ev with
      | .replied _ (.tokens (.ok resp)) => tok = resp.accessToken ∨ tok = resp.refreshToken
      | _ => False) = true) (by
    simp only [List.any_eq_true, Granted]
    constructor
    · rintro ⟨ev, hmem, hev⟩
      split at hev
      · exact ⟨_, _, hmem, of_decide_eq_true hev⟩
      · simp at hev
    · rintro ⟨t, resp, hmem, htok⟩
      exact ⟨_, hmem, by simpa using htok⟩)

/-- Does `Q` hold of the token that a request presents, if it opens? -/
def checkPresented (K : Crypto) (Q : Trail → String → String → Claims → Prop)
    [∀ log secret tok c, Decidable (Q log secret tok c)] (log : Trail) : Happening → Bool
  | .spawned _ (.request _ api req) => match req.presents with
    | some tok => match K.openToken (req.config api).secret tok with
      | .ok c => Q log (req.config api).secret tok c
      | .error _ => true
    | none => true
  | _ => true

instance (Q : Trail → String → String → Claims → Prop)
    [∀ log secret tok c, Decidable (Q log secret tok c)] : Decidable (Presenting Q sh log ev) :=
  decidable_of_iff (checkPresented K Q log ev = true) (by
    constructor
    · rintro hev t s api req tok c rfl htok hopen
      simpa [checkPresented, htok, hopen] using hev
    · intro hev
      unfold checkPresented
      split
      · split
        · split
          · exact decide_eq_true (hev _ _ _ _ _ _ rfl ‹_› ‹_›)
          · rfl
        · rfl
      · rfl)

instance : Decidable (Unforged sh log ev) := inferInstanceAs (Decidable (Presenting Signed sh log ev))

instance : Decidable (Held sh log ev) :=
  inferInstanceAs (Decidable (Presenting (fun log _ tok _ => Granted log tok) sh log ev))

end Decidable

variable {A : Assumption (service K)} {sh : Shared} {log later earlier : Trail}

namespace Traces

theorem assumed {B : Assumption (service K)} (h : Traces K A sh (later ++ ev :: earlier))
    (hAB : A ≤ B) : ∃ sh₀, Traces K A sh₀ earlier ∧ B sh₀ earlier ev := by
  obtain ⟨sh₀, h₀, hA⟩ := Traced.assumed h rfl
  exact ⟨sh₀, h₀, hAB _ _ _ hA⟩

theorem not_fault (hA : A ≤ NoFaults) (h : Traces K A sh log) (t : ℕ) (q : Stmt)
    (display : String) : ran t q (.error (.fault display)) ∉ log := by
  intro hmem
  obtain ⟨later, earlier, rfl⟩ := List.append_of_mem hmem
  obtain ⟨sh₀, -, hnone⟩ := assumed h hA
  exact hnone t q display rfl

theorem read_le_clock (hA : A ≤ Monotone) {sh : (service K).Shared} (h : Traces K A sh log) {t : ℕ}
    {now : UInt64} (hr : read t now ∈ log) : now ≤ Shared.clock sh := by
  induction h with
  | start => cases hr
  | spawn _ _ _ _ ih => exact ih (by simpa using hr)
  | perform _ _ _ hresp hallowed ih =>
    have hresp' := respond_iff.1 ⟨_, hresp⟩
    rcases List.mem_cons.1 hr with he | hr
    · cases he
      cases hresp'
      exact UInt64.le_refl _
    · have hold := ih hr
      cases hresp' with
      | nowSecs now => exact UInt64.le_trans hold (hA _ _ _ hallowed _ _ rfl)
      | _ => exact hold
  | reply _ _ _ _ ih => exact ih (by simpa using hr)
  | drop _ _ _ ih => exact ih (by simpa using hr)

theorem reads_ordered (hA : A ≤ Monotone) {t t' : ℕ} {now now' : UInt64}
    (h : Traces K A sh (later ++ read t now :: earlier)) (hr : read t' now' ∈ earlier) :
    now' ≤ now := by
  obtain ⟨sh₀, h₀, hallowed⟩ := assumed h hA
  exact UInt64.le_trans (read_le_clock hA h₀ hr) (hallowed t now rfl)

theorem presented {t s : ℕ} {api : Api} {req : Request} {tok : String} {c : Claims}
    (hA : A ≤ Unforged)
    (h : Traces K A sh (later ++ .spawned t (.request s api req) :: earlier))
    (htok : req.presents = some tok) (hopen : K.openToken (req.config api).secret tok = .ok c) :
    Signed earlier (req.config api).secret tok c := by
  obtain ⟨sh₀, -, hforged⟩ := assumed h hA
  exact hforged _ _ _ _ _ _ rfl htok hopen

end Traces
end Servir
