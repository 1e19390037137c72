import Servir.Interleaving.Program

/-!
# Pools of interleaved tasks

A service starts programs for jobs and answers their effects from one shared
state. A pool runs any number of them: a step spawns a task, answers the next
effect of one task, replies with the outcome of a finished task, or drops an
unfinished one. The log records what happened, newest first. Runs are restricted
by an assumption on each step, so that one pool serves all fault models.
-/

namespace Servir.Interleaving

variable {S : Signature} {J O : Type}

/-- What a step leaves in the log. -/
inductive Event (S : Signature) (J O : Type) where
  | spawned (t : ℕ) (job : J)
  | performed (t : ℕ) (e : S.Effect) (a : S.Answer e)
  | replied (t : ℕ) (o : O)
  | dropped (t : ℕ)

def Event.task : Event S J O → ℕ
  | .spawned t _ => t
  | .performed t _ _ => t
  | .replied t _ => t
  | .dropped t => t

instance [DecidableEq S.Effect] [∀ e, DecidableEq (S.Answer e)] [DecidableEq J] [DecidableEq O] :
    DecidableEq (Event S J O)
  | .spawned t j, .spawned t' j' => decidable_of_iff (t = t' ∧ j = j') (by simp)
  | .performed t e a, .performed t' e' a' =>
    if h : e = e' then decidable_of_iff (t = t' ∧ h ▸ a = a') (by subst h; simp)
    else isFalse (by simp [h])
  | .replied t o, .replied t' o' => decidable_of_iff (t = t' ∧ o = o') (by simp)
  | .dropped t, .dropped t' => decidable_of_iff (t = t') (by simp)
  | .spawned .., .performed .. | .spawned .., .replied .. | .spawned .., .dropped _
  | .performed .., .spawned .. | .performed .., .replied .. | .performed .., .dropped _
  | .replied .., .spawned .. | .replied .., .performed .. | .replied .., .dropped _
  | .dropped _, .spawned .. | .dropped _, .performed .. | .dropped _, .replied .. =>
    isFalse (by simp)

abbrev Log (S : Signature) (J O : Type) := List (Event S J O)

/-- The answered effects of task `t`, newest first. -/
def history (t : ℕ) : Log S J O → History S
  | [] => []
  | .performed t' e a :: log => if t' = t then ⟨e, a⟩ :: history t log else history t log
  | _ :: log => history t log

structure Service (S : Signature) (J O : Type) where
  Shared : Type
  Choice : Type
  start : J → Program S O
  /-- May this job be spawned after this log? -/
  admits : Log S J O → J → Bool
  /-- The answer to an effect. The choice resolves what the shared state leaves open. -/
  respond : Shared → (e : S.Effect) → Choice → Option (S.Answer e × Shared)

inductive Status (S : Signature) (O : Type) where
  | running (program : Program S O)
  | replied
  | dropped

structure Task (S : Signature) (J O : Type) where
  job : J
  status : Status S O

structure Pool (V : Service S J O) where
  shared : V.Shared
  tasks : ℕ → Option (Task S J O)
  log : Log S J O

inductive Label (V : Service S J O) where
  | spawn (t : ℕ) (job : J)
  | perform (t : ℕ) (choice : V.Choice)
  | reply (t : ℕ)
  | drop (t : ℕ)

variable {V : Service S J O}

def Label.task : Label V → ℕ
  | .spawn t _ => t
  | .perform t _ => t
  | .reply t => t
  | .drop t => t

/-- The effect of one step: its event, the new shared state and the new state of its task. -/
structure Move (V : Service S J O) where
  event : Event S J O
  shared : V.Shared
  task : Task S J O

namespace Pool

def start (init : V.Shared) : Pool V := ⟨init, fun _ => none, []⟩

def move (σ : Pool V) : Label V → Option (Move V)
  | .spawn t job =>
    match σ.tasks t with
    | none => if V.admits σ.log job then
        some ⟨.spawned t job, σ.shared, ⟨job, .running (V.start job)⟩⟩ else none
    | some _ => none
  | .perform t c =>
    match σ.tasks t with
    | some ⟨job, .running (.perform e k)⟩ =>
      match V.respond σ.shared e c with
      | some (a, shared) => some ⟨.performed t e a, shared, ⟨job, .running (k a)⟩⟩
      | none => none
    | _ => none
  | .reply t =>
    match σ.tasks t with
    | some ⟨job, .running (.pure o)⟩ => some ⟨.replied t o, σ.shared, ⟨job, .replied⟩⟩
    | _ => none
  | .drop t =>
    match σ.tasks t with
    | some ⟨job, .running _⟩ => some ⟨.dropped t, σ.shared, ⟨job, .dropped⟩⟩
    | _ => none

def advance (σ : Pool V) (t : ℕ) (m : Move V) : Pool V :=
  ⟨m.shared, Function.update σ.tasks t (some m.task), m.event :: σ.log⟩

end Pool

/-- A restriction on steps, read off the shared state and the log before the step. -/
abbrev Assumption (V : Service S J O) := V.Shared → Log S J O → Event S J O → Prop

variable {A B : Assumption V}

/-- One step of the pool that the assumption allows. -/
def Step (A : Assumption V) (σ : Pool V) (l : Label V) (σ' : Pool V) : Prop :=
  ∃ m, σ.move l = some m ∧ A σ.shared σ.log m.event ∧ σ' = σ.advance l.task m

/-- Finitely many steps, with their labels in order. -/
inductive Path (A : Assumption V) : Pool V → List (Label V) → Pool V → Prop where
  | nil (σ : Pool V) : Path A σ [] σ
  | snoc {σ σ' σ'' : Pool V} {ls : List (Label V)} {l : Label V} :
      Path A σ ls σ' → Step A σ' l σ'' → Path A σ (ls ++ [l]) σ''

def Reach (A : Assumption V) (init : V.Shared) (σ : Pool V) : Prop :=
  ∃ ls, Path A (.start init) ls σ

/-- What a step does, by the kind of its label. -/
theorem Step.cases {σ σ' : Pool V} {l : Label V} (h : Step A σ l σ') :
    (∃ t job, l = .spawn t job ∧ σ.tasks t = none ∧ V.admits σ.log job = true ∧
      A σ.shared σ.log (.spawned t job) ∧
      σ' = σ.advance t ⟨.spawned t job, σ.shared, ⟨job, .running (V.start job)⟩⟩) ∨
    (∃ t c job e k a sh, l = .perform t c ∧ σ.tasks t = some ⟨job, .running (.perform e k)⟩ ∧
      V.respond σ.shared e c = some (a, sh) ∧ A σ.shared σ.log (.performed t e a) ∧
      σ' = σ.advance t ⟨.performed t e a, sh, ⟨job, .running (k a)⟩⟩) ∨
    (∃ t job o, l = .reply t ∧ σ.tasks t = some ⟨job, .running (.pure o)⟩ ∧
      A σ.shared σ.log (.replied t o) ∧
      σ' = σ.advance t ⟨.replied t o, σ.shared, ⟨job, .replied⟩⟩) ∨
    (∃ t job p, l = .drop t ∧ σ.tasks t = some ⟨job, .running p⟩ ∧
      A σ.shared σ.log (.dropped t) ∧
      σ' = σ.advance t ⟨.dropped t, σ.shared, ⟨job, .dropped⟩⟩) := by
  obtain ⟨m, hm, hA, rfl⟩ := h
  cases l with
  | spawn t job =>
    left
    simp only [Pool.move] at hm
    split at hm
    · split at hm
      · cases hm
        exact ⟨t, job, rfl, ‹_›, ‹_›, hA, rfl⟩
      · cases hm
    · cases hm
  | perform t c =>
    right; left
    simp only [Pool.move] at hm
    split at hm
    · split at hm
      · cases hm
        exact ⟨t, c, _, _, _, _, _, rfl, ‹_›, ‹_›, hA, rfl⟩
      · cases hm
    · cases hm
  | reply t =>
    right; right; left
    simp only [Pool.move] at hm
    split at hm
    · cases hm
      exact ⟨t, _, _, rfl, ‹_›, hA, rfl⟩
    · cases hm
  | drop t =>
    right; right; right
    simp only [Pool.move] at hm
    split at hm
    · cases hm
      exact ⟨t, _, _, rfl, ‹_›, hA, rfl⟩
    · cases hm

/-- Only an answered effect changes the shared state. -/
theorem Step.shared {σ σ' : Pool V} {l : Label V} (h : Step A σ l σ') :
    σ'.shared = σ.shared ∨ ∃ e a c, σ'.log = .performed l.task e a :: σ.log ∧
      V.respond σ.shared e c = some (a, σ'.shared) := by
  obtain ⟨t, job, rfl, -, -, -, rfl⟩ | ⟨t, c, job, e, k, a, sh, rfl, -, hr, -, rfl⟩ |
    ⟨t, job, o, rfl, -, -, rfl⟩ | ⟨t, job, p, rfl, -, -, rfl⟩ := h.cases
  · exact .inl rfl
  · exact .inr ⟨e, a, c, rfl, hr⟩
  · exact .inl rfl
  · exact .inl rfl

theorem Step.mono (hAB : ∀ sh log ev, A sh log ev → B sh log ev) {σ σ' : Pool V} {l : Label V}
    (h : Step A σ l σ') : Step B σ l σ' := by
  obtain ⟨m, hm, hA, rfl⟩ := h
  exact ⟨m, hm, hAB _ _ _ hA, rfl⟩

namespace Path

theorem mono (hAB : ∀ sh log ev, A sh log ev → B sh log ev) {σ σ' : Pool V}
    {ls : List (Label V)} (h : Path A σ ls σ') : Path B σ ls σ' := by
  induction h with
  | nil => exact .nil _
  | snoc _ hs ih => exact ih.snoc (hs.mono hAB)

theorem append {σ σ' σ'' : Pool V} {ls ls' : List (Label V)} (h : Path A σ ls σ')
    (h' : Path A σ' ls' σ'') : Path A σ (ls ++ ls') σ'' := by
  induction h' with
  | nil => simpa using h
  | snoc _ hs ih =>
    rw [← List.append_assoc]
    exact ih.snoc hs

theorem log_suffix {σ σ' : Pool V} {ls : List (Label V)} (h : Path A σ ls σ') :
    σ.log <:+ σ'.log := by
  induction h with
  | nil => exact List.suffix_rfl
  | snoc _ hs ih =>
    obtain ⟨m, _, _, rfl⟩ := hs
    exact ih.trans (List.suffix_cons _ _)

end Path

namespace Reach

variable {init : V.Shared}

theorem path {σ σ' : Pool V} {ls : List (Label V)} (h : Reach A init σ) (hp : Path A σ ls σ') :
    Reach A init σ' := by
  obtain ⟨ks, hk⟩ := h
  exact ⟨_, hk.append hp⟩

theorem step {σ σ' : Pool V} {l : Label V} (h : Reach A init σ) (hs : Step A σ l σ') :
    Reach A init σ' := h.path (.snoc (.nil σ) hs)

theorem mono (hAB : ∀ sh log ev, A sh log ev → B sh log ev) {σ : Pool V}
    (h : Reach A init σ) : Reach B init σ := by
  obtain ⟨ls, hp⟩ := h
  exact ⟨ls, hp.mono hAB⟩

end Reach

/-- Execute labels in order, each checked against the assumption. -/
def run (A : Assumption V) [∀ sh log ev, Decidable (A sh log ev)] :
    Pool V → List (Label V) → Option (Pool V)
  | σ, [] => some σ
  | σ, l :: ls => match σ.move l with
    | some m => if A σ.shared σ.log m.event then run A (σ.advance l.task m) ls else none
    | none => none

theorem path_of_run [∀ sh log ev, Decidable (A sh log ev)] {σ σ' : Pool V}
    {ls : List (Label V)} (h : run A σ ls = some σ') : Path A σ ls σ' := by
  induction ls generalizing σ with
  | nil =>
    simp only [run, Option.some.injEq] at h
    exact h ▸ .nil σ
  | cons l ls ih =>
    simp only [run] at h
    split at h
    · split at h
      · have hstep : Step A σ l (σ.advance l.task _) := ⟨_, ‹_›, ‹_›, rfl⟩
        exact Path.append (.snoc (.nil σ) hstep) (ih h)
      · cases h
    · cases h

/-- A run that can be executed reaches a pool with every property found in it. -/
theorem reach_of_run [∀ sh log ev, Decidable (A sh log ev)] {init : V.Shared}
    {ls : List (Label V)} {P : Pool V → Prop} [DecidablePred P]
    (h : (run A (.start init) ls).any (fun σ => decide (P σ)) = true) :
    ∃ σ, Reach A init σ ∧ P σ := by
  obtain ⟨σ, hrun, hP⟩ := (Option.any_eq_true _ _).1 h
  exact ⟨σ, ⟨ls, path_of_run hrun⟩, of_decide_eq_true hP⟩

theorem reach_of_run_then [∀ sh log ev, Decidable (A sh log ev)] {init : V.Shared}
    {ls ls' : List (Label V)} {P : Pool V → Pool V → Prop} [∀ σ σ', Decidable (P σ σ')]
    (h : (run A (.start init) ls).any (fun σ => (run A σ ls').any (fun σ' => decide (P σ σ'))) =
      true) : ∃ σ σ', Reach A init σ ∧ Path A σ ls' σ' ∧ P σ σ' := by
  obtain ⟨σ, hrun, h'⟩ := (Option.any_eq_true _ _).1 h
  obtain ⟨σ', hrun', hP⟩ := (Option.any_eq_true _ _).1 h'
  exact ⟨σ, σ', ⟨ls, path_of_run hrun⟩, path_of_run hrun', of_decide_eq_true hP⟩

end Servir.Interleaving
