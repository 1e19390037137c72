import Servir.Interleaving.Pool

/-!
# Traces: runs of a pool without its programs

A protocol states what a job may do next after each history of its own effects,
and which outcomes it may then reply. When every program of a service meets the
protocol, each run of the pool is a trace: a shared state and a log built by the
protocol alone. Invariants are proved on traces by induction on the log and
hold in every interleaving.
-/

namespace Servir.Interleaving

variable {S : Signature} {J O : Type} {V : Service S J O}

/-- What a job may attempt, and what it may reply, after a history of its own effects. -/
structure Protocol (S : Signature) (J O : Type) where
  attempts : J → History S → S.Effect → Prop
  replies : J → History S → O → Prop

/-- The programs of the service keep to the protocol. -/
def Service.Follows (V : Service S J O) (R : Protocol S J O) : Prop :=
  ∀ job, (V.start job).Meets (R.attempts job) (R.replies job) []

/-- The protocol that allows anything. -/
def Protocol.any (S : Signature) (J O : Type) : Protocol S J O :=
  ⟨fun _ _ _ => True, fun _ _ _ => True⟩

theorem Service.follows_any (V : Service S J O) : V.Follows (.any S J O) := by
  intro job
  generalize V.start job = p
  generalize ([] : History S) = h
  induction p generalizing h with
  | pure o => trivial
  | perform e k ih => exact ⟨trivial, fun a => ih a _⟩

/-- Task `t` was spawned for `job` and has neither replied nor been dropped. -/
structure Open (log : Log S J O) (t : ℕ) (job : J) : Prop where
  spawned : .spawned t job ∈ log
  not_replied : ∀ o, .replied t o ∉ log
  not_dropped : .dropped t ∉ log

inductive Traced (V : Service S J O) (R : Protocol S J O) (A : Assumption V) (init : V.Shared) :
    V.Shared → Log S J O → Prop where
  | start : Traced V R A init init []
  | spawn {sh log t job} : Traced V R A init sh log → (∀ ev ∈ log, ev.task ≠ t) →
      V.admits log job = true → A sh log (.spawned t job) →
      Traced V R A init sh (.spawned t job :: log)
  | perform {sh log t job e c a sh'} : Traced V R A init sh log → Open log t job →
      R.attempts job (history t log) e → V.respond sh e c = some (a, sh') →
      A sh log (.performed t e a) → Traced V R A init sh' (.performed t e a :: log)
  | reply {sh log t job o} : Traced V R A init sh log → Open log t job →
      R.replies job (history t log) o → A sh log (.replied t o) →
      Traced V R A init sh (.replied t o :: log)
  | drop {sh log t job} : Traced V R A init sh log → Open log t job →
      A sh log (.dropped t) → Traced V R A init sh (.dropped t :: log)

theorem Open.of_append {later earlier : Log S J O} {t : ℕ} {job : J}
    (h : Open (later ++ earlier) t job) (hj : .spawned t job ∈ earlier) : Open earlier t job where
  spawned := hj
  not_replied o ho := h.not_replied o (List.mem_append_right _ ho)
  not_dropped hd := h.not_dropped (List.mem_append_right _ hd)

@[simp] theorem history_nil (t : ℕ) : history t ([] : Log S J O) = [] := rfl

@[simp] theorem history_spawned (t t' : ℕ) (job : J) (log : Log S J O) :
    history t (.spawned t' job :: log) = history t log := rfl

@[simp] theorem history_replied (t t' : ℕ) (o : O) (log : Log S J O) :
    history t (.replied t' o :: log) = history t log := rfl

@[simp] theorem history_dropped (t t' : ℕ) (log : Log S J O) :
    history t (.dropped t' :: log) = history t log := rfl

@[simp] theorem history_self (t : ℕ) (e : S.Effect) (a : S.Answer e) (log : Log S J O) :
    history t (.performed t e a :: log) = ⟨e, a⟩ :: history t log := by simp [history]

theorem history_ne {t t' : ℕ} (h : t' ≠ t) (e : S.Effect) (a : S.Answer e) (log : Log S J O) :
    history t (.performed t' e a :: log) = history t log := by simp [history, h]

theorem mem_history {t : ℕ} {e : S.Effect} {a : S.Answer e} {log : Log S J O} :
    (⟨e, a⟩ : Entry S) ∈ history t log ↔ .performed t e a ∈ log := by
  induction log with
  | nil => simp
  | cons ev log ih =>
    cases ev with
    | performed t' e' a' =>
      by_cases ht : t' = t
      · subst t'
        simp [ih]
      · simp [history_ne ht, ih, Ne.symm ht]
    | spawned t' job => simp [ih]
    | replied t' o => simp [ih]
    | dropped t' => simp [ih]

theorem history_append (t : ℕ) (log log' : Log S J O) :
    history t (log ++ log') = history t log ++ history t log' := by
  induction log with
  | nil => rfl
  | cons ev log ih =>
    cases ev with
    | performed t' e a =>
      by_cases ht : t' = t
      · subst t'
        simp [ih]
      · simp [history_ne ht, ih]
    | spawned t' job => simp [ih]
    | replied t' o => simp [ih]
    | dropped t' => simp [ih]

theorem history_split {t : ℕ} {log : Log S J O} {newer older : History S} {e : S.Effect}
    {a : S.Answer e} (h : history t log = newer ++ ⟨e, a⟩ :: older) :
    ∃ later earlier, log = later ++ .performed t e a :: earlier ∧ history t earlier = older := by
  induction log generalizing newer with
  | nil => simp at h
  | cons ev log ih =>
    have hskip : history t log = newer ++ ⟨e, a⟩ :: older → ∃ later earlier,
        ev :: log = later ++ .performed t e a :: earlier ∧ history t earlier = older := by
      intro h'
      obtain ⟨later, earlier, rfl, hm⟩ := ih h'
      exact ⟨ev :: later, earlier, rfl, hm⟩
    cases ev with
    | performed t' e' a' =>
      by_cases ht : t' = t
      · subst t'
        rw [history_self] at h
        cases newer with
        | nil =>
          obtain ⟨hentry, rfl⟩ := List.cons.inj h
          cases hentry
          exact ⟨[], log, rfl, rfl⟩
        | cons x newer =>
          obtain ⟨later, earlier, rfl, hm⟩ := ih (List.cons.inj h).2
          exact ⟨_ :: later, earlier, rfl, hm⟩
      · exact hskip (by rwa [history_ne ht] at h)
    | spawned t' job => exact hskip h
    | replied t' o => exact hskip h
    | dropped t' => exact hskip h

theorem history_eq_nil {t : ℕ} {log : Log S J O} (h : ∀ ev ∈ log, ev.task ≠ t) :
    history t log = [] := by
  induction log with
  | nil => rfl
  | cons ev log ih =>
    have ih' := ih (fun ev' hev' => h ev' (List.mem_cons_of_mem _ hev'))
    cases ev with
    | performed t' e a =>
      have hne : t' ≠ t := h _ List.mem_cons_self
      rw [history_ne hne, ih']
    | spawned t' job => exact ih'
    | replied t' o => exact ih'
    | dropped t' => exact ih'

theorem ordered_of_mem {log : Log S J O} {x y : Event S J O} (hx : x ∈ log) (hy : y ∈ log) :
    x = y ∨ (∃ later earlier, log = later ++ x :: earlier ∧ y ∈ earlier) ∨
      ∃ later earlier, log = later ++ y :: earlier ∧ x ∈ earlier := by
  obtain ⟨later, earlier, rfl⟩ := List.append_of_mem hx
  rcases List.mem_append.1 hy with hl | hr
  · obtain ⟨l₁, l₂, rfl⟩ := List.append_of_mem hl
    exact .inr (.inr ⟨l₁, l₂ ++ x :: earlier, by simp, by simp⟩)
  · rcases List.mem_cons.1 hr with rfl | hr
    · exact .inl rfl
    · exact .inr (.inl ⟨later, earlier, rfl, hr⟩)

theorem split_unique {later later' earlier earlier' : Log S J O} {x : Event S J O}
    (h : later ++ x :: earlier = later' ++ x :: earlier') (hx : x ∉ earlier) (hx' : x ∉ earlier') :
    earlier = earlier' := by
  have hsuffix : x :: earlier' <:+ later ++ x :: earlier := h ▸ List.suffix_append _ _
  rcases List.suffix_or_suffix_of_suffix (List.suffix_append later (x :: earlier)) hsuffix with
    hs | hs
  · rcases List.suffix_cons_iff.1 hs with he | hs
    · exact (List.cons.inj he).2
    · exact absurd (hs.subset List.mem_cons_self) hx'
  · rcases List.suffix_cons_iff.1 hs with he | hs
    · exact (List.cons.inj he).2.symm
    · exact absurd (hs.subset List.mem_cons_self) hx

/-- The task table agrees with the log. -/
private structure Coherent (R : Protocol S J O) (σ : Pool V) : Prop where
  absent : ∀ t, σ.tasks t = none → ∀ ev ∈ σ.log, ev.task ≠ t
  running : ∀ t job p, σ.tasks t = some ⟨job, .running p⟩ →
    Open σ.log t job ∧ p.Meets (R.attempts job) (R.replies job) (history t σ.log)
  replied : ∀ t job, σ.tasks t = some ⟨job, .replied⟩ → ∃ o, .replied t o ∈ σ.log
  dropped : ∀ t job, σ.tasks t = some ⟨job, .dropped⟩ → .dropped t ∈ σ.log

private theorem Open.cons_other {log : Log S J O} {t : ℕ} {job : J} (h : Open log t job)
    {ev : Event S J O} (hev : ev.task ≠ t) : Open (ev :: log) t job where
  spawned := List.mem_cons_of_mem _ h.spawned
  not_replied o ho := by
    rcases List.mem_cons.1 ho with rfl | ho
    · exact hev rfl
    · exact h.not_replied o ho
  not_dropped hd := by
    rcases List.mem_cons.1 hd with rfl | hd
    · exact hev rfl
    · exact h.not_dropped hd

private theorem history_cons_other {t : ℕ} {ev : Event S J O} (hev : ev.task ≠ t)
    (log : Log S J O) : history t (ev :: log) = history t log := by
  cases ev with
  | performed t' e a => exact history_ne hev e a log
  | spawned t' job => rfl
  | replied t' o => rfl
  | dropped t' => rfl

/-- A step of task `t` keeps coherence when it keeps it for `t` itself. -/
private theorem Coherent.advance {R : Protocol S J O} {σ : Pool V} (h : Coherent R σ) {t : ℕ}
    {m : Move V} (hm : m.event.task = t)
    (hrun : ∀ p, m.task.status = .running p → Open (m.event :: σ.log) t m.task.job ∧
      p.Meets (R.attempts m.task.job) (R.replies m.task.job) (history t (m.event :: σ.log)))
    (hrep : m.task.status = .replied → ∃ o, m.event = .replied t o)
    (hdrop : m.task.status = .dropped → m.event = .dropped t) :
    Coherent R (σ.advance t m) where
  absent t' ht' ev hev := by
    have hne : t' ≠ t := by
      rintro rfl
      simp [Pool.advance] at ht'
    simp only [Pool.advance, Function.update_of_ne hne] at ht' hev
    rcases List.mem_cons.1 hev with rfl | hev
    · exact fun he => hne (he.symm.trans hm)
    · exact h.absent t' ht' ev hev
  running t' job p hp := by
    by_cases hne : t' = t
    · subst t'
      simp only [Pool.advance, Function.update_self, Option.some.injEq] at hp
      have := hrun p (by rw [hp])
      rwa [hp] at this
    · simp only [Pool.advance, Function.update_of_ne hne] at hp ⊢
      have hev : m.event.task ≠ t' := fun he => hne (he.symm.trans hm)
      obtain ⟨hopen, hmeets⟩ := h.running t' job p hp
      refine ⟨hopen.cons_other hev, ?_⟩
      rwa [history_cons_other hev]
  replied t' job hp := by
    by_cases hne : t' = t
    · subst t'
      simp only [Pool.advance, Function.update_self, Option.some.injEq] at hp ⊢
      obtain ⟨o, ho⟩ := hrep (by rw [hp])
      exact ⟨o, ho ▸ List.mem_cons_self⟩
    · simp only [Pool.advance, Function.update_of_ne hne] at hp ⊢
      exact (h.replied t' job hp).imp (fun _ => List.mem_cons_of_mem _)
  dropped t' job hp := by
    by_cases hne : t' = t
    · subst t'
      simp only [Pool.advance, Function.update_self, Option.some.injEq] at hp ⊢
      exact hdrop (by rw [hp]) ▸ List.mem_cons_self
    · simp only [Pool.advance, Function.update_of_ne hne] at hp ⊢
      exact List.mem_cons_of_mem _ (h.dropped t' job hp)

variable {R : Protocol S J O} {A : Assumption V} {init : V.Shared}

private theorem traced_step (hV : V.Follows R) {σ σ' : Pool V} {l : Label V}
    (hc : Coherent R σ) (ht : Traced V R A init σ.shared σ.log) (hs : Step A σ l σ') :
    Coherent R σ' ∧ Traced V R A init σ'.shared σ'.log := by
  obtain ⟨t, job, rfl, hnone, hadmits, hA, rfl⟩ | ⟨t, c, job, e, k, a, sh, rfl, hrun, hr, hA, rfl⟩ |
    ⟨t, job, o, rfl, hrun, hA, rfl⟩ | ⟨t, job, p, rfl, hrun, hA, rfl⟩ := hs.cases
  · have hfresh := hc.absent t hnone
    refine ⟨hc.advance rfl ?_ nofun nofun, ht.spawn hfresh hadmits hA⟩
    rintro p hp
    cases hp
    refine ⟨⟨List.mem_cons_self, ?_, ?_⟩, ?_⟩
    · intro o ho
      rcases List.mem_cons.1 ho with ho | ho
      · cases ho
      · exact hfresh _ ho rfl
    · intro hd
      rcases List.mem_cons.1 hd with hd | hd
      · cases hd
      · exact hfresh _ hd rfl
    · simpa [history_eq_nil hfresh] using hV job
  · obtain ⟨hopen, hguard, hnext⟩ := hc.running t job _ hrun
    refine ⟨hc.advance rfl ?_ nofun nofun, ht.perform hopen hguard hr hA⟩
    rintro p hp
    cases hp
    refine ⟨⟨List.mem_cons_of_mem _ hopen.spawned, ?_, ?_⟩, ?_⟩
    · simpa using hopen.not_replied
    · simpa using hopen.not_dropped
    · simpa using hnext a
  · obtain ⟨hopen, hpost⟩ := hc.running t job _ hrun
    exact ⟨hc.advance rfl nofun (fun _ => ⟨o, rfl⟩) nofun, ht.reply hopen hpost hA⟩
  · obtain ⟨hopen, _⟩ := hc.running t job _ hrun
    exact ⟨hc.advance rfl nofun nofun (fun _ => rfl), ht.drop hopen hA⟩

private theorem Reach.coherent (hV : V.Follows R) {σ : Pool V} (h : Reach A init σ) :
    Coherent R σ ∧ Traced V R A init σ.shared σ.log := by
  obtain ⟨ls, hp⟩ := h
  induction hp with
  | nil => exact ⟨⟨fun _ _ _ => nofun, nofun, nofun, nofun⟩, .start⟩
  | snoc _ hstep ih => exact traced_step hV ih.1 ih.2 hstep

/-- Refinement: the log of a reachable pool is a trace of the protocol. -/
theorem Reach.traced (hV : V.Follows R) {σ : Pool V} (h : Reach A init σ) :
    Traced V R A init σ.shared σ.log := (h.coherent hV).2

theorem Reach.running (hV : V.Follows R) {σ : Pool V} (h : Reach A init σ) {t : ℕ} {job : J}
    (ho : Open σ.log t job) : ∃ job p, σ.tasks t = some ⟨job, .running p⟩ := by
  obtain ⟨hc, -⟩ := h.coherent hV
  cases htask : σ.tasks t with
  | none => exact absurd rfl (hc.absent t htask _ ho.spawned)
  | some task =>
    obtain ⟨job', p | _ | _⟩ := task
    · exact ⟨job', p, rfl⟩
    · obtain ⟨o, hrep⟩ := hc.replied t job' htask
      exact absurd hrep (ho.not_replied o)
    · exact absurd (hc.dropped t job' htask) ho.not_dropped

theorem Reach.absent (hV : V.Follows R) {σ : Pool V} (h : Reach A init σ) {t : ℕ}
    (ht : ∀ ev ∈ σ.log, ev.task ≠ t) : σ.tasks t = none := by
  obtain ⟨hc, -⟩ := h.coherent hV
  cases htask : σ.tasks t with
  | none => rfl
  | some task =>
    obtain ⟨job, p | _ | _⟩ := task
    · exact absurd rfl (ht _ (hc.running t job p htask).1.spawned)
    · obtain ⟨o, ho⟩ := hc.replied t job htask
      exact absurd rfl (ht _ ho)
    · exact absurd rfl (ht _ (hc.dropped t job htask))

namespace Traced

variable {sh : V.Shared} {log : Log S J O}

theorem mono {B : Assumption V} (hAB : ∀ sh log ev, A sh log ev → B sh log ev)
    (h : Traced V R A init sh log) : Traced V R B init sh log := by
  induction h with
  | start => exact .start
  | spawn _ hf ha hA ih => exact ih.spawn hf ha (hAB _ _ _ hA)
  | perform _ ho hg hr hA ih => exact ih.perform ho hg hr (hAB _ _ _ hA)
  | reply _ ho hq hA ih => exact ih.reply ho hq (hAB _ _ _ hA)
  | drop _ ho hA ih => exact ih.drop ho (hAB _ _ _ hA)

/-- What only effects can change is proved along the effects of a trace. -/
theorem along_effects {P : V.Shared → Log S J O → Prop} (h : Traced V R A init sh log)
    (start : P init [])
    (quiet : ∀ sh log ev, (∀ t e a, ev ≠ .performed t e a) → P sh log → P sh (ev :: log))
    (perform : ∀ sh log t e c a sh', Traced V R A init sh log →
      V.respond sh e c = some (a, sh') → P sh log → P sh' (.performed t e a :: log)) :
    P sh log := by
  induction h with
  | start => exact start
  | spawn _ _ _ _ ih => exact quiet _ _ _ (by simp) ih
  | perform ht _ _ hr _ ih => exact perform _ _ _ _ _ _ _ ht hr ih
  | reply _ _ _ _ ih => exact quiet _ _ _ (by simp) ih
  | drop _ _ _ ih => exact quiet _ _ _ (by simp) ih

/-- The log before any event of a trace is itself the log of a trace. -/
theorem before {later earlier : Log S J O} (h : Traced V R A init sh (later ++ earlier)) :
    ∃ sh₀, Traced V R A init sh₀ earlier := by
  induction later generalizing sh with
  | nil => exact ⟨sh, h⟩
  | cons ev later ih =>
    cases h with
    | spawn h _ _ _ => exact ih h
    | perform h _ _ _ _ => exact ih h
    | reply h _ _ _ => exact ih h
    | drop h _ _ => exact ih h

theorem of_suffix {earlier : Log S J O} (h : Traced V R A init sh log)
    (hs : earlier <:+ log) : ∃ sh₀, Traced V R A init sh₀ earlier := by
  obtain ⟨later, rfl⟩ := hs
  exact h.before

theorem assumed (h : Traced V R A init sh log) {ev : Event S J O} {later earlier : Log S J O}
    (hlog : log = later ++ ev :: earlier) : ∃ sh₀, Traced V R A init sh₀ earlier ∧ A sh₀ earlier ev := by
  subst hlog
  obtain ⟨sh₁, h₁⟩ := h.before
  cases h₁ with
  | spawn h _ _ hA => exact ⟨_, h, hA⟩
  | perform h _ _ _ hA => exact ⟨_, h, hA⟩
  | reply h _ _ hA => exact ⟨_, h, hA⟩
  | drop h _ hA => exact ⟨_, h, hA⟩

/-- Every effect was answered from the state that the log before it led to. -/
theorem answered {later earlier : Log S J O} {t : ℕ} {e : S.Effect} {a : S.Answer e}
    (h : Traced V R A init sh (later ++ .performed t e a :: earlier)) :
    ∃ sh₀ c sh₁, Traced V R A init sh₀ earlier ∧ V.respond sh₀ e c = some (a, sh₁) := by
  obtain ⟨sh₁, h₁⟩ := h.before
  cases h₁ with
  | perform ht _ _ hr _ => exact ⟨_, _, _, ht, hr⟩

theorem admitted {later earlier : Log S J O} {t : ℕ} {job : J}
    (h : Traced V R A init sh (later ++ .spawned t job :: earlier)) :
    V.admits earlier job = true ∧ ∀ ev ∈ earlier, ev.task ≠ t := by
  obtain ⟨sh₁, h₁⟩ := h.before
  cases h₁ with
  | spawn _ hfresh hadmits _ => exact ⟨hadmits, hfresh⟩

theorem open_of_event (h : Traced V R A init sh log) {ev : Event S J O} (hev : ev ∈ log) :
    ∃ job, .spawned ev.task job ∈ log := by
  induction h with
  | start => cases hev
  | @spawn sh log t job _ _ _ _ ih =>
    rcases List.mem_cons.1 hev with rfl | hev
    · exact ⟨job, List.mem_cons_self⟩
    · exact (ih hev).imp (fun _ => List.mem_cons_of_mem _)
  | @perform sh log t job e c a sh' _ ho _ _ _ ih =>
    rcases List.mem_cons.1 hev with rfl | hev
    · exact ⟨job, List.mem_cons_of_mem _ ho.spawned⟩
    · exact (ih hev).imp (fun _ => List.mem_cons_of_mem _)
  | @reply sh log t job o _ ho _ _ ih =>
    rcases List.mem_cons.1 hev with rfl | hev
    · exact ⟨job, List.mem_cons_of_mem _ ho.spawned⟩
    · exact (ih hev).imp (fun _ => List.mem_cons_of_mem _)
  | @drop sh log t job _ ho _ ih =>
    rcases List.mem_cons.1 hev with rfl | hev
    · exact ⟨job, List.mem_cons_of_mem _ ho.spawned⟩
    · exact (ih hev).imp (fun _ => List.mem_cons_of_mem _)

theorem spawned_unique (h : Traced V R A init sh log) {t : ℕ} {job job' : J}
    (hj : .spawned t job ∈ log) (hj' : .spawned t job' ∈ log) : job = job' := by
  induction h with
  | start => cases hj
  | @spawn sh log t₀ job₀ _ hfresh _ _ ih =>
    rcases List.mem_cons.1 hj with he | hm <;> rcases List.mem_cons.1 hj' with he' | hm'
    · cases he
      cases he'
      rfl
    · cases he
      exact absurd rfl (hfresh _ hm')
    · cases he'
      exact absurd rfl (hfresh _ hm)
    · exact ih hm hm'
  | perform _ _ _ _ _ ih => exact ih (by simpa using hj) (by simpa using hj')
  | reply _ _ _ _ ih => exact ih (by simpa using hj) (by simpa using hj')
  | drop _ _ _ ih => exact ih (by simpa using hj) (by simpa using hj')

theorem replied_unique (h : Traced V R A init sh log) {t : ℕ} {o o' : O}
    (ho : .replied t o ∈ log) (ho' : .replied t o' ∈ log) : o = o' := by
  induction h with
  | start => cases ho
  | spawn _ _ _ _ ih => exact ih (by simpa using ho) (by simpa using ho')
  | perform _ _ _ _ _ ih => exact ih (by simpa using ho) (by simpa using ho')
  | @reply sh log t₀ job₀ o₀ _ hopen _ _ ih =>
    rcases List.mem_cons.1 ho with he | hm <;> rcases List.mem_cons.1 ho' with he' | hm'
    · cases he
      cases he'
      rfl
    · cases he
      exact absurd hm' (hopen.not_replied o')
    · cases he'
      exact absurd hm (hopen.not_replied o)
    · exact ih hm hm'
  | drop _ _ _ ih => exact ih (by simpa using ho) (by simpa using ho')

/-- Each effect of a task was attempted after exactly the history below it. -/
theorem attempted (h : Traced V R A init sh log) {t : ℕ} {job : J}
    (hj : .spawned t job ∈ log) {newer older : History S} {e : S.Effect} {a : S.Answer e}
    (hh : history t log = newer ++ ⟨e, a⟩ :: older) : R.attempts job older e := by
  induction h generalizing newer with
  | start => simp at hh
  | @spawn sh log t₀ job₀ ht hfresh _ _ ih =>
    rcases List.mem_cons.1 hj with he | hj
    · cases he
      simp [history_eq_nil hfresh] at hh
    · exact ih hj (by simpa using hh)
  | @perform sh log t₀ job₀ e₀ c a₀ sh' ht ho hg _ _ ih =>
    have hj₁ : .spawned t job ∈ log := by simpa using hj
    by_cases hne : t₀ = t
    · subst t₀
      rw [history_self] at hh
      cases newer with
      | nil =>
        obtain ⟨hentry, rfl⟩ := List.cons.inj hh
        cases hentry
        rwa [← ht.spawned_unique ho.spawned hj₁]
      | cons n newer => exact ih hj₁ (List.cons.inj hh).2
    · rw [history_ne hne] at hh
      exact ih hj₁ hh
  | reply _ _ _ _ ih => exact ih (by simpa using hj) (by simpa using hh)
  | drop _ _ _ ih => exact ih (by simpa using hj) (by simpa using hh)

theorem open_at {later earlier : Log S J O} {t : ℕ} {e : S.Effect} {a : S.Answer e}
    (h : Traced V R A init sh (later ++ .performed t e a :: earlier)) :
    ∃ job, Open earlier t job := by
  obtain ⟨sh₁, h₁⟩ := h.before
  cases h₁ with
  | perform _ ho _ _ _ => exact ⟨_, ho⟩

theorem spawned_suffix {later later' earlier earlier' : Log S J O} {t : ℕ} {job : J} {e : S.Effect}
    {a : S.Answer e} (h : Traced V R A init sh log) (hlog : log = later ++ .spawned t job :: earlier)
    (hlog' : log = later' ++ .performed t e a :: earlier') : .spawned t job :: earlier <:+ earlier' := by
  obtain ⟨job', hopen⟩ := (hlog' ▸ h).open_at
  have hj' : .spawned t job' ∈ log := by
    rw [hlog']
    exact List.mem_append_right _ (List.mem_cons_of_mem _ hopen.spawned)
  obtain rfl : job' = job := h.spawned_unique hj' (by simp [hlog])
  obtain ⟨l, m, hm⟩ := List.append_of_mem hopen.spawned
  have hfresh : ∀ {l m}, log = l ++ .spawned t job' :: m → .spawned t job' ∉ m := by
    intro l m hl hmem
    exact (hl ▸ h).admitted.2 _ hmem rfl
  have hlog'' : log = (later' ++ .performed t e a :: l) ++ .spawned t job' :: m := by
    rw [hlog', hm, List.append_assoc, List.cons_append]
  obtain rfl : earlier = m :=
    split_unique (hlog.symm.trans hlog'') (hfresh hlog) (hfresh hlog'')
  exact ⟨l, hm.symm⟩

theorem attempted_at {later earlier : Log S J O} {t : ℕ} {e : S.Effect} {a : S.Answer e}
    (h : Traced V R A init sh (later ++ .performed t e a :: earlier)) :
    ∃ job, .spawned t job ∈ earlier ∧ R.attempts job (history t earlier) e := by
  obtain ⟨sh₁, h₁⟩ := h.before
  cases h₁ with
  | perform _ ho hg _ _ => exact ⟨_, ho.spawned, hg⟩

/-- An effect that is never attempted after one of its kind happens once in a task. -/
theorem once (h : Traced V R A init sh log) {P : Entry S → Prop}
    (hP : ∀ {job older e}, R.attempts job older e → ∀ a, P ⟨e, a⟩ → ∀ y ∈ older, ¬ P y)
    {t : ℕ} {job : J} (hj : .spawned t job ∈ log) {x y : Entry S}
    (hx : x ∈ history t log) (hy : y ∈ history t log) (hpx : P x) (hpy : P y) : x = y := by
  obtain ⟨newer, older, hh⟩ := List.append_of_mem hx
  have hbelow := hP (h.attempted hj hh) x.answer hpx
  rw [hh, List.mem_append, List.mem_cons] at hy
  rcases hy with hy | rfl | hy
  · obtain ⟨newer', older', hn⟩ := List.append_of_mem hy
    have hh' : history t log = newer' ++ y :: (older' ++ x :: older) := by simp [hh, hn]
    exact absurd hpx (hP (h.attempted hj hh') y.answer hpy x (by simp))
  · rfl
  · exact absurd hpy (hbelow y hy)

/-- A task that replied did so after its whole history. -/
theorem replied (h : Traced V R A init sh log) {t : ℕ} {job : J} (hj : .spawned t job ∈ log)
    {o : O} (ho : .replied t o ∈ log) : R.replies job (history t log) o := by
  induction h with
  | start => cases ho
  | @spawn sh log t₀ job₀ ht hfresh _ _ ih =>
    have ho₁ : .replied t o ∈ log := by simpa using ho
    rcases List.mem_cons.1 hj with he | hj
    · cases he
      exact absurd rfl (hfresh _ ho₁)
    · simpa using ih hj ho₁
  | @perform sh log t₀ job₀ e c a sh' ht hopen _ _ _ ih =>
    have ho₁ : .replied t o ∈ log := by simpa using ho
    have hne : t₀ ≠ t := by
      rintro rfl
      exact hopen.not_replied o ho₁
    rw [history_ne hne]
    exact ih (by simpa using hj) ho₁
  | @reply sh log t₀ job₀ o₀ ht hopen hq _ ih =>
    have hj₁ : .spawned t job ∈ log := by simpa using hj
    rw [history_replied]
    rcases List.mem_cons.1 ho with he | ho
    · cases he
      rwa [← ht.spawned_unique hopen.spawned hj₁]
    · exact ih hj₁ ho
  | drop _ _ _ ih => simpa using ih (by simpa using hj) (by simpa using ho)

end Traced
end Servir.Interleaving
