import Servir.Interleaving.Trace

/-!
# Erasing tasks from a run

A run from which some tasks are erased is a run again, with the same events of
the remaining tasks, if the shared state gives these the same answers without
the erased ones. It may start from another pool than the whole run did. What the
answers depend on is left to the service.
-/

namespace Servir.Interleaving

variable {S : Signature} {J O : Type} {V : Service S J O} {R : Protocol S J O}
  {A B : Assumption V} {init : V.Shared}

/-- The events of the tasks that remain. -/
def kept (keep : ℕ → Bool) (log : Log S J O) : Log S J O := log.filter (fun ev => keep ev.task)

variable {keep : ℕ → Bool} {log base base' whole : Log S J O} {ev : Event S J O}

@[simp] theorem kept_nil : kept keep ([] : Log S J O) = [] := rfl

theorem kept_cons_of_keep (h : keep ev.task = true) : kept keep (ev :: log) = ev :: kept keep log :=
  List.filter_cons_of_pos h

theorem kept_cons_of_erased (h : keep ev.task = false) : kept keep (ev :: log) = kept keep log :=
  List.filter_cons_of_neg (by simp [h])

theorem mem_kept : ev ∈ kept keep log ↔ ev ∈ log ∧ keep ev.task = true := List.mem_filter

theorem kept_subset : kept keep log ⊆ log := fun _ h => (mem_kept.1 h).1

/-- What `σ` added to the log `base`, `σ'` added to `base'` without the erased tasks. -/
structure Erased (keep : ℕ → Bool) (base base' : Log S J O) (σ σ' : Pool V) : Prop where
  log : ∃ new, σ.log = new ++ base ∧ σ'.log = kept keep new ++ base'
  tasks : ∀ t, keep t = true → σ'.tasks t = σ.tasks t

theorem Erased.refl {σ σ' : Pool V} (h : ∀ t, keep t = true → σ'.tasks t = σ.tasks t) :
    Erased keep σ.log σ'.log σ σ' := ⟨⟨[], rfl, rfl⟩, h⟩

theorem Erased.start : Erased keep [] [] (.start init : Pool V) (.start init) :=
  ⟨⟨[], rfl, rfl⟩, fun _ _ => rfl⟩

namespace Erased
variable {σ σ' : Pool V} {t : ℕ} {m m' : Move V}

theorem advance (h : Erased keep base base' σ σ') (hev : m'.event = m.event)
    (htask : m'.task = m.task) (hkeep : keep m.event.task = true) :
    Erased keep base base' (σ.advance t m) (σ'.advance t m') where
  log := by
    obtain ⟨new, hlog, hlog'⟩ := h.log
    refine ⟨m.event :: new, by simp [Pool.advance, hlog], ?_⟩
    simp [Pool.advance, kept_cons_of_keep hkeep, hev, hlog']
  tasks t' ht' := by
    by_cases hne : t' = t
    · subst hne
      simp [Pool.advance, htask]
    · simp [Pool.advance, Function.update_of_ne hne, h.tasks t' ht']

theorem skip (h : Erased keep base base' σ σ') (hev : keep m.event.task = false)
    (ht : keep t = false) : Erased keep base base' (σ.advance t m) σ' where
  log := by
    obtain ⟨new, hlog, hlog'⟩ := h.log
    refine ⟨m.event :: new, by simp [Pool.advance, hlog], ?_⟩
    rw [hlog', kept_cons_of_erased hev]
  tasks t' ht' := by
    have hne : t' ≠ t := by
      rintro rfl
      rw [ht] at ht'
      cases ht'
    simp [Pool.advance, Function.update_of_ne hne, h.tasks t' ht']

end Erased

/-- The remaining events of the log `whole` after `base` can happen after `base'` without the erased
tasks. -/
structure Independent (R : Protocol S J O) (A B : Assumption V) (init : V.Shared) (keep : ℕ → Bool)
    (base base' whole : Log S J O) : Prop where
  allowed : ∀ sh sh' log ev, A sh (log ++ base) ev → B sh' (kept keep log ++ base') ev
  admitted : ∀ log t job, .spawned t job :: (log ++ base) <:+ whole → keep t = true →
    V.admits (log ++ base) job = true → V.admits (kept keep log ++ base') job = true
  answered : ∀ sh sh' log t e c a sh₁, .performed t e a :: (log ++ base) <:+ whole →
    keep t = true → Traced V R ⊤ init sh (log ++ base) →
    Traced V R ⊤ init sh' (kept keep log ++ base') → V.respond sh e c = some (a, sh₁) →
    ∃ sh₁', V.respond sh' e c = some (a, sh₁')

theorem Erased.step (hV : V.Follows R) (hind : Independent R A B init keep base base' whole)
    {σ σ₁ σ' : Pool V} {l : Label V} (hσ : Reach ⊤ init σ) (hσ' : Reach ⊤ init σ')
    (h : Erased keep base base' σ σ') (hs : Step A σ l σ₁) (hwhole : σ₁.log <:+ whole)
    (hkeep : keep l.task = true) : ∃ σ₁', Step B σ' l σ₁' ∧ Erased keep base base' σ₁ σ₁' := by
  obtain ⟨new, hlog, hlog'⟩ := h.log
  obtain ⟨t, job, rfl, hnone, hadmits, hA, rfl⟩ | ⟨t, c, job, e, k, a, sh, rfl, hrun, hr, hA, rfl⟩ |
    ⟨t, job, o, rfl, hrun, hA, rfl⟩ | ⟨t, job, p, rfl, hrun, hA, rfl⟩ := hs.cases
  all_goals
    simp only [Pool.advance, hlog] at hwhole
    rw [hlog] at hA
    have hA' := hlog' ▸ hind.allowed _ σ'.shared _ _ hA
  · have hadmits' : V.admits σ'.log job = true := by
      rw [hlog']
      exact hind.admitted _ _ _ hwhole hkeep (hlog ▸ hadmits)
    have hmove : σ'.move (.spawn t job) =
        some ⟨.spawned t job, σ'.shared, ⟨job, .running (V.start job)⟩⟩ := by
      simp [Pool.move, (h.tasks t hkeep).trans hnone, hadmits']
    exact ⟨_, ⟨_, hmove, hA', rfl⟩, h.advance rfl rfl hkeep⟩
  · obtain ⟨sh', hr'⟩ := hind.answered _ _ _ _ _ _ _ _ hwhole hkeep (hlog ▸ hσ.traced hV)
      (hlog' ▸ hσ'.traced hV) hr
    have hmove : σ'.move (.perform t c) =
        some ⟨.performed t e a, sh', ⟨job, .running (k a)⟩⟩ := by
      simp [Pool.move, (h.tasks t hkeep).trans hrun, hr']
    exact ⟨_, ⟨_, hmove, hA', rfl⟩, h.advance rfl rfl hkeep⟩
  · have hmove : σ'.move (.reply t) = some ⟨.replied t o, σ'.shared, ⟨job, .replied⟩⟩ := by
      simp [Pool.move, (h.tasks t hkeep).trans hrun]
    exact ⟨_, ⟨_, hmove, hA', rfl⟩, h.advance rfl rfl hkeep⟩
  · have hmove : σ'.move (.drop t) = some ⟨.dropped t, σ'.shared, ⟨job, .dropped⟩⟩ := by
      simp [Pool.move, (h.tasks t hkeep).trans hrun]
    exact ⟨_, ⟨_, hmove, hA', rfl⟩, h.advance rfl rfl hkeep⟩

/-- A step of an erased task leaves no trace. -/
theorem Erased.stutter {σ σ₁ σ' : Pool V} {l : Label V} (h : Erased keep base base' σ σ')
    (hs : Step A σ l σ₁) (hkeep : keep l.task = false) : Erased keep base base' σ₁ σ' := by
  obtain ⟨t, job, rfl, -, -, -, rfl⟩ | ⟨t, c, job, e, k, a, sh, rfl, -, -, -, rfl⟩ |
    ⟨t, job, o, rfl, -, -, rfl⟩ | ⟨t, job, p, rfl, -, -, rfl⟩ := hs.cases
  · exact h.skip hkeep hkeep
  · exact h.skip hkeep hkeep
  · exact h.skip hkeep hkeep
  · exact h.skip hkeep hkeep

/-- A run without the erased tasks is a run. -/
theorem Path.erase (hV : V.Follows R) (hind : Independent R A B init keep base base' whole)
    {σ₀ σ₀' σ : Pool V} {ls : List (Label V)} (hσ₀ : Reach ⊤ init σ₀) (hσ₀' : Reach ⊤ init σ₀')
    (h₀ : Erased keep base base' σ₀ σ₀') (hp : Path A σ₀ ls σ) (hwhole : σ.log <:+ whole) :
    ∃ σ', Path B σ₀' (ls.filter (fun l => keep l.task)) σ' ∧ Erased keep base base' σ σ' := by
  have hAtop : ∀ sh log ev, A sh log ev → (⊤ : Assumption V) sh log ev := fun _ _ _ _ => trivial
  have hBtop : ∀ sh log ev, B sh log ev → (⊤ : Assumption V) sh log ev := fun _ _ _ _ => trivial
  induction hp with
  | nil => exact ⟨σ₀', .nil _, h₀⟩
  | @snoc σ₁ σ₂ ls l hp hs ih =>
    have hstep : σ₁.log <:+ σ₂.log := (Path.snoc (.nil σ₁) hs).log_suffix
    obtain ⟨σ₁', hp', he⟩ := ih (hstep.trans hwhole)
    rw [List.filter_append]
    cases hkeep : keep l.task with
    | true =>
      obtain ⟨σ₂', hs', he'⟩ := he.step hV hind (hσ₀.path (hp.mono hAtop))
        (hσ₀'.path (hp'.mono hBtop)) hs hwhole hkeep
      refine ⟨σ₂', ?_, he'⟩
      simpa [List.filter_cons, hkeep] using hp'.snoc hs'
    | false =>
      refine ⟨σ₁', ?_, he.stutter hs hkeep⟩
      simpa [List.filter_cons, hkeep] using hp'

end Servir.Interleaving
