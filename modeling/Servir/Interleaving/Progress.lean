import Servir.Interleaving.Trace

/-!
# Progress of a single task

When the environment can answer every effect, a running task can be carried to
its reply by its own steps alone, whatever the other tasks are doing.
-/

namespace Servir.Interleaving

variable {S : Signature} {J O : Type} {V : Service S J O} {R : Protocol S J O}
  {A B : Assumption V} {init : V.Shared}

/-- Under the assumption every effect can be answered and every reply can be sent. -/
structure Responsive (A : Assumption V) : Prop where
  answers : ∀ sh log t e, ∃ c a sh', V.respond sh e c = some (a, sh') ∧ A sh log (.performed t e a)
  replies : ∀ sh log t o, A sh log (.replied t o)

theorem Responsive.mono (h : Responsive A) (hAB : A ≤ B) : Responsive B where
  answers sh log t e := by
    obtain ⟨c, a, sh', hr, hA⟩ := h.answers sh log t e
    exact ⟨c, a, sh', hr, hAB _ _ _ hA⟩
  replies sh log t o := hAB _ _ _ (h.replies sh log t o)

theorem Responsive.completes (hA : Responsive A) {t : ℕ} {job : J} {p : Program S O}
    {σ : Pool V} (hσ : σ.tasks t = some ⟨job, .running p⟩) :
    ∃ ls σ' o, Path A σ ls σ' ∧ (∀ l ∈ ls, l.task = t) ∧ .replied t o ∈ σ'.log := by
  induction p generalizing σ with
  | pure o =>
    have hmove : σ.move (.reply t) = some ⟨.replied t o, σ.shared, ⟨job, .replied⟩⟩ := by
      simp [Pool.move, hσ]
    exact ⟨[.reply t], _, o, Path.snoc (.nil σ) ⟨_, hmove, hA.replies _ _ _ _, rfl⟩,
      by simp [Label.task], List.mem_cons_self⟩
  | perform e k ih =>
    obtain ⟨c, a, sh, hr, hallowed⟩ := hA.answers σ.shared σ.log t e
    have hmove : σ.move (.perform t c) =
        some ⟨.performed t e a, sh, ⟨job, .running (k a)⟩⟩ := by
      simp [Pool.move, hσ, hr]
    have hstep : Step A σ (.perform t c) _ := ⟨_, hmove, hallowed, rfl⟩
    obtain ⟨ls, σ', o, hp, htask, ho⟩ :=
      ih a (σ := σ.advance t ⟨.performed t e a, sh, ⟨job, .running (k a)⟩⟩) (by simp [Pool.advance])
    refine ⟨[.perform t c] ++ ls, σ', o, (Path.snoc (.nil σ) hstep).append hp, ?_, ho⟩
    simpa [Label.task] using htask

/-- A task that has not ended in the log of a reachable pool can still be answered. -/
theorem Reach.completes (hV : V.Follows R) (hB : Responsive B) {σ : Pool V}
    (h : Reach A init σ) {t : ℕ} {job : J} (ho : Open σ.log t job) :
    ∃ ls σ' o, Path B σ ls σ' ∧ (∀ l ∈ ls, l.task = t) ∧ .replied t o ∈ σ'.log := by
  obtain ⟨job', p, hp⟩ := h.running hV ho
  exact hB.completes hp

end Servir.Interleaving
