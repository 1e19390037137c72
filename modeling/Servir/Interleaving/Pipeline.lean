import Servir.Interleaving.Beside

/-!
# Jobs of one service behind jobs of another

A pipeline answers a job at once or runs a job of a first service, and from the
outcome of that it answers or runs a job of a second service. Seen from either
service, a run of a pipeline is a run of that service alone, so what is proved of
the runs of each holds behind the pipeline.
-/

namespace Servir.Interleaving

variable {S₁ S₂ : Signature} {J O J₁ O₁ J₂ O₂ : Type}

structure Pipeline (J O J₁ O₁ J₂ O₂ : Type) where
  first : J → O ⊕ J₁
  second : J → O₁ → O ⊕ J₂
  render : J → O₂ → O

namespace Pipeline
variable (P : Pipeline J O J₁ O₁ J₂ O₂) (V₁ : Service S₁ J₁ O₁) (V₂ : Service S₂ J₂ O₂)

/-- What follows the outcome of the first job. -/
def rest (j : J) (o₁ : O₁) : Program (S₁.sum S₂) O :=
  match P.second j o₁ with
  | .inl o => .pure o
  | .inr j₂ => (V₂.start j₂).inr.bind (fun o₂ => .pure (P.render j o₂))

def start (j : J) : Program (S₁.sum S₂) O :=
  match P.first j with
  | .inl o => .pure o
  | .inr j₁ => (V₁.start j₁).inl.bind (P.rest V₂ j)

/-- The logs of the two services behind a log of the pipeline. -/
inductive Projects : Log (S₁.sum S₂) J O → Log S₁ J₁ O₁ → Log S₂ J₂ O₂ → Prop where
  | nil : Projects [] [] []
  | answer {l l₁ l₂ t j o} : Projects l l₁ l₂ → P.first j = .inl o →
      Projects (.spawned t j :: l) l₁ l₂
  | spawn {l l₁ l₂ t j j₁} : Projects l l₁ l₂ → P.first j = .inr j₁ →
      Projects (.spawned t j :: l) (.spawned t j₁ :: l₁) l₂
  | first {l l₁ l₂ t} {e : S₁.Effect} {a : S₁.Answer e} : Projects l l₁ l₂ →
      Projects (.performed t (.inl e) a :: l) (.performed t e a :: l₁) l₂
  /-- The first job replies and the second is spawned, which the pipeline does not show. -/
  | pass {l l₁ l₂ t j o₁ j₂} : Projects l l₁ l₂ → .spawned t j ∈ l → P.second j o₁ = .inr j₂ →
      Projects l (.replied t o₁ :: l₁) (.spawned t j₂ :: l₂)
  | second {l l₁ l₂ t} {e : S₂.Effect} {a : S₂.Answer e} : Projects l l₁ l₂ →
      Projects (.performed t (.inr e) a :: l) l₁ (.performed t e a :: l₂)
  | replyNow {l l₁ l₂ t j o} : Projects l l₁ l₂ → .spawned t j ∈ l → P.first j = .inl o →
      Projects (.replied t o :: l) l₁ l₂
  | replyFirst {l l₁ l₂ t j o₁ o} : Projects l l₁ l₂ → .spawned t j ∈ l →
      P.second j o₁ = .inl o → Projects (.replied t o :: l) (.replied t o₁ :: l₁) l₂
  | replySecond {l l₁ l₂ t j o₁ j₂ o₂} : Projects l l₁ l₂ → .spawned t j ∈ l →
      .replied t o₁ ∈ l₁ → P.second j o₁ = .inr j₂ → .spawned t j₂ ∈ l₂ →
      Projects (.replied t (P.render j o₂) :: l) l₁ (.replied t o₂ :: l₂)
  | dropNow {l l₁ l₂ t} : Projects l l₁ l₂ → Projects (.dropped t :: l) l₁ l₂
  | dropFirst {l l₁ l₂ t} : Projects l l₁ l₂ → Projects (.dropped t :: l) (.dropped t :: l₁) l₂
  | dropSecond {l l₁ l₂ t} : Projects l l₁ l₂ → Projects (.dropped t :: l) l₁ (.dropped t :: l₂)

/-- The stage that task `t` of a pipeline has reached, with its task in either service. -/
inductive Stage (t : ℕ) (l : Log (S₁.sum S₂) J O) (l₁ : Log S₁ J₁ O₁) (l₂ : Log S₂ J₂ O₂) :
    Option (Task (S₁.sum S₂) J O) → Option (Task S₁ J₁ O₁) → Option (Task S₂ J₂ O₂) → Prop where
  | absent : Stage t l l₁ l₂ none none none
  | answered {j o} : .spawned t j ∈ l → P.first j = .inl o →
      Stage t l l₁ l₂ (some ⟨j, .running (.pure o)⟩) none none
  | first {j j₁ q} : .spawned t j ∈ l → P.first j = .inr j₁ →
      Stage t l l₁ l₂ (some ⟨j, .running (q.inl.bind (P.rest V₂ j))⟩) (some ⟨j₁, .running q⟩) none
  | second {j j₁ o₁ j₂ q} : .spawned t j ∈ l → .replied t o₁ ∈ l₁ → P.second j o₁ = .inr j₂ →
      .spawned t j₂ ∈ l₂ →
      Stage t l l₁ l₂ (some ⟨j, .running (q.inr.bind (fun o₂ => .pure (P.render j o₂)))⟩)
        (some ⟨j₁, .replied⟩) (some ⟨j₂, .running q⟩)
  | ended {j st s₁ s₂} : (∀ p, st ≠ .running p) → Stage t l l₁ l₂ (some ⟨j, st⟩) s₁ s₂

section Projects
variable {P} {l : Log (S₁.sum S₂) J O} {l₁ : Log S₁ J₁ O₁} {l₂ : Log S₂ J₂ O₂} {t : ℕ}

theorem Projects.performed_first (h : P.Projects l l₁ l₂) {e : S₁.Effect} {a : S₁.Answer e} :
    .performed t e a ∈ l₁ ↔ .performed t (.inl e) a ∈ l := by
  induction h with
  | nil => simp
  | first _ ih =>
    simp only [List.mem_cons, ih]
    apply or_congr_left
    constructor
    · intro he
      cases he
      rfl
    · intro he
      cases he
      rfl
  | second _ ih =>
    rw [ih]
    refine (List.mem_cons.trans (or_iff_right ?_)).symm
    intro he
    cases he
  | _ => simp_all

theorem Projects.performed_second (h : P.Projects l l₁ l₂) {e : S₂.Effect} {a : S₂.Answer e} :
    .performed t e a ∈ l₂ ↔ .performed t (.inr e) a ∈ l := by
  induction h with
  | nil => simp
  | first _ ih =>
    rw [ih]
    refine (List.mem_cons.trans (or_iff_right ?_)).symm
    intro he
    cases he
  | second _ ih =>
    simp only [List.mem_cons, ih]
    apply or_congr_left
    constructor
    · intro he
      cases he
      rfl
    · intro he
      cases he
      rfl
  | _ => simp_all

theorem Projects.spawned_first (h : P.Projects l l₁ l₂) {j₁ : J₁} :
    .spawned t j₁ ∈ l₁ ↔ ∃ j, .spawned t j ∈ l ∧ P.first j = .inr j₁ := by
  induction h with
  | nil => simp
  | @answer l l₁ l₂ t' j' o _ hj' ih =>
    rw [ih]
    apply exists_congr
    intro j
    apply and_congr_left
    intro hj
    refine (List.mem_cons.trans (or_iff_right ?_)).symm
    rintro he
    cases he
    rw [hj'] at hj
    cases hj
  | @spawn l l₁ l₂ t' j' j₁' _ hj' ih =>
    rw [List.mem_cons, ih]
    constructor
    · rintro (he | ⟨j, hj, hfirst⟩)
      · cases he
        exact ⟨j', List.mem_cons_self, hj'⟩
      · exact ⟨j, List.mem_cons_of_mem _ hj, hfirst⟩
    · rintro ⟨j, hj, hfirst⟩
      rcases List.mem_cons.1 hj with he | hj
      · cases he
        rw [hj'] at hfirst
        cases hfirst
        exact .inl rfl
      · exact .inr ⟨j, hj, hfirst⟩
  | _ => simp_all

/-- A job of the second service comes after an outcome of the first. -/
theorem Projects.spawned_second (h : P.Projects l l₁ l₂) {j₂ : J₂} (hj₂ : .spawned t j₂ ∈ l₂) :
    ∃ j o₁, .spawned t j ∈ l ∧ .replied t o₁ ∈ l₁ ∧ P.second j o₁ = .inr j₂ := by
  induction h with
  | nil => cases hj₂
  | @pass l l₁ l₂ t' j o₁ j₂' _ hj hsecond ih =>
    rcases List.mem_cons.1 hj₂ with he | hj₂
    · cases he
      exact ⟨j, o₁, hj, List.mem_cons_self, hsecond⟩
    · obtain ⟨j, o₁, hj, ho₁, hsecond⟩ := ih hj₂
      exact ⟨j, o₁, hj, List.mem_cons_of_mem _ ho₁, hsecond⟩
  | _ =>
    rename_i ih
    obtain ⟨j, o₁, hj, ho₁, hsecond⟩ := ih (by simpa using hj₂)
    exact ⟨j, o₁, by simp [hj], by simp [ho₁], hsecond⟩

/-- What a reply of the pipeline is made of. -/
def Replied (P : Pipeline J O J₁ O₁ J₂ O₂) (l₁ : Log S₁ J₁ O₁) (l₂ : Log S₂ J₂ O₂) (t : ℕ) (j : J)
    (o : O) : Prop :=
  P.first j = .inl o ∨ ∃ o₁, .replied t o₁ ∈ l₁ ∧ (P.second j o₁ = .inl o ∨
    ∃ j₂ o₂, P.second j o₁ = .inr j₂ ∧ .spawned t j₂ ∈ l₂ ∧ .replied t o₂ ∈ l₂ ∧ o = P.render j o₂)

theorem Replied.mono {l₁' : Log S₁ J₁ O₁} {l₂' : Log S₂ J₂ O₂} {j : J} {o : O}
    (h : Replied P l₁ l₂ t j o) (h₁ : l₁ ⊆ l₁') (h₂ : l₂ ⊆ l₂') : Replied P l₁' l₂' t j o := by
  obtain hnow | ⟨o₁, ho₁, hfirst | ⟨j₂, o₂, hsecond, hj₂, ho₂, ho⟩⟩ := h
  · exact .inl hnow
  · exact .inr ⟨o₁, h₁ ho₁, .inl hfirst⟩
  · exact .inr ⟨o₁, h₁ ho₁, .inr ⟨j₂, o₂, hsecond, h₂ hj₂, h₂ ho₂, ho⟩⟩

theorem Projects.replied (h : P.Projects l l₁ l₂) {o : O} (ho : .replied t o ∈ l) :
    ∃ j, .spawned t j ∈ l ∧ Replied P l₁ l₂ t j o := by
  induction h with
  | nil => cases ho
  | @pass l l₁ l₂ t' j o₁ j₂ _ hj hsecond ih =>
    obtain ⟨j, hj, hreplied⟩ := ih ho
    exact ⟨j, hj, hreplied.mono (List.subset_cons_self _ _) (List.subset_cons_self _ _)⟩
  | @replyNow l l₁ l₂ t' j o' _ hj hnow ih =>
    rcases List.mem_cons.1 ho with he | ho
    · cases he
      exact ⟨j, List.mem_cons_of_mem _ hj, .inl hnow⟩
    · exact (ih ho).imp (fun j h => ⟨List.mem_cons_of_mem _ h.1, h.2⟩)
  | @replyFirst l l₁ l₂ t' j o₁ o' _ hj hfirst ih =>
    rcases List.mem_cons.1 ho with he | ho
    · cases he
      exact ⟨j, List.mem_cons_of_mem _ hj, .inr ⟨o₁, List.mem_cons_self, .inl hfirst⟩⟩
    · obtain ⟨j, hj, hreplied⟩ := ih ho
      exact ⟨j, List.mem_cons_of_mem _ hj,
        hreplied.mono (List.subset_cons_self _ _) (List.Subset.refl _)⟩
  | @replySecond l l₁ l₂ t' j o₁ j₂ o₂ _ hj ho₁ hsecond hj₂ ih =>
    rcases List.mem_cons.1 ho with he | ho
    · cases he
      exact ⟨j, List.mem_cons_of_mem _ hj, .inr ⟨o₁, ho₁, .inr ⟨j₂, o₂, hsecond,
        List.mem_cons_of_mem _ hj₂, List.mem_cons_self, rfl⟩⟩⟩
    · obtain ⟨j, hj, hreplied⟩ := ih ho
      exact ⟨j, List.mem_cons_of_mem _ hj,
        hreplied.mono (List.Subset.refl _) (List.subset_cons_self _ _)⟩
  | _ =>
    rename_i ih
    obtain ⟨j, hj, hreplied⟩ := ih (by simpa using ho)
    exact ⟨j, List.mem_cons_of_mem _ hj, hreplied.mono (by simp) (by simp)⟩

end Projects

variable {V₁ V₂}

/-- What is assumed of the pipeline covers what is assumed of either service. -/
structure Covers {begin : J → Program (S₁.sum S₂) O} {admits : Log (S₁.sum S₂) J O → J → Bool}
    (A : Assumption (V₁.beside V₂ begin admits)) (A₁ : Assumption V₁) (A₂ : Assumption V₂) :
    Prop where
  spawn : ∀ {sh : V₁.Shared × V₂.Shared} {l l₁ l₂ t j j₁}, P.Projects l l₁ l₂ →
    admits l j = true → A sh l (.spawned t j) → P.first j = .inr j₁ →
    V₁.admits l₁ j₁ = true ∧ A₁ sh.1 l₁ (.spawned t j₁)
  first : ∀ {sh : V₁.Shared × V₂.Shared} {l l₁ l₂ t} {e : S₁.Effect} {a : S₁.Answer e},
    P.Projects l l₁ l₂ → A sh l (.performed t (.inl e) a) → A₁ sh.1 l₁ (.performed t e a)
  pass : ∀ sh l₂ t j₂, V₂.admits l₂ j₂ = true ∧ A₂ sh l₂ (.spawned t j₂)
  second : ∀ {sh : V₁.Shared × V₂.Shared} {l l₁ l₂ t} {e : S₂.Effect} {a : S₂.Answer e},
    P.Projects l l₁ l₂ → A sh l (.performed t (.inr e) a) → A₂ sh.2 l₂ (.performed t e a)
  ends_first : ∀ sh l₁ t, (∀ o, A₁ sh l₁ (.replied t o)) ∧ A₁ sh l₁ (.dropped t)
  ends_second : ∀ sh l₂ t, (∀ o, A₂ sh l₂ (.replied t o)) ∧ A₂ sh l₂ (.dropped t)

/-- The pools of the two services behind a pool of the pipeline. -/
structure Projection {begin : J → Program (S₁.sum S₂) O}
    {admits : Log (S₁.sum S₂) J O → J → Bool} (σ : Pool (V₁.beside V₂ begin admits))
    (σ₁ : Pool V₁) (σ₂ : Pool V₂) : Prop where
  shared : σ.shared = (σ₁.shared, σ₂.shared)
  tasks : ∀ t, P.Stage V₂ t σ.log σ₁.log σ₂.log (σ.tasks t) (σ₁.tasks t) (σ₂.tasks t)
  log : P.Projects σ.log σ₁.log σ₂.log

section Runs
variable {P} {admits : Log (S₁.sum S₂) J O → J → Bool}
  {A : Assumption (V₁.beside V₂ (P.start V₁ V₂) admits)} {A₁ : Assumption V₁} {A₂ : Assumption V₂}

variable {σ σ' : Pool (V₁.beside V₂ (P.start V₁ V₂) admits)} {σ₁ σ₁' : Pool V₁} {σ₂ σ₂' : Pool V₂}
  {t : ℕ}

theorem Projection.start {init₁ : V₁.Shared} {init₂ : V₂.Shared} :
    P.Projection (.start (init₁, init₂) : Pool (V₁.beside V₂ (P.start V₁ V₂) admits))
      (.start init₁) (.start init₂) :=
  ⟨rfl, fun _ => .absent, .nil⟩

theorem Stage.mono {l l' : Log (S₁.sum S₂) J O} {l₁ l₁' : Log S₁ J₁ O₁} {l₂ l₂' : Log S₂ J₂ O₂}
    {s s₁ s₂} (h : P.Stage V₂ t l l₁ l₂ s s₁ s₂) (hl : l ⊆ l') (h₁ : l₁ ⊆ l₁') (h₂ : l₂ ⊆ l₂') :
    P.Stage V₂ t l' l₁' l₂' s s₁ s₂ := by
  cases h with
  | absent => exact .absent
  | answered hj hnow => exact .answered (hl hj) hnow
  | first hj hfirst => exact .first (hl hj) hfirst
  | second hj ho₁ hsecond hj₂ => exact .second (hl hj) (h₁ ho₁) hsecond (h₂ hj₂)
  | ended hst => exact .ended hst

theorem Stage.over {l : Log (S₁.sum S₂) J O} {l₁ : Log S₁ J₁ O₁} {l₂ : Log S₂ J₂ O₂} {j : J}
    {st : Status (S₁.sum S₂) O} {s₁ s₂} (hst : st = .replied ∨ st = .dropped) :
    P.Stage V₂ t l l₁ l₂ (some ⟨j, st⟩) s₁ s₂ := by
  apply Stage.ended
  intro p hp
  subst hp
  simp at hst

/-- `σ'` differs from `σ` in task `t` alone, and its log is longer. -/
structure Off {S : Signature} {J O : Type} {V : Service S J O} (t : ℕ) (σ σ' : Pool V) : Prop where
  tasks : ∀ t', t' ≠ t → σ'.tasks t' = σ.tasks t'
  log : σ.log ⊆ σ'.log

theorem Off.refl {S : Signature} {J O : Type} {V : Service S J O} (σ : Pool V) : Off t σ σ :=
  ⟨fun _ _ => rfl, List.Subset.refl _⟩

theorem Off.advance {S : Signature} {J O : Type} {V : Service S J O} (σ : Pool V) (m : Move V) :
    Off t σ (σ.advance t m) :=
  ⟨fun _ ht' => Function.update_of_ne ht' _ _, List.subset_cons_self _ _⟩

/-- A step of task `t` is projected if its own stage is. -/
theorem Projection.update (h : P.Projection σ σ₁ σ₂) (hσ : Off t σ σ') (hσ₁ : Off t σ₁ σ₁')
    (hσ₂ : Off t σ₂ σ₂') (hshared : σ'.shared = (σ₁'.shared, σ₂'.shared))
    (hstage : P.Stage V₂ t σ'.log σ₁'.log σ₂'.log (σ'.tasks t) (σ₁'.tasks t) (σ₂'.tasks t))
    (hlog : P.Projects σ'.log σ₁'.log σ₂'.log) : P.Projection σ' σ₁' σ₂' where
  shared := hshared
  tasks t' := by
    by_cases hne : t' = t
    · subst hne
      exact hstage
    · rw [hσ.tasks t' hne, hσ₁.tasks t' hne, hσ₂.tasks t' hne]
      exact (h.tasks t').mono hσ.log hσ₁.log hσ₂.log
  log := hlog

theorem Projection.pass (hA : P.Covers A A₁ A₂) (h : P.Projection σ σ₁ σ₂) {j : J} {j₁ : J₁}
    {o₁ : O₁} {j₂ : J₂} (hj : .spawned t j ∈ σ.log)
    (ht : σ.tasks t = some ⟨j, .running (P.rest V₂ j o₁)⟩)
    (h₁ : σ₁.tasks t = some ⟨j₁, .running (.pure o₁)⟩) (h₂ : σ₂.tasks t = none)
    (hsecond : P.second j o₁ = .inr j₂) :
    ∃ σ₁' σ₂', Path A₁ σ₁ [.reply t] σ₁' ∧ Path A₂ σ₂ [.spawn t j₂] σ₂' ∧ P.Projection σ σ₁' σ₂' ∧
      σ₁'.tasks t = some ⟨j₁, .replied⟩ ∧ σ₂'.tasks t = some ⟨j₂, .running (V₂.start j₂)⟩ ∧
      .replied t o₁ ∈ σ₁'.log ∧ .spawned t j₂ ∈ σ₂'.log := by
  obtain ⟨hadmits, hallowed⟩ := hA.pass σ₂.shared σ₂.log t j₂
  have hs₁ : Step A₁ σ₁ (.reply t) (σ₁.advance t ⟨.replied t o₁, σ₁.shared, ⟨j₁, .replied⟩⟩) :=
    ⟨_, by simp [Pool.move, h₁], (hA.ends_first _ _ _).1 _, rfl⟩
  have hs₂ : Step A₂ σ₂ (.spawn t j₂)
      (σ₂.advance t ⟨.spawned t j₂, σ₂.shared, ⟨j₂, .running (V₂.start j₂)⟩⟩) :=
    ⟨_, by simp [Pool.move, h₂, hadmits], hallowed, rfl⟩
  refine ⟨_, _, .snoc (.nil _) hs₁, .snoc (.nil _) hs₂, ?_, by simp [Pool.advance],
    by simp [Pool.advance], List.mem_cons_self, List.mem_cons_self⟩
  refine h.update (.refl σ) (.advance σ₁ _) (.advance σ₂ _) ?_ ?_ (h.log.pass hj hsecond)
  · exact h.shared
  rw [ht, rest, hsecond]
  simp only [Pool.advance, Function.update_self]
  exact .second hj List.mem_cons_self hsecond List.mem_cons_self

private theorem Projection.perform_second (hA : P.Covers A A₁ A₂) (h : P.Projection σ σ₁ σ₂) {j : J}
    {j₁ : J₁} {j₂ : J₂} {o₁ : O₁} {q : Program S₂ O₂} {e : S₁.Effect ⊕ S₂.Effect}
    {k : (S₁.sum S₂).Answer e → Program (S₁.sum S₂) O} {c : V₁.Choice ⊕ V₂.Choice}
    {a : (S₁.sum S₂).Answer e} {sh : V₁.Shared × V₂.Shared}
    (hj : .spawned t j ∈ σ.log) (ho₁ : .replied t o₁ ∈ σ₁.log) (hsecond : P.second j o₁ = .inr j₂)
    (hj₂ : .spawned t j₂ ∈ σ₂.log) (h₁ : σ₁.tasks t = some ⟨j₁, .replied⟩)
    (h₂ : σ₂.tasks t = some ⟨j₂, .running q⟩)
    (hq : q.inr.bind (fun o₂ => .pure (P.render j o₂)) = .perform e k)
    (hr : (V₁.beside V₂ (P.start V₁ V₂) admits).respond σ.shared e c = some (a, sh))
    (hallowed : A σ.shared σ.log (.performed t e a)) :
    ∃ σ₂' c₂, Path A₂ σ₂ [.perform t c₂] σ₂' ∧
      P.Projection (σ.advance t ⟨.performed t e a, sh, ⟨j, .running (k a)⟩⟩) σ₁ σ₂' := by
  cases q with
  | pure o₂ => cases hq
  | perform e₂ k₂ =>
    cases hq
    obtain ⟨c₂, hr₂, hsame⟩ := Service.beside_inr hr
    have hallowed₂ := hA.second h.log hallowed
    rw [h.shared] at hr₂ hallowed₂ hsame
    have hs₂ : Step A₂ σ₂ (.perform t c₂)
        (σ₂.advance t ⟨.performed t e₂ a, sh.2, ⟨j₂, .running (k₂ a)⟩⟩) :=
      ⟨_, by simp [Pool.move, h₂, hr₂], hallowed₂, rfl⟩
    refine ⟨_, c₂, .snoc (.nil _) hs₂, h.update (.advance σ _) (.refl σ₁) (.advance σ₂ _) ?_ ?_
      h.log.second⟩
    · exact Prod.ext hsame rfl
    · simp only [Pool.advance, Function.update_self, h₁]
      exact .second (List.mem_cons_of_mem _ hj) ho₁ hsecond (List.mem_cons_of_mem _ hj₂)

private theorem Projection.perform (hA : P.Covers A A₁ A₂) (h : P.Projection σ σ₁ σ₂) {j : J}
    {e : S₁.Effect ⊕ S₂.Effect} {k : (S₁.sum S₂).Answer e → Program (S₁.sum S₂) O}
    {c : V₁.Choice ⊕ V₂.Choice} {a : (S₁.sum S₂).Answer e} {sh : V₁.Shared × V₂.Shared}
    (ht : σ.tasks t = some ⟨j, .running (.perform e k)⟩)
    (hr : (V₁.beside V₂ (P.start V₁ V₂) admits).respond σ.shared e c = some (a, sh))
    (hallowed : A σ.shared σ.log (.performed t e a)) :
    ∃ σ₁' σ₂' ls₁ ls₂, Path A₁ σ₁ ls₁ σ₁' ∧ Path A₂ σ₂ ls₂ σ₂' ∧
      P.Projection (σ.advance t ⟨.performed t e a, sh, ⟨j, .running (k a)⟩⟩) σ₁' σ₂' := by
  have hstage := h.tasks t
  rw [ht] at hstage
  generalize h₁ : σ₁.tasks t = s₁ at hstage
  generalize h₂ : σ₂.tasks t = s₂ at hstage
  generalize hp : (.perform e k : Program (S₁.sum S₂) O) = p at hstage
  cases hstage with
  | answered => cases hp
  | ended hst => exact absurd rfl (hst _)
  | @second _ j₁ o₁ j₂ q hj ho₁ hsecond hj₂ =>
    obtain ⟨σ₂', c₂, hpath₂, hproj⟩ :=
      h.perform_second hA hj ho₁ hsecond hj₂ h₁ h₂ hp.symm hr hallowed
    exact ⟨σ₁, σ₂', [], _, .nil _, hpath₂, hproj⟩
  | @first _ j₁ q hj hfirst =>
    cases q with
    | perform e₁ k₁ =>
      cases hp
      obtain ⟨c₁, hr₁, hsame⟩ := Service.beside_inl hr
      have hallowed₁ := hA.first h.log hallowed
      rw [h.shared] at hr₁ hallowed₁ hsame
      have hs₁ : Step A₁ σ₁ (.perform t c₁)
          (σ₁.advance t ⟨.performed t e₁ a, sh.1, ⟨j₁, .running (k₁ a)⟩⟩) :=
        ⟨_, by simp [Pool.move, h₁, hr₁], hallowed₁, rfl⟩
      refine ⟨_, σ₂, _, [], .snoc (.nil _) hs₁, .nil _,
        h.update (.advance σ _) (.advance σ₁ _) (.refl σ₂) ?_ ?_ h.log.first⟩
      · exact Prod.ext rfl hsame
      · simp only [Pool.advance, Function.update_self, h₂]
        exact .first (List.mem_cons_of_mem _ hj) hfirst
    | pure o₁ =>
      change (.perform e k : Program (S₁.sum S₂) O) = P.rest V₂ j o₁ at hp
      cases hsecond : P.second j o₁ with
      | inl o =>
        rw [rest, hsecond] at hp
        cases hp
      | inr j₂ =>
        obtain ⟨σ₁', σ₂', hpath₁, hpath₂, hproj, h₁', h₂', ho₁, hj₂⟩ :=
          h.pass hA hj (hp ▸ ht) h₁ h₂ hsecond
        rw [rest, hsecond] at hp
        obtain ⟨σ₂'', c₂, hpath₂', hproj'⟩ :=
          hproj.perform_second hA hj ho₁ hsecond hj₂ h₁' h₂' hp.symm hr hallowed
        exact ⟨σ₁', σ₂'', _, _, hpath₁, hpath₂.append hpath₂', hproj'⟩

private theorem Projection.reply_second (hA : P.Covers A A₁ A₂) (h : P.Projection σ σ₁ σ₂) {j : J}
    {j₂ : J₂} {o₁ : O₁} {q : Program S₂ O₂} {o : O}
    (hj : .spawned t j ∈ σ.log) (ho₁ : .replied t o₁ ∈ σ₁.log) (hsecond : P.second j o₁ = .inr j₂)
    (hj₂ : .spawned t j₂ ∈ σ₂.log) (h₂ : σ₂.tasks t = some ⟨j₂, .running q⟩)
    (hq : (q.inr.bind (fun o₂ => .pure (P.render j o₂)) : Program (S₁.sum S₂) O) = .pure o) :
    ∃ σ₂', Path A₂ σ₂ [.reply t] σ₂' ∧
      P.Projection (σ.advance t ⟨.replied t o, σ.shared, ⟨j, .replied⟩⟩) σ₁ σ₂' := by
  cases q with
  | perform e₂ k₂ => cases hq
  | pure o₂ =>
    cases hq
    have hs₂ : Step A₂ σ₂ (.reply t)
        (σ₂.advance t ⟨.replied t o₂, σ₂.shared, ⟨j₂, .replied⟩⟩) :=
      ⟨_, by simp [Pool.move, h₂], (hA.ends_second _ _ _).1 _, rfl⟩
    refine ⟨_, .snoc (.nil _) hs₂, h.update (.advance σ _) (.refl σ₁) (.advance σ₂ _) ?_ ?_
      (h.log.replySecond hj ho₁ hsecond hj₂)⟩
    · exact h.shared
    · simp only [Pool.advance, Function.update_self]
      exact .over (by simp)

private theorem Projection.reply (hA : P.Covers A A₁ A₂) (h : P.Projection σ σ₁ σ₂) {j : J} {o : O}
    (ht : σ.tasks t = some ⟨j, .running (.pure o)⟩) :
    ∃ σ₁' σ₂' ls₁ ls₂, Path A₁ σ₁ ls₁ σ₁' ∧ Path A₂ σ₂ ls₂ σ₂' ∧
      P.Projection (σ.advance t ⟨.replied t o, σ.shared, ⟨j, .replied⟩⟩) σ₁' σ₂' := by
  have hstage := h.tasks t
  rw [ht] at hstage
  generalize h₁ : σ₁.tasks t = s₁ at hstage
  generalize h₂ : σ₂.tasks t = s₂ at hstage
  generalize hp : (.pure o : Program (S₁.sum S₂) O) = p at hstage
  cases hstage with
  | answered hj hnow =>
    cases hp
    refine ⟨σ₁, σ₂, [], [], .nil _, .nil _,
      h.update (.advance σ _) (.refl σ₁) (.refl σ₂) ?_ ?_ (h.log.replyNow hj hnow)⟩
    · exact h.shared
    · simp only [Pool.advance, Function.update_self]
      exact .over (by simp)
  | ended hst => exact absurd rfl (hst _)
  | @second _ j₁ o₁ j₂ q hj ho₁ hsecond hj₂ =>
    obtain ⟨σ₂', hpath₂, hproj⟩ := h.reply_second hA hj ho₁ hsecond hj₂ h₂ hp.symm
    exact ⟨σ₁, σ₂', [], _, .nil _, hpath₂, hproj⟩
  | @first _ j₁ q hj hfirst =>
    cases q with
    | perform e₁ k₁ => cases hp
    | pure o₁ =>
      change (.pure o : Program (S₁.sum S₂) O) = P.rest V₂ j o₁ at hp
      cases hsecond : P.second j o₁ with
      | inl o' =>
        rw [rest, hsecond] at hp
        cases hp
        have hs₁ : Step A₁ σ₁ (.reply t)
            (σ₁.advance t ⟨.replied t o₁, σ₁.shared, ⟨j₁, .replied⟩⟩) :=
          ⟨_, by simp [Pool.move, h₁], (hA.ends_first _ _ _).1 _, rfl⟩
        refine ⟨_, σ₂, _, [], .snoc (.nil _) hs₁, .nil _,
          h.update (.advance σ _) (.advance σ₁ _) (.refl σ₂) ?_ ?_ (h.log.replyFirst hj hsecond)⟩
        · exact h.shared
        · simp only [Pool.advance, Function.update_self]
          exact .over (by simp)
      | inr j₂ =>
        obtain ⟨σ₁', σ₂', hpath₁, hpath₂, hproj, h₁', h₂', ho₁, hj₂⟩ :=
          h.pass hA hj (hp ▸ ht) h₁ h₂ hsecond
        rw [rest, hsecond] at hp
        obtain ⟨σ₂'', hpath₂', hproj'⟩ :=
          hproj.reply_second hA hj ho₁ hsecond hj₂ h₂' hp.symm
        exact ⟨σ₁', σ₂'', _, _, hpath₁, hpath₂.append hpath₂', hproj'⟩

private theorem Projection.drop (hA : P.Covers A A₁ A₂) (h : P.Projection σ σ₁ σ₂) {j : J}
    {p : Program (S₁.sum S₂) O} (ht : σ.tasks t = some ⟨j, .running p⟩) :
    ∃ σ₁' σ₂' ls₁ ls₂, Path A₁ σ₁ ls₁ σ₁' ∧ Path A₂ σ₂ ls₂ σ₂' ∧
      P.Projection (σ.advance t ⟨.dropped t, σ.shared, ⟨j, .dropped⟩⟩) σ₁' σ₂' := by
  have hstage := h.tasks t
  rw [ht] at hstage
  generalize h₁ : σ₁.tasks t = s₁ at hstage
  generalize h₂ : σ₂.tasks t = s₂ at hstage
  cases hstage with
  | answered =>
    refine ⟨σ₁, σ₂, [], [], .nil _, .nil _,
      h.update (.advance σ _) (.refl σ₁) (.refl σ₂) ?_ ?_ h.log.dropNow⟩
    · exact h.shared
    · simp only [Pool.advance, Function.update_self]
      exact .over (by simp)
  | ended hst => exact absurd rfl (hst _)
  | @first _ j₁ =>
    have hs₁ : Step A₁ σ₁ (.drop t) (σ₁.advance t ⟨.dropped t, σ₁.shared, ⟨j₁, .dropped⟩⟩) :=
      ⟨_, by simp [Pool.move, h₁], (hA.ends_first _ _ _).2, rfl⟩
    refine ⟨_, σ₂, _, [], .snoc (.nil _) hs₁, .nil _,
      h.update (.advance σ _) (.advance σ₁ _) (.refl σ₂) ?_ ?_ h.log.dropFirst⟩
    · exact h.shared
    · simp only [Pool.advance, Function.update_self]
      exact .over (by simp)
  | @second _ _ _ j₂ =>
    have hs₂ : Step A₂ σ₂ (.drop t) (σ₂.advance t ⟨.dropped t, σ₂.shared, ⟨j₂, .dropped⟩⟩) :=
      ⟨_, by simp [Pool.move, h₂], (hA.ends_second _ _ _).2, rfl⟩
    refine ⟨σ₁, _, [], _, .nil _, .snoc (.nil _) hs₂,
      h.update (.advance σ _) (.refl σ₁) (.advance σ₂ _) ?_ ?_ h.log.dropSecond⟩
    · exact h.shared
    · simp only [Pool.advance, Function.update_self]
      exact .over (by simp)

private theorem Projection.spawn (hA : P.Covers A A₁ A₂) (h : P.Projection σ σ₁ σ₂) {j : J}
    (ht : σ.tasks t = none) (hadmits : admits σ.log j = true)
    (hallowed : A σ.shared σ.log (.spawned t j)) :
    ∃ σ₁' σ₂' ls₁ ls₂, Path A₁ σ₁ ls₁ σ₁' ∧ Path A₂ σ₂ ls₂ σ₂' ∧
      P.Projection (σ.advance t ⟨.spawned t j, σ.shared, ⟨j, .running (P.start V₁ V₂ j)⟩⟩)
        σ₁' σ₂' := by
  have hstage := h.tasks t
  rw [ht] at hstage
  generalize h₁ : σ₁.tasks t = s₁ at hstage
  generalize h₂ : σ₂.tasks t = s₂ at hstage
  cases hstage
  cases hfirst : P.first j with
  | inl o =>
    refine ⟨σ₁, σ₂, [], [], .nil _, .nil _,
      h.update (.advance σ _) (.refl σ₁) (.refl σ₂) ?_ ?_ (h.log.answer hfirst)⟩
    · exact h.shared
    · simp only [Pool.advance, Function.update_self, h₁, h₂, Pipeline.start, hfirst]
      exact .answered List.mem_cons_self hfirst
  | inr j₁ =>
    obtain ⟨hadmits₁, hallowed₁⟩ := hA.spawn h.log hadmits hallowed hfirst
    rw [h.shared] at hallowed₁
    have hs₁ : Step A₁ σ₁ (.spawn t j₁)
        (σ₁.advance t ⟨.spawned t j₁, σ₁.shared, ⟨j₁, .running (V₁.start j₁)⟩⟩) :=
      ⟨_, by simp [Pool.move, h₁, hadmits₁], hallowed₁, rfl⟩
    refine ⟨_, σ₂, _, [], .snoc (.nil _) hs₁, .nil _,
      h.update (.advance σ _) (.advance σ₁ _) (.refl σ₂) ?_ ?_ (h.log.spawn hfirst)⟩
    · exact h.shared
    · simp only [Pool.advance, Function.update_self, h₂, Pipeline.start, hfirst]
      exact .first List.mem_cons_self hfirst

/-- Each step of the pipeline is a few steps of either service. -/
theorem Projection.step (hA : P.Covers A A₁ A₂) (h : P.Projection σ σ₁ σ₂)
    {l : Label (V₁.beside V₂ (P.start V₁ V₂) admits)} (hs : Step A σ l σ') :
    ∃ σ₁' σ₂' ls₁ ls₂, Path A₁ σ₁ ls₁ σ₁' ∧ Path A₂ σ₂ ls₂ σ₂' ∧ P.Projection σ' σ₁' σ₂' := by
  obtain ⟨t, j, rfl, ht, hadmits, hallowed, rfl⟩ |
    ⟨t, c, j, e, k, a, sh, rfl, ht, hr, hallowed, rfl⟩ |
    ⟨t, j, o, rfl, ht, hallowed, rfl⟩ | ⟨t, j, p, rfl, ht, hallowed, rfl⟩ := hs.cases
  · exact h.spawn hA ht hadmits hallowed
  · exact h.perform hA ht hr hallowed
  · exact h.reply hA ht
  · exact h.drop hA ht

theorem Projection.path (hA : P.Covers A A₁ A₂) (h : P.Projection σ σ₁ σ₂)
    {ls : List (Label (V₁.beside V₂ (P.start V₁ V₂) admits))} (hp : Path A σ ls σ') :
    ∃ σ₁' σ₂' ls₁ ls₂, Path A₁ σ₁ ls₁ σ₁' ∧ Path A₂ σ₂ ls₂ σ₂' ∧ P.Projection σ' σ₁' σ₂' := by
  induction hp with
  | nil => exact ⟨σ₁, σ₂, [], [], .nil _, .nil _, h⟩
  | snoc _ hs ih =>
    obtain ⟨τ₁, τ₂, ks₁, ks₂, hk₁, hk₂, hproj⟩ := ih
    obtain ⟨σ₁', σ₂', ls₁, ls₂, hl₁, hl₂, hproj'⟩ := hproj.step hA hs
    exact ⟨σ₁', σ₂', _, _, hk₁.append hl₁, hk₂.append hl₂, hproj'⟩

/-- A run of a service that starts like the pipeline is a run of either service. -/
theorem Projection.reach {begin : J → Program (S₁.sum S₂) O} (hbegin : begin = P.start V₁ V₂)
    {A : Assumption (V₁.beside V₂ begin admits)} (hA : P.Covers A A₁ A₂) {init₁ : V₁.Shared}
    {init₂ : V₂.Shared} {σ : Pool (V₁.beside V₂ begin admits)} (h : Reach A (init₁, init₂) σ) :
    ∃ σ₁ σ₂, Reach A₁ init₁ σ₁ ∧ Reach A₂ init₂ σ₂ ∧ P.Projection σ σ₁ σ₂ := by
  subst hbegin
  obtain ⟨ls, hp⟩ := h
  obtain ⟨σ₁, σ₂, ls₁, ls₂, hl₁, hl₂, hproj⟩ := Projection.start.path hA hp
  exact ⟨σ₁, σ₂, ⟨ls₁, hl₁⟩, ⟨ls₂, hl₂⟩, hproj⟩

end Runs

end Pipeline
end Servir.Interleaving
