import Servir.Interleaving.Erasure

/-!
# Serial runs

The tasks of a run can be replayed one whole task after the other. If each task
has at most one decisive event, and answers that do not depend on the tasks that
are decided later, then the order of the decisive events is a serial order.
-/

namespace Servir.Interleaving

variable {S : Signature} {J O : Type} {V : Service S J O} {R : Protocol S J O}
  {A B : Assumption V} {init : V.Shared} {new later earlier : Log S J O} {ev : Event S J O}
  {order : List ℕ} {t : ℕ} {σ₀ σ σ' : Pool V} {ls : List (Label V)}

/-- The events of `new`, one whole task after the other. -/
def serial (new : Log S J O) (order : List ℕ) : Log S J O :=
  order.reverse.flatMap (fun t => kept (fun t' => t' == t) new)

@[simp] theorem serial_nil : serial new [] = [] := rfl

theorem serial_concat : serial new (order ++ [t]) =
    kept (fun t' => t' == t) new ++ serial new order := by simp [serial]

theorem mem_serial : ev ∈ serial new order ↔ ev ∈ new ∧ ev.task ∈ order := by
  simp only [serial, List.mem_flatMap, List.mem_reverse, mem_kept, beq_iff_eq]
  constructor
  · rintro ⟨t, ht, hev, rfl⟩
    exact ⟨hev, ht⟩
  · exact fun ⟨hev, ht⟩ => ⟨_, ht, hev, rfl⟩

/-- The pool `σ'` is reached from `σ₀` by the labels that the tasks of `order` have in `ls`, one whole
task after the other. -/
structure Serialized (B : Assumption V) (σ₀ : Pool V) (ls : List (Label V)) (new : Log S J O)
    (order : List ℕ) (σ' : Pool V) : Prop where
  nodup : order.Nodup
  path : Path B σ₀ (order.flatMap (fun t => ls.filter (fun l => l.task == t))) σ'
  log : σ'.log = serial new order ++ σ₀.log

theorem Serialized.nil : Serialized B σ₀ ls new [] σ₀ := ⟨List.nodup_nil, .nil σ₀, rfl⟩

theorem Serialized.concat (hV : V.Follows R) (hσ₀ : Reach ⊤ init σ₀) (hp : Path A σ₀ ls σ)
    (hnew : σ.log = new ++ σ₀.log) (h : Serialized B σ₀ ls new order σ') (ht : t ∉ order)
    (hfresh : ∀ ev ∈ σ₀.log, ev.task ≠ t)
    (hind : Independent R A B init (fun t' => t' == t) σ₀.log (serial new order ++ σ₀.log) σ.log) :
    ∃ σ'', Serialized B σ₀ ls new (order ++ [t]) σ'' := by
  have hσ' : Reach ⊤ init σ' := hσ₀.path (h.path.mono (fun _ _ _ _ => trivial))
  have habsent : ∀ ev ∈ σ'.log, ev.task ≠ t := by
    intro ev hev he
    rw [h.log, List.mem_append, mem_serial] at hev
    rcases hev with ⟨-, hev⟩ | hev
    · exact ht (he ▸ hev)
    · exact hfresh ev hev he
  have h₀ : Erased (fun t' => t' == t) σ₀.log σ'.log σ₀ σ' := by
    refine .refl (fun t' ht' => ?_)
    obtain rfl : t' = t := by simpa using ht'
    rw [hσ₀.absent hV hfresh, hσ'.absent hV habsent]
  rw [← h.log] at hind
  obtain ⟨σ'', hpath, ⟨new', hlog, hlog'⟩, -⟩ :=
    Path.erase hV hind hσ₀ hσ' h₀ hp List.suffix_rfl
  obtain rfl : new = new' := List.append_cancel_right (hnew.symm.trans hlog)
  refine ⟨σ'', ?_, ?_, ?_⟩
  · exact h.nodup.append (List.nodup_singleton t) (by simpa using ht)
  · simpa using h.path.append hpath
  · rw [hlog', h.log, serial_concat, List.append_assoc]

/-- The tasks with a decisive event in `log`. -/
def Decided (point : Event S J O → Prop) (log : Log S J O) (t : ℕ) : Prop :=
  ∃ ev ∈ log, point ev ∧ ev.task = t

/-- What a run needs for its decisive events to give a serial order. -/
structure Decisive (R : Protocol S J O) (A B : Assumption V) (init : V.Shared) (base new : Log S J O)
    (point : Event S J O → Prop) : Prop where
  fresh : ∀ ev ∈ new, ∀ ev' ∈ base, ev'.task ≠ ev.task
  once : ∀ later ev earlier, new = later ++ ev :: earlier → point ev →
    ¬ Decided point earlier ev.task
  decided : ∀ later ev earlier, new = later ++ ev :: earlier → point ev → ∀ order,
    (∀ t, t ∈ order ↔ Decided point earlier t) →
    Independent R A B init (fun t => t == ev.task) base (serial new order ++ base) (new ++ base)
  quiet : ∀ ev ∈ new, ¬ Decided point new ev.task → ∀ order, ev.task ∉ order →
    Independent R A B init (fun t => t == ev.task) base (serial new order ++ base) (new ++ base)

variable {point : Event S J O → Prop}

/-- The decided tasks can be replayed in the order of their decisive events. -/
theorem Decisive.replay_decided (hV : V.Follows R) (hσ₀ : Reach ⊤ init σ₀) (hp : Path A σ₀ ls σ)
    (hnew : σ.log = new ++ σ₀.log) (h : Decisive R A B init σ₀.log new point)
    (hsuffix : earlier <:+ new) :
    ∃ order σ', Serialized B σ₀ ls new order σ' ∧ ∀ t, t ∈ order ↔ Decided point earlier t := by
  induction earlier with
  | nil => exact ⟨[], σ₀, .nil, by simp [Decided]⟩
  | cons ev earlier ih =>
    obtain ⟨order, σ', hserial, horder⟩ := ih ((List.suffix_cons ev earlier).trans hsuffix)
    obtain ⟨later, hlater⟩ := hsuffix
    by_cases hpoint : point ev
    · have hmem : ev ∈ new := hlater ▸ (by simp)
      have ht : ev.task ∉ order :=
        fun hmem => h.once _ _ _ hlater.symm hpoint ((horder _).1 hmem)
      obtain ⟨σ'', hserial'⟩ := hserial.concat hV hσ₀ hp hnew ht (h.fresh ev hmem)
        (hnew ▸ h.decided _ _ _ hlater.symm hpoint order horder)
      refine ⟨_, σ'', hserial', fun t => ?_⟩
      rw [List.mem_append, List.mem_singleton, horder]
      simp [Decided, hpoint, or_comm, eq_comm]
    · refine ⟨order, σ', hserial, fun t => ?_⟩
      rw [horder]
      simp [Decided, hpoint]

/-- The other tasks can be replayed after them in any order. -/
theorem Decisive.replay (hV : V.Follows R) (hσ₀ : Reach ⊤ init σ₀) (hp : Path A σ₀ ls σ)
    (hnew : σ.log = new ++ σ₀.log) (h : Decisive R A B init σ₀.log new point)
    (hsuffix : earlier <:+ new) :
    ∃ order σ', Serialized B σ₀ ls new order σ' ∧
      ∀ t, t ∈ order ↔ Decided point new t ∨ ∃ ev ∈ earlier, ev.task = t := by
  induction earlier with
  | nil =>
    obtain ⟨order, σ', hserial, horder⟩ := h.replay_decided hV hσ₀ hp hnew List.suffix_rfl
    exact ⟨order, σ', hserial, by simpa using horder⟩
  | cons ev earlier ih =>
    obtain ⟨order, σ', hserial, horder⟩ := ih ((List.suffix_cons ev earlier).trans hsuffix)
    have hmem : ev ∈ new := hsuffix.subset List.mem_cons_self
    by_cases ht : ev.task ∈ order
    · refine ⟨order, σ', hserial, fun t => ?_⟩
      rw [horder]
      rw [horder] at ht
      constructor
      · rintro (hd | ⟨ev', hev', rfl⟩)
        · exact .inl hd
        · exact .inr ⟨ev', List.mem_cons_of_mem _ hev', rfl⟩
      · rintro (hd | ⟨ev', hev', rfl⟩)
        · exact .inl hd
        · rcases List.mem_cons.1 hev' with rfl | hev'
          · exact ht
          · exact .inr ⟨ev', hev', rfl⟩
    · have hquiet : ¬ Decided point new ev.task := fun hd => ht ((horder _).2 (.inl hd))
      obtain ⟨σ'', hserial'⟩ := hserial.concat hV hσ₀ hp hnew ht (h.fresh ev hmem)
        (hnew ▸ h.quiet ev hmem hquiet order ht)
      refine ⟨_, σ'', hserial', fun t => ?_⟩
      rw [List.mem_append, List.mem_singleton, horder]
      simp [or_comm, or_left_comm, eq_comm]

/-- A run is a serial run of the same tasks with the same labels. -/
theorem Decisive.serialize (hV : V.Follows R) (hσ₀ : Reach ⊤ init σ₀) (hp : Path A σ₀ ls σ)
    (hnew : σ.log = new ++ σ₀.log) (h : Decisive R A B init σ₀.log new point) :
    ∃ order σ', Serialized B σ₀ ls new order σ' ∧ ∀ t, t ∈ order ↔ ∃ ev ∈ new, ev.task = t := by
  obtain ⟨order, σ', hserial, horder⟩ := h.replay hV hσ₀ hp hnew List.suffix_rfl
  refine ⟨order, σ', hserial, fun t => (horder t).trans (or_iff_right_of_imp ?_)⟩
  rintro ⟨ev, hev, -, rfl⟩
  exact ⟨ev, hev, rfl⟩

theorem Serialized.mem_log (h : Serialized B σ₀ ls new order σ') (hnew : σ.log = new ++ σ₀.log)
    (horder : ∀ t, t ∈ order ↔ ∃ ev ∈ new, ev.task = t) : ev ∈ σ'.log ↔ ev ∈ σ.log := by
  rw [h.log, hnew, List.mem_append, List.mem_append, mem_serial, horder]
  exact or_congr_left (and_iff_left_of_imp (fun hev => ⟨ev, hev, rfl⟩))

end Servir.Interleaving
