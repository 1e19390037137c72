import Servir.Interleaving.Trace

/-!
# Machines behind traces

A machine is an abstract state with the actions that it allows. A service
implements a machine if every event of its traces is read as an allowed action
or as none. The log of every run then reads as a run of the machine.
-/

namespace Servir.Interleaving

structure Machine (State Action : Type) where
  start : State
  next : State → Action → State → Prop

/-- The machine may take these actions, the newest first, and ends in this state. -/
inductive Machine.Run {State Action : Type} (M : Machine State Action) :
    List Action → State → Prop where
  | nil : Run M [] M.start
  | cons {as s a s'} : Run M as s → M.next s a s' → Run M (a :: as) s'

/-- A quantity that each action adds to is the sum over the run. -/
theorem Machine.Run.sum {State Action : Type} {M : Machine State Action} {as : List Action}
    {s : State} (h : M.Run as s) (total : State → ℕ) (gain : Action → ℕ)
    (start : total M.start = 0)
    (next : ∀ {s a s'}, M.next s a s' → total s' = total s + gain a) :
    total s = (as.map gain).sum := by
  induction h with
  | nil => exact start
  | cons _ hstep ih =>
    rw [next hstep, ih, List.map_cons, List.sum_cons]
    omega

section Implements
variable {S : Signature} {J O State Action : Type} {V : Service S J O}

/-- The traces of a service, read event by event, are runs of the machine. `agrees` says what the
state of the machine is after a log. -/
structure Implements (V : Service S J O) (R : Protocol S J O) (A : Assumption V) (init : V.Shared)
    (M : Machine State Action) (action : Event S J O → Option Action)
    (agrees : Log S J O → State → Prop) : Prop where
  start : agrees [] M.start
  idle : ∀ {sh ev log s}, Traced V R A init sh (ev :: log) → action ev = none → agrees log s →
    agrees (ev :: log) s
  act : ∀ {sh ev log s a}, Traced V R A init sh (ev :: log) → action ev = some a → agrees log s →
    ∃ s', M.next s a s' ∧ agrees (ev :: log) s'

theorem Implements.run {R : Protocol S J O} {A : Assumption V} {init : V.Shared}
    {M : Machine State Action} {action : Event S J O → Option Action}
    {agrees : Log S J O → State → Prop} (hM : Implements V R A init M action agrees)
    {sh : V.Shared} {log : Log S J O} (h : Traced V R A init sh log) :
    ∃ s, M.Run (log.filterMap action) s ∧ agrees log s := by
  induction log generalizing sh with
  | nil => exact ⟨M.start, .nil, hM.start⟩
  | cons ev log ih =>
    have hbefore : Traced V R A init sh ([ev] ++ log) := h
    obtain ⟨sh₀, h₀⟩ := hbefore.before
    obtain ⟨s, hrun, hagrees⟩ := ih h₀
    cases hev : action ev with
    | none =>
      rw [List.filterMap_cons_none hev]
      exact ⟨s, hrun, hM.idle h hev hagrees⟩
    | some a =>
      obtain ⟨s', hnext, hagrees'⟩ := hM.act h hev hagrees
      rw [List.filterMap_cons_some hev]
      exact ⟨s', hrun.cons hnext, hagrees'⟩

end Implements
end Servir.Interleaving
