import Mathlib.Tactic

/-!
# Programs that perform effects one at a time

A program is a finite tree of effects. Its environment answers each effect, so
two programs can be interleaved at every effect. The judgment `Program.Meets`
is a weakest precondition over the history of effects already answered: a guard
is checked before every effect and a postcondition at the end. It says nothing
about the shared state, so a sequential fact about a handler is proved once and
then used in every interleaving.
-/

namespace Servir.Interleaving

/-- The effects of a language, each with the type of its answers. -/
structure Signature where
  Effect : Type
  Answer : Effect → Type

variable {S : Signature} {α β ε : Type}

/-- One effect together with the answer it received. -/
structure Entry (S : Signature) where
  effect : S.Effect
  answer : S.Answer effect

/-- The answered effects of one program, newest first. -/
abbrev History (S : Signature) := List (Entry S)

inductive Program (S : Signature) (α : Type) : Type where
  | pure (value : α)
  | perform (effect : S.Effect) (next : S.Answer effect → Program S α)

namespace Program

def bind : Program S α → (α → Program S β) → Program S β
  | .pure a, f => f a
  | .perform e k, f => .perform e (fun a => (k a).bind f)

instance : Monad (Program S) where
  pure := Program.pure
  bind := Program.bind

private theorem bind_return (p : Program S α) : p.bind .pure = p := by
  induction p with
  | pure a => rfl
  | perform e k ih =>
    rw [bind]
    congr 1
    funext a
    exact ih a

private theorem bind_bind {γ : Type} (p : Program S α) (f : α → Program S β)
    (g : β → Program S γ) : (p.bind f).bind g = p.bind (fun a => (f a).bind g) := by
  induction p with
  | pure a => rfl
  | perform e k ih =>
    simp only [bind]
    congr 1
    funext a
    exact ih a

instance : LawfulMonad (Program S) :=
  LawfulMonad.mk' _ (fun p => bind_return p) (fun _ _ => rfl) (fun p f g => bind_bind p f g)

/-- The single effect `e` as a program. -/
def effect (e : S.Effect) : Program S (S.Answer e) := .perform e .pure

/-- Every effect is guarded by `G` and every result satisfies `Q`, where both see
the history of the effects answered so far. -/
def Meets (G : History S → S.Effect → Prop) (Q : History S → α → Prop) :
    History S → Program S α → Prop
  | h, .pure a => Q h a
  | h, .perform e k => G h e ∧ ∀ a, Meets G Q (⟨e, a⟩ :: h) (k a)

variable {G : History S → S.Effect → Prop}

@[simp] theorem meets_pure {Q : History S → α → Prop} (h : History S) (a : α) :
    Meets G Q h (.pure a) ↔ Q h a := Iff.rfl

@[simp] theorem meets_perform {Q : History S → α → Prop} (h : History S) (e : S.Effect)
    (k : S.Answer e → Program S α) :
    Meets G Q h (.perform e k) ↔ G h e ∧ ∀ a, Meets G Q (⟨e, a⟩ :: h) (k a) := Iff.rfl

@[simp] theorem meets_return {Q : History S → α → Prop} (h : History S) (a : α) :
    Meets G Q h (pure a : Program S α) ↔ Q h a := Iff.rfl

@[simp] theorem meets_effect (e : S.Effect) {Q : History S → S.Answer e → Prop}
    (h : History S) : Meets G Q h (effect e) ↔ G h e ∧ ∀ a, Q (⟨e, a⟩ :: h) a := Iff.rfl

/-- Sequencing hands the history reached by the first program to the second. -/
theorem meets_bind {Q : History S → β → Prop} (p : Program S α) (f : α → Program S β)
    (h : History S) :
    Meets G Q h (p >>= f) ↔ Meets G (fun h' a => Meets G Q h' (f a)) h p := by
  induction p generalizing h with
  | pure a => rfl
  | perform e k ih =>
    change (G h e ∧ ∀ a, Meets G Q (⟨e, a⟩ :: h) (k a >>= f)) ↔ _
    simp only [ih, meets_perform]

theorem Meets.mono {G' : History S → S.Effect → Prop} {Q Q' : History S → α → Prop}
    {p : Program S α} {h : History S} (hp : Meets G Q h p)
    (hG : ∀ h e, G h e → G' h e) (hQ : ∀ h a, Q h a → Q' h a) : Meets G' Q' h p := by
  induction p generalizing h with
  | pure a => exact hQ h a hp
  | perform e k ih => exact ⟨hG h e hp.1, fun a => ih a (hp.2 a)⟩

/-- Every result satisfies `Q`, however the effects are answered. -/
def Always (Q : α → Prop) : Program S α → Prop
  | .pure a => Q a
  | .perform _ k => ∀ a, Always Q (k a)

@[simp] theorem always_return {Q : α → Prop} (a : α) :
    Always Q (Pure.pure a : Program S α) ↔ Q a := Iff.rfl

theorem always_bind {Q : β → Prop} (p : Program S α) (f : α → Program S β) :
    Always Q (p >>= f) ↔ Always (fun a => Always Q (f a)) p := by
  induction p with
  | pure a => rfl
  | perform e k ih => exact forall_congr' ih

theorem always_of_forall {Q : α → Prop} (h : ∀ a, Q a) (p : Program S α) : Always Q p := by
  induction p with
  | pure a => exact h a
  | perform e k ih => exact ih

theorem Always.mono {Q Q' : α → Prop} {p : Program S α} (hp : Always Q p)
    (hQ : ∀ a, Q a → Q' a) : Always Q' p := by
  induction p with
  | pure a => exact hQ a hp
  | perform e k ih => exact fun a => ih a (hp a)

end Program

/-- A fallible program: an error ends it, as `?` does in the source. -/
abbrev Fallible (S : Signature) (ε α : Type) := ExceptT ε (Program S) α

namespace Fallible
open Program

variable {G : History S → S.Effect → Prop}

/-- The single effect `e` as a fallible program that does not fail by itself. -/
def effect (e : S.Effect) : Fallible S ε (S.Answer e) := ExceptT.lift (Program.effect e)

@[simp] theorem meets_pure {Q : History S → Except ε α → Prop} (h : History S) (a : α) :
    Meets G Q h (ExceptT.run (pure a : Fallible S ε α)) ↔ Q h (.ok a) := Iff.rfl

@[simp] theorem meets_throw {Q : History S → Except ε α → Prop} (h : History S) (e : ε) :
    Meets G Q h (ExceptT.run (throw e : Fallible S ε α)) ↔ Q h (.error e) := Iff.rfl

@[simp] theorem meets_effect (e : S.Effect) {Q : History S → Except ε (S.Answer e) → Prop}
    (h : History S) : Meets G Q h (ExceptT.run (effect e : Fallible S ε (S.Answer e))) ↔
      G h e ∧ ∀ a, Q (⟨e, a⟩ :: h) (.ok a) := Iff.rfl

@[simp] theorem meets_bind {Q : History S → Except ε β → Prop} (x : Fallible S ε α)
    (f : α → Fallible S ε β) (h : History S) :
    Meets G Q h (ExceptT.run (x >>= f)) ↔
      Meets G (fun h' r => match r with
        | .ok a => Meets G Q h' (ExceptT.run (f a))
        | .error e => Q h' (.error e)) h (ExceptT.run x) := by
  change Meets G Q h (ExceptT.run x >>= ExceptT.bindCont f) ↔ _
  rw [Program.meets_bind]
  constructor <;> intro hx <;> refine hx.mono (fun _ _ => id) ?_ <;>
    rintro h' (e | a) hr <;> exact hr

@[simp] theorem meets_ofExcept {Q : History S → Except ε α → Prop} (r : Except ε α)
    (h : History S) :
    Meets G Q h (ExceptT.run (ofExcept r : Fallible S ε α)) ↔ Q h r := by
  cases r <;> rfl

@[simp] theorem meets_ite {Q : History S → Except ε α → Prop} (c : Prop) [Decidable c]
    (x y : Fallible S ε α) (h : History S) :
    Meets G Q h (ExceptT.run (if c then x else y)) ↔
      (c → Meets G Q h x.run) ∧ (¬ c → Meets G Q h y.run) := by
  by_cases hc : c <;> simp [hc]

end Fallible
end Servir.Interleaving
