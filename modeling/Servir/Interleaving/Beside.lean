import Servir.Interleaving.Progress

/-!
# Services side by side

The effects of two languages make one language, and the environments of two
services make one environment in which each answers its own effects. A program
of either language is a program of both.
-/

namespace Servir.Interleaving

variable {S₁ S₂ : Signature} {α β γ : Type}

/-- The effects of two languages. -/
@[reducible] def Signature.sum (S₁ S₂ : Signature) : Signature where
  Effect := S₁.Effect ⊕ S₂.Effect
  Answer := Sum.elim S₁.Answer S₂.Answer

namespace Program

/-- A program of the first language. -/
def inl : Program S₁ α → Program (S₁.sum S₂) α
  | .pure a => .pure a
  | .perform e k => .perform (.inl e) (fun a => (k a).inl)

/-- A program of the second language. -/
def inr : Program S₂ α → Program (S₁.sum S₂) α
  | .pure a => .pure a
  | .perform e k => .perform (.inr e) (fun a => (k a).inr)

theorem inl_bind (p : Program S₁ α) (f : α → Program S₁ β) :
    ((p.bind f).inl : Program (S₁.sum S₂) β) = p.inl.bind (fun a => (f a).inl) := by
  induction p with
  | pure a => rfl
  | perform e k ih =>
    simp only [bind, inl]
    congr 1
    funext a
    exact ih a

theorem inr_bind (p : Program S₂ α) (f : α → Program S₂ β) :
    ((p.bind f).inr : Program (S₁.sum S₂) β) = p.inr.bind (fun a => (f a).inr) := by
  induction p with
  | pure a => rfl
  | perform e k ih =>
    simp only [bind, inr]
    congr 1
    funext a
    exact ih a

theorem inl_map_bind (p : Program S₁ α) (f : α → β) (g : β → Program (S₁.sum S₂) γ) :
    (p.bind (fun a => .pure (f a))).inl.bind g = p.inl.bind (fun a => g (f a)) := by
  rw [inl_bind]
  exact bind_assoc p.inl _ _

theorem inr_map_bind (p : Program S₂ α) (f : α → β) (g : β → Program (S₁.sum S₂) γ) :
    (p.bind (fun a => .pure (f a))).inr.bind g = p.inr.bind (fun a => g (f a)) := by
  rw [inr_bind]
  exact bind_assoc p.inr _ _

end Program

variable {J₁ O₁ J₂ O₂ J O : Type}

/-- The environments of two services, for programs that use both. -/
@[reducible] def Service.beside (V₁ : Service S₁ J₁ O₁) (V₂ : Service S₂ J₂ O₂)
    (start : J → Program (S₁.sum S₂) O) (admits : Log (S₁.sum S₂) J O → J → Bool) :
    Service (S₁.sum S₂) J O where
  Shared := V₁.Shared × V₂.Shared
  Choice := V₁.Choice ⊕ V₂.Choice
  start := start
  admits := admits
  respond
    | sh, .inl e, .inl c => (V₁.respond sh.1 e c).map (fun r => (r.1, (r.2, sh.2)))
    | sh, .inr e, .inr c => (V₂.respond sh.2 e c).map (fun r => (r.1, (sh.1, r.2)))
    | _, .inl _, .inr _ => none
    | _, .inr _, .inl _ => none

section Respond
variable {V₁ : Service S₁ J₁ O₁} {V₂ : Service S₂ J₂ O₂} {start : J → Program (S₁.sum S₂) O}
  {admits : Log (S₁.sum S₂) J O → J → Bool} {sh sh' : V₁.Shared × V₂.Shared}

theorem Service.beside_inl {e : S₁.Effect} {c : V₁.Choice ⊕ V₂.Choice} {a : S₁.Answer e}
    (h : (V₁.beside V₂ start admits).respond sh (.inl e) c = some (a, sh')) :
    ∃ c₁, V₁.respond sh.1 e c₁ = some (a, sh'.1) ∧ sh'.2 = sh.2 := by
  cases c with
  | inr c => cases h
  | inl c =>
    obtain ⟨r, hr, he⟩ := Option.map_eq_some_iff.1 h
    cases he
    exact ⟨c, hr, rfl⟩

theorem Service.beside_inr {e : S₂.Effect} {c : V₁.Choice ⊕ V₂.Choice} {a : S₂.Answer e}
    (h : (V₁.beside V₂ start admits).respond sh (.inr e) c = some (a, sh')) :
    ∃ c₂, V₂.respond sh.2 e c₂ = some (a, sh'.2) ∧ sh'.1 = sh.1 := by
  cases c with
  | inl c => cases h
  | inr c =>
    obtain ⟨r, hr, he⟩ := Option.map_eq_some_iff.1 h
    cases he
    exact ⟨c, hr, rfl⟩

end Respond

end Servir.Interleaving
