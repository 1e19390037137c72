import Mathlib.Data.Finset.Card
import Mathlib.Data.Finset.SDiff
import Mathlib.Data.Finset.Union
import Servir.Interleaving.Simulation

/-!
# A ledger of accounts and tickets

Accounts are enrolled under an id and a name, each of which is given once. A
ticket is issued to an account under a new key, and is live until it is redeemed
before its expiry or revoked with all live tickets of its holder. A book carries
these rules, so every book that operations lead to keeps them.
-/

namespace Servir.Ledger
open Interleaving

structure Account (Id Name : Type) where
  id : Id
  name : Name
deriving DecidableEq

structure Ticket (Id Key Time : Type) where
  key : Key
  holder : Id
  expiry : Time
deriving DecidableEq

/-- An operation with its answer. -/
inductive Operation (Id Name Key Time : Type) where
  | enroll (a : Account Id Name)
  /-- The id or the name of the account is taken. -/
  | clash (a : Account Id Name)
  | findByName (name : Name) (found : Option (Account Id Name))
  | findById (id : Id) (found : Option (Account Id Name))
  | issue (k : Ticket Id Key Time)
  | redeem (key : Key) (now : Time)
  /-- No live ticket of the key can be redeemed any more. -/
  | miss (key : Key) (now : Time)
  | revoke (holder : Id) (count : ℕ)
deriving DecidableEq

@[ext] structure Book (Id Name Key Time : Type) where
  accounts : Finset (Account Id Name)
  issued : Finset (Ticket Id Key Time)
  redeemed : Finset (Ticket Id Key Time)
  revoked : Finset (Ticket Id Key Time)
  one_id : Set.InjOn Account.id (accounts : Set (Account Id Name))
  one_name : Set.InjOn Account.name (accounts : Set (Account Id Name))
  one_key : Set.InjOn Ticket.key (issued : Set (Ticket Id Key Time))
  held : ∀ k ∈ issued, ∃ a ∈ accounts, a.id = k.holder
  redeemed_issued : redeemed ⊆ issued
  revoked_issued : revoked ⊆ issued
  apart : Disjoint redeemed revoked

theorem injOn_insert_new {α β : Type} [DecidableEq α] {f : α → β} {s : Finset α} {x : α}
    (hs : Set.InjOn f (s : Set α)) (hx : ∀ y ∈ s, f y ≠ f x) :
    Set.InjOn f (insert x s : Finset α) := by
  rw [Finset.coe_insert, Set.injOn_insert]
  · refine ⟨hs, ?_⟩
    rintro ⟨y, hy, he⟩
    exact hx y hy he
  · intro hmem
    exact hx x hmem rfl

namespace Book

variable {Id Name Key Time : Type}

def empty : Book Id Name Key Time :=
  ⟨∅, ∅, ∅, ∅, by simp, by simp, by simp, by simp, by simp, by simp, by simp⟩

def enroll [DecidableEq Id] [DecidableEq Name] (b : Book Id Name Key Time) (a : Account Id Name)
    (hid : ∀ a' ∈ b.accounts, a'.id ≠ a.id) (hname : ∀ a' ∈ b.accounts, a'.name ≠ a.name) :
    Book Id Name Key Time where
  __ := b
  accounts := insert a b.accounts
  one_id := injOn_insert_new b.one_id hid
  one_name := injOn_insert_new b.one_name hname
  held k hk := (b.held k hk).imp (fun _ h => ⟨Finset.mem_insert_of_mem h.1, h.2⟩)

variable [DecidableEq Id] [DecidableEq Key] [DecidableEq Time] (b : Book Id Name Key Time)

/-- The tickets that were neither redeemed nor revoked. -/
def live : Finset (Ticket Id Key Time) := b.issued \ (b.redeemed ∪ b.revoked)

theorem live_subset : b.live ⊆ b.issued := Finset.sdiff_subset

def liveOf (holder : Id) : Finset (Ticket Id Key Time) :=
  b.live.filter (fun k => k.holder = holder)

def issue (k : Ticket Id Key Time) (hkey : ∀ k' ∈ b.issued, k'.key ≠ k.key)
    (hheld : ∃ a ∈ b.accounts, a.id = k.holder) : Book Id Name Key Time where
  __ := b
  issued := insert k b.issued
  one_key := injOn_insert_new b.one_key hkey
  held k' hk' := by
    rcases Finset.mem_insert.1 hk' with rfl | hk'
    · exact hheld
    · exact b.held k' hk'
  redeemed_issued := b.redeemed_issued.trans (Finset.subset_insert _ _)
  revoked_issued := b.revoked_issued.trans (Finset.subset_insert _ _)

def redeem (k : Ticket Id Key Time) (hk : k ∈ b.live) : Book Id Name Key Time where
  __ := b
  redeemed := insert k b.redeemed
  redeemed_issued := Finset.insert_subset (b.live_subset hk) b.redeemed_issued
  apart := by
    rw [Finset.disjoint_insert_left]
    refine ⟨fun hrevoked => ?_, b.apart⟩
    exact (Finset.mem_sdiff.1 hk).2 (Finset.mem_union_right _ hrevoked)

def revoke (holder : Id) : Book Id Name Key Time where
  __ := b
  revoked := b.revoked ∪ b.liveOf holder
  revoked_issued :=
    Finset.union_subset b.revoked_issued ((Finset.filter_subset _ _).trans b.live_subset)
  apart := by
    rw [Finset.disjoint_union_right]
    refine ⟨b.apart, Finset.disjoint_left.2 (fun k hredeemed hk => ?_)⟩
    have hlive := (Finset.mem_filter.1 hk).1
    exact (Finset.mem_sdiff.1 hlive).2 (Finset.mem_union_left _ hredeemed)

variable {b} {k k' : Ticket Id Key Time}

theorem mem_live : k ∈ b.live ↔ k ∈ b.issued ∧ k ∉ b.redeemed ∧ k ∉ b.revoked := by
  simp [live]

theorem mem_live_issue {hkey : ∀ k' ∈ b.issued, k'.key ≠ k.key}
    {hheld : ∃ a ∈ b.accounts, a.id = k.holder} :
    k' ∈ (b.issue k hkey hheld).live ↔ k' = k ∨ k' ∈ b.live := by
  have hnew : k ∉ b.issued := fun hk => hkey k hk rfl
  have hredeemed : k ∉ b.redeemed := fun hk => hnew (b.redeemed_issued hk)
  have hrevoked : k ∉ b.revoked := fun hk => hnew (b.revoked_issued hk)
  simp only [mem_live, issue, Finset.mem_insert]
  by_cases he : k' = k
  · subst he
    simp [hredeemed, hrevoked]
  · simp [he]

theorem mem_live_redeem {hk : k ∈ b.live} :
    k' ∈ (b.redeem k hk).live ↔ k' ∈ b.live ∧ k' ≠ k := by
  simp only [mem_live, redeem, Finset.mem_insert]
  tauto

theorem mem_live_revoke {holder : Id} :
    k' ∈ (b.revoke holder).live ↔ k' ∈ b.live ∧ k'.holder ≠ holder := by
  simp only [mem_live, revoke, liveOf, Finset.mem_union, Finset.mem_filter]
  tauto

/-- Every ticket issued is live, redeemed or revoked, and one of them only. -/
theorem balance (b : Book Id Name Key Time) :
    b.live.card + b.redeemed.card + b.revoked.card = b.issued.card := by
  have hends : b.redeemed ∪ b.revoked ⊆ b.issued :=
    Finset.union_subset b.redeemed_issued b.revoked_issued
  rw [live, add_assoc, ← Finset.card_union_of_disjoint b.apart,
    Finset.card_sdiff_add_card_eq_card hends]

end Book

section Machine
variable {Id Name Key Time : Type} [DecidableEq Id] [DecidableEq Name] [DecidableEq Key]
  [DecidableEq Time] [LT Time]

inductive Next (b : Book Id Name Key Time) :
    Operation Id Name Key Time → Book Id Name Key Time → Prop where
  | enroll {a} (hid : ∀ a' ∈ b.accounts, a'.id ≠ a.id)
      (hname : ∀ a' ∈ b.accounts, a'.name ≠ a.name) : Next b (.enroll a) (b.enroll a hid hname)
  | clash {a a'} : a' ∈ b.accounts → a'.id = a.id ∨ a'.name = a.name → Next b (.clash a) b
  | findByName {name found} : (∀ a, found = some a ↔ a ∈ b.accounts ∧ a.name = name) →
      Next b (.findByName name found) b
  | findById {id found} : (∀ a, found = some a ↔ a ∈ b.accounts ∧ a.id = id) →
      Next b (.findById id found) b
  | issue {k} (hkey : ∀ k' ∈ b.issued, k'.key ≠ k.key)
      (hheld : ∃ a ∈ b.accounts, a.id = k.holder) : Next b (.issue k) (b.issue k hkey hheld)
  | redeem {k now} (hk : k ∈ b.live) : now < k.expiry → Next b (.redeem k.key now) (b.redeem k hk)
  | miss {key now} : (∀ k ∈ b.live, k.key = key → ¬ now < k.expiry) → Next b (.miss key now) b
  | revoke {holder} : Next b (.revoke holder (b.liveOf holder).card) (b.revoke holder)

/-- The ledger, empty at first. -/
def ledger (Id Name Key Time : Type) [DecidableEq Id] [DecidableEq Name] [DecidableEq Key]
    [DecidableEq Time] [LT Time] : Machine (Book Id Name Key Time) (Operation Id Name Key Time) :=
  ⟨.empty, Next⟩

/-- The tickets that an operation issues, redeems and revokes. -/
def Operation.issues : Operation Id Name Key Time → ℕ
  | .issue _ => 1
  | _ => 0

def Operation.redeems : Operation Id Name Key Time → ℕ
  | .redeem .. => 1
  | _ => 0

def Operation.revokes : Operation Id Name Key Time → ℕ
  | .revoke _ count => count
  | _ => 0

variable {b b' : Book Id Name Key Time} {op : Operation Id Name Key Time}

theorem Next.issued (h : Next b op b') : b'.issued.card = b.issued.card + op.issues := by
  cases h with
  | issue hkey hheld => exact Finset.card_insert_of_notMem (fun hk => hkey _ hk rfl)
  | _ => rfl

theorem Next.redeemed (h : Next b op b') : b'.redeemed.card = b.redeemed.card + op.redeems := by
  cases h with
  | redeem hk _ => exact Finset.card_insert_of_notMem (Book.mem_live.1 hk).2.1
  | _ => rfl

theorem Next.revoked (h : Next b op b') : b'.revoked.card = b.revoked.card + op.revokes := by
  cases h with
  | @revoke holder =>
    apply Finset.card_union_of_disjoint
    rw [Finset.disjoint_left]
    intro k hk hlive
    exact (Book.mem_live.1 (Finset.mem_filter.1 hlive).1).2.2 hk
  | _ => rfl

/-- In every run, what is live is what was issued less what was redeemed and revoked. -/
theorem live_card {ops : List (Operation Id Name Key Time)}
    (h : (ledger Id Name Key Time).Run ops b) :
    b.live.card + (ops.map Operation.redeems).sum + (ops.map Operation.revokes).sum =
      (ops.map Operation.issues).sum := by
  rw [← h.sum (fun b => b.redeemed.card) _ rfl Next.redeemed,
    ← h.sum (fun b => b.revoked.card) _ rfl Next.revoked,
    ← h.sum (fun b => b.issued.card) _ rfl Next.issued]
  exact b.balance

end Machine
end Servir.Ledger
