import Mathlib.Data.Finset.Card
import Mathlib.Data.List.Nodup
import Mathlib.Data.List.Pairwise
import Mathlib.Tactic

/-!
# Tables under unique constraints

A table is a list of rows with a family of key columns. No two rows agree on a
key column, and this is a field of the table, so a table that breaks a UNIQUE or
PRIMARY KEY constraint cannot be built.
-/

namespace Servir.Store

/-- Rows of a table whose columns `key c` are all unique. -/
@[ext] structure Table (Row Column : Type) (key : Column → Row → String) where
  rows : List Row
  unique : ∀ c, (rows.map (key c)).Nodup

namespace Table

variable {Row Column : Type} {key : Column → Row → String}

instance : Membership Row (Table Row Column key) := ⟨fun t r => r ∈ t.rows⟩

instance [DecidableEq Row] (t : Table Row Column key) (r : Row) : Decidable (r ∈ t) :=
  inferInstanceAs (Decidable (r ∈ t.rows))

theorem mem_rows {t : Table Row Column key} {r : Row} : r ∈ t.rows ↔ r ∈ t := Iff.rfl

def empty : Table Row Column key := ⟨[], fun _ => List.nodup_nil⟩

@[simp] theorem not_mem_empty (r : Row) : r ∉ (empty : Table Row Column key) := List.not_mem_nil

theorem eq_of_key {t : Table Row Column key} (c : Column) {r r' : Row} (hr : r ∈ t) (hr' : r' ∈ t)
    (h : key c r = key c r') : r = r' :=
  List.inj_on_of_nodup_map (t.unique c) hr hr' h

/-- Does some row carry the value `v` in column `c`? -/
def taken (t : Table Row Column key) (c : Column) (v : String) : Prop := ∃ r ∈ t, key c r = v

instance (t : Table Row Column key) (c : Column) (v : String) : Decidable (t.taken c v) :=
  inferInstanceAs (Decidable (∃ r ∈ t.rows, key c r = v))

def insert (t : Table Row Column key) (r : Row) (h : ∀ c, ¬ t.taken c (key c r)) :
    Table Row Column key where
  rows := r :: t.rows
  unique c := by
    rw [List.map_cons, List.nodup_cons]
    refine ⟨fun hmem => ?_, t.unique c⟩
    obtain ⟨r', hr', hkey⟩ := List.mem_map.1 hmem
    exact h c ⟨r', hr', hkey⟩

@[simp] theorem mem_insert {t : Table Row Column key} {r r' : Row}
    (h : ∀ c, ¬ t.taken c (key c r)) : r' ∈ t.insert r h ↔ r' = r ∨ r' ∈ t := List.mem_cons

/-- The rows that do not satisfy `p` remain. -/
def delete (t : Table Row Column key) (p : Row → Bool) : Table Row Column key where
  rows := t.rows.filter (fun r => !p r)
  unique c := (List.Sublist.map (key c) List.filter_sublist).nodup (t.unique c)

@[simp] theorem mem_delete {t : Table Row Column key} {p : Row → Bool} {r : Row} :
    r ∈ t.delete p ↔ r ∈ t ∧ p r = false := by
  change r ∈ t.rows.filter (fun r => !p r) ↔ _
  simp [List.mem_filter, mem_rows]

theorem delete_eq_self {t : Table Row Column key} {p : Row → Bool} (h : ∀ r ∈ t, p r = false) :
    t.delete p = t := by
  ext1
  exact List.filter_eq_self.2 (fun r hr => by simp [h r hr])

/-- The number of rows that `delete p` removes. -/
def count (t : Table Row Column key) (p : Row → Bool) : ℕ := t.rows.countP p

theorem count_pos {t : Table Row Column key} {p : Row → Bool} :
    0 < t.count p ↔ ∃ r ∈ t, p r = true := List.countP_pos_iff

theorem count_eq_zero {t : Table Row Column key} {p : Row → Bool} :
    t.count p = 0 ↔ ∀ r ∈ t, p r = false := by
  simp [count, List.countP_eq_zero, mem_rows]

def find (t : Table Row Column key) (c : Column) (v : String) : Option Row :=
  t.rows.find? (fun r => key c r == v)

theorem find_eq_some {t : Table Row Column key} {c : Column} {v : String} {r : Row} :
    t.find c v = some r ↔ r ∈ t ∧ key c r = v := by
  constructor
  · intro h
    exact ⟨List.mem_of_find?_eq_some h, by simpa using List.find?_some h⟩
  · rintro ⟨hr, rfl⟩
    obtain ⟨r', hr'⟩ : ∃ r', t.find c (key c r) = some r' := by
      rw [← Option.isSome_iff_exists, find, List.find?_isSome]
      exact ⟨r, hr, by simp⟩
    have hkey : key c r' = key c r := by simpa using List.find?_some hr'
    rw [hr', t.eq_of_key c (List.mem_of_find?_eq_some hr') hr hkey]

/-- The rows that satisfy `p`, counted as what `f` makes of them. -/
theorem count_eq_card {α : Type} [DecidableEq α] {t : Table Row Column key} {p : Row → Bool}
    (c : Column) {f : Row → α} {s : Finset α} (hf : ∀ r r', f r = f r' → key c r = key c r')
    (hs : ∀ x, x ∈ s ↔ ∃ r ∈ t, p r = true ∧ f r = x) : t.count p = s.card := by
  have hnodup : ((t.rows.filter p).map f).Nodup := by
    apply List.Nodup.map_on
    · intro r hr r' hr' he
      exact t.eq_of_key c (List.mem_of_mem_filter hr) (List.mem_of_mem_filter hr') (hf r r' he)
    · exact (List.Nodup.of_map _ (t.unique c)).filter p
  have heq : s = ((t.rows.filter p).map f).toFinset := by
    ext x
    simp [hs, mem_rows, and_assoc]
  rw [heq, List.toFinset_card_of_nodup hnodup, List.length_map, count,
    List.countP_eq_length_filter]

section Congr
variable {t t' : Table Row Column key} {c : Column} {v : String} {p : Row → Bool}

theorem taken_congr (h : ∀ r, key c r = v → (r ∈ t ↔ r ∈ t')) : t.taken c v ↔ t'.taken c v := by
  constructor
  · rintro ⟨r, hr, hkey⟩
    exact ⟨r, (h r hkey).1 hr, hkey⟩
  · rintro ⟨r, hr, hkey⟩
    exact ⟨r, (h r hkey).2 hr, hkey⟩

theorem find_congr (h : ∀ r, key c r = v → (r ∈ t ↔ r ∈ t')) : t.find c v = t'.find c v := by
  ext r
  rw [find_eq_some, find_eq_some]
  exact and_congr_left (h r)

theorem count_congr (c : Column) (h : ∀ r, p r = true → (r ∈ t ↔ r ∈ t')) :
    t.count p = t'.count p := by
  have hnodup : ∀ t : Table Row Column key, (t.rows.filter p).Nodup :=
    fun t => (List.Nodup.of_map _ (t.unique c)).filter p
  have hperm : (t.rows.filter p).Perm (t'.rows.filter p) := by
    rw [List.perm_ext_iff_of_nodup (hnodup t) (hnodup t')]
    intro r
    simp only [List.mem_filter, mem_rows]
    exact and_congr_left (h r)
  rw [count, count, List.countP_eq_length_filter, List.countP_eq_length_filter, hperm.length_eq]

end Congr

end Table
end Servir.Store
