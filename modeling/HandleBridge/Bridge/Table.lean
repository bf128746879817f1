/-!
# Bridge/Table — entries that are added and never removed

An entry keeps its place for good, so a place identifies it.  Reading a place that has no entry gives
the default, and changing it has no effect.
-/

namespace HandleBridge

/-- Entries by their places. -/
structure Table (α : Type) where
  entries : List α

namespace Table

variable {α : Type}

/-- No entry. -/
def empty : Table α := ⟨[]⟩

instance : Inhabited (Table α) := ⟨empty⟩

/-- The number of entries, which is the place of the next one. -/
def size (t : Table α) : Nat := t.entries.length

/-- The table with an entry more. -/
def add (t : Table α) (a : α) : Table α := ⟨t.entries ++ [a]⟩

/-- The table with the entry at a place changed. -/
def modify (t : Table α) (i : Nat) (f : α → α) : Table α := ⟨t.entries.modify i f⟩

@[simp] theorem size_add (t : Table α) (a : α) : (t.add a).size = t.size + 1 := by
  simp [size, add]

@[simp] theorem size_modify (t : Table α) (i : Nat) (f : α → α) :
    (t.modify i f).size = t.size := by
  simp [size, modify]

variable [Inhabited α]

/-- The entry at a place. -/
def get (t : Table α) (i : Nat) : α := t.entries.getD i default

@[simp] theorem get_add_size (t : Table α) (a : α) : (t.add a).get t.size = a := by
  simp [get, add, size]

theorem get_add_of_lt (t : Table α) (a : α) {i : Nat} (h : i < t.size) :
    (t.add a).get i = t.get i := by
  simp [get, add, List.getElem?_append_left (show i < t.entries.length from h)]

theorem get_add_of_ne (t : Table α) (a : α) {i : Nat} (h : i ≠ t.size) :
    (t.add a).get i = t.get i := by
  rcases Nat.lt_or_ge i t.size with h' | h'
  · exact get_add_of_lt t a h'
  · have hi : t.entries.length < i := by simp [size] at h h'; omega
    simp [get, add, List.getElem?_eq_none (show (t.entries ++ [a]).length ≤ i by simp; omega),
      List.getElem?_eq_none (Nat.le_of_lt hi)]

theorem get_modify_self (t : Table α) (f : α → α) {i : Nat} (h : i < t.size) :
    (t.modify i f).get i = f (t.get i) := by
  simp [get, modify, List.getElem?_eq_getElem (show i < t.entries.length from h)]

theorem get_modify_of_ne (t : Table α) (f : α → α) {i j : Nat} (h : i ≠ j) :
    (t.modify i f).get j = t.get j := by
  simp [get, modify, h]

theorem get_of_size_le (t : Table α) {i : Nat} (h : t.size ≤ i) : t.get i = default := by
  simp [get, List.getElem?_eq_none (show t.entries.length ≤ i from h)]

theorem get_add (t : Table α) (a : α) (i : Nat) :
    (t.add a).get i = if i = t.size then a else t.get i := by
  split
  · rename_i h
    rw [h, get_add_size]
  · rename_i h
    exact get_add_of_ne t a h

theorem get_modify (t : Table α) (f : α → α) (i j : Nat) :
    (t.modify i f).get j = if j = i ∧ i < t.size then f (t.get i) else t.get j := by
  split
  · rename_i h
    rw [h.1, get_modify_self t f h.2]
  · rename_i h
    by_cases hji : j = i
    · have hi : t.size ≤ i := Nat.le_of_not_lt fun hi => h ⟨hji, hi⟩
      rw [hji, get_of_size_le t hi, get_of_size_le _ (by rwa [size_modify])]
    · exact get_modify_of_ne t f (Ne.symm hji)

/-- What is true of the entries and of one more is true of them together. -/
theorem forall_add {P : α → Prop} (t : Table α) {a : α} (h : ∀ i, i < t.size → P (t.get i))
    (ha : P a) (i : Nat) (hi : i < (t.add a).size) : P ((t.add a).get i) := by
  rw [get_add]
  split
  · exact ha
  · rename_i hne
    rw [size_add] at hi
    exact h i (Nat.lt_of_le_of_ne (Nat.le_of_lt_succ hi) hne)

/-- A change that keeps something about every entry keeps it about the entry at any place. -/
theorem get_modify_congr {β : Type} (t : Table α) (f : α → α) (g : α → β) (i j : Nat)
    (h : ∀ a, g (f a) = g a) : g ((t.modify i f).get j) = g (t.get j) := by
  by_cases hij : i = j
  · subst hij
    by_cases hi : i < t.size
    · rw [get_modify_self t f hi, h]
    · have : t.entries.length ≤ i := Nat.le_of_not_lt hi
      simp [get, modify, this]
  · rw [get_modify_of_ne t f hij]

end Table

end HandleBridge
