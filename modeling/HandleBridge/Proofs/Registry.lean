import HandleBridge.Bridge.Registry

/-!
# Proofs/Registry — a registry is a map by descending numbers

`Sorted` is kept by `insert` and by `erase`; under it an entry is under a number exactly when a
lookup finds it there, so `contains` is membership.
-/

namespace HandleBridge.Registry

variable {registry : Registry} {id : Nat} {r : Resource} {e : Nat × Resource}

/-- The numbers descend. -/
def Sorted (registry : Registry) : Prop := registry.Pairwise fun e e' => e'.1 < e.1

theorem sorted_nil : Sorted [] := List.Pairwise.nil

theorem Sorted.nodup (h : registry.Sorted) : (registry.map Prod.fst).Nodup :=
  List.pairwise_map.2 (h.imp fun hlt => Nat.ne_of_gt hlt)

/-! ## Taking an entry out -/

theorem mem_erase : e ∈ registry.erase id ↔ e ∈ registry ∧ e.1 ≠ id := by simp [erase]

theorem Sorted.erase (h : registry.Sorted) (id : Nat) : (registry.erase id).Sorted :=
  h.sublist List.filter_sublist

/-! ## Putting an entry in -/

/-- An entry that is put in is there afterwards, unless its number was in use. -/
theorem mem_insert (h : registry.Sorted) :
    e ∈ registry.insert id r ↔ e ∈ registry ∨ e = (id, r) ∧ ∀ e' ∈ registry, e'.1 ≠ id := by
  induction registry with
  | nil => simp [insert]
  | cons head rest ih =>
    obtain ⟨hhead, hrest⟩ := List.pairwise_cons.1 h
    rw [insert]
    split
    · have hne : head.1 ≠ id := by omega
      simp only [List.mem_cons, ih hrest, forall_eq_or_imp, hne, ne_eq, not_false_eq_true, true_and,
        or_assoc]
    · split
      · rename_i heq
        simp [heq]
      · have hne : ∀ e' ∈ head :: rest, e'.1 ≠ id := by
          intro e' he'
          rcases List.mem_cons.1 he' with rfl | he'
          · omega
          · have := hhead e' he'
            omega
        rw [List.mem_cons, or_comm, and_iff_left hne]

theorem Sorted.insert (h : registry.Sorted) (id : Nat) (r : Resource) :
    (registry.insert id r).Sorted := by
  induction registry with
  | nil => exact List.pairwise_singleton _ _
  | cons head rest ih =>
    obtain ⟨hhead, hrest⟩ := List.pairwise_cons.1 h
    rw [Registry.insert]
    split
    · refine List.pairwise_cons.2 ⟨fun e he => ?_, ih hrest⟩
      rcases (mem_insert hrest).1 he with he | ⟨rfl, -⟩
      · exact hhead e he
      · assumption
    · split
      · exact h
      · refine List.pairwise_cons.2 ⟨fun e he => ?_, h⟩
        rcases List.mem_cons.1 he with rfl | he
        · omega
        · have := hhead e he
          omega

/-! ## Asking -/

theorem holds_iff : registry.holds id = true ↔ ∃ r, (id, r) ∈ registry := by
  simp [holds]

/-- A lookup finds exactly the entries. -/
theorem Sorted.contains_iff (h : registry.Sorted) :
    registry.contains id r = true ↔ (id, r) ∈ registry := by
  induction registry with
  | nil => simp [contains]
  | cons head rest ih =>
    obtain ⟨number, newest⟩ := head
    obtain ⟨hhead, hrest⟩ := List.pairwise_cons.1 h
    have ih := ih hrest
    simp only [contains, decide_eq_true_eq] at ih
    by_cases heq : id = number
    · subst heq
      have hnot : (id, r) ∉ rest := fun hmem => Nat.lt_irrefl id (hhead (id, r) hmem)
      simp [contains, hnot, eq_comm]
    · have hbeq : (id == number) = false := by simpa using heq
      simp [contains, List.lookup_cons, hbeq, ih, heq]

end HandleBridge.Registry
