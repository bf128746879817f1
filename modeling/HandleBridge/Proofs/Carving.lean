import HandleBridge.Operation

/-!
# Proofs/Carving — what an allocation does to scratch memory

Whatever memory is taken for, places with fresh cells are added at its end, all of them for the
region of one scope (`Scratch.Carved`).  That holds of an allocation that fails as well: the texts
before the one that cannot be spelled were taken.
-/

namespace HandleBridge

open HandleBridge.Action

variable {σ α : Type}

namespace Scratch

variable {s s' s'' : Scratch} {m : Manager}

/-- **Memory with fresh cells for a region**, and nothing else changed. -/
def Carved (m : Manager) (s s' : Scratch) : Prop := ∃ cells, s' = (s.allocate m cells).2

namespace Carved

theorem refl (m : Manager) (s : Scratch) : Carved m s s := by
  refine ⟨[], ?_⟩
  rw [allocate, List.map_nil, List.append_nil]

theorem trans (h : Carved m s s') (h' : Carved m s' s'') : Carved m s s'' := by
  obtain ⟨cells, rfl⟩ := h
  obtain ⟨cells', rfl⟩ := h'
  refine ⟨cells ++ cells', ?_⟩
  simp only [allocate, List.map_append, List.append_assoc]

theorem allocate (s : Scratch) (m : Manager) (cells : List Cell) :
    Carved m s (s.allocate m cells).2 := ⟨cells, rfl⟩

theorem allocateTexts (s : Scratch) (m : Manager) (texts : List String) :
    Carved m s (s.allocateTexts m texts).2 := by
  induction texts generalizing s with
  | nil => exact refl m s
  | cons text rest ih =>
    rw [Scratch.allocateTexts, allocateText]
    split
    · exact refl m s
    · rename_i heq
      split at heq
      · cases heq
        exact (allocate s m _).trans (ih _)
      · cases heq

end Carved

/-- The memory with fresh cells: an allocation that cannot fail. -/
def fresh (s : Scratch) (m : Manager) (cells : List Cell) : Except Failure Buffer × Scratch :=
  (.ok (s.allocate m cells).1, (s.allocate m cells).2)

end Scratch

namespace Content

/-- The memory with the content in fresh cells, as far as it can be spelled. -/
def take (content : Content) (m : Manager) (s : Scratch) : Except Failure Buffer × Scratch :=
  match content with
  | cells taken => s.fresh m taken
  | handles taken => s.fresh m (taken.map fun h => .ofHandle (some h))
  | text t =>
    match s.allocateText m t with
    | .ok (buffer, s) => (.ok buffer, s)
    | .error e => (.error e, s)
  | texts ts =>
    match s.allocateTexts m ts with
    | (.ok starts, s) => s.fresh m (starts.map .place)
    | (.error e, s) => (.error e, s)

/-- **Every allocation is of this form.** -/
theorem allocateContent_eq (m : Manager) (content : Content) :
    (Operation.allocateContent m content : Action σ Buffer) = m.allocating (content.take m) := by
  cases content <;> rfl

theorem carved_take (content : Content) (m : Manager) (s : Scratch) :
    Scratch.Carved m s (content.take m s).2 := by
  cases content with
  | cells taken => exact .allocate s m taken
  | handles taken => exact .allocate s m _
  | text t =>
    rw [take, Scratch.allocateText]
    split <;> rename_i heq <;> split at heq <;> cases heq
    · exact .allocate s m _
    · exact .refl m s
  | texts ts =>
    have htexts := Scratch.Carved.allocateTexts s m ts
    rw [take]
    split <;> rename_i heq <;> rw [heq] at htexts
    · exact htexts.trans (.allocate _ m _)
    · exact htexts

/-- What is taken lies in the region that it was taken for. -/
theorem region_take {content : Content} {m : Manager} {s : Scratch} {out : Buffer}
    (h : (content.take m s).1 = .ok out) : out.region = m := by
  cases content with
  | cells taken | handles taken => exact Except.ok.inj h ▸ rfl
  | text t =>
    rw [take, Scratch.allocateText] at h
    split at h <;> rename_i heq <;> split at heq <;> cases heq <;> cases h
    rfl
  | texts ts =>
    rw [take] at h
    split at h <;> cases h
    rfl

end Content

namespace Manager

variable {m : Manager} {f : Scratch → Except Failure α × Scratch} {b : Bridge σ}

/-- **An allocation that succeeds** takes what was asked for from an open scope. -/
theorem allocating_eq_ok {a : α} (h : (m.allocating f b).1 = .ok a) :
    (b.manager m).closed = false ∧ (f b.scratch).1 = .ok a ∧
      (m.allocating f b).2.scratch = (f b.scratch).2 := by
  rw [allocating, bind_of_ok (read_apply _ _)] at h ⊢
  split at h
  · cases h
  · rename_i hopen
    rw [if_neg hopen]
    exact ⟨Bool.eq_false_iff.2 hopen, h, rfl⟩

end Manager

end HandleBridge
