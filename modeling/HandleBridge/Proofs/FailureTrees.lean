import HandleBridge.Failure
import Mathlib.Algebra.Group.Nat.Defs

/-!
# Proofs/FailureTrees — a tree of failures is judged by its first leaf

Failures are trees: `aggregate` puts a list of failures under one node.  `Assembled` is what can be
built that way from leaves, to any depth, and `Leads` goes from a tree down to the leaf that the
first member of every level leads to.  The observers agree on that leaf (`Assembled.judged`), so a
caller that decides on a retry may ask any of them, and every node still holds the whole list it was
made from.
-/

namespace HandleBridge.Failure

/-- A failure that was not aggregated from others. -/
def IsLeaf : Failure → Prop
  | teardown _ _ _ => False
  | _ => True

/-- A failure built from leaves by aggregating, to any depth. -/
inductive Assembled : Failure → Prop
  | leaf {f : Failure} : f.IsLeaf → Assembled f
  | aggregated {members : List Failure} {f : Failure} :
    (∀ m ∈ members, Assembled m) → aggregate members = some f → Assembled f

/-- The leaf reached by following the first member at every level. -/
inductive Leads : Failure → Failure → Prop
  | leaf {f : Failure} : f.IsLeaf → Leads f f
  | first {first f l : Failure} {others : List Failure} :
    aggregate (first :: others) = some f → Leads first l → Leads f l

/-- A node of a failure: itself, or a node of one of its members. -/
inductive Node : Failure → Failure → Prop
  | root {f : Failure} : Node f f
  | primary {n : Nat} {p g : Failure} {s : List Failure} : Node p g → Node (teardown n p s) g
  | secondary {n : Nat} {p m g : Failure} {s : List Failure} :
    m ∈ s → Node m g → Node (teardown n p s) g

variable {f g l p : Failure} {s members : List Failure} {n : Nat}

/-! ## What aggregating makes -/

/-- Only a list that has a first member is aggregated, and its node is the list again. -/
theorem aggregate_eq_some_iff :
    aggregate members = some f ↔ ∃ p s, members = p :: s ∧ f = teardown (s.length + 1) p s := by
  cases members with
  | nil => simp [aggregate]
  | cons p s =>
    rw [aggregate, Option.some.injEq]
    refine ⟨fun h => ⟨p, s, rfl, h.symm⟩, ?_⟩
    rintro ⟨_, _, h, rfl⟩
    cases h
    rfl

theorem aggregate_cons : aggregate (p :: s) = some (teardown (s.length + 1) p s) :=
  aggregate_eq_some_iff.mpr ⟨p, s, rfl, rfl⟩

/-- A teardown has the members it was aggregated from, in their order. -/
theorem eq_cons_of_aggregate (h : aggregate members = some (teardown n p s)) :
    members = p :: s ∧ n = s.length + 1 := by
  obtain ⟨p', s', rfl, h⟩ := aggregate_eq_some_iff.mp h
  cases h
  exact ⟨rfl, rfl⟩

/-- A failure that is assembled and no leaf has a first member, and all its members are
assembled. -/
theorem Assembled.cases_aggregate (hf : f.Assembled) :
    f.IsLeaf ∨ ∃ p s, f = teardown (s.length + 1) p s ∧ ∀ m ∈ p :: s, m.Assembled := by
  cases hf with
  | leaf h => exact .inl h
  | aggregated hmembers h =>
    obtain ⟨p, s, rfl, rfl⟩ := aggregate_eq_some_iff.mp h
    exact .inr ⟨p, s, rfl, hmembers⟩

/-- A node is assembled if its members are. -/
theorem Assembled.of_members (h : ∀ m ∈ p :: s, m.Assembled) :
    (teardown (s.length + 1) p s).Assembled := .aggregated h aggregate_cons

/-! ## The leaf that judges -/

theorem leads_teardown_iff : Leads (teardown (s.length + 1) p s) l ↔ Leads p l := by
  refine ⟨fun h => ?_, fun h => .first aggregate_cons h⟩
  cases h with
  | leaf h => exact h.elim
  | first h hl =>
    obtain ⟨heq, -⟩ := eq_cons_of_aggregate h
    cases heq
    exact hl

theorem Leads.isLeaf (h : Leads f l) : l.IsLeaf := by
  induction h with
  | leaf h => exact h
  | first _ _ ih => exact ih

/-- The observers that look into a tree see what they see of its leaf. -/
theorem Leads.observed (h : Leads f l) :
    f.leaf = l ∧ f.category = l.category ∧ f.status? = l.status? := by
  induction h with
  | @leaf f h => cases f <;> first | exact ⟨rfl, rfl, rfl⟩ | exact h.elim
  | first h _ ih =>
    obtain ⟨_, _, heq, rfl⟩ := aggregate_eq_some_iff.mp h
    cases heq
    exact ih

theorem Assembled.exists_leads (hf : f.Assembled) : ∃ l, Leads f l := by
  induction hf with
  | leaf h => exact ⟨_, .leaf h⟩
  | aggregated _ h ih =>
    obtain ⟨p, s, rfl, rfl⟩ := aggregate_eq_some_iff.mp h
    obtain ⟨l, hl⟩ := ih p List.mem_cons_self
    exact ⟨l, .first h hl⟩

/-! ## What a leaf tells -/

/-- The category of a status, by its top two bits. -/
theorem ofOrigin_origin (status : Status) :
    Category.ofOrigin status.origin =
      if status.raw.toNat / 2 ^ 30 = 3 then .serverDiagnostic
      else if status.raw.toNat / 2 ^ 30 = 2 then .clientRuntime
      else .localArgument := by
  have hlt : status.raw.toNat < 2 ^ 32 := status.raw.toNat_lt
  have hshift : (status.raw >>> 30).toNat = status.raw.toNat / 2 ^ 30 := by
    rw [UInt32.toNat_shiftRight, Nat.shiftRight_eq_div_pow]
    rfl
  rw [Status.origin, Origin.ofRaw, hshift, Nat.mod_eq_of_lt (by omega)]
  have hbits : status.raw.toNat / 2 ^ 30 < 4 := by omega
  generalize status.raw.toNat / 2 ^ 30 = bits at hbits ⊢
  match bits, hbits with
  | 0, _ | 1, _ | 2, _ | 3, _ => rfl

/-- A leaf has a status exactly when it is a native failure. -/
theorem IsLeaf.isSome_status?_iff (hl : l.IsLeaf) :
    l.status?.isSome ↔ ∃ status message diagnostic, l = native status message diagnostic := by
  cases l <;> simp [status?]
  exact hl.elim

theorem IsLeaf.category_of_status? (hl : l.IsLeaf) {status : Status}
    (h : l.status? = some status) : l.category = Category.ofOrigin status.origin := by
  cases l <;> simp [status?] at h
  · rw [category, h]
  · exact hl.elim

/-! ## Nodes -/

/-- Nodes of what is assembled are assembled. -/
theorem Node.assembled (h : Node f g) (hf : f.Assembled) : g.Assembled := by
  induction h with
  | root => exact hf
  | primary _ ih =>
    obtain hleaf | ⟨p, s, heq, hmembers⟩ := hf.cases_aggregate
    · exact hleaf.elim
    · cases heq
      exact ih (hmembers _ List.mem_cons_self)
  | secondary hm _ ih =>
    obtain hleaf | ⟨p, s, heq, hmembers⟩ := hf.cases_aggregate
    · exact hleaf.elim
    · cases heq
      exact ih (hmembers _ (List.mem_cons_of_mem _ hm))

/-- A teardown that is assembled counts its members and is their aggregate. -/
theorem Assembled.teardown_eq (h : (teardown n p s).Assembled) :
    n = s.length + 1 ∧ ∃ members, (∀ m ∈ members, m.Assembled) ∧ p :: s = members ∧
      aggregate members = some (teardown n p s) := by
  cases h with
  | leaf h => exact h.elim
  | aggregated hmembers h =>
    obtain ⟨heq, hn⟩ := eq_cons_of_aggregate h
    exact ⟨hn, _, hmembers, heq.symm, h⟩

theorem isTimeout_iff :
    f.isTimeout = true ↔ ∃ message diagnostic, f = native .timeout message diagnostic := by
  cases f <;> simp [isTimeout]

/-! ## The judgement -/

/-- **A tree of failures is judged by its first leaf.**  It leads to exactly one leaf, whose
category and status are its own; a status tells that the leaf is a native failure, and its top two
bits tell the category.  Every node counts and keeps the list it was aggregated from, which is never
empty, and what timed out is a native failure on the client's side. -/
theorem Assembled.judged (hf : f.Assembled) :
    (∃ l, (∀ l', Leads f l' ↔ l' = l) ∧ l.IsLeaf ∧
      f.category = l.category ∧ f.status? = l.status? ∧
      (f.status?.isSome ↔ ∃ status message diagnostic, l = native status message diagnostic)) ∧
    (∀ status, f.status? = some status → f.category =
      if status.raw.toNat / 2 ^ 30 = 3 then .serverDiagnostic
      else if status.raw.toNat / 2 ^ 30 = 2 then .clientRuntime
      else .localArgument) ∧
    (∀ n p s, Node f (teardown n p s) → n = s.length + 1 ∧
      ∃ members, (∀ m ∈ members, m.Assembled) ∧ p :: s = members ∧
        aggregate members = some (teardown n p s)) ∧
    aggregate [] = none ∧
    (f.isTimeout = true → f.category = .clientRuntime ∧ f.status? = some .timeout) := by
  obtain ⟨l, hl⟩ := hf.exists_leads
  obtain ⟨hleaf, hcategory, hstatus⟩ := hl.observed
  refine ⟨⟨l, fun l' => ⟨fun h => ?_, fun h => h ▸ hl⟩, hl.isLeaf, hcategory, hstatus, ?_⟩, ?_,
    fun n p s h => (h.assembled hf).teardown_eq, rfl, fun h => ?_⟩
  · exact h.observed.1.symm.trans hleaf
  · rw [hstatus]
    exact hl.isLeaf.isSome_status?_iff
  · intro status h
    rw [hcategory, hl.isLeaf.category_of_status? (hstatus ▸ h), ofOrigin_origin]
  · obtain ⟨message, diagnostic, rfl⟩ := isTimeout_iff.mp h
    exact ⟨rfl, rfl⟩

/-- Two levels of failed releases: the inner ones, first a deadline that passed, and one more. -/
def nested : Failure :=
  teardown 2 (teardown 2 (native .timeout "late" none) [native .serverError "refused" none])
    [managerClosed]

theorem nested_assembled : nested.Assembled := by
  refine .of_members (s := [managerClosed]) fun m hm => ?_
  simp only [List.mem_cons, List.not_mem_nil, or_false] at hm
  obtain rfl | rfl := hm
  · refine .of_members (s := [native .serverError "refused" none]) fun m hm => ?_
    simp only [List.mem_cons, List.not_mem_nil, or_false] at hm
    obtain rfl | rfl := hm <;> exact .leaf trivial
  · exact .leaf trivial

/-- Two levels of failed releases are the client's failure, by the deadline that came first. -/
theorem judged_nested :
    nested.Assembled ∧ nested.category = .clientRuntime ∧
      (∀ l, Leads nested l → l = native .timeout "late" none) ∧
      ∀ n p s, Node nested (teardown n p s) → n = s.length + 1 := by
  obtain ⟨⟨l, hl, -⟩, hbits, hnodes, -⟩ := nested_assembled.judged
  have hled : Leads nested (native .timeout "late" none) :=
    leads_teardown_iff (s := [managerClosed]).mpr <|
      leads_teardown_iff (s := [native .serverError "refused" none]).mpr (.leaf trivial)
  exact ⟨nested_assembled, (hbits .timeout rfl).trans (by decide),
    fun l' h => ((hl l').mp h).trans ((hl _).mp hled).symm, fun n p s h => (hnodes n p s h).1⟩

end HandleBridge.Failure
