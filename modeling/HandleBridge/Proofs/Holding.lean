import HandleBridge.Proofs.Routine
import HandleBridge.Proofs.Slots
import HandleBridge.Proofs.Wrappers

/-!
# Proofs/Holding — what a context holds is changed by nobody but the calls that are given it

The simulated library never loses a context, and what a context holds is left alone by every entry
point that is not given it: `Machine.Holds`.  `Terms.holding` are the terms on which nothing else
touches it either, neither what the caller does outside nor the disposal of values; on these terms a
walk holds what a step holds (`Walk.holds`).  Every context that is wrapped is then one of the
library's for all of a run (`Run.grounded`).
-/

namespace HandleBridge

open HandleBridge.Action Bridge Simulation

variable {α : Type}

/-! ## Machines -/

/-- The logger has nothing to do with contexts. -/
theorem Simulation.loggerInit_contexts (append : Appending) (filters file : StringOut)
    (m : Machine Simulation) :
    (loggerInit append filters file m).2.native.contexts = m.native.contexts := by
  obtain ⟨logger, files, heq⟩ := loggerInit_native append filters file m
  rw [heq]

/-- **No context is lost**, and what the held ones hold stays as it was. -/
def Machine.Holds (held : Handle → Prop) (m m' : Machine Simulation) : Prop :=
  ∀ h, (m.native.slot? h).isSome = true → (m'.native.slot? h).isSome = true ∧
    (held h → m'.native.slot? h = m.native.slot? h)

namespace Machine.Holds

variable {held : Handle → Prop} {m m' : Machine Simulation}

instance (held : Handle → Prop) : IsPreorder (Machine Simulation) (Holds held) where
  refl _ _ hslot := ⟨hslot, fun _ => rfl⟩
  trans _ _ _ e e' h hslot := by
    obtain ⟨hslot', heq⟩ := e h hslot
    obtain ⟨hslot'', heq'⟩ := e' h hslot'
    exact ⟨hslot'', fun hheld => (heq' hheld).trans (heq hheld)⟩

theorem of_contexts (hcontexts : m'.native.contexts = m.native.contexts) : m.Holds held m' := by
  intro h hslot
  have heq := slot?_congr hcontexts h
  exact ⟨heq ▸ hslot, fun _ => heq⟩

theorem mono {held' : Handle → Prop} (e : m.Holds held m') (h : ∀ h, held' h → held h) :
    m.Holds held' m' := fun handle hslot => ⟨(e handle hslot).1, (e handle hslot).2 ∘ h handle⟩

/-- What a context holds is changed by a report to that context. -/
theorem report (m : Machine Simulation) {c : Option Handle} (hc : ∀ h, c = some h → ¬ held h)
    (latest : Option Report) :
    m.Holds held { m with native := m.native.report c latest } := by
  intro h hslot
  by_cases heq : c = some h
  · have hfiled : (m.native.report c latest).slot? h = (m.native.slot? h).map fun _ => latest :=
      heq ▸ m.slot?_filed h latest
    exact ⟨hfiled ▸ Option.isSome_map.trans hslot, fun hheld => absurd hheld (hc h heq)⟩
  · have hkept : (m.native.report c latest).slot? h = m.native.slot? h :=
      m.slot?_filed_of_ne h latest heq
    exact ⟨hkept ▸ hslot, fun _ => hkept⟩

theorem newContext (m : Machine Simulation) :
    m.Holds held { m with native := (m.native.newContext none).2 } := by
  intro h hslot
  have hlt : h.index < m.native.contexts.length := index_lt_of_slot? hslot
  have hkept : (m.native.newContext none).2.slot? h = m.native.slot? h :=
    congrArg (Option.map Simulation.Context.latest) (List.getElem?_append_left hlt)
  exact ⟨hkept ▸ hslot, fun _ => hkept⟩

theorem routine {given : Option Handle → Prop} (hgiven : ∀ h, given (some h) → ¬ held h) :
    Routine given (Holds held) where
  clock _ _ := of_contexts rfl
  report m _ hc latest := report m (fun h heq => hgiven h (heq ▸ hc)) latest
  setJob _ _ _ := of_contexts rfl
  newContext := newContext
  newCancelJob _ _ := of_contexts rfl
  newValue _ _ := of_contexts rfl
  count m probe := of_contexts (by cases probe <;> rfl)

theorem loggerInit (append : Appending) (filters file : StringOut) (m : Machine Simulation) :
    m.Holds held (loggerInit append filters file m).2 :=
  of_contexts (loggerInit_contexts append filters file m)

end Machine.Holds

/-! ## Terms -/

/-- The terms on which only calls that are given a context change what it holds, and none is given a
held one. -/
def Terms.holding (held : Handle → Prop) : Terms Simulation where
  moves _ m m' := m.Holds held m'
  outside m m' := m.Holds (fun _ => True) m'
  library l := l = Simulation.library
  dispose f := ∀ (h : Handle) (m : Machine Simulation), m.Holds (fun _ => True) (f h m)

namespace Terms

variable {held : Handle → Prop}

/-- **The simulated library moves on these terms** if it is not given what is held. -/
theorem moves_holding {given : Option Handle → Prop} (hgiven : ∀ h, given (some h) → ¬ held h)
    {l : Library Simulation} (hl : (holding held).library l) :
    l.entry.Moves given (holding held).moves := by
  obtain rfl : l = Simulation.library := hl
  exact (Machine.Holds.routine hgiven).moves (fun _ _ _ => id) _ (.loggerInit _)

/-- No release takes a context away or changes what it holds. -/
theorem conserves_holding : (holding held).Conserves (Machine.Holds held) := by
  have hroutine : Machine.Routine (fun _ => False) (Machine.Holds held) :=
    Machine.Holds.routine fun _ => False.elim
  exact ⟨id, fun h => h.mono fun _ _ => trivial, hroutine.releases (fun _ => id)
    fun _ hf h m => (hf h m).mono fun _ _ => trivial⟩

end Terms

/-- **A walk holds what is held.** -/
theorem Walk.holds {held : Handle → Prop} {b b' : Bridge Simulation}
    (h : Walk (.holding held) b b') (hs : b.Served (.holding held)) :
    b.machine.Holds held b'.machine := h.conserves Terms.conserves_holding hs

/-! ## Contexts that are wrapped -/

namespace Bridge

/-- The handle of what a context wraps. -/
def behind (b : Bridge Simulation) (X : Context) : Handle :=
  (b.resource (b.context X).resource).handle

/-- Does a context wrap one of the library's? -/
def Wields (b : Bridge Simulation) (X : Context) : Prop :=
  (b.machine.native.slot? (b.behind X)).isSome = true

/-- **Every context wraps one of the library's.** -/
def Grounded (b : Bridge Simulation) : Prop := ∀ X, b.Has (.context X) → b.Wields X

theorem Grounded.start (native : Simulation) (env : Environment) :
    (Bridge.start native env).Grounded := fun _ hX => absurd hX (Nat.not_lt_zero _)

variable {b b' : Bridge Simulation} {X : Context}

theorem Remains.behind (h : Remains b b') (hX : b.Has (.context X))
    (hr : b.Has (.resource (b.context X).resource)) : b'.behind X = b.behind X := by
  rw [Bridge.behind, h.context X hX, h.handle hr, Bridge.behind]

end Bridge

namespace Context

variable {b : Bridge Simulation} {m : Manager} {X : Context}

/-- An open manager takes a context. -/
theorem adopt_of_open (hm : (b.manager m).closed = false) (library : Library Simulation)
    (h : Handle) : Context.adopt library m h b =
      (.ok ⟨b.contexts.size⟩, (b.adopted m h .context (Context.releaser library)).addContext
        ⟨b.next, library⟩) := by
  rw [Context.adopt, bind_of_ok (Resource.adopt_of_open hm h _ _)]
  rfl

/-- A context that is adopted wraps what it was adopted with. -/
theorem wields_adopt (library : Library Simulation) (m : Manager) {h : Handle}
    (hslot : (b.machine.native.slot? h).isSome = true)
    (hX : (Context.adopt library m h b).2.Has (.context X)) (hnew : ¬ b.Has (.context X)) :
    (Context.adopt library m h b).2.Wields X := by
  cases hm : (b.manager m).closed with
  | true =>
    have hrejected : (Context.adopt library m h b).2.contexts = b.contexts := by
      rw [← (SameWrappers.adopt b m h .context (Context.releaser library)).contexts,
        Context.adopt, bind_of_error (Resource.adopt_of_closed hm _ _ _), Context.releaser,
        Resource.adopt_of_closed hm]
    rw [Has, hrejected] at hX
    exact absurd hX hnew
  | false =>
    rw [adopt_of_open hm] at hX ⊢
    obtain rfl : X = ⟨b.contexts.size⟩ := congrArg Context.mk (eq_size_of_add hX hnew)
    let s : Context.State Simulation := ⟨b.next, library⟩
    let b₁ := b.adopted m h .context (Context.releaser library)
    have hcontext : (b₁.addContext s).context ⟨b.contexts.size⟩ = s := b.contexts.get_add_size s
    have hbehind : (b₁.addContext s).behind ⟨b.contexts.size⟩ = h := by
      rw [behind, hcontext]
      exact congrArg Resource.State.handle (b.resource_adopted_next m h _ _)
    rw [Wields, hbehind]
    exact hslot

/-- A context that is created wraps the native one that was created for it. -/
theorem wields_create (m : Manager) (hX : (Context.create library m b).2.Has (.context X))
    (hnew : ¬ b.Has (.context X)) : (Context.create library m b).2.Wields X := by
  cases hm : (b.manager m).closed with
  | true =>
    rw [Context.create, bind_of_error (Manager.allocate_of_closed hm _)] at hX
    exact absurd hX hnew
  | false =>
    obtain ⟨out, scratch, n, halloc⟩ := Manager.allocate_of_open hm [.ofHandle none]
    let create := invokeInto out .ofHandle .contextCreate none (library.entry.contextCreate true)
    let b₁ := (create (b.spend m scratch n)).2
    let h := Handle.ofIndex b.machine.native.contexts.length
    have hquiet : Quiet b b₁ := (Quiet.spend b m scratch n).trans (Quiet.invokeInto _ _ _ _ _ _)
    have hcreated : Context.create library m b = Context.adopt library m h b₁ :=
      (bind_of_ok halloc).trans rfl
    have hcontext : b₁.machine.native.context? (some h) = some ⟨none, none⟩ :=
      List.getElem?_concat_length
    have hslot : (b₁.machine.native.slot? h).isSome = true := by
      rw [slot?, hcontext]
      rfl
    rw [hcreated] at hX ⊢
    exact wields_adopt library m hslot hX fun hold => hnew ((hquiet.has _).1 hold)

end Context

/-! ## Calls and runs over the simulated library -/

namespace Operation

/-- Is a context that a call adopts one of the library's? -/
def Genuine (b : Bridge Simulation) : {α : Type} → Operation Simulation α → Prop
  | _, adoptContext _ _ h => (b.machine.native.slot? h).isSome = true
  | _, _ => True

/-- **Is a call made over the simulated library?**  What it brings along is the library's, and what
it does besides leaves the contexts of the library alone. -/
def Simulated (b : Bridge Simulation) (op : Operation Simulation α) : Prop :=
  op.On (.holding fun _ => False) ∧ op.Genuine b

variable {b : Bridge Simulation} (op : Operation Simulation α) (hop : op.Simulated b)

include hop

/-- A context that is new after a call wraps one of the library's. -/
theorem wields_new {X : Context} (hX : (op.after b).Has (.context X))
    (hnew : ¬ b.Has (.context X)) : (op.after b).Wields X := by
  obtain ⟨hon, hgenuine⟩ := hop
  cases hmakes : op.makesContext with
  | false =>
    rw [Has, SameContexts.operation op hmakes b] at hX
    exact absurd hX hnew
  | true =>
    cases op with
    | createContext library m =>
      obtain rfl : library = Simulation.library := hon
      exact Context.wields_create m hX hnew
    | adoptContext library m h => exact Context.wields_adopt library m hgenuine hX hnew
    | _ => exact Bool.noConfusion hmakes

/-- **A call is a walk on the terms of what is held**, if it is not given that. -/
theorem walk_holding (known : op.Known b) {held : Handle → Prop}
    (hs : b.Served (.holding fun _ => False))
    (hpassed : ∀ h, b.passed op.context? = some (some h) → ¬ held h) :
    Walk (.holding held) b (op.after b) ∧ b.Served (.holding held) := by
  have hserved : b.Served (.holding held) := hs.mono (fun _ => id) fun _ => id
  have hgrants : b.Grants (.holding held) (fun c => b.passed op.context? = some c) op.context? :=
    ⟨hserved, fun _ => Terms.moves_holding hpassed,
      fun c hc => known _ (op.mem_objects_context? hc), fun _ => id⟩
  exact ⟨op.walks known hop.1 hgrants, hserved⟩

/-- Every context wraps one of the library's after a call if every context did before. -/
theorem grounded_after (known : op.Known b) (hs : b.Served (.holding fun _ => False))
    (hb : b.Grounded) : (op.after b).Served (.holding fun _ => False) ∧ (op.after b).Grounded := by
  obtain ⟨hwalk, -⟩ := walk_holding op hop known hs fun _ _ => id
  refine ⟨hwalk.served hs, fun X hX => ?_⟩
  by_cases hold : b.Has (.context X)
  · have hmade : b.Has (.resource (b.context X).resource) := (hs _ hold).2.1
    rw [Wields, hwalk.remains.behind hold hmade]
    exact (hwalk.holds hs _ (hb X hold)).1
  · exact wields_new op hop hX hold

end Operation

/-- **All contexts wrap those of the library wherever a run over it has come.** -/
theorem Run.grounded {b b' : Bridge Simulation} (run : Run b b')
    (hrun : run.All fun b op => op.Simulated b) (hs : b.Served (.holding fun _ => False))
    (hb : b.Grounded) : b'.Served (.holding fun _ => False) ∧ b'.Grounded := by
  induction run with
  | done => exact ⟨hs, hb⟩
  | call run op known ih =>
    obtain ⟨hserved, hgrounded⟩ := ih hrun.1
    exact op.grounded_after hrun.2 known hserved hgrounded

end HandleBridge
