import HandleBridge.Proofs.Holding
import HandleBridge.Proofs.Mirrored

/-!
# Proofs/Slotted — what one context holds is seen only through that context

`Guise.slotted` dresses a machine up as one where a context holds something else.  No entry point of
the simulated library that is given another context sees through it: entry points look at no context
but the one that they are given, and to leave a report with one context commutes with leaving one
with another.  Nor does a disposal, which is counted and nothing else.
-/

namespace HandleBridge

open HandleBridge.Action Simulation

variable {α : Type}

/-! ## Reports left with different contexts -/

namespace Machine

variable {m : Machine Simulation} {h : Handle} {c : Option Handle} (latest later : Option Report)

theorem filed_comm (hc : c ≠ some h) :
    (m.filed (some h) latest).filed c later = (m.filed c later).filed (some h) latest := by
  cases c with
  | none => rfl
  | some h' =>
    have hne : h.index ≠ h'.index := fun e =>
      hc (congrArg some (Handle.index_injective e.symm))
    exact congrArg m.withContexts (List.modify_modify_ne _ _ _ hne)

/-- Nothing is left with a context that is not there. -/
theorem filed_of_wild (hslot : (m.native.slot? h).isSome = false) :
    m.filed (some h) latest = m := by
  have hnone : m.native.context? (some h) = none := by
    rw [slot?, Option.isSome_map] at hslot
    exact Option.isNone_iff_eq_none.1 (Option.isSome_eq_false_iff.1 hslot)
  exact congrArg m.withContexts (List.modify_eq_self (List.getElem?_eq_none_iff.1 hnone))

theorem context?_filed_of_ne (hc : c ≠ some h) :
    (m.filed (some h) latest).native.context? c = m.native.context? c := by
  cases c with
  | none => rfl
  | some h' =>
    exact List.getElem?_modify_ne _ _ fun e =>
      hc (congrArg some (Handle.index_injective e.symm))

/-- A context keeps its probe. -/
theorem probe_filed (m : Machine Simulation) (slot c : Option Handle) :
    ((m.filed slot latest).native.context? c).bind (·.probe) =
      (m.native.context? c).bind (·.probe) := by
  cases slot with
  | none => rfl
  | some h =>
    by_cases hc : c = some h
    · subst hc
      have hcontext : (m.filed (some h) latest).native.context? (some h) =
          (m.native.context? (some h)).map fun k => { k with latest } :=
        List.getElem?_modify_eq _ _ _
      rw [hcontext]
      cases m.native.context? (some h) <;> rfl
    · rw [context?_filed_of_ne latest hc]

theorem job?_filed (m : Machine Simulation) (slot target : Option Handle) :
    (m.filed slot latest).native.job? target = m.native.job? target := by
  cases slot <;> rfl

theorem cancelJob?_filed (m : Machine Simulation) (slot target : Option Handle) :
    (m.filed slot latest).native.cancelJob? target = m.native.cancelJob? target := by
  cases slot <;> rfl

/-- The machine with one more disposal counted. -/
def counted (m : Machine Simulation) (probe : Option Probe) : Machine Simulation :=
  { m with native := m.native.count probe }

theorem counted_filed (m : Machine Simulation) (slot : Option Handle) (probe : Option Probe) :
    (m.filed slot latest).counted probe = (m.counted probe).filed slot latest := by
  cases slot <;> cases probe <;> rfl

theorem slot?_counted (m : Machine Simulation) (probe : Option Probe) :
    (m.counted probe).native.slot? h = m.native.slot? h := by
  cases probe <;> rfl

end Machine

/-! ## Disposals -/

namespace Simulation

theorem contextDispose_eq (c : Option Handle) (m : Machine Simulation) :
    contextDispose c m = m.counted ((m.native.context? c).bind (·.probe)) := by
  unfold contextDispose
  cases m.native.context? c <;> rfl

theorem jobDispose_eq (target : Option Handle) (m : Machine Simulation) :
    jobDispose target m = m.counted ((m.native.job? target).bind (·.spec.jobProbe)) := by
  unfold jobDispose
  cases m.native.job? target <;> rfl

theorem cancelJobDispose_eq (target : Option Handle) (m : Machine Simulation) :
    cancelJobDispose target m = m.counted ((m.native.cancelJob? target).bind (·.probe)) := by
  unfold cancelJobDispose
  cases m.native.cancelJob? target <;> rfl

/-- The logger does not look at contexts. -/
theorem loggerInit_withContexts (append : Appending) (filters file : StringOut)
    (m : Machine Simulation) (contexts : List Simulation.Context) :
    loggerInit append filters file (m.withContexts contexts) =
      ((loggerInit append filters file m).1,
        (loggerInit append filters file m).2.withContexts contexts) := by
  unfold loggerInit
  have hlogger : (m.withContexts contexts).native.logger = m.native.logger := rfl
  have hfiles : (m.withContexts contexts).native.files = m.native.files := rfl
  rw [hlogger, hfiles]
  split
  · rfl
  · rfl
  · split
    · rfl
    · split <;> rfl

end Simulation

/-! ## The guise -/

/-- **The guise under which a context holds something else.**  The context is there, and it is not
passed to anybody.  Without a context to speak of nothing is hidden. -/
def Guise.slotted (slot : Option Handle) (latest : Option Report) (said said' : List Event) :
    Guise Simulation where
  machine m := m.filed slot latest
  holds m := ∀ h, slot = some h → (m.native.slot? h).isSome = true
  latch _ := True
  given c := ∀ h, slot = some h → c ≠ some h
  said := said
  said' := said'
  machine_clock m clock := by cases slot <;> rfl
  holds_clock _ _ := id

namespace Guise

variable {slot : Option Handle} {latest : Option Report} {said said' : List Event}

/-- A call that looks at no context but its own does not see what another holds. -/
theorem unseen_of_blind {call : Option Handle → Call Simulation α} (hcall : Blind call)
    {c : Option Handle} (hc : (slotted slot latest said said').given c) :
    (slotted slot latest said said').Unseen (call c) := by
  intro m hm
  obtain ⟨_, hreports⟩ := hcall m
  cases slot with
  | none => exact ⟨rfl, nofun⟩
  | some h =>
    have hne : c ≠ some h := hc h rfl
    obtain ⟨a, m', later, -, -, heq⟩ := id hreports
    have hplain : call c m = (a, (m'.withContexts m.native.contexts).filed c later) :=
      heq c m.native.contexts
    refine ⟨?_, fun h' hslot => ?_⟩
    · rw [hplain]
      exact (heq c _).trans
        (congrArg (Prod.mk a) (Machine.filed_comm latest later hne :
          ((m'.withContexts m.native.contexts).filed (some h) latest).filed c later = _))
    · obtain rfl := Option.some.inj hslot
      rw [hreports.keeps hne]
      exact hm h rfl

/-- A getter that is given another context does not see what this one holds. -/
theorem unseen_observe {β : Type} (getter : Option Handle → Bool → Call Simulation (Option β))
    {read : Option Report → Option β} (hgetter : getter = observe read) {c : Option Handle}
    (hc : (slotted slot latest said said').given c) (out : Bool) :
    (slotted slot latest said said').Unseen (getter c out) := by
  subst hgetter
  intro m hm
  refine ⟨Prod.ext ?_ ?_, ?_⟩
  · cases slot with
    | none => rfl
    | some h =>
      change (observe read c out (m.filed (some h) latest)).1 = (observe read c out m).1
      unfold observe
      rw [Machine.context?_filed_of_ne latest (hc h rfl)]
      rcases m.native.context? c with _ | k
      · rfl
      · dsimp only
        cases read k.latest <;> cases out <;> rfl
  · rw [observe_snd, observe_snd]
  · rwa [observe_snd]

theorem unseen_observeText (getter : Option Handle → Bool → Call Simulation (Option StringOut))
    {read : Option Report → Option (Option String)} (hgetter : getter = observeText read)
    {c : Option Handle} (hc : (slotted slot latest said said').given c) (out : Bool) :
    (slotted slot latest said said').Unseen (getter c out) := by
  subst hgetter
  intro m hm
  obtain ⟨heq, hholds⟩ := unseen_observe (observe read) rfl hc out m hm
  refine ⟨?_, hholds⟩
  rw [observeText, heq]
  rfl

/-- A new context is not the one behind the handle. -/
theorem unseen_contextCreate (out : Bool) :
    (slotted slot latest said said').Unseen (contextCreate out) := by
  intro m hm
  have hroutine : Machine.Routine (fun _ => True) (Machine.Holds fun _ => False) :=
    Machine.Holds.routine fun _ _ => id
  have hkept : m.Holds (fun _ => False) (contextCreate out m).2 := hroutine.contextCreate out m
  refine ⟨?_, fun h hslot => (hkept h (hm h hslot)).1⟩
  cases out with
  | false => rfl
  | true =>
    cases slot with
    | none => rfl
    | some h =>
      have hlt : h.index < m.native.contexts.length := index_lt_of_slot? (hm h rfl)
      let f (k : Simulation.Context) : Simulation.Context := { k with latest }
      let new : Simulation.Context := ⟨none, none⟩
      have hlength : (m.native.contexts.modify h.index f).length = m.native.contexts.length :=
        List.length_modify _ _ _
      have hcontexts : m.native.contexts.modify h.index f ++ [new] =
          (m.native.contexts ++ [new]).modify h.index f := by
        rw [List.modify_eq_set, List.modify_eq_set, List.getElem?_append_left hlt,
          List.set_append_left _ _ hlt]
      refine Prod.ext ?_ (congrArg m.withContexts hcontexts)
      exact congrArg (fun n => Answer.mk Status.ok (some (Handle.ofIndex n))) hlength

/-- What is counted and nothing else. -/
theorem keeps_of_counted {f : Machine Simulation → Machine Simulation}
    {probe : Machine Simulation → Option Probe} (hf : ∀ m, f m = m.counted (probe m))
    (hprobe : ∀ m, probe (m.filed slot latest) = probe m) :
    (slotted slot latest said said').Keeps f := by
  intro m hm
  refine ⟨?_, fun h hslot => ?_⟩
  · rw [hf, hf]
    change (m.filed slot latest).counted (probe (m.filed slot latest)) = _
    rw [hprobe, Machine.counted_filed]
    rfl
  · rw [hf, Machine.slot?_counted]
    exact hm h hslot

theorem unseen_loggerInit (append : Appending) (filters file : StringOut) :
    (slotted slot latest said said').Unseen (loggerInit append filters file) := by
  intro m hm
  have hkept : m.Holds (fun _ => False) (loggerInit append filters file m).2 :=
    .loggerInit append filters file m
  refine ⟨?_, fun h hslot => (hkept h (hm h hslot)).1⟩
  cases slot with
  | none => rfl
  | some h =>
    have hcontexts := loggerInit_contexts append filters file m
    refine (loggerInit_withContexts append filters file m _).trans (congrArg (Prod.mk _) ?_)
    exact congrArg ((loggerInit append filters file m).2.withContexts <|
      ·.modify h.index fun k => { k with latest }) hcontexts.symm

/-- **No entry point of the simulated library sees what one context holds**, if it is given
another. -/
theorem covers_slotted (append : Appending) :
    (slotted slot latest said said').Covers (entryPoints append) where
  contextCreate := unseen_contextCreate
  contextReturnCode _ hc out := unseen_observe Simulation.contextReturnCode rfl hc out
  contextErrorName _ hc out := unseen_observeText Simulation.contextErrorName rfl hc out
  contextErrorType _ hc out := unseen_observe Simulation.contextErrorType rfl hc out
  contextErrorMessage _ hc out := unseen_observeText Simulation.contextErrorMessage rfl hc out
  contextCategoryNumber _ hc out := unseen_observe Simulation.contextCategoryNumber rfl hc out
  contextCategoryText _ hc out := unseen_observeText Simulation.contextCategoryText rfl hc out
  contextCodeNumber _ hc out := unseen_observe Simulation.contextCodeNumber rfl hc out
  contextStructuredCode _ hc out := unseen_observeText Simulation.contextStructuredCode rfl hc out
  contextDispose h := keeps_of_counted (contextDispose_eq h) fun m => m.probe_filed latest slot h
  cancelJobWait _ hc h limit out := unseen_of_blind
    (fun _ => ⟨fun _ _ => False, .cancelJobWait h limit out⟩) hc
  cancelJobIsDone _ hc h out := unseen_of_blind
    (fun _ => ⟨fun _ _ => False, .cancelJobIsDone h out⟩) hc
  cancelJobDispose h := keeps_of_counted (cancelJobDispose_eq h) fun m =>
    congrArg (·.bind (·.probe)) (m.cancelJob?_filed latest slot h)
  jobName _ hc h out := unseen_of_blind (fun _ => ⟨_, .jobName h out⟩) hc
  jobWait _ hc h limit out := unseen_of_blind (fun _ => ⟨_, .jobWait h limit out⟩) hc
  jobIsDone _ hc h out := unseen_of_blind (fun _ => ⟨_, .jobIsDone h out⟩) hc
  jobTake _ hc h out := unseen_of_blind (fun _ => ⟨_, .jobTake h out⟩) hc
  jobTakeFor _ hc h limit out := unseen_of_blind (fun _ => ⟨_, .jobTakeFor h limit out⟩) hc
  jobTakeIfReady _ hc h out valueOut := unseen_of_blind
    (fun _ => ⟨_, .jobTakeIfReady h out valueOut⟩) hc
  jobCancel _ hc h out := unseen_of_blind (fun _ => ⟨_, .jobCancel h out⟩) hc
  jobCancelFor _ hc h limit out := unseen_of_blind (fun _ => ⟨_, .jobCancelFor h limit out⟩) hc
  jobCancelAsync _ hc h out := unseen_of_blind (fun _ => ⟨_, .jobCancelAsync h out⟩) hc
  jobClose _ hc h := unseen_of_blind (fun _ => ⟨_, .jobClose h⟩) hc
  jobDispose h := keeps_of_counted (jobDispose_eq h) fun m =>
    congrArg (·.bind (·.spec.jobProbe)) (m.job?_filed latest slot h)

end Guise

/-! ## What has nothing to do with a context -/

/-- Does a change of the machine have nothing to do with what a context holds?  It neither looks at
it nor changes it. -/
def Machine.Oblivious (slot : Option Handle) (f : Machine Simulation → Machine Simulation) :
    Prop :=
  ∀ h, slot = some h → ∀ m, (m.native.slot? h).isSome = true →
    ((f m).native.slot? h).isSome = true ∧
      ∀ latest, f (m.filed slot latest) = (f m).filed slot latest

/-- **The terms of the simulated library**, on which values are disposed of without a look at a
context. -/
def Terms.simulated (slot : Option Handle) : Terms Simulation where
  moves _ _ _ := True
  outside _ _ := True
  library l := l = Simulation.library
  dispose f := ∀ value, Machine.Oblivious slot (f value)

namespace Terms

variable (slot : Option Handle)

theorem moves_simulated (l : Library Simulation) :
    l.entry.Moves (fun _ => True) (simulated slot).moves := by
  constructor <;> intros <;> exact trivial

end Terms

namespace Operation

/-- Does what a call does besides have nothing to do with what a context holds? -/
def Ignores (slot : Option Handle) : {α : Type} → Operation Simulation α → Prop
  | _, outside change => Machine.Oblivious slot change
  | _, _ => True

/-- **Is a call made without a context?**  It is neither passed the context nor reads it. -/
def Without (slot : Option Handle) (b : Bridge Simulation) (op : Operation Simulation α) : Prop :=
  op.Ignores slot ∧ ∀ h, slot = some h → ∀ X, op.context? = some X ∨ op.reads = some X →
    b.passed (some X) ≠ some (some h)

variable {slot : Option Handle} {latest : Option Report} {said said' : List Event}
  {op op' : Operation Simulation α} {s p : Bridge Simulation}

theorem keeps_of_oblivious {f : Machine Simulation → Machine Simulation}
    (hf : Machine.Oblivious slot f) : (Guise.slotted slot latest said said').Keeps f := by
  intro m hm
  cases slot with
  | none => exact ⟨rfl, nofun⟩
  | some h =>
    obtain ⟨hslot, hcomm⟩ := hf h rfl m (hm h rfl)
    exact ⟨hcomm latest, fun h' heq => Option.some.inj heq ▸ hslot⟩

/-- What is on the terms does not see what the context holds. -/
theorem admits_slotted (hop : op.On (.simulated slot)) (hwithout : op.Without slot s) :
    op.Admits (.slotted slot latest said said') := by
  have hcovers {l : Library Simulation} (hl : l = Simulation.library) :
      (Guise.slotted slot latest said said').Covers l.entry := hl ▸ Guise.covers_slotted _
  have hlogger {l : Library Simulation} (hl : l = Simulation.library) (filters file : StringOut) :
      (Guise.slotted slot latest said said').Unseen (l.entry.loggerInit filters file) :=
    hl ▸ Guise.unseen_loggerInit _ filters file
  cases op with
  | createContext | adoptContext => exact hcovers hop
  | adoptJob library m h converter =>
    refine ⟨hcovers hop.1, ?_⟩
    cases converter with
    | adopt kind dispose failure => exact fun value => keeps_of_oblivious (hop.2 value)
    | _ => exact trivial
  | outside change => exact keeps_of_oblivious hwithout.1
  | setUpLogger | setUpLoggerFrom => exact ⟨trivial, hlogger hop⟩
  | _ => exact trivial

theorem grants_slotted (hs : s.Served (.simulated slot)) {ctx : Option Context}
    (hctx : ∀ X, ctx = some X → s.Has (.context X))
    (hpassed : ∀ h, slot = some h → ∀ X, ctx = some X → s.passed (some X) ≠ some (some h)) :
    s.Grants (Guise.slotted slot latest said said').terms
      (Guise.slotted slot latest said said').given ctx := by
  refine ⟨hs.mono (fun l hl => ?_) fun f hf value => keeps_of_oblivious (hf value),
    fun l _ => Guise.moves _ l.entry, hctx, fun c hc h hslot hch => ?_⟩
  · obtain rfl : l = Simulation.library := hl
    exact Guise.covers_slotted _
  · subst hch
    cases ctx with
    | none => cases hc
    | some X => exact hpassed h hslot X rfl hc

/-- **A call without the context comes to the same**, whatever the context holds. -/
theorem abreast_slotted (hlike : op.Like op') (known : op.Known s)
    (hop : op.On (.simulated slot)) (hwithout : op.Without slot s)
    (hs : s.Served (.simulated slot)) (h : s.Matches (.slotted slot latest said said') p) :
    Abreast (.slotted slot latest said said') op.look (op.perform s) (op'.perform p) := by
  have hadmits : op.Admits (.slotted slot latest said said') := admits_slotted hop hwithout
  refine (op.mirrors hlike known hadmits ?_ ?_).abreast s p (.refl s) h
  · exact grants_slotted hs (fun X hX => known _ (op.mem_objects_context? hX))
      fun h hslot X hX => hwithout.2 h hslot X (.inl hX)
  · exact grants_slotted hs (fun X hX => known _ (op.mem_objects_reads hX))
      fun h hslot X hX => hwithout.2 h hslot X (.inr hX)

end Operation

end HandleBridge
