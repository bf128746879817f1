import HandleBridge.Proofs.SimulatedJob
import HandleBridge.Proofs.Slots

/-!
# Proofs/Apart — calls that come to the same but for what one context holds

Two bridges are `Apart` by the context behind a handle when nothing else tells them apart: not the
clock, no object, no registry, no probe, and not the releases and conversions in the journal.  What
was told to observers and which getters were called does not count.  Two calls are the `Same` when
from bridges that are apart they come to results that are alike and to bridges that are apart.
-/

namespace HandleBridge

open HandleBridge.Action Bridge Simulation

variable {α β : Type}

/-! ## Results that are alike -/

/-- **Failures that differ in their message and their snapshot at most.** -/
inductive Failure.Akin : Failure → Failure → Prop where
  | same (e : Failure) : Akin e e
  | native (status : Status) (message message' : String) (d d' : Option Diagnostic) :
      Akin (.native status message d) (.native status message' d')

namespace Failure.Akin

variable {e e' : Failure} (h : e.Akin e')

include h

theorem variantName : e'.variantName = e.variantName := by cases h <;> rfl

theorem status? : e'.status? = e.status? := by cases h <;> rfl

theorem category : e'.category = e.category := by cases h <;> rfl

theorem isTimeout : e'.isTimeout = e.isTimeout := by cases h <;> rfl

end Failure.Akin

theorem Failure.akin_ofStatus (status : Status) (d d' : Option Diagnostic) :
    (ofStatus status d).Akin (ofStatus status d') := .native status _ _ d d'

/-- **The same result**, or failures that are akin. -/
inductive Alike : Except Failure α → Except Failure α → Prop where
  | ok (a : α) : Alike (.ok a) (.ok a)
  | error {e e' : Failure} (h : e.Akin e') : Alike (.error e) (.error e')

theorem Alike.refl (r : Except Failure α) : Alike r r := by
  cases r with
  | ok a => exact .ok a
  | error e => exact .error (.same e)

/-! ## Bridges that are apart -/

/-- Is an event a release or a conversion? -/
def Event.matters (e : Event) : Bool := e.release?.isSome || e.conversion?.isSome

namespace Bridge

/-- The bridge with nothing held by the context behind a handle, and nothing in the journal but
releases and conversions. -/
def aside (b : Bridge Simulation) (h : Handle) : Bridge Simulation :=
  { b with machine := b.machine.filed (some h) none, journal := b.journal.filter Event.matters }

/-- **The same bridge but for what the context behind a handle holds**, and for calls and remarks in
the journal. -/
def Apart (h : Handle) (b b' : Bridge Simulation) : Prop := b'.aside h = b.aside h

namespace Apart

variable {h : Handle} {b b' b'' : Bridge Simulation}

theorem refl (b : Bridge Simulation) : b.Apart h b := rfl

theorem trans (e : b.Apart h b') (e' : b'.Apart h b'') : b.Apart h b'' := Eq.trans e' e

instance : IsPreorder (Bridge Simulation) (Apart h) where
  refl := refl
  trans _ _ _ := trans

theorem symm (e : b.Apart h b') : b'.Apart h b := Eq.symm e

/-- What is no context's and not in the journal is the same. -/
theorem read {γ : Type} (e : b.Apart h b') (f : Bridge Simulation → γ)
    (hf : ∀ b, f (b.aside h) = f b) : f b' = f b :=
  (hf b').symm.trans ((congrArg f e).trans (hf b))

theorem resource (e : b.Apart h b') (r : Resource) : b'.resource r = b.resource r :=
  e.read (·.resource r) fun _ => rfl

theorem manager (e : b.Apart h b') (m : Manager) : b'.manager m = b.manager m :=
  e.read (·.manager m) fun _ => rfl

theorem machine (e : b.Apart h b') : b.machine.Apart h b'.machine := congrArg Bridge.machine e

theorem releases (e : b.Apart h b') : b'.releases = b.releases := by
  refine e.read Bridge.releases fun b => ?_
  rw [Bridge.releases, aside, List.filterMap_filter, Bridge.releases]
  congr 1
  funext event
  cases event <;> rfl

/-! ### Changes -/

/-- A change of what is no context's. -/
theorem map (e : b.Apart h b') (f : Bridge Simulation → Bridge Simulation)
    (hf : ∀ b, (f b).aside h = f (b.aside h)) : (f b).Apart h (f b') :=
  (hf b').trans ((congrArg f e).trans (hf b).symm)

theorem withMachine (e : b.Apart h b') {m m' : Machine Simulation} (em : m.Apart h m') :
    (b.withMachine m).Apart h (b'.withMachine m') := by
  have hm : m'.filed (some h) none = m.filed (some h) none := em
  have hb : b'.aside h = b.aside h := e
  change (b'.aside h).withMachine (m'.filed (some h) none) =
    (b.aside h).withMachine (m.filed (some h) none)
  rw [hm, hb]

/-- Events are noted. -/
theorem append (e : b.Apart h b') (events : List Event) :
    Apart h { b with journal := b.journal ++ events }
      { b' with journal := b'.journal ++ events } := by
  have hb : b'.aside h = b.aside h := e
  have hjournal : b'.journal.filter Event.matters = b.journal.filter Event.matters :=
    congrArg Bridge.journal hb
  change { b'.aside h with journal := (b'.journal ++ events).filter Event.matters } =
    { b.aside h with journal := (b.journal ++ events).filter Event.matters }
  rw [List.filter_append, List.filter_append, hjournal, hb]

theorem note (e : b.Apart h b') (event : Event) : (b.note event).Apart h (b'.note event) :=
  e.append [event]

/-- Calls and remarks do not count. -/
theorem hushed (b : Bridge Simulation) {event : Event} (hevent : event.matters = false) :
    b.Apart h (b.note event) := by
  have hjournal : (b.journal ++ [event]).filter Event.matters = b.journal.filter Event.matters := by
    simp [hevent]
  exact congrArg (fun journal => { b.aside h with journal }) hjournal

theorem remarked (b : Bridge Simulation) (r : Remark) : b.Apart h (b.note (.remarked r)) :=
  hushed b rfl

theorem tell (b : Bridge Simulation) (r : Option Remark) : b.Apart h (b.tell r) := by
  cases r with
  | none => exact refl b
  | some r => exact remarked b r

/-- A resource is retired whose release action looks at no context. -/
theorem retire (e : b.Apart h b') {r : Resource}
    (hr : ∀ m contexts,
      (b.resource r).releaser.run (b.resource r).handle (m.withContexts contexts) =
        ((b.resource r).releaser.run (b.resource r).handle m).withContexts contexts) :
    (b.retire r).Apart h (b'.retire r) := by
  have hresource := e.resource r
  have hsettle : (b.settle r).Apart h (b'.settle r) := by
    rw [Bridge.settle, Bridge.settle, farewell, farewell, hresource]
    exact ((e.map (·.modifyResource r (·.shut)) fun _ => rfl).withMachine
      (e.machine.map (f := (b.resource r).releaser.run (b.resource r).handle) hr)).append _
  rw [Bridge.retire, Bridge.retire, hresource]
  exact hsettle.map (·.modifyManager (b.resource r).manager (·.withdraw (b.resource r).id))
    fun _ => rfl

/-- An open manager adopts a native object. -/
theorem adopted (e : b.Apart h b') (m : Manager) (handle : Handle) (kind : Kind)
    (releaser : Releaser Simulation) :
    (b.adopted m handle kind releaser).Apart h (b'.adopted m handle kind releaser) := by
  have haccept := e.map (·.accept m handle kind releaser) fun _ => rfl
  rw [Bridge.adopted, Bridge.adopted, e.manager]
  exact haccept.note _

end Apart

end Bridge

/-! ## Calls that are the same -/

/-- **Do two calls come to the same?** -/
structure Same (h : Handle) (y y' : Except Failure α × Bridge Simulation) : Prop where
  result : Alike y.1 y'.1
  bridge : y.2.Apart h y'.2

/-- Does a call come to the same from bridges that are apart? -/
def Action.Steady (h : Handle) (x : Action Simulation α) : Prop :=
  ∀ b b', b.Apart h b' → Same h (x b) (x b')

section Calls

variable {h : Handle} {b b' : Bridge Simulation}

namespace Same

/-- Calls made of two come to the same if their parts do. -/
theorem bind {x x' : Action Simulation α} {f f' : α → Action Simulation β}
    (hx : Same h (x b) (x' b'))
    (hf : ∀ a b₁ b₁', x b = (.ok a, b₁) → b₁.Apart h b₁' → Same h (f a b₁) (f' a b₁')) :
    Same h ((x >>= f) b) ((x' >>= f') b') := by
  obtain ⟨hresult, hbridge⟩ := hx
  rcases hxb : x b with ⟨r, b₁⟩
  rcases hxb' : x' b' with ⟨r', b₁'⟩
  rw [hxb, hxb'] at hresult hbridge
  cases hresult with
  | ok a =>
    rw [bind_of_ok hxb, bind_of_ok hxb']
    exact hf a b₁ b₁' hxb hbridge
  | error he =>
    rw [bind_of_error hxb, bind_of_error hxb']
    exact ⟨.error he, hbridge⟩

theorem pure (e : b.Apart h b') (a : α) :
    Same h ((Pure.pure a : Action Simulation α) b) ((Pure.pure a : Action Simulation α) b') :=
  ⟨.ok a, e⟩

theorem fail (e : b.Apart h b') (failure : Failure) :
    Same h ((Action.fail failure : Action Simulation α) b)
      ((Action.fail failure : Action Simulation α) b') := ⟨.refl _, e⟩

/-- What is read is the same. -/
theorem read {γ : Type} {g : Bridge Simulation → γ} {f f' : γ → Action Simulation α}
    (e : b.Apart h b') (hg : ∀ b, g (b.aside h) = g b) (hf : Same h (f (g b) b) (f' (g b) b')) :
    Same h ((Action.read g >>= f) b) ((Action.read g >>= f') b') := by
  rw [bind_of_ok (read_apply _ _), bind_of_ok (read_apply _ _), e.read g hg]
  exact hf

theorem withHandle {r : Resource} {f f' : Handle → Action Simulation α} (e : b.Apart h b')
    (hf : Same h (f (b.resource r).handle b) (f' (b.resource r).handle b')) :
    Same h (r.withHandle f b) (r.withHandle f' b') := by
  refine read e (fun _ => rfl) ?_
  split
  · exact fail e _
  · exact hf

end Same

namespace Action.Steady

theorem pure (a : α) : (Pure.pure a : Action Simulation α).Steady h := fun _ _ e => .pure e a

theorem fail (failure : Failure) : (Action.fail failure : Action Simulation α).Steady h :=
  fun _ _ e => .fail e failure

theorem ofExcept (r : Except Failure α) : (Action.ofExcept r : Action Simulation α).Steady h :=
  fun _ _ e => ⟨.refl r, e⟩

theorem bind {x : Action Simulation α} {f : α → Action Simulation β} (hx : x.Steady h)
    (hf : ∀ a, (f a).Steady h) : (x >>= f).Steady h :=
  fun b b' e => .bind (hx b b' e) fun a b₁ b₁' _ e₁ => hf a b₁ b₁' e₁

theorem read {γ : Type} {g : Bridge Simulation → γ} {f : γ → Action Simulation α}
    (hg : ∀ b, g (b.aside h) = g b) (hf : ∀ a, (f a).Steady h) :
    (Action.read g >>= f).Steady h := fun b b' e => .read e hg (hf (g b) b b' e)

theorem update (f : Bridge Simulation → Bridge Simulation)
    (hf : ∀ b, (f b).aside h = f (b.aside h)) : (Action.update f).Steady h :=
  fun _ _ e => ⟨.ok (), e.map f hf⟩

theorem note (event : Event) : (Action.note event : Action Simulation Unit).Steady h :=
  fun _ _ e => ⟨.ok (), e.note event⟩

theorem put (buffer : Buffer) (offset : Nat) (cell : Cell) :
    (Manager.put buffer offset cell : Action Simulation Unit).Steady h := update _ fun _ => rfl

theorem allocate (m : Manager) (cells : List Cell) :
    (m.allocate cells : Action Simulation Buffer).Steady h := by
  refine read (fun _ => rfl) fun s => ?_
  split
  · exact fail _
  · exact read (fun _ => rfl) fun scratch => bind (update _ fun _ => rfl) fun _ =>
      bind (update _ fun _ => rfl) fun _ => ofExcept _

theorem allocateFrom (r : Resource) (cells : List Cell) :
    (r.allocate cells : Action Simulation Buffer).Steady h :=
  read (fun _ => rfl) fun s => allocate s.manager cells

end Action.Steady

end Calls

/-- An open manager takes a native object. -/
theorem Resource.adopt_same {h : Handle} {b b' : Bridge Simulation} {m : Manager}
    (hm : (b.manager m).closed = false) (e : b.Apart h b') (handle : Handle) (kind : Kind)
    (releaser : Releaser Simulation) :
    Same h (adopt m handle kind releaser b) (adopt m handle kind releaser b') := by
  have hm' : (b'.manager m).closed = false := by rw [e.manager, hm]
  rw [adopt_of_open hm, adopt_of_open hm', e.read Bridge.next fun _ => rfl]
  exact ⟨.ok _, e.adopted m handle kind releaser⟩

/-! ## Calls of entry points -/

/-- **An open context of the simulated library**, and the handle that it is passed with. -/
structure Bridge.Backs (b : Bridge Simulation) (X : Context) (h : Handle) : Prop where
  has : b.Has (.context X)
  opened : (b.resource (b.context X).resource).closed = false
  library : (b.context X).library = Simulation.library
  handle : (b.resource (b.context X).resource).handle = h

namespace Bridge.Backs

variable {b b' : Bridge Simulation} {X : Context} {h : Handle} (hX : b.Backs X h)

include hX

theorem passed : b.passed (some X) = some (some h) := by
  rw [Bridge.passed, if_neg (Bool.eq_false_iff.1 hX.opened), hX.handle]

theorem grows (hgrows : b.Grows b') (hcontexts : b'.contexts = b.contexts) : b'.Backs X h := by
  have hcontext : b'.context X = b.context X := congrArg (·.get X.index) hcontexts
  have hresource := hgrows.resource _ (has_of_open hX.opened)
  refine ⟨hgrows.has _ hX.has, ?_, ?_, ?_⟩ <;> rw [hcontext]
  · rw [hresource, hX.opened]
  · exact hX.library
  · rw [hresource, hX.handle]

theorem quiet (hquiet : Quiet b b') : b'.Backs X h := hX.grows (.quiet hquiet) hquiet.contexts

theorem apart (e : b.Apart h b') : b'.Backs X h := by
  have hcontext := e.read (·.context X) fun _ => rfl
  refine ⟨?_, ?_, ?_, ?_⟩
  · exact Nat.lt_of_lt_of_eq hX.has (e.read (·.contexts.size) fun _ => rfl).symm
  all_goals rw [hcontext]
  · rw [e.resource, hX.opened]
  · exact hX.library
  · rw [e.resource, hX.handle]

/-- A snapshot of a context is taken without changing anything. -/
theorem diagnose (status : Status) : (b.diagnose status (some X)).Ensures (Bridge.Apart h) := by
  rw [Bridge.diagnose, hX.library]
  exact .map (readDiagnostic_ensures (fun b _ _ => .hushed b rfl) _ _)

/-- A call that leaves objects alone leaves the context open. -/
theorem bind {x : Action Simulation α} {f f' : α → Action Simulation β} (hsteady : x.Steady h)
    (hquiet : x.Ensures Quiet) (e : b.Apart h b')
    (hf : ∀ a b₁ b₁', Quiet b b₁ → b₁.Backs X h → b₁.Apart h b₁' → Same h (f a b₁) (f' a b₁')) :
    Same h ((x >>= f) b) ((x >>= f') b') := by
  refine .bind (hsteady b b' e) fun a b₁ b₁' hx e₁ => ?_
  have hb₁ : Quiet b b₁ := by
    have := hquiet b
    rwa [hx] at this
  exact hf a b₁ b₁' hb₁ (hX.quiet hb₁) e₁

end Bridge.Backs

section Native

variable {h : Handle} {b b' : Bridge Simulation}

theorem invoke_same {native : Option Handle → Call Simulation α}
    (hnative : Blind native) (symbol : Symbol)
    (target : Option Handle) (e : b.Apart h b') :
    Same h (invoke symbol target (native none) b) (invoke symbol target (native (some h)) b') := by
  have enote := e.note (.called symbol target)
  obtain ⟨said, hreports⟩ := hnative b.machine
  obtain ⟨hanswer, hmachine⟩ := hreports.apart e.machine
  refine ⟨?_, enote.withMachine hmachine⟩
  change Alike (.ok (native none b.machine).1) (.ok (native (some h) b'.machine).1)
  rw [hanswer]
  exact .ok _

theorem invokeInto_same {native : Option Handle → Call Simulation α}
    (hnative : Blind native) (out : Buffer) (cell : α → Cell)
    (symbol : Symbol) (target : Option Handle) (e : b.Apart h b') :
    Same h (invokeInto out cell symbol target (native none) b)
      (invokeInto out cell symbol target (native (some h)) b') :=
  .bind (invoke_same hnative symbol target e) fun answer b₁ b₁' _ e₁ =>
    Steady.bind (.put out 0 _) (fun _ => .pure answer) b₁ b₁' e₁

/-- **A call of an entry point comes to the same with a context as without.** -/
theorem callNative_same {X : Context} (hX : b.Backs X h) (symbol : Symbol)
    {call : Option Handle → Action Simulation (Answer α)} (htotal : (call none).Total)
    (hcall : ∀ b b', b.Apart h b' → Same h (call none b) (call (some h) b')) (e : b.Apart h b') :
    Same h (callNative none symbol call b) (callNative (some X) symbol call b') := by
  let b₀ := b.note (.remarked (.nativeCall symbol false))
  let b₀' := b'.note (.remarked (.nativeCall symbol true))
  have e₀ : b₀.Apart h b₀' :=
    (Apart.remarked b _).symm.trans (e.trans (Apart.remarked b' _))
  have hX₀ : b₀'.Backs X h := (hX.apart e).quiet (.remarked b' _)
  obtain ⟨a, ha⟩ := htotal b₀
  obtain ⟨hresult, hbridge⟩ := hcall b₀ b₀' e₀
  have hplain : call none b₀ = (.ok a, (call none b₀).2) := Prod.ext ha rfl
  have hgiven : call (some h) b₀' = (.ok a, (call (some h) b₀').2) := by
    refine Prod.ext ?_ rfl
    rw [ha] at hresult
    generalize (call (some h) b₀').1 = r at hresult
    cases hresult
    rfl
  have hended {status status' : Option Status} {result result' : Except Failure α}
      {b₁ b₁' : Bridge Simulation} (halike : Alike result result') (e₁ : b₁.Apart h b₁')
      (hplain : callUnder call none b₀ = (.ok (status, result), b₁))
      (hgiven : callUnder call (some X) b₀' = (.ok (status', result'), b₁')) :
      Same h (callNative none symbol call b) (callNative (some X) symbol call b') := by
    obtain ⟨slow, ended, heq⟩ := callNative_apply hplain
    obtain ⟨slow', ended', heq'⟩ := callNative_apply hgiven
    rw [heq, heq']
    refine ⟨halike, ?_⟩
    have hquiet (b : Bridge Simulation) (slow : Option Remark) (ended : Remark) :
        b.Apart h ((b.tell slow).note (.remarked ended)) :=
      (Apart.tell b slow).trans (.remarked _ _)
    exact (hquiet b₁ slow ended).symm.trans (e₁.trans (hquiet b₁' slow' ended'))
  cases hok : a.status.isOk with
  | true =>
    exact hended (.ok _) hbridge (callUnder_of_ok rfl hplain hok)
      (callUnder_of_ok hX₀.passed hgiven hok)
  | false =>
    obtain ⟨d, hd⟩ := b₀'.diagnose_total a.status (some X) (call (some h) b₀').2
    exact hended (.error (Failure.akin_ofStatus _ _ _))
      (hbridge.trans (hX₀.diagnose a.status (call (some h) b₀').2))
      (callUnder_of_failed rfl hplain hok rfl)
      (callUnder_of_failed hX₀.passed hgiven hok (Prod.ext hd rfl))

end Native

end HandleBridge
