import HandleBridge.Proofs.Keeping
import HandleBridge.Proofs.Refusal
import HandleBridge.Proofs.Spelling

/-!
# Proofs/OneShot — the logger is initialized once in a process

Two latches move together: the process's flag, and the settings of the simulated library.  The flag
is set by the call that returns `true` and by nothing else, so at most one call does, and every
failed attempt leaves it clear.  The settings are those of that call: `Run.accepted` lists the
settings of the calls that returned `true`, and both latches can be read off the list.
-/

namespace HandleBridge

open HandleBridge.Action

variable {σ α : Type}

/-! ## One attempt -/

namespace Logger

/-- Can the arguments be passed on?  None of them may have a zero character. -/
def Passable (filters : String) (file : Option String) : Prop :=
  CString.spellable filters = true ∧ ∀ path ∈ file, CString.spellable path = true

/-- What the library is asked to do. -/
def request (library : Library σ) (filters : String) (file : Option String) : Call σ Unit :=
  library.entry.loggerInit (some (CString.ofText filters)) (file.map CString.ofText)

variable {library : Library σ} {filters : String} {file : Option String} {b : Bridge σ}

theorem spell_of_spellable (what : String) {text : String} (h : CString.spellable text = true) :
    spell what text = .ok (CString.ofText text) := if_pos h

theorem spell_of_not_spellable (what : String) {text : String}
    (h : CString.spellable text = false) : ∃ e, spell what text = .error e :=
  ⟨_, if_neg (Bool.eq_false_iff.1 h)⟩

theorem mapM_spell (what : String) (h : ∀ path ∈ file, CString.spellable path = true) :
    file.mapM (spell what) = .ok (file.map CString.ofText) := by
  cases file with
  | none => rfl
  | some path => exact congrArg (Except.map some) (spell_of_spellable what (h path rfl))

/-- Arguments that cannot be passed on do not come to the library. -/
theorem callLibrary_of_not_passable (h : ¬ Passable filters file) (library : Library σ)
    (b : Bridge σ) : ∃ e, callLibrary library filters file b = (.error e, b) := by
  rw [callLibrary]
  cases hfilters : CString.spellable filters with
  | false =>
    obtain ⟨e, he⟩ := spell_of_not_spellable "log filter" hfilters
    rw [he]
    exact ⟨e, rfl⟩
  | true =>
    rw [spell_of_spellable _ hfilters, bind_of_ok (ofExcept_apply _ _)]
    cases file with
    | none => exact absurd ⟨hfilters, fun _ hpath => absurd hpath (Option.not_mem_none _)⟩ h
    | some path =>
      have hpath : CString.spellable path = false := by
        refine Bool.eq_false_iff.2 fun hpath => h ⟨hfilters, fun path' hmem => ?_⟩
        exact Option.some.inj hmem ▸ hpath
      obtain ⟨e, he⟩ := spell_of_not_spellable "log file path" hpath
      have hfile : (some path).mapM (spell "log file path") = .error e :=
        congrArg (Except.map some) he
      rw [hfile]
      exact ⟨e, rfl⟩

/-- Arguments that can be passed on do, and the library decides. -/
theorem callLibrary_of_passable (h : Passable filters file) (library : Library σ)
    (b : Bridge σ) :
    let x := request library filters file b.machine
    let b₁ := (b.note (.called .loggerInit none)).withMachine x.2
    callLibrary library filters file b =
      if x.1.status.isOk then (.ok (), b₁.note (.remarked (.loggerInitialized filters file)))
      else (.error (.ofStatus x.1.status none), b₁) := by
  intro x b₁
  have hinvoke : invoke .loggerInit none (request library filters file) b = (.ok x.1, b₁) := rfl
  rw [callLibrary, spell_of_spellable _ h.1, bind_of_ok (ofExcept_apply _ _), mapM_spell _ h.2,
    bind_of_ok (ofExcept_apply _ _)]
  refine (bind_of_ok hinvoke).trans ?_
  split <;> rfl

/-- Once the logger is initialized, nobody asks the library. -/
theorem setUp_of_set (h : b.process.loggerInitialized = true) (library : Library σ)
    (filters : String) (file : Option String) :
    setUp library filters file b = (.ok false, b.note (.remarked .loggerAlreadyInitialized)) := by
  rw [setUp, bind_of_ok (read_apply _ _), if_pos h]
  rfl

/-- **An attempt either initializes the logger or fails and leaves it uninitialized.** -/
theorem setUp_of_clear (h : b.process.loggerInitialized = false) (library : Library σ)
    (filters : String) (file : Option String) :
    let x := request library filters file b.machine
    (Passable filters file ∧ x.1.status.isOk = true ∧ ∃ b',
      setUp library filters file b = (.ok true, b') ∧ b'.machine = x.2 ∧
        b'.process.loggerInitialized = true) ∨
    (¬ (Passable filters file ∧ x.1.status.isOk = true)) ∧ ∃ e b',
      setUp library filters file b = (.error e, b') ∧
        (b'.machine = b.machine ∨
          Passable filters file ∧ x.1.status.isOk = false ∧ b'.machine = x.2) ∧
        b'.process.loggerInitialized = false := by
  intro x
  have hsetUp : setUp library filters file b = (do
      callLibrary library filters file
      .update (·.modifyProcess fun p => { p with loggerInitialized := true })
      return true : Action σ Bool) b := by
    rw [setUp, bind_of_ok (read_apply _ _), if_neg (Bool.eq_false_iff.1 h)]
  by_cases hpassable : Passable filters file
  · have hcall := callLibrary_of_passable hpassable library b
    dsimp only at hcall
    rw [hsetUp]
    cases hok : x.1.status.isOk with
    | true =>
      rw [if_pos hok] at hcall
      rw [bind_of_ok hcall]
      exact .inl ⟨hpassable, rfl, _, rfl, rfl, rfl⟩
    | false =>
      rw [if_neg (Bool.eq_false_iff.1 hok)] at hcall
      rw [bind_of_error hcall]
      exact .inr ⟨fun hboth => Bool.noConfusion hboth.2, _, _, rfl, .inr ⟨hpassable, rfl, rfl⟩, h⟩
  · obtain ⟨e, hcall⟩ := callLibrary_of_not_passable hpassable library b
    rw [hsetUp, bind_of_error hcall]
    exact .inr ⟨fun hboth => hpassable hboth.1, e, b, rfl, .inl rfl, h⟩

end Logger

/-- **The first request that succeeds is recorded**, and a failed one records nothing. -/
theorem Simulation.logger_request {library : Library Simulation} {append : Appending}
    (hlibrary : library.entry = Simulation.entryPoints append) {filters : String}
    {file : Option String} (h : Logger.Passable filters file) {m : Machine Simulation}
    (hnone : m.native.logger = none) :
    (Logger.request library filters file m).2.native.logger =
      if (Logger.request library filters file m).1.status.isOk then some ⟨filters, file⟩
      else none := by
  rw [Logger.request, hlibrary]
  change (loggerInit append _ _ m).2.native.logger =
    if (loggerInit append _ _ m).1.status.isOk then _ else _
  rw [loggerInit, Option.map_some, CString.read_ofText h.1, hnone]
  cases file with
  | none => rfl
  | some path =>
    have hpath := CString.read_ofText (h.2 path rfl)
    simp only [Option.map_some, hpath]
    rcases append path (announcement filters) m.native.files with _ | files
    · exact hnone
    · rfl

/-! ## What a run records -/

/-- The settings that an attempt initialized the logger with, if it did. -/
def Logger.recorded? (filters : String) (file : Option String) :
    Except Failure Bool → Option Simulation.LoggerSettings
  | .ok true => some ⟨filters, file⟩
  | _ => none

namespace Operation

/-- The settings that a call initializes the logger with, if it does. -/
def accepted? (b : Bridge σ) : {α : Type} → Operation σ α → Option Simulation.LoggerSettings
  | _, setUpLogger library filters file =>
    Logger.recorded? filters file (Logger.setUp library filters file b).1
  | _, setUpLoggerFrom library config => config.logFilters.bind fun filters =>
    Logger.recorded? filters config.logFile (Logger.setUpFrom library config b).1
  | _, _ => none

variable {op : Operation σ α} {b : Bridge σ}

theorem accepted?_of_not_logs (hop : op.logs = false) : op.accepted? b = none := by
  cases op with
  | setUpLogger | setUpLoggerFrom => cases hop
  | _ => rfl

/-- A call that asks for the logger is an attempt, or comes without filters and does nothing. -/
theorem logs_cases (hop : op.logs = true) (b : Bridge σ) :
    (op.accepted? b = none ∧ op.after b = b) ∨
      ∃ library filters file, (∀ T : Terms σ, op.On T → T.library library) ∧
        op.accepted? b = Logger.recorded? filters file (Logger.setUp library filters file b).1 ∧
        op.after b = (Logger.setUp library filters file b).2 := by
  cases op with
  | setUpLogger library filters file =>
    exact .inr ⟨library, filters, file, fun _ => id, rfl, rfl⟩
  | setUpLoggerFrom library config =>
    rw [accepted?, after, perform, Logger.setUpFrom]
    cases hfilters : config.logFilters with
    | none => exact .inl ⟨rfl, rfl⟩
    | some filters => exact .inr ⟨library, filters, config.logFile, fun _ => id, rfl, rfl⟩
  | _ => cases hop

/-- **The flag is set when settings are accepted**, which happens only while it is clear. -/
theorem length_accepted? (known : op.Known b) (hserved : b.Served .any) :
    b.process.loggerInitialized.toNat + (op.accepted? b).toList.length =
      (op.after b).process.loggerInitialized.toNat := by
  cases hlogs : op.logs with
  | false =>
    rw [op.accepted?_of_not_logs hlogs, op.loggerInitialized_after known hlogs hserved]
    rfl
  | true =>
    rcases op.logs_cases hlogs b with ⟨haccepted, hafter⟩ | ⟨library, filters, file, -, haccepted,
      hafter⟩ <;> rw [haccepted, hafter]
    · rfl
    · cases hflag : b.process.loggerInitialized with
      | true =>
        rw [Logger.setUp_of_set hflag]
        exact congrArg Bool.toNat hflag.symm
      | false =>
        rcases Logger.setUp_of_clear hflag library filters file with
          ⟨-, -, b', heq, -, hset⟩ | ⟨-, e, b', heq, -, hclear⟩ <;> rw [heq]
        · exact congrArg Bool.toNat hset.symm
        · exact congrArg Bool.toNat hclear.symm

end Operation

/-- The terms on which only the logger's own entry point touches the settings of the simulated
library's logger.  How files are written may differ from library to library. -/
def Terms.logging : Terms Simulation where
  moves _ _ _ := True
  outside m m' := m'.native.logger = m.native.logger
  library l := ∃ append, l.entry = Simulation.entryPoints append
  dispose f := ∀ (h : Handle) (m : Machine Simulation), (f h m).native.logger = m.native.logger

namespace Operation

variable {op : Operation Simulation α} {b : Bridge Simulation}

/-- A call that does not ask for the logger leaves the settings alone. -/
theorem logger_after (known : op.Known b) (hlogs : op.logs = false) (hop : op.On .logging)
    (hserved : b.Served .logging) :
    (op.after b).machine.native.logger = b.machine.native.logger := by
  have hcovers {library : Library Simulation} (h : Terms.logging.library library) :
      (Guise.settled b.machine.native.logger b.process.loggerInitialized).Covers library.entry := by
    obtain ⟨append, heq⟩ := h
    rw [heq]
    exact Simulation.covers_settled _ _ append
  have hadmits :
      op.Admits (.settled b.machine.native.logger b.process.loggerInitialized) := by
    cases op with
    | createContext | adoptContext => exact hcovers hop
    | adoptJob library m h converter =>
      refine ⟨hcovers hop.1, ?_⟩
      cases converter with
      | adopt kind dispose failure => exact fun h => Simulation.Aloof.keeps _ _ (hop.2 h)
      | _ => exact trivial
    | outside change => exact Simulation.Aloof.keeps _ _ hop
    | setUpLogger | setUpLoggerFrom => cases hlogs
    | _ => exact trivial
  refine (op.kept known hadmits ?_ rfl rfl).1
  exact hserved.mono (fun _ => hcovers) fun f hf h => Simulation.Aloof.keeps _ _ (hf h)

/-- **The settings change when settings are accepted**, to those. -/
theorem logger_of_accepted? (known : op.Known b) (hop : op.On .logging)
    (hserved : b.Served .logging)
    (hnone : b.process.loggerInitialized = false → b.machine.native.logger = none) :
    (op.after b).machine.native.logger = (op.accepted? b).or b.machine.native.logger := by
  cases hlogs : op.logs with
  | false =>
    rw [op.accepted?_of_not_logs hlogs, op.logger_after known hlogs hop hserved]
    rfl
  | true =>
    rcases op.logs_cases hlogs b with ⟨haccepted, hafter⟩ | ⟨library, filters, file, hlibrary,
      haccepted, hafter⟩ <;> rw [haccepted, hafter]
    · rfl
    obtain ⟨append, hentry⟩ := hlibrary _ hop
    cases hflag : b.process.loggerInitialized with
    | true =>
      rw [Logger.setUp_of_set hflag]
      rfl
    | false =>
      have hlogger := hnone hflag
      have hrequest (h : Logger.Passable filters file) :=
        Simulation.logger_request hentry h hlogger
      rcases Logger.setUp_of_clear hflag library filters file with
        ⟨hpassable, hok, b', heq, hmachine, -⟩ | ⟨hnot, e, b', heq, hmachine, -⟩ <;> rw [heq]
      · rw [hmachine, hrequest hpassable, if_pos hok]
        rfl
      · change b'.machine.native.logger = b.machine.native.logger
        rcases hmachine with hmachine | ⟨hpassable, hfailed, hmachine⟩ <;> rw [hmachine]
        rw [hrequest hpassable, if_neg (Bool.eq_false_iff.1 hfailed), hlogger]

end Operation

/-! ## All calls of a process -/

namespace Run

/-- The settings that calls of a run initialized the logger with, in order. -/
def accepted {b : Bridge σ} : {b' : Bridge σ} → Run b b' → List Simulation.LoggerSettings
  | _, done => []
  | _, @call _ _ b' _ run op _ => run.accepted ++ (op.accepted? b').toList

/-- **At most one call initializes the logger**, and the flag says whether one did. -/
theorem length_accepted {native : σ} {env : Environment} {b : Bridge σ}
    (run : Run (.start native env) b) :
    run.accepted.length = b.process.loggerInitialized.toNat := by
  induction run with
  | done => rfl
  | call run op known ih =>
    rw [accepted, List.length_append, ih]
    exact op.length_accepted? known (run.walk_any (.start _ native env)).2

/-- **The settings are those of the call that initialized the logger**, absent before it. -/
theorem logger_eq {native : Simulation} {env : Environment} {b : Bridge Simulation}
    (run : Run (.start native env) b) (hnone : native.logger = none)
    (hrun : run.All fun _ op => op.On .logging) :
    b.machine.native.logger = run.accepted.head? := by
  induction run with
  | done => exact hnone
  | @call b α run op known ih =>
    have hlogger := ih hrun.1
    have hlength := run.length_accepted
    have hserved := (run.walk (fun _ _ => by constructor <;> intros <;> exact trivial) hrun.1
      (.start _ native env)).2
    have hempty (h : b.process.loggerInitialized = false) : run.accepted = [] := by
      rw [h] at hlength
      exact List.eq_nil_of_length_eq_zero hlength
    rw [op.logger_of_accepted? known hrun.2 hserved fun h => by rw [hlogger, hempty h]; rfl,
      accepted, hlogger]
    have hstep := op.length_accepted? known (run.walk_any (.start _ native env)).2
    cases hflag : b.process.loggerInitialized with
    | false =>
      rw [hempty hflag]
      cases op.accepted? b <;> rfl
    | true =>
      have hnew : op.accepted? b = none := by
        rw [hflag] at hstep
        rcases haccepted : op.accepted? b with _ | settings
        · rfl
        · rw [haccepted] at hstep
          cases hset : (op.after b).process.loggerInitialized <;> rw [hset] at hstep <;> cases hstep
      rw [hnew]
      exact (congrArg List.head? (List.append_nil _)).symm

end Run

/-- **How the logger is initialized**, given the settings that were accepted so far. -/
structure Bridge.OneShot (b : Bridge σ) (accepted : List Simulation.LoggerSettings) : Prop where
  /-- At most one call returned `true`, and the flag says whether one did. -/
  once : accepted.length = b.process.loggerInitialized.toNat
  /-- After that call nobody asks the library. -/
  late : b.process.loggerInitialized = true → ∀ library filters file,
    let x := Logger.setUp library filters file b
    x.1 = .ok false ∧ x.2.process = b.process ∧ x.2.machine = b.machine ∧ x.2.calls = b.calls
  /-- Before it the library decides about arguments that can be passed on. -/
  early : b.process.loggerInitialized = false → ∀ library filters file,
    let x := Logger.setUp library filters file b
    (x.1 = .ok true ↔ Logger.Passable filters file ∧
      (Logger.request library filters file b.machine).1.status.isOk = true) ∧
    (x.1 = .ok true ∧ x.2.process.loggerInitialized = true ∨
      (∃ e, x.1 = .error e) ∧ x.2.process.loggerInitialized = false)
  /-- A configuration asks for its filters, if it has some. -/
  configured : ∀ library config, Logger.setUpFrom library config b =
    config.logFilters.elim (.ok false, b) fun filters =>
      Logger.setUp library filters config.logFile b

theorem Bridge.oneShot {b : Bridge σ} {accepted : List Simulation.LoggerSettings}
    (h : accepted.length = b.process.loggerInitialized.toNat) : b.OneShot accepted := by
  refine ⟨h, fun hset library filters file => ?_, fun hclear library filters file => ?_,
    fun library config => ?_⟩
  · rw [Logger.setUp_of_set hset]
    exact ⟨rfl, rfl, rfl, b.calls_remarked _⟩
  · rcases Logger.setUp_of_clear hclear library filters file with
      ⟨hpassable, hok, b', heq, -, hset⟩ | ⟨hnot, e, b', heq, -, hleft⟩ <;> rw [heq]
    · exact ⟨iff_of_true rfl ⟨hpassable, hok⟩, .inl ⟨rfl, hset⟩⟩
    · exact ⟨iff_of_false nofun hnot, .inr ⟨⟨e, rfl⟩, hleft⟩⟩
  · rw [Logger.setUpFrom]
    cases config.logFilters <;> rfl

/-- **One-shot initialization of the logger.**  Whatever calls a process makes, with whatever
libraries and statuses, at most one of them initializes the logger, and the flag is set from that
call on; later attempts do not come to the library, and failed ones leave the flag clear.  Over the
simulated library, where only these calls come to the logger, the settings are absent until that
call, and are its own ever after. -/
theorem Logger.one_shot :
    (∀ (σ : Type) (native : σ) (env : Environment) (b : Bridge σ)
      (run : Run (.start native env) b), b.OneShot run.accepted) ∧
    ∀ (native : Simulation) (env : Environment) (b : Bridge Simulation)
      (run : Run (.start native env) b), native.logger = none →
        (run.All fun _ op => op.On .logging) →
          b.machine.native.logger = run.accepted.head? :=
  ⟨fun _ _ _ _ run => Bridge.oneShot run.length_accepted,
    fun _ _ _ run hnone hrun => run.logger_eq hnone hrun⟩

/-- Two attempts that fail, for a zero character and for a file that cannot be written, one that
succeeds, and one more. -/
theorem Logger.one_shot_of_retries :
    let refusing : Library Simulation := ⟨.inProcess "", Simulation.entryPoints fun _ _ _ => none⟩
    let b₀ := Bridge.start (default : Simulation) []
    let b₁ := (Operation.setUpLogger refusing "\x00" none).after b₀
    let b₂ := (Operation.setUpLogger refusing "info" (some "log")).after b₁
    let b₃ := (Operation.setUpLogger refusing "info" none).after b₂
    let b₄ := (Operation.setUpLogger refusing "debug" none).after b₃
    b₂.OneShot [] ∧ b₂.machine.native.logger = none ∧
      b₄.OneShot [⟨"info", none⟩] ∧ b₄.machine.native.logger = some ⟨"info", none⟩ := by
  intro refusing b₀ b₁ b₂ b₃ b₄
  let run₁ : Run b₀ b₁ := Run.done.call (.setUpLogger refusing "\x00" none) (by decide)
  let run₂ : Run b₀ b₂ := run₁.call (.setUpLogger refusing "info" (some "log")) (by decide)
  let run₃ : Run b₀ b₃ := run₂.call (.setUpLogger refusing "info" none) (by decide)
  let run₄ : Run b₀ b₄ := run₃.call (.setUpLogger refusing "debug" none) (by decide)
  have hrefusing : Terms.logging.library refusing := ⟨_, rfl⟩
  have haccepted₂ : run₂.accepted = [] := rfl
  have haccepted₄ : run₄.accepted = [⟨"info", none⟩] := rfl
  obtain ⟨hshot, hsettings⟩ := Logger.one_shot
  have hlogger₂ := hsettings _ _ _ run₂ rfl ⟨⟨trivial, hrefusing⟩, hrefusing⟩
  have hlogger₄ := hsettings _ _ _ run₄ rfl
    ⟨⟨⟨⟨trivial, hrefusing⟩, hrefusing⟩, hrefusing⟩, hrefusing⟩
  rw [haccepted₂] at hlogger₂
  rw [haccepted₄] at hlogger₄
  exact ⟨haccepted₂ ▸ hshot _ _ _ _ run₂, hlogger₂, haccepted₄ ▸ hshot _ _ _ _ run₄, hlogger₄⟩

end HandleBridge
