import HandleBridge.Config
import HandleBridge.Proofs.Spelling
import Mathlib.Data.List.Induction

/-!
# Proofs/Precedence — which layer a configured value comes from

A configuration is four fields.  Each setting names one of them, so what a list of settings makes of
a configuration is read off field by field: the last setting of a field counts, and only where there
is none the configuration it started from (`Config.value_setAll`).

The environment comes last of all.  A variable counts when its bytes spell a text that is not all
white space (`Environment.Sets`), and a configured path keeps it from being asked.
-/

namespace HandleBridge

namespace Environment

variable {env : Environment} {name text : String}

/-- The variable is set: its bytes spell the text, and some character is not white space. -/
def Sets (env : Environment) (name text : String) : Prop :=
  env.lookup name = some (Utf8.encode text.toList) ∧
    ∃ c ∈ text.toList, Blank.isBlankChar c = false

theorem text?_eq_some_iff :
    env.text? name = some text ↔ env.lookup name = some (Utf8.encode text.toList) := by
  simp only [text?, Option.bind_eq_bind, Option.bind_eq_some_iff, Option.map_eq_map,
    Option.map_eq_some_iff, Utf8.decode?_eq_some_iff]
  constructor
  · rintro ⟨_, h, characters, rfl, rfl⟩
    rw [h, String.toList_ofList]
  · intro h
    exact ⟨_, h, text.toList, rfl, String.ofList_toList⟩

/-- **A variable has a value exactly when it is set.** -/
theorem value?_eq_some_iff : env.value? name = some text ↔ env.Sets name text := by
  rw [value?, Option.filter_eq_some_iff, text?_eq_some_iff, Sets, Blank.isBlank]
  simp

end Environment

namespace Config

/-! ## Fields -/

/-- What a configuration holds a value of. -/
inductive Field where
  | libraryPath
  | logFilters
  | logFile
  | regionCapacity
  deriving DecidableEq, Repr

/-- The value of a field: a text that may be missing, or a number. -/
def value (c : Config) : Field → Option String ⊕ Nat
  | .libraryPath => .inl c.libraryPath
  | .logFilters => .inl c.logFilters
  | .logFile => .inl c.logFile
  | .regionCapacity => .inr c.regionCapacity

/-- The field that is set. -/
def Setting.field : Setting → Field
  | .libraryPath _ => .libraryPath
  | .logFilters _ => .logFilters
  | .logFile _ => .logFile
  | .regionCapacity _ => .regionCapacity

/-- The value it is set to. -/
def Setting.value : Setting → Option String ⊕ Nat
  | .libraryPath path => .inl (some path)
  | .logFilters filters => .inl (some filters)
  | .logFile path => .inl (some path)
  | .regionCapacity bytes => .inr bytes

/-- The last setting of a field. -/
def last? (f : Field) (settings : List Setting) : Option Setting :=
  (settings.filter (·.field = f)).getLast?

variable {c c' : Config} {f : Field} {s t : Setting} {settings : List Setting}

/-- A configuration is its four fields. -/
theorem ext_value (h : ∀ f, c.value f = c'.value f) : c = c' := by
  cases c
  cases c'
  rw [Config.mk.injEq]
  exact ⟨Sum.inl.inj (h .libraryPath), Sum.inl.inj (h .logFilters), Sum.inl.inj (h .logFile),
    Sum.inr.inj (h .regionCapacity)⟩

/-! ## Settings -/

/-- A setting sets its field and no other. -/
theorem value_set : (c.set s).value f = if s.field = f then s.value else c.value f := by
  cases s <;> cases f <;> rfl

theorem setAll_concat : c.setAll (settings ++ [s]) = (c.setAll settings).set s := by
  rw [setAll, List.foldl_append]
  rfl

theorem last?_concat :
    last? f (settings ++ [s]) = if s.field = f then some s else last? f settings := by
  rw [last?, List.filter_append]
  split <;> rename_i h
  · rw [List.filter_cons_of_pos (by simp [h]), List.filter_nil, List.getLast?_concat]
  · rw [List.filter_cons_of_neg (by simp [h]), List.filter_nil, List.append_nil, last?]

/-- **The last setting of a field counts**, and where there is none, what the configuration started
from. -/
theorem value_setAll :
    (c.setAll settings).value f = ((last? f settings).map (·.value)).getD (c.value f) := by
  induction settings using List.reverseRecOn with
  | nil => rfl
  | append_singleton settings s ih =>
    rw [setAll_concat, value_set, last?_concat]
    split
    · rfl
    · exact ih

theorem setAll_congr {settings' : List Setting} (h : ∀ f, last? f settings = last? f settings') :
    c.setAll settings = c.setAll settings' :=
  ext_value fun f => by rw [value_setAll, value_setAll, h]

theorem last?_append {after : List Setting} :
    last? f (settings ++ after) = (last? f after).or (last? f settings) := by
  rw [last?, List.filter_append, List.getLast?_append]
  rfl

theorem last?_swap (h : s.field ≠ t.field) : last? f [s, t] = last? f [t, s] := by
  by_cases hs : s.field = f <;> by_cases ht : t.field = f
  · exact absurd (hs.trans ht.symm) h
  all_goals simp [last?, hs, ht]

/-! ## The path of the library -/

/-- The path that a configuration resolves to: its own, or what the environment sets. -/
theorem resolveLibraryPath_eq_ok_iff {env : Environment} {path : String} :
    c.resolveLibraryPath env = .ok path ↔ c.libraryPath = some path ∨
      c.libraryPath = none ∧ env.Sets Environment.libraryPath path := by
  rw [← Environment.value?_eq_some_iff, resolveLibraryPath]
  cases c.libraryPath with
  | some own => simp
  | none => cases env.value? Environment.libraryPath <;> simp

theorem resolveLibraryPath_eq_error_iff {env : Environment} {e : Failure} :
    c.resolveLibraryPath env = .error e ↔ c.libraryPath = none ∧
      (∀ path, ¬ env.Sets Environment.libraryPath path) ∧ e = pathNotSet := by
  simp only [← Environment.value?_eq_some_iff]
  rw [resolveLibraryPath]
  cases c.libraryPath with
  | some own => simp
  | none => cases env.value? Environment.libraryPath <;> simp [eq_comm]

/-- A configuration without a path resolves as one that took it from the environment. -/
theorem resolveLibraryPath_of_value? {env : Environment} (hc : c.libraryPath = none)
    (hc' : c'.libraryPath = env.value? Environment.libraryPath) :
    c.resolveLibraryPath env = c'.resolveLibraryPath env := by
  rw [resolveLibraryPath, resolveLibraryPath, hc, hc']
  cases env.value? Environment.libraryPath <;> rfl

theorem resolveLibraryPath_of_libraryPath {env : Environment} (h : c.libraryPath = c'.libraryPath) :
    c.resolveLibraryPath env = c'.resolveLibraryPath env := by
  rw [resolveLibraryPath, resolveLibraryPath, h]

/-- The defaults and what the environment configures resolve alike, whatever is set on both. -/
theorem resolveLibraryPath_setAll_ofEnvironment (settings : List Setting) (env : Environment) :
    (default.setAll settings).resolveLibraryPath env =
      ((ofEnvironment env).setAll settings).resolveLibraryPath env := by
  have hpath (c : Config) : .inl (c.setAll settings).libraryPath =
      ((last? .libraryPath settings).map (·.value)).getD (.inl c.libraryPath) :=
    value_setAll (f := .libraryPath)
  have hdefault := hpath default
  have henvironment := hpath (ofEnvironment env)
  cases hlast : last? .libraryPath settings with
  | none =>
    rw [hlast] at hdefault henvironment
    exact resolveLibraryPath_of_value? (Sum.inl.inj hdefault) (Sum.inl.inj henvironment)
  | some s =>
    rw [hlast] at hdefault henvironment
    exact resolveLibraryPath_of_libraryPath
      (Sum.inl.inj (hdefault.trans henvironment.symm))

/-! ## The law -/

/-- **The last setting wins, then the start, then the environment.**  Whatever a configuration
starts from, each field has the value of its last setting, or of the start where there is none; so
the order of settings matters only within a field, and settings of different fields commute.  The
library's path is the configured one whatever the environment holds, else the one the environment
sets, and else there is a failure of configuration.  Whether the environment was asked at the start
makes no difference to it. -/
theorem setAll_precedence (c : Config) (settings : List Setting) (env : Environment) :
    (∀ f, (c.setAll settings).value f =
      ((last? f settings).map (·.value)).getD (c.value f)) ∧
    (∀ settings', (∀ f, last? f settings = last? f settings') →
      c.setAll settings = c.setAll settings') ∧
    (∀ before s t after, s.field ≠ t.field →
      c.setAll (before ++ [s, t] ++ after) = c.setAll (before ++ [t, s] ++ after)) ∧
    (∀ path, (c.setAll settings).resolveLibraryPath env = .ok path ↔
      (c.setAll settings).libraryPath = some path ∨
        (c.setAll settings).libraryPath = none ∧ env.Sets Environment.libraryPath path) ∧
    (∀ e, (c.setAll settings).resolveLibraryPath env = .error e ↔
      (c.setAll settings).libraryPath = none ∧
        (∀ path, ¬ env.Sets Environment.libraryPath path) ∧ e = pathNotSet) ∧
    (default.setAll settings).resolveLibraryPath env =
      ((ofEnvironment env).setAll settings).resolveLibraryPath env := by
  refine ⟨fun f => value_setAll, fun _ => setAll_congr, fun before s t after h => ?_,
    fun path => resolveLibraryPath_eq_ok_iff, fun e => resolveLibraryPath_eq_error_iff,
    resolveLibraryPath_setAll_ofEnvironment settings env⟩
  refine setAll_congr fun f => ?_
  simp only [last?_append, last?_swap h]

/-- A path that is set twice, in a process whose environment sets none. -/
theorem setAll_precedence_of_twice :
    let settings := [.libraryPath "a", .logFilters "info", .libraryPath "b"]
    (default.setAll settings).resolveLibraryPath [(Environment.libraryPath, [0x20, 0x09])] =
        .ok "b" ∧
      default.setAll settings =
        default.setAll [.logFilters "info", .libraryPath "a", .libraryPath "b"] := by
  intro settings
  obtain ⟨-, -, hswap, hpath, -⟩ :=
    setAll_precedence default settings [(Environment.libraryPath, [0x20, 0x09])]
  exact ⟨(hpath "b").mpr (.inl rfl),
    hswap [] (.libraryPath "a") (.logFilters "info") [.libraryPath "b"] (by decide)⟩

example : Config.default.resolveLibraryPath [(Environment.libraryPath, [0x20, 0x09])] =
    .error pathNotSet := rfl

end Config
end HandleBridge
