import HandleBridge.Config
import HandleBridge.Duration
import HandleBridge.Native.Symbol

/-!
# Limits — sizes and names that the bridge publishes
-/

namespace HandleBridge

/-- What the bridge publishes about itself. -/
structure Limits where
  /-- Bytes that a region starts with. -/
  regionCapacity : Nat
  /-- Resources that a registry has room for from the start. -/
  registryCapacity : Nat
  /-- Parts that a registry is locked by; a power of two. -/
  registryShards : Nat
  /-- The environment variables that configure the bridge. -/
  environment : List String
  /-- The entry points that a library must export. -/
  symbols : List String
  /-- Calls and teardowns that take longer are slow. -/
  slow : Nat
  deriving DecidableEq, Repr

/-- The limits that are in force. -/
def Limits.current : Limits where
  regionCapacity := Config.defaultRegionCapacity
  registryCapacity := 64
  registryShards := 8
  environment :=
    [Environment.libraryPath, Environment.log, Environment.logFile, Environment.traceJson]
  symbols := Symbol.all.map (·.name)
  slow := Duration.slow

end HandleBridge
