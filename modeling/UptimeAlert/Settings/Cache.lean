import UptimeAlert.Settings.Basic

namespace UptimeAlert.Settings

/-- Settings with the number of the load that made them. -/
structure Loaded where
  number : Nat
  settings : Settings
  deriving DecidableEq, Repr

/-- The settings that are held, and the count of loads so far. -/
structure Cache where
  held : Option Loaded
  loads : Nat
  deriving DecidableEq, Repr

namespace Cache

/-- The cache that holds nothing yet. -/
def empty : Cache := ⟨none, 0⟩

/-- The settings that are held, or those that are loaded now; a load that fails is not held. -/
def get (cache : Cache) (load : Except LoadError Settings) : Except LoadError Loaded × Cache :=
  match cache.held with
  | some loaded => (.ok loaded, cache)
  | none =>
    match load with
    | .error e => (.error e, cache)
    | .ok settings =>
      let loaded := ⟨cache.loads, settings⟩
      (.ok loaded, ⟨some loaded, cache.loads + 1⟩)

def clear (cache : Cache) : Cache :=
  { cache with held := none }

/-- Loads anew, whatever is held. -/
def reload (cache : Cache) (load : Except LoadError Settings) : Except LoadError Loaded × Cache :=
  cache.clear.get load

end Cache

end UptimeAlert.Settings
