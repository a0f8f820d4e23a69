import Vifu.Foundation.Table
import Vifu.Runtime.Identifier

/-!
# Route overrides

The table of a gateway session that sends the calls of a route to another provider.  Each activation replaces the
table as a whole, and the table before it can be brought back once.
-/

namespace Vifu.Gateway

open Foundation
open Vifu.Runtime hiding validateIdentifier

/-- `SessionRouteOverrides`, by what its lock guards.  The routes go from a route key to a provider key. -/
structure SessionRouteOverrides where
  generation : ℕ
  routes : HashMap String String
  previous : Option (HashMap String String)

namespace SessionRouteOverrides

/-- `SessionRouteOverrides::default()`. -/
def empty : SessionRouteOverrides := { generation := 0, routes := ∅, previous := none }

variable (overrides : SessionRouteOverrides)

def clear : SessionRouteOverrides where
  generation := saturatingAdd overrides.generation 1
  routes := ∅
  previous := none

def activate (routes : HashMap String String) : Except String SessionRouteOverrides :=
  if routes.entries.isEmpty then .error "route combination must contain at least one agent"
  else if routes.entries.any fun entry => (trim entry.1).isEmpty || (trim entry.2).isEmpty then
    .error "route combination contains an empty agent or provider key"
  else .ok { generation := saturatingAdd overrides.generation 1, routes, previous := some overrides.routes }

/-- The new generation, if there was a table to bring back. -/
def undo : Option SessionRouteOverrides :=
  overrides.previous.map fun previous =>
    { generation := saturatingAdd overrides.generation 1, routes := previous, previous := none }

variable {overrides}

theorem activate_ok {routes : HashMap String String} {next : SessionRouteOverrides}
    (activated : overrides.activate routes = .ok next) :
    next.routes = routes ∧ next.previous = some overrides.routes := by
  unfold activate at activated
  split at activated
  · cases activated
  · split at activated
    · cases activated
    · cases activated
      exact ⟨rfl, rfl⟩

end SessionRouteOverrides

end Vifu.Gateway
