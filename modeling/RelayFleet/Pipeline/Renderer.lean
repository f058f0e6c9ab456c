/-
The renderer: whenever there is a sign of a change, it takes all signs that have come, then looks at
the store, and renders the snapshot unless it was rendered last. The store may change between the
two. A sweep waits until there is room for it, and meanwhile nothing is looked at.
-/
import RelayFleet.Render.Sweep
import RelayFleet.Store.Basic

namespace RelayFleet

/-- The renderer between two of its steps. -/
structure Renderer where
  /-- The generation that was rendered last. -/
  rendered : Option Nat := none
  /-- Whether it looks at the store without a sign. -/
  due : Bool := false
  /-- Whether it has taken the signs and is about to look at the store. -/
  awake : Bool := false
  /-- A sweep that waits for room. -/
  outgoing : Option Sweep := none
deriving DecidableEq, Inhabited

namespace Renderer

/-- The renderer of a store, which may hold something already. -/
def start (s : Store) : Renderer := { due := 0 < s.snapshot.generation }

/-- Whether there is a reason to look at the store. -/
def isCalled (r : Renderer) (s : Store) : Bool := r.due || s.trigger.any (! ·.pending.isEmpty)

/-- The renderer once it has taken the signs. -/
def woken (r : Renderer) : Renderer := { r with due := false, awake := true }

/-- Looks at a snapshot, which is rendered unless it was rendered last. -/
def look (settings : Settings) (r : Renderer) (s : Snapshot) : Renderer :=
  if r.rendered = some s.generation then { r with awake := false }
  else
    { r with
      rendered := some s.generation
      awake := false
      outgoing := some (Sweep.ofSnapshot settings s) }

end Renderer

end RelayFleet
