import Breakpoint.Dialogue
import Breakpoint.Extent

/-!
# Viewports

A viewport has a size that is set explicitly, and observers that are told of every new size.
An observer may observe several times. It is told of its own registrations only, in the order
of registration, and the observers of one size are those registered when it was set.
-/

namespace Breakpoint

/-- A viewport with observers `ω`. -/
structure Viewport (ω : Type) where
  width : Extent
  height : Extent
  observers : List ω := []

namespace Viewport

variable {ω : Type}

/-- Registers an observer once more. -/
def observe (viewport : Viewport ω) (observer : ω) : Viewport ω :=
  { viewport with observers := viewport.observers ++ [observer] }

/-- Removes the first registration of an observer, if it has one. -/
def unobserve [DecidableEq ω] (viewport : Viewport ω) (observer : ω) : Viewport ω :=
  { viewport with observers := viewport.observers.erase observer }

/-- The viewport with another size. -/
def resize (viewport : Viewport ω) (width height : Extent) : Viewport ω :=
  { viewport with width, height }

/-- Sets the size and calls the observers. -/
def setSize (width height : Extent) : Operation (Viewport ω) ω (Except Fault Unit) Unit := do
  Operation.modify (·.resize width height)
  let viewport ← Operation.get
  Operation.forAll Operation.callOrFail viewport.observers

/-- The requests to a viewport. -/
inductive Request (ω : Type) where
  | setSize (width height : Extent)
  | observe (observer : ω)
  | unobserve (observer : ω)

/-- Serves a request. -/
def perform [DecidableEq ω] : Request ω → Operation (Viewport ω) ω (Except Fault Unit) Unit
  | .setSize width height => setSize width height
  | .observe observer => Operation.modify (·.observe observer)
  | .unobserve observer => Operation.modify (·.unobserve observer)

end Viewport

end Breakpoint
