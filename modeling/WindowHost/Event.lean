/-!
# Input events

An `Event` tells the host program that a named button went down or up. A `Kind` also serves as a
filter, where `any` lets every event pass.
-/

namespace WindowHost

namespace Event

/-- What an event reports, or what a filter asks for. -/
inductive Kind where
  | any | press | release
  deriving DecidableEq, Repr, Inhabited

def Kind.all : List Kind := [.any, .press, .release]

def Kind.name : Kind → String
  | .any => "Any"
  | .press => "Press"
  | .release => "Release"

/-- Whether an event of this kind passes the filter. -/
def Kind.passes (kind filter : Kind) : Bool := filter == .any || kind == filter

end Event

/-- A button transition by name. -/
structure Event where
  /-- Whether the button went down or up. -/
  kind : Event.Kind := .any
  /-- The name of the button. -/
  name : String := ""
  deriving DecidableEq, Repr, Inhabited

def Event.passes (filter : Event.Kind) (e : Event) : Bool := e.kind.passes filter

theorem Event.passes_any (e : Event) : e.passes .any = true := rfl

end WindowHost
