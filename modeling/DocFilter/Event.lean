/-!
# Events

What the library reports while it works, for whoever keeps a log: a level, a message, and named
values with it.
-/

namespace DocFilter

/-- How much an event matters. -/
inductive Level where
  | trace | debug | info
  deriving DecidableEq, Repr

/-- The word for a level. -/
def Level.name : Level → String
  | .trace => "trace"
  | .debug => "debug"
  | .info => "info"

/-- Something to report: a message with named values, at a level. -/
structure Event where
  level : Level
  message : String
  fields : List (String × String)
  deriving DecidableEq, Repr

end DocFilter
