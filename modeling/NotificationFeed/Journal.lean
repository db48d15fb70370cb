/-!
# The journal

What the service writes down about its own running: a level, a message and
named values as text, in the order they were written.
-/

namespace NotificationFeed

/-- How much an entry of the journal matters. -/
inductive Level where
  | info | warn | error
  deriving DecidableEq, Repr, Inhabited

/-- One entry of the journal. -/
structure Entry where
  level : Level
  /-- An entry may carry its values alone. -/
  message : Option String
  fields : List (String × String)
  deriving DecidableEq, Repr, Inhabited

namespace Entry

/-- An entry at level `info`. -/
def info (message : String) (fields : List (String × String)) : Entry := ⟨.info, some message, fields⟩

/-- An entry at level `warn`. -/
def warn (message : String) (fields : List (String × String)) : Entry := ⟨.warn, some message, fields⟩

/-- An entry at level `error`. -/
def error (message : String) (fields : List (String × String)) : Entry :=
  ⟨.error, some message, fields⟩

end Entry

end NotificationFeed
