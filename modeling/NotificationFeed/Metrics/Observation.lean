import NotificationFeed.Time.Span
/-!
# Observations

The eight things the service reports about its own work. Labels are free
text; a flag of success is a label too, `success` or `error`.
-/

namespace NotificationFeed

namespace Metrics

/-- One report about the service's own work. -/
inductive Observation where
  | requestCounted (method code : String)
  | requestTimed (method code : String) (elapsed : Span)
  | queryCounted (query : String) (success : Bool)
  | queryTimed (query : String) (elapsed : Span)
  | operationCounted (operation : String) (success : Bool)
  | messageCounted (topic operation : String) (success : Bool)
  | messageTimed (topic operation : String) (elapsed : Span)
  | healthSet (healthy : Bool)
  deriving DecidableEq, Repr, Inhabited

end Metrics

end NotificationFeed
