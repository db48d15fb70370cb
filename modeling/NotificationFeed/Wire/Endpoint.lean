import NotificationFeed.Locator
import NotificationFeed.Wire.Request
import NotificationFeed.Wire.Response
/-!
# Methods by their path

A remote call names its method by the path of a locator and carries one
message. A message that cannot be read reaches no handler, and neither does
an unknown path.
-/

namespace NotificationFeed

namespace Wire

open Rpc

/-- The path of a method. -/
def path (method : Method) : String := "/notification.v1.NotificationService/" ++ method.name

/-- The method at a path. -/
def methodAt? (p : String) : Option Method := Method.all.find? (path · == p)

/-- The path of a method is a locator of that method: nothing of it is cut, and no other method
has it. -/
theorem methodAt?_path (method : Method) : methodAt? (Locator.path (path method)) = some method := by
  cases method <;> decide +kernel

/-- The answer to a message that is no request. -/
def malformed : Status := ⟨.internal, "malformed message"⟩

/-- The answer to a path without a method. -/
def unimplemented : Status := ⟨.unimplemented, ""⟩

/-- Answers the message that was sent to a locator. -/
def respond (locator : String) (body : Bytes) : Service.Task (Except Status Bytes) :=
  match methodAt? (Locator.path locator) with
  | none => pure (.error unimplemented)
  | some method =>
    match decodeRequest method body with
    | none => pure (.error malformed)
    | some request => do
      let answer ← handle request
      return answer.map (encodeResponse request.method)

end Wire

end NotificationFeed
