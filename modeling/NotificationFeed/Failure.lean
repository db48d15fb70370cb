/-!
# Failures and statuses

A failure says why an operation did not succeed; a status is what a remote
caller is told about it. The status keeps the class of the failure and drops
its text, so nothing internal leaves the service.
-/

namespace NotificationFeed

/-- Why the keeper of notifications could not answer. -/
inductive StoreFailure where
  | notificationNotFound
  | databaseQuery
  deriving DecidableEq, Repr, Inhabited

/-- Why an operation did not succeed. -/
inductive Failure where
  /-- A request of the wrong shape, refused before the service saw it. -/
  | validation (reason : String)
  | invalidInput (reason : String)
  | userNotFound
  | notificationNotFound
  | databaseQuery
  | externalService (reason : String)
  | unexpected (reason : String)
  deriving DecidableEq, Repr, Inhabited

namespace StoreFailure

/-- The text of a store failure. -/
def message : StoreFailure → String
  | notificationNotFound => "notification not found"
  | databaseQuery => "database query failed"

/-- A store failure as a failure of the operation that met it. -/
def toFailure : StoreFailure → Failure
  | notificationNotFound => .notificationNotFound
  | databaseQuery => .databaseQuery

end StoreFailure

/-- The text of a failure. -/
def Failure.message : Failure → String
  | validation reason => "validation failed: " ++ reason
  | invalidInput reason => "invalid input: " ++ reason
  | userNotFound => "user not found"
  | notificationNotFound => "notification not found"
  | databaseQuery => "database query failed"
  | externalService reason => "external service error: " ++ reason
  | unexpected reason => "unexpected error: " ++ reason

/-- The class of an answer to a remote call. -/
inductive Code where
  | ok | cancelled | unknown | invalidArgument | deadlineExceeded | notFound | alreadyExists
  | permissionDenied | resourceExhausted | failedPrecondition | aborted | outOfRange
  | unimplemented | internal | unavailable | dataLoss | unauthenticated
  deriving DecidableEq, Repr, Inhabited

namespace Code

/-- The codes by their number on the wire. -/
def all : List Code :=
  [ok, cancelled, unknown, invalidArgument, deadlineExceeded, notFound, alreadyExists,
    permissionDenied, resourceExhausted, failedPrecondition, aborted, outOfRange,
    unimplemented, internal, unavailable, dataLoss, unauthenticated]

/-- The code a number stands for; a number outside the list is `unknown`. -/
def ofNumber (n : Int) : Code :=
  if n < 0 then unknown else (all[n.toNat]?).getD unknown

/-- The name of a code in labels and journals. -/
def name : Code → String
  | ok => "Ok"
  | cancelled => "Cancelled"
  | unknown => "Unknown"
  | invalidArgument => "InvalidArgument"
  | deadlineExceeded => "DeadlineExceeded"
  | notFound => "NotFound"
  | alreadyExists => "AlreadyExists"
  | permissionDenied => "PermissionDenied"
  | resourceExhausted => "ResourceExhausted"
  | failedPrecondition => "FailedPrecondition"
  | aborted => "Aborted"
  | outOfRange => "OutOfRange"
  | unimplemented => "Unimplemented"
  | internal => "Internal"
  | unavailable => "Unavailable"
  | dataLoss => "DataLoss"
  | unauthenticated => "Unauthenticated"

end Code

/-- What a remote caller is told when a call fails. -/
structure Status where
  code : Code
  message : String
  deriving DecidableEq, Repr, Inhabited

/-- The class of the failure, without its text. -/
def Failure.status : Failure → Status
  | validation _ => ⟨.invalidArgument, "validation failed"⟩
  | invalidInput _ => ⟨.invalidArgument, "invalid input"⟩
  | userNotFound => ⟨.notFound, "user not found"⟩
  | notificationNotFound => ⟨.notFound, "notification not found"⟩
  | databaseQuery | externalService _ | unexpected _ => ⟨.internal, "internal service error"⟩

end NotificationFeed
