import NotificationFeed.Settings.Address
import NotificationFeed.Notification
import NotificationFeed.Time.Span
/-!
# Settings of the service

The service reads seventeen variables of its environment, one after another,
and stops at the first that is missing or malformed. A value that is not
UTF-8 counts as missing.
-/

namespace NotificationFeed

/-- The settings of the service. -/
structure Settings where
  logDirectory : String
  logFilename : String
  grpcBindAddress : Settings.Address
  grpcRequestTimeout : Span
  metricsBindAddress : Settings.Address
  dbConnectionString : String
  dbMaxConnections : Nat
  userServiceUrl : String
  userServiceTimeout : Span
  rabbitmqConnectionString : String
  eventsExchangeName : String
  eventsQueueName : String
  eventsBindingKey : String
  autoAck : Bool
  prefetchCount : Nat
  pollTimeout : Span
  retryInterval : Span
  deriving DecidableEq, Repr, Inhabited

namespace Settings

/-- The variables that are read. -/
inductive Variable where
  | logDirectory | logFilename | grpcBindAddress | grpcRequestTimeout | metricsBindAddress
  | dbConnectionString | dbMaxConnections | userServiceUrl | userServiceTimeout
  | rabbitmqConnectionString | eventsExchangeName | eventsQueueName | eventsBindingKey
  | autoAck | prefetchCount | pollTimeout | retryInterval
  deriving DecidableEq, Repr, Inhabited

namespace Variable

/-- The part of a variable's name that tells it from the others. -/
def shortName : Variable → String
  | logDirectory => "LOG_DIRECTORY"
  | logFilename => "LOG_FILENAME"
  | grpcBindAddress => "GRPC_BIND_ADDRESS"
  | grpcRequestTimeout => "GRPC_REQUEST_TIMEOUT"
  | metricsBindAddress => "METRICS_BIND_ADDRESS"
  | dbConnectionString => "DB_CONNECTION_STRING"
  | dbMaxConnections => "DB_MAX_CONNECTIONS"
  | userServiceUrl => "USER_SERVICE_URL"
  | userServiceTimeout => "USER_SERVICE_TIMEOUT"
  | rabbitmqConnectionString => "RABBITMQ_CONNECTION_STRING"
  | eventsExchangeName => "RABBITMQ_EVENTS_EXCHANGE_NAME"
  | eventsQueueName => "RABBITMQ_EVENTS_QUEUE_NAME"
  | eventsBindingKey => "RABBITMQ_EVENTS_BINDING_KEY"
  | autoAck => "RABBITMQ_AUTO_ACK"
  | prefetchCount => "RABBITMQ_PREFETCH_COUNT"
  | pollTimeout => "RABBITMQ_POLL_TIMEOUT_MS"
  | retryInterval => "RABBITMQ_RETRY_INTERVAL"

/-- The name of a variable. -/
def name (v : Variable) : String := "NOTIFICATION_SERVICE_" ++ v.shortName

end Variable

/-- The values of the variables that are set. -/
abbrev Environment := Variable → Option Bytes

/-- Why settings could not be read. -/
inductive Error where
  | notSet (name : Variable)
  | invalid (name : Variable) (refusal : Refusal)
  /-- A required variable that is malformed is reported without its name. -/
  | malformed (name : Variable) (refusal : Refusal)
  deriving DecidableEq, Repr, Inhabited

/-- The text of an error. -/
def Error.message : Error → String
  | notSet v => "environment variable " ++ v.name ++ " not set"
  | invalid v refusal => "environment variable " ++ v.name ++ " is invalid: " ++ refusal.message
  | malformed _ refusal => refusal.message

/-- The text of a variable, if it is set to one. -/
def Environment.text? (env : Environment) (v : Variable) : Option String :=
  (env v).bind fun value => String.fromUTF8? ⟨value.toArray⟩

/-- The text of a variable that must be set. -/
def required (env : Environment) (v : Variable) : Except Error String :=
  match env.text? v with
  | some text => .ok text
  | none => .error (.notSet v)

/-- The value of a variable that must be set and be an address. -/
def requiredAddress (env : Environment) (v : Variable) : Except Error Address := do
  let text ← required env v
  (Address.read text).mapError (.malformed v)

/-- The value of a variable, or its default when it is not set. -/
def optional (env : Environment) (v : Variable) (default : α)
    (read : String → Except Refusal α) : Except Error α :=
  match env.text? v with
  | some text => (read text).mapError (.invalid v)
  | none => .ok default

/-- Any text. -/
def readText (text : String) : Except Refusal String := .ok text

/-- A 64-bit number. -/
def readNumber64 : String → Except Refusal Nat := readNumber UInt64.size

/-- Reads the settings. -/
def read (env : Environment) : Except Error Settings := do
  let logDirectory ← required env .logDirectory
  let logFilename ← required env .logFilename
  let grpcBindAddress ← requiredAddress env .grpcBindAddress
  let grpcRequestTimeout ← optional env .grpcRequestTimeout 30 readNumber64
  let metricsBindAddress ←
    optional env .metricsBindAddress (.short ⟨0, 0, 0, 0⟩ 9105) Address.read
  let dbConnectionString ← required env .dbConnectionString
  let dbMaxConnections ← optional env .dbMaxConnections 10 (readNumber UInt32.size)
  let userServiceUrl ← required env .userServiceUrl
  let userServiceTimeout ← optional env .userServiceTimeout 5 readNumber64
  let rabbitmqConnectionString ← required env .rabbitmqConnectionString
  let eventsExchangeName ← optional env .eventsExchangeName "relation-events" readText
  let eventsQueueName ← optional env .eventsQueueName "notification-service" readText
  let eventsBindingKey ← optional env .eventsBindingKey "#" readText
  let autoAck ← optional env .autoAck false readFlag
  let prefetchCount ← optional env .prefetchCount 100 (readNumber UInt16.size)
  let pollTimeout ← optional env .pollTimeout 100 readNumber64
  let retryInterval ← optional env .retryInterval 5 readNumber64
  return {
    logDirectory, logFilename, grpcBindAddress
    grpcRequestTimeout := Span.ofSeconds grpcRequestTimeout
    metricsBindAddress, dbConnectionString, dbMaxConnections, userServiceUrl
    userServiceTimeout := Span.ofSeconds userServiceTimeout
    rabbitmqConnectionString, eventsExchangeName, eventsQueueName, eventsBindingKey
    autoAck, prefetchCount
    pollTimeout := Span.ofMillis pollTimeout
    retryInterval := Span.ofSeconds retryInterval }

end Settings

end NotificationFeed
