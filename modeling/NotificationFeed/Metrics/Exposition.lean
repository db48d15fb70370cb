import NotificationFeed.Metrics.Registry
import NotificationFeed.Decimal.Shortest
import NotificationFeed.Locator
/-!
# The metrics page

The registry as text: families by name, labels by name, the series of a
family by the values of their labels, one line for each number. A family
without series is left out, the health is always there. Backslashes, quotes and line feeds are
escaped in the values of labels.
-/

namespace NotificationFeed

namespace Metrics

/-- What all names of families start with. -/
def nameSpace : String := "notification_service_"

/-- The part of a page about one family. -/
structure Family where
  name : String
  help : String
  kind : String
  lines : List String
  deriving Repr, Inhabited

/-- The value of a label with its special characters escaped. -/
def escape (value : String) : String :=
  String.ofList (value.toList.flatMap fun c =>
    if c = '\\' then ['\\', '\\']
    else if c = '\n' then ['\\', 'n']
    else if c = '"' then ['\\', '"']
    else [c])

/-- Labels as a line shows them. -/
def labelText (labels : List (String × String)) : String :=
  if labels.isEmpty then ""
  else
    "\x7b" ++ String.intercalate "," (labels.map fun (name, value) =>
      name ++ "=\"" ++ escape value ++ "\"") ++ "\x7d"

/-- One line: a name, labels and a number. -/
def sample (name : String) (labels : List (String × String)) (value : String) : String :=
  nameSpace ++ name ++ labelText labels ++ " " ++ value ++ "\n"

/-- The labels of a series, by their names. -/
def labelled (names values : List String) : List (String × String) :=
  (names.zip values).mergeSort fun a b => !decide (b.1 < a.1)

/-- The series of a family, by the values of their labels. The names of the labels stand in the
order in which the family declares them. -/
def seriesOf [DecidableEq φ] (family : φ) (names : List String)
    (table : Table (φ × Fingerprint) (Series α)) : List (List (String × String) × α) :=
  let series := table.filterMap fun ((f, _), s) =>
    if f = family then some (labelled names s.labels, s.value) else none
  series.mergeSort fun a b => !decide (b.1.map (·.2) < a.1.map (·.2))

/-- The lines of one counter. -/
def counterLines (name : String) (series : List (String × String) × Nat) : List String :=
  [sample name series.1 (toString series.2)]

/-- The lines of one histogram. -/
def histogramLines (name : String) (series : List (String × String) × Histogram) : List String :=
  let labels := series.1
  let count := toString series.2.count
  let bucketLines := (buckets.zip series.2.cumulative).map fun ((_, bound), n) =>
    sample (name ++ "_bucket") (labels ++ [("le", bound)]) (toString n)
  bucketLines ++
    [sample (name ++ "_bucket") (labels ++ [("le", "+Inf")]) count,
      sample (name ++ "_sum") labels (Decimal.ofFloat series.2.sum),
      sample (name ++ "_count") labels count]

/-- The text of a family. -/
def Family.text (f : Family) : String :=
  if f.lines.isEmpty then ""
  else
    "# HELP " ++ nameSpace ++ f.name ++ " " ++ f.help ++ "\n" ++
      "# TYPE " ++ nameSpace ++ f.name ++ " " ++ f.kind ++ "\n" ++ String.join f.lines

namespace Registry

/-- A family of counters. -/
def counterFamily (r : Registry) (family : CounterFamily) (name help : String)
    (labelNames : List String) : Family :=
  ⟨name, help, "counter", (seriesOf family labelNames r.counters).flatMap (counterLines name)⟩

/-- A family of histograms. -/
def histogramFamily (r : Registry) (family : HistogramFamily) (name help : String)
    (labelNames : List String) : Family :=
  ⟨name, help, "histogram",
    (seriesOf family labelNames r.histograms).flatMap (histogramLines name)⟩

/-- All families, by name. -/
def families (r : Registry) : List Family := [
  r.counterFamily .queries "database_queries_total" "Total number of database queries"
    ["query_type", "status"],
  r.histogramFamily .queryTimes "database_query_duration_seconds" "Duration of database queries"
    ["query_type"],
  r.histogramFamily .requestTimes "grpc_request_duration_seconds" "Duration of gRPC requests"
    ["method", "status"],
  r.counterFamily .requests "grpc_requests_total" "Total number of gRPC requests"
    ["method", "status"],
  ⟨"health", "Service health status (1 = healthy, 0 = unhealthy)", "gauge",
    [sample "health" [] (if r.healthy then "1" else "0")]⟩,
  r.counterFamily .operations "notification_operations_total"
    "Total number of notification operations" ["operation", "status"],
  r.histogramFamily .messageTimes "queue_message_duration_seconds"
    "Duration of queue message operations" ["topic", "operation"],
  r.counterFamily .messages "queue_messages_total" "Total number of queue messages"
    ["topic", "operation", "status"]]

/-- The whole page. -/
def page (r : Registry) : String := String.join (r.families.map Family.text)

end Registry

/-- An answer to a request for a page: a status and a body. -/
structure PageAnswer where
  status : Nat
  body : String
  deriving DecidableEq, Repr, Inhabited

/-- Answers a request for what a locator names. There is one page, at its path, and it can only be
read. -/
def Registry.serve (r : Registry) (method locator : String) : PageAnswer :=
  if Locator.path locator = "/metrics" then
    if method = "GET" then ⟨200, r.page⟩
    else if method = "HEAD" then ⟨200, ""⟩
    else ⟨405, ""⟩
  else ⟨404, ""⟩

end Metrics

end NotificationFeed
