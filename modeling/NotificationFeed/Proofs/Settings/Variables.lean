import NotificationFeed.Settings
import NotificationFeed.Proofs.Settings.Scalar
import NotificationFeed.Proofs.Text
/-!
# Settings — variable by variable

The settings are read in one go, from seventeen variables with a state each.
Here each variable is taken by itself: the type of its field, its default if
it has one, what its texts mean (`Variable.Means`) and what its state comes to
(`Variable.value`). Reading the settings is reading the variables one after
another (`Reads`): a field is what its own variable comes to, and the first
variable at fault is the one reported.
-/

namespace NotificationFeed

namespace Settings

namespace Variable

/-- The variables, in the order in which they are read. -/
def all : List Variable :=
  [logDirectory, logFilename, grpcBindAddress, grpcRequestTimeout, metricsBindAddress,
    dbConnectionString, dbMaxConnections, userServiceUrl, userServiceTimeout,
    rabbitmqConnectionString, eventsExchangeName, eventsQueueName, eventsBindingKey, autoAck,
    prefetchCount, pollTimeout, retryInterval]

theorem mem_all (v : Variable) : v ∈ all := by
  cases v <;> decide

/-- What the field of a variable holds. -/
abbrev Value : Variable → Type
  | logDirectory | logFilename | dbConnectionString | userServiceUrl | rabbitmqConnectionString
  | eventsExchangeName | eventsQueueName | eventsBindingKey => String
  | grpcBindAddress | metricsBindAddress => Address
  | grpcRequestTimeout | userServiceTimeout | pollTimeout | retryInterval => Span
  | dbMaxConnections | prefetchCount => Nat
  | autoAck => Bool

/-- The variables that must be set. -/
def needed : List Variable :=
  [logDirectory, logFilename, grpcBindAddress, dbConnectionString, userServiceUrl,
    rabbitmqConnectionString]

/-- What the field holds when a variable is not set that need not be. -/
def default? : (v : Variable) → Option v.Value
  | logDirectory | logFilename | grpcBindAddress | dbConnectionString | userServiceUrl
  | rabbitmqConnectionString => none
  | grpcRequestTimeout => some (Span.ofSeconds 30)
  | metricsBindAddress => some (.short ⟨0, 0, 0, 0⟩ 9105)
  | dbMaxConnections => some (10 : Nat)
  | userServiceTimeout | retryInterval => some (Span.ofSeconds 5)
  | eventsExchangeName => some "relation-events"
  | eventsQueueName => some "notification-service"
  | eventsBindingKey => some "#"
  | autoAck => some false
  | prefetchCount => some (100 : Nat)
  | pollTimeout => some (Span.ofMillis 100)

theorem default?_eq_none_iff (v : Variable) : v.default? = none ↔ v ∈ needed := by
  cases v <;> simp [default?, needed]

/-- **What the text of a variable means for its field.** A span of time is counted in nanoseconds
and given in seconds, or in milliseconds for the polling. -/
def Means : (v : Variable) → String → v.Value → Prop
  | logDirectory, text, value | logFilename, text, value | dbConnectionString, text, value
  | userServiceUrl, text, value | rabbitmqConnectionString, text, value
  | eventsExchangeName, text, value | eventsQueueName, text, value
  | eventsBindingKey, text, value => value = text
  | grpcBindAddress, text, value | metricsBindAddress, text, value => Address.read text = .ok value
  | grpcRequestTimeout, text, value | userServiceTimeout, text, value
  | retryInterval, text, value => ∃ n < 2 ^ 64, Numeral n text ∧ value = n * 1000000000
  | pollTimeout, text, value => ∃ n < 2 ^ 64, Numeral n text ∧ value = n * 1000000
  | dbMaxConnections, text, value => value < 2 ^ 32 ∧ Numeral value text
  | prefetchCount, text, value => value < 2 ^ 16 ∧ Numeral value text
  | autoAck, text, value => (value = true ∧ text = "true") ∨ (value = false ∧ text = "false")

/-- Reads a text at the type of its field. -/
def parse : (v : Variable) → String → Except Refusal v.Value
  | logDirectory | logFilename | dbConnectionString | userServiceUrl | rabbitmqConnectionString
  | eventsExchangeName | eventsQueueName | eventsBindingKey => readText
  | grpcBindAddress | metricsBindAddress => Address.read
  | grpcRequestTimeout | userServiceTimeout | retryInterval =>
    fun text => (readNumber64 text).map Span.ofSeconds
  | pollTimeout => fun text => (readNumber64 text).map Span.ofMillis
  | dbMaxConnections => readNumber UInt32.size
  | prefetchCount => readNumber UInt16.size
  | autoAck => readFlag

/-- What a 64-bit number is read as, in some unit. -/
theorem map_readNumber64 {unit : Nat → Span} {text : String} {value : Span} :
    (readNumber64 text).map unit = .ok value ↔
      ∃ n < 2 ^ 64, Numeral n text ∧ value = unit n := by
  have hnumber : ∀ n, readNumber64 text = .ok n ↔ n < 2 ^ 64 ∧ Numeral n text :=
    fun n => readNumber_eq_ok_iff (by decide)
  cases hread : readNumber64 text with
  | error refusal =>
    refine ⟨nofun, ?_⟩
    rintro ⟨n, hn, hnumeral, -⟩
    rw [(hnumber n).2 ⟨hn, hnumeral⟩] at hread
    cases hread
  | ok n =>
    obtain ⟨hn, hnumeral⟩ := (hnumber n).1 hread
    constructor
    · intro h
      exact ⟨n, hn, hnumeral, (Except.ok.inj h).symm⟩
    · rintro ⟨n', hn', hnumeral', rfl⟩
      rw [(hnumber n').2 ⟨hn', hnumeral'⟩] at hread
      rw [Except.ok.inj hread]
      rfl

/-- **What is read is what is meant.** -/
theorem parse_eq_ok_iff {v : Variable} {text : String} {value : v.Value} :
    v.parse text = .ok value ↔ v.Means text value := by
  cases v with
  | logDirectory | logFilename | dbConnectionString | userServiceUrl | rabbitmqConnectionString
  | eventsExchangeName | eventsQueueName | eventsBindingKey =>
    exact ⟨fun h => (Except.ok.inj h).symm, fun h => congrArg Except.ok h.symm⟩
  | grpcBindAddress | metricsBindAddress => exact Iff.rfl
  | grpcRequestTimeout | userServiceTimeout | retryInterval | pollTimeout =>
    exact map_readNumber64
  | dbMaxConnections | prefetchCount => exact readNumber_eq_ok_iff (by decide)
  | autoAck => exact readFlag_eq_ok_iff

/-- How a text that was refused is reported. -/
def blame (v : Variable) : Refusal → Error :=
  if v.default?.isSome then .invalid v else .malformed v

/-- **What the state of a variable comes to.** -/
def value (v : Variable) (bytes : Option Bytes) : Except Error v.Value :=
  match bytes.bind fun value => String.fromUTF8? ⟨value.toArray⟩ with
  | some text => (v.parse text).mapError v.blame
  | none => v.default?.elim (.error (.notSet v)) .ok

/-- The text of a variable is the one that its bytes are the encoding of. -/
theorem textOf_iff {bytes : Option Bytes} {text : String} :
    (bytes.bind fun value => String.fromUTF8? ⟨value.toArray⟩) = some text ↔
      bytes = some text.toUTF8.toList := by
  simp only [Option.bind_eq_some_iff, fromUTF8?_eq_some_iff]
  exact ⟨fun ⟨_, hbytes, heq⟩ => heq ▸ hbytes, fun hbytes => ⟨_, hbytes, rfl⟩⟩

theorem noText_iff {bytes : Option Bytes} :
    (bytes.bind fun value => String.fromUTF8? ⟨value.toArray⟩) = none ↔
      ∀ text : String, bytes ≠ some text.toUTF8.toList := by
  simp only [Option.eq_none_iff_forall_ne_some, ne_eq, textOf_iff]

/-- **A variable comes to what its text means, or to its default** where it has no text: where it
is not set, or to bytes that are none. -/
theorem value_eq_ok_iff {v : Variable} {bytes : Option Bytes} {x : v.Value} :
    v.value bytes = .ok x ↔
      (∃ text : String, bytes = some text.toUTF8.toList ∧ v.Means text x) ∨
        ((∀ text : String, bytes ≠ some text.toUTF8.toList) ∧ v.default? = some x) := by
  unfold value
  cases hread : bytes.bind fun value => String.fromUTF8? ⟨value.toArray⟩ with
  | some text =>
    have hbytes := textOf_iff.1 hread
    have hparse : (v.parse text).mapError v.blame = .ok x ↔ v.parse text = .ok x := by
      cases v.parse text <;> simp [Except.mapError]
    rw [hparse, parse_eq_ok_iff]
    constructor
    · exact fun h => .inl ⟨text, hbytes, h⟩
    · rintro (⟨text', hbytes', h⟩ | ⟨hno, -⟩)
      · obtain rfl := Option.some.inj (hread.symm.trans (textOf_iff.2 hbytes'))
        exact h
      · exact absurd hbytes (hno text)
  | none =>
    have hno := noText_iff.1 hread
    constructor
    · intro h
      refine .inr ⟨hno, ?_⟩
      cases hdefault : v.default? with
      | none =>
        rw [hdefault] at h
        cases h
      | some d =>
        rw [hdefault] at h
        exact congrArg some (Except.ok.inj h)
    · rintro (⟨text, hbytes, -⟩ | ⟨-, hdefault⟩)
      · exact absurd hbytes (hno text)
      · rw [hdefault]
        rfl

/-- What is wrong with the state of a variable, if anything is. -/
def fault? (v : Variable) (bytes : Option Bytes) : Option Error :=
  match v.value bytes with
  | .ok _ => none
  | .error e => some e

theorem fault?_eq_none_iff {v : Variable} {bytes : Option Bytes} :
    v.fault? bytes = none ↔ ∃ x, v.value bytes = .ok x := by
  unfold fault?
  cases v.value bytes <;> simp

end Variable

/-- What the settings hold for a variable. -/
def field (s : Settings) : (v : Variable) → v.Value
  | .logDirectory => s.logDirectory
  | .logFilename => s.logFilename
  | .grpcBindAddress => s.grpcBindAddress
  | .grpcRequestTimeout => s.grpcRequestTimeout
  | .metricsBindAddress => s.metricsBindAddress
  | .dbConnectionString => s.dbConnectionString
  | .dbMaxConnections => s.dbMaxConnections
  | .userServiceUrl => s.userServiceUrl
  | .userServiceTimeout => s.userServiceTimeout
  | .rabbitmqConnectionString => s.rabbitmqConnectionString
  | .eventsExchangeName => s.eventsExchangeName
  | .eventsQueueName => s.eventsQueueName
  | .eventsBindingKey => s.eventsBindingKey
  | .autoAck => s.autoAck
  | .prefetchCount => s.prefetchCount
  | .pollTimeout => s.pollTimeout
  | .retryInterval => s.retryInterval

/-! ## One after another -/

section Steps

variable {env : Environment} {α : Type}

/-- A variable that must be set and may be any text. -/
theorem map_required (v : Variable) (view : String → v.Value) (hdefault : v.default? = none)
    (hparse : ∀ text, v.parse text = .ok (view text)) :
    (required env v).map view = v.value (env v) := by
  unfold required Variable.value Environment.text?
  cases (env v).bind fun value => String.fromUTF8? ⟨value.toArray⟩ with
  | some text =>
    simp only [hparse]
    rfl
  | none =>
    simp only [hdefault]
    rfl

/-- One that must be set, and to an address. -/
theorem map_requiredAddress (v : Variable) (view : Address → v.Value) (hdefault : v.default? = none)
    (hparse : ∀ text, (Address.read text).map view = v.parse text) :
    (requiredAddress env v).map view = v.value (env v) := by
  have hblame : v.blame = .malformed v := by simp [Variable.blame, hdefault]
  unfold requiredAddress required Variable.value Environment.text?
  cases (env v).bind fun value => String.fromUTF8? ⟨value.toArray⟩ with
  | some text =>
    simp only [← hparse, hblame]
    show ((Address.read text).mapError _).map view = _
    cases Address.read text <;> rfl
  | none =>
    simp only [hdefault]
    rfl

/-- One that need not be set. -/
theorem map_optional (v : Variable) (view : α → v.Value) {default : α}
    {read : String → Except Refusal α}
    (hdefault : v.default? = some (view default))
    (hparse : ∀ text, v.parse text = (read text).map view) :
    (optional env v default read).map view = v.value (env v) := by
  have hblame : v.blame = .invalid v := by simp [Variable.blame, hdefault]
  unfold optional Variable.value Environment.text?
  cases (env v).bind fun value => String.fromUTF8? ⟨value.toArray⟩ with
  | some text =>
    simp only [hparse, hblame]
    cases read text <;> rfl
  | none =>
    simp only [hdefault]
    rfl

/-- One that need not be set and is read as its field holds it. -/
theorem map_optional_id (v : Variable) {default : v.Value} {read : String → Except Refusal v.Value}
    (hdefault : v.default? = some default) (hparse : v.parse = read) :
    (optional env v default read).map id = v.value (env v) :=
  map_optional v id hdefault fun text => by rw [hparse, Except.map_id, id]

end Steps

/-- **Some variables are read, one after another**: the settings hold what each comes to and what
was `done` with those before, and what is reported is the first fault. -/
structure Reads (env : Environment) (vs : List Variable) (done : Settings → Prop)
    (x : Except Error Settings) : Prop where
  ok : ∀ s, x = .ok s → done s ∧ ∀ v ∈ vs, v.value (env v) = .ok (s.field v)
  error : ∀ e, x = .error e → vs.findSome? (fun v => v.fault? (env v)) = some e

namespace Reads

variable {env : Environment} {v : Variable} {vs : List Variable} {done : Settings → Prop}

theorem pure {s : Settings} (h : done s) : Reads env [] done (.ok s) where
  ok s' hs' := by
    obtain rfl := Except.ok.inj hs'
    exact ⟨h, nofun⟩
  error e he := by cases he

/-- **One more variable in front.** -/
theorem bind {α : Type} {x : Except Error α} {view : α → v.Value} {f : α → Except Error Settings}
    (hx : x.map view = v.value (env v))
    (hf : ∀ a, Reads env vs (fun s => s.field v = view a ∧ done s) (f a)) :
    Reads env (v :: vs) done (x >>= f) := by
  cases x with
  | error e =>
    refine ⟨nofun, fun e' he' => ?_⟩
    obtain rfl := Except.error.inj he'
    have hfault : v.fault? (env v) = some e := by rw [Variable.fault?, ← hx]; rfl
    rw [List.findSome?_cons, hfault]
  | ok a =>
    have hclear : v.fault? (env v) = none := by rw [Variable.fault?, ← hx]; rfl
    refine ⟨fun s hs => ?_, fun e he => ?_⟩
    · obtain ⟨⟨hfield, hdone⟩, hrest⟩ := (hf a).ok s hs
      refine ⟨hdone, List.forall_mem_cons.2 ⟨?_, hrest⟩⟩
      rw [hfield, ← hx]
      rfl
    · rw [List.findSome?_cons, hclear]
      exact (hf a).error e he

end Reads

/-- **The settings are read variable by variable**, in the order of `Variable.all`. -/
theorem read_reads (env : Environment) : Reads env Variable.all (fun _ => True) (read env) := by
  refine .bind (map_required .logDirectory id rfl fun _ => rfl) fun _ => ?_
  refine .bind (map_required .logFilename id rfl fun _ => rfl) fun _ => ?_
  refine .bind (map_requiredAddress .grpcBindAddress id rfl fun _ => by rw [Except.map_id]; rfl)
    fun _ => ?_
  refine .bind (map_optional .grpcRequestTimeout Span.ofSeconds rfl fun _ => rfl) fun _ => ?_
  refine .bind (map_optional_id .metricsBindAddress rfl rfl) fun _ => ?_
  refine .bind (map_required .dbConnectionString id rfl fun _ => rfl) fun _ => ?_
  refine .bind (map_optional_id .dbMaxConnections rfl rfl) fun _ => ?_
  refine .bind (map_required .userServiceUrl id rfl fun _ => rfl) fun _ => ?_
  refine .bind (map_optional .userServiceTimeout Span.ofSeconds rfl fun _ => rfl) fun _ => ?_
  refine .bind (map_required .rabbitmqConnectionString id rfl fun _ => rfl) fun _ => ?_
  refine .bind (map_optional_id .eventsExchangeName rfl rfl) fun _ => ?_
  refine .bind (map_optional_id .eventsQueueName rfl rfl) fun _ => ?_
  refine .bind (map_optional_id .eventsBindingKey rfl rfl) fun _ => ?_
  refine .bind (map_optional_id .autoAck rfl rfl) fun _ => ?_
  refine .bind (map_optional_id .prefetchCount rfl rfl) fun _ => ?_
  refine .bind (map_optional .pollTimeout Span.ofMillis rfl fun _ => rfl) fun _ => ?_
  refine .bind (map_optional .retryInterval Span.ofSeconds rfl fun _ => rfl) fun _ => ?_
  -- Every field holds what was read for it.
  exact .pure ⟨rfl, rfl, rfl, rfl, rfl, rfl, rfl, rfl, rfl, rfl, rfl, rfl, rfl, rfl, rfl, rfl, rfl,
    trivial⟩

/-- Settings that hold the same for every variable are the same. -/
theorem eq_of_field {s s' : Settings} (h : ∀ v : Variable, s.field v = s'.field v) : s = s' := by
  cases s
  cases s'
  simp only [Settings.mk.injEq]
  exact ⟨h .logDirectory, h .logFilename, h .grpcBindAddress, h .grpcRequestTimeout,
    h .metricsBindAddress, h .dbConnectionString, h .dbMaxConnections, h .userServiceUrl,
    h .userServiceTimeout, h .rabbitmqConnectionString, h .eventsExchangeName, h .eventsQueueName,
    h .eventsBindingKey, h .autoAck, h .prefetchCount, h .pollTimeout, h .retryInterval⟩

/-- **The first fault is reported**, and nothing else is. -/
theorem read_eq_error_iff {env : Environment} {e : Error} :
    read env = .error e ↔ Variable.all.findSome? (fun v => v.fault? (env v)) = some e := by
  refine ⟨(read_reads env).error e, fun hfault => ?_⟩
  cases hread : read env with
  | error e' => rw [Option.some.inj (((read_reads env).error e' hread).symm.trans hfault)]
  | ok s =>
    obtain ⟨-, hvalues⟩ := (read_reads env).ok s hread
    obtain ⟨_, v, _, hall, hv, -⟩ := List.findSome?_eq_some_iff.1 hfault
    rw [Variable.fault?_eq_none_iff.2 ⟨_, hvalues v v.mem_all⟩] at hv
    cases hv

/-- **Without a fault every field is what its variable comes to.** -/
theorem read_eq_ok_iff {env : Environment} {s : Settings} :
    read env = .ok s ↔ ∀ v : Variable, v.value (env v) = .ok (s.field v) := by
  refine ⟨fun hread v => ((read_reads env).ok s hread).2 v v.mem_all, fun hvalues => ?_⟩
  cases hread : read env with
  | error e =>
    obtain ⟨_, v, _, -, hv, -⟩ := List.findSome?_eq_some_iff.1 (read_eq_error_iff.1 hread)
    rw [Variable.fault?_eq_none_iff.2 ⟨_, hvalues v⟩] at hv
    cases hv
  | ok s' =>
    have hsame : s' = s := eq_of_field fun v =>
      Except.ok.inj ((((read_reads env).ok s' hread).2 v v.mem_all).symm.trans (hvalues v))
    rw [hsame]

/-- There are settings where every variable comes to something. -/
theorem exists_read_iff {env : Environment} :
    (∃ s, read env = .ok s) ↔ ∀ v : Variable, ∃ x, v.value (env v) = .ok x := by
  refine ⟨fun ⟨s, hread⟩ v => ⟨_, read_eq_ok_iff.1 hread v⟩, fun hvalues => ?_⟩
  cases hread : read env with
  | ok s => exact ⟨s, rfl⟩
  | error e =>
    obtain ⟨_, v, _, -, hv, -⟩ := List.findSome?_eq_some_iff.1 (read_eq_error_iff.1 hread)
    rw [Variable.fault?_eq_none_iff.2 (hvalues v)] at hv
    cases hv

/-- **The settings, variable by variable**, for every state of the seventeen. There are settings
when the needed variables are set and every text means something for its variable. A field holds
what the text of its own variable means, or the default where there is no text, and depends on no
other variable. Otherwise the first variable at fault is reported, whatever the later ones are
set to. -/
theorem settings_by_variable (env : Environment) :
    ((∃ s, read env = .ok s) ↔
        (∀ v ∈ Variable.needed, ∃ text : String, env v = some text.toUTF8.toList) ∧
          ∀ (v : Variable) (text : String), env v = some text.toUTF8.toList →
            ∃ x, v.Means text x) ∧
      (∀ s, read env = .ok s → ∀ v : Variable,
        (∃ text : String, env v = some text.toUTF8.toList ∧ v.Means text (s.field v)) ∨
          ((∀ text : String, env v ≠ some text.toUTF8.toList) ∧ v.default? = some (s.field v))) ∧
      (∀ (env' : Environment) (s s' : Settings) (v : Variable), read env = .ok s →
        read env' = .ok s' → env' v = env v → s'.field v = s.field v) ∧
      ∀ e, read env = .error e ↔ ∃ before v later, Variable.all = before ++ v :: later ∧
        v.fault? (env v) = some e ∧ ∀ u ∈ before, u.fault? (env u) = none := by
  refine ⟨?_, fun s hread v => Variable.value_eq_ok_iff.1 (read_eq_ok_iff.1 hread v), ?_,
    fun e => read_eq_error_iff.trans List.findSome?_eq_some_iff⟩
  · rw [exists_read_iff]
    constructor
    · refine fun hvalues => ⟨fun v hneeded => ?_, fun v text hbytes => ?_⟩
      · obtain ⟨x, hx⟩ := hvalues v
        rcases Variable.value_eq_ok_iff.1 hx with ⟨text, hbytes, -⟩ | ⟨-, hdefault⟩
        · exact ⟨text, hbytes⟩
        · rw [(Variable.default?_eq_none_iff v).2 hneeded] at hdefault
          cases hdefault
      · obtain ⟨x, hx⟩ := hvalues v
        rcases Variable.value_eq_ok_iff.1 hx with ⟨text', hbytes', hmeans⟩ | ⟨hno, -⟩
        · obtain rfl := eq_of_toUTF8 (Option.some.inj (hbytes.symm.trans hbytes'))
          exact ⟨x, hmeans⟩
        · exact absurd hbytes (hno text)
    · rintro ⟨hneeded, htexts⟩ v
      by_cases htext : ∃ text : String, env v = some text.toUTF8.toList
      · obtain ⟨text, hbytes⟩ := htext
        obtain ⟨x, hmeans⟩ := htexts v text hbytes
        exact ⟨x, Variable.value_eq_ok_iff.2 (.inl ⟨text, hbytes, hmeans⟩)⟩
      · have hoptional : v.default? ≠ none := by
          intro hnone
          exact htext (hneeded v ((Variable.default?_eq_none_iff v).1 hnone))
        obtain ⟨x, hdefault⟩ := Option.ne_none_iff_exists'.1 hoptional
        exact ⟨x, Variable.value_eq_ok_iff.2
          (.inr ⟨fun text hbytes => htext ⟨text, hbytes⟩, hdefault⟩)⟩
  · intro env' s s' v hread hread' hsame
    have hvalue := read_eq_ok_iff.1 hread' v
    rw [hsame, read_eq_ok_iff.1 hread v] at hvalue
    exact (Except.ok.inj hvalue).symm

/-- The needed variables, the longest time for the user service, and bytes that are no text. -/
def scanty : Environment
  | .logDirectory | .logFilename | .dbConnectionString | .userServiceUrl
  | .rabbitmqConnectionString => some [120]
  | .grpcBindAddress => some [91, 58, 58, 93, 58, 49]
  | .userServiceTimeout =>
    some [49, 56, 52, 52, 54, 55, 52, 52, 48, 55, 51, 55, 48, 57, 53, 53, 49, 54, 49, 53]
  | .pollTimeout => some [255]
  | _ => none

/-- No second of the longest time is lost, and bytes that are no text count as none. -/
example : (read scanty).map (fun s => (s.userServiceTimeout, s.pollTimeout, s.retryInterval)) =
    .ok (18446744073709551615000000000, 100000000, 5000000000) := rfl

end Settings

end NotificationFeed
