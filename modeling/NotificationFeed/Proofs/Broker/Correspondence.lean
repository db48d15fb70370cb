import NotificationFeed.Broker.Establish
import NotificationFeed.Broker.Subscriber
import NotificationFeed.Proofs.Program.Exchanges
/-!
# The correspondence of a consumer

All that a consumer sends to its broker and all that it hears, line by line,
from the first step of its start on. A past is a correspondence with the
newest line first, so that one more line is one more `cons`, and what it says
of a channel is read off by recursion: the setup requests that were sent on
it, those that were accepted, whether a signal for it was heard.

A request waits for its answer until one is heard or the next request is
sent, so an acceptance that comes when nothing waits for it counts for
nothing.
-/

namespace NotificationFeed

namespace Broker

/-- One line of a correspondence. -/
inductive Line where
  | sent (action : Subscriber.Action)
  | heard (event : Subscriber.Event)
  deriving DecidableEq, Repr

/-- What a line sends. -/
def Line.sent? : Line → Option Subscriber.Action
  | sent action => some action
  | heard _ => none

namespace Past

variable {subscription : Subscription} {past : List Line} {channel other : Channel}
variable {on : ConnectionId} {action : Subscriber.Action} {event : Subscriber.Event} {setup : Setup}

/-- What was sent, in order. -/
def sent (past : List Line) : List Subscriber.Action := past.reverse.filterMap Line.sent?

/-- The past once an event was heard and something was sent at it. -/
def after (event : Subscriber.Event) (actions : List Subscriber.Action) (past : List Line) :
    List Line :=
  (actions.map Line.sent).reverse ++ .heard event :: past

/-- **The setup requests that were sent on a channel**, in order. -/
def asked (channel : Channel) : List Line → List Setup
  | [] => []
  | .sent (.request on setup) :: past =>
    if on = channel then asked channel past ++ [setup] else asked channel past
  | _ :: past => asked channel past

/-- The request that waits for its answer. -/
def awaited : List Line → Option (Channel × Setup)
  | [] => none
  | .sent (.request on setup) :: _ => some (on, setup)
  | .heard .accepted :: _ | .heard .rejected :: _ => none
  | _ :: past => awaited past

/-- **The setup requests that were accepted on a channel**, in order. -/
def accepted (channel : Channel) : List Line → List Setup
  | [] => []
  | .heard .accepted :: past =>
    accepted channel past ++ ((awaited past).filter (·.1 = channel)).toList.map (·.2)
  | _ :: past => accepted channel past

/-- **The connection that is published**, as far as that was heard. -/
def published : List Line → Option ConnectionId
  | [] => none
  | .heard (.published connection) :: _ => connection
  | _ :: past => published past

/-- The connection a channel is asked of, if nothing was sent since. -/
def asking : List Line → Option ConnectionId
  | [] => none
  | .sent (.openChannel on) :: _ => some on
  | .sent _ :: _ => none
  | .heard _ :: past => asking past

/-- **A channel was opened on a connection**: it was asked of that connection, it came, and then
its callback was registered. -/
def Opened (channel : Channel) (on : ConnectionId) (past : List Line) : Prop :=
  ∃ later earlier, past = later ++ .sent (.register channel) :: .heard .opened :: earlier ∧
    asking earlier = some on

/-- **The broker signalled a channel** whose callback was registered before. -/
def Raised (channel : Channel) : List Line → Prop
  | [] => False
  | .heard (.signalled on) :: past =>
    on = channel ∧ .sent (.register channel) ∈ past ∨ Raised channel past
  | _ :: past => Raised channel past

/-- A close of the channel was attempted. -/
def Closed (channel : Channel) (past : List Line) : Prop := .sent (.closeChannel channel) ∈ past

/-! ## One more line -/

@[simp] theorem asked_heard : asked channel (.heard event :: past) = asked channel past := rfl

theorem asked_sent (h : ∀ setup, action ≠ .request channel setup) :
    asked channel (.sent action :: past) = asked channel past := by
  cases action with
  | request on setup => exact if_neg fun hon => h setup (by rw [hon])
  | _ => rfl

theorem asked_sent_all {actions : List Subscriber.Action}
    (h : ∀ setup, .request channel setup ∉ actions) :
    asked channel ((actions.map Line.sent).reverse ++ past) = asked channel past := by
  induction actions generalizing past with
  | nil => rfl
  | cons action actions ih =>
    rw [List.map_cons, List.reverse_cons, List.append_assoc, List.singleton_append,
      ih fun setup hsetup => h setup (List.mem_cons_of_mem _ hsetup)]
    exact asked_sent fun setup heq => h setup (heq ▸ List.mem_cons_self)

theorem accepted_sent : accepted channel (.sent action :: past) = accepted channel past := rfl

theorem accepted_heard (h : event ≠ .accepted) :
    accepted channel (.heard event :: past) = accepted channel past := by
  cases event with
  | accepted => exact absurd rfl h
  | _ => rfl

theorem awaited_heard (h : event ≠ .accepted) (h' : event ≠ .rejected) :
    awaited (.heard event :: past) = awaited past := by
  cases event with
  | accepted => exact absurd rfl h
  | rejected => exact absurd rfl h'
  | _ => rfl

theorem published_heard (h : ∀ connection, event ≠ .published connection) :
    published (.heard event :: past) = published past := by
  cases event with
  | published connection => exact absurd rfl (h connection)
  | _ => rfl

theorem published_sent_all (actions : List Subscriber.Action) :
    published ((actions.map Line.sent).reverse ++ past) = published past := by
  induction actions generalizing past with
  | nil => rfl
  | cons action actions ih =>
    rw [List.map_cons, List.reverse_cons, List.append_assoc, List.singleton_append, ih]
    rfl

theorem raised_heard (h : event ≠ .signalled channel) :
    Raised channel (.heard event :: past) ↔ Raised channel past := by
  cases event with
  | signalled on =>
    have hon : on ≠ channel := fun hon => h (by rw [hon])
    simp [Raised, hon]
  | _ => exact Iff.rfl

theorem Opened.cons (h : Opened channel on past) (line : Line) :
    Opened channel on (line :: past) := by
  obtain ⟨later, earlier, rfl, hasking⟩ := h
  exact ⟨line :: later, earlier, rfl, hasking⟩

theorem Opened.registered (h : Opened channel on past) : .sent (.register channel) ∈ past := by
  obtain ⟨later, earlier, rfl, -⟩ := h
  simp

/-- A channel whose callback was not registered is not signalled. -/
theorem registered_of_raised (h : Raised channel past) : .sent (.register channel) ∈ past := by
  induction past with
  | nil => exact h.elim
  | cons line past ih =>
    cases line with
    | sent action => exact List.mem_cons_of_mem _ (ih h)
    | heard event =>
      by_cases hevent : event = .signalled channel
      · subst hevent
        exact h.elim (fun h => List.mem_cons_of_mem _ h.2) fun h => List.mem_cons_of_mem _ (ih h)
      · exact List.mem_cons_of_mem _ (ih ((raised_heard hevent).1 h))

/-- **Where nothing was asked nothing waits and nothing was accepted.** -/
theorem unanswered (h : asked channel past = []) :
    (∀ setup, awaited past ≠ some (channel, setup)) ∧ accepted channel past = [] := by
  induction past with
  | nil => exact ⟨nofun, rfl⟩
  | cons line past ih =>
    cases line with
    | sent action =>
      cases action with
      | request on setup =>
        by_cases hon : on = channel
        · simp [asked, hon] at h
        · obtain ⟨-, haccepted⟩ := ih ((asked_sent (by simp [hon])).symm.trans h)
          exact ⟨by simp [awaited, hon], haccepted⟩
      | _ => exact ih h
    | heard event =>
      obtain ⟨hawaited, haccepted⟩ := ih h
      cases event with
      | accepted =>
        refine ⟨nofun, ?_⟩
        rcases hpast : awaited past with _ | ⟨on, setup⟩
        · simp [accepted, hpast, haccepted]
        · have hon : on ≠ channel := fun hon => hawaited setup (by rw [hpast, hon])
          simp [accepted, hpast, haccepted, hon]
      | rejected => exact ⟨nofun, haccepted⟩
      | _ => exact ⟨hawaited, haccepted⟩

/-! ## What may be sent -/

/-- **What may be sent after a past.** A request of the setup is the next one on its channel: all
those before it were sent there and accepted, in order. The channel was not left, and every other
channel on which something was asked was. -/
def Allowed (subscription : Subscription) (past : List Line) : Subscriber.Action → Prop
  | .request channel setup =>
    asked channel past ++ [setup] <+: subscription.setup ∧
      accepted channel past = asked channel past ∧
      ¬ Closed channel past ∧
      ∀ other, other ≠ channel → asked other past ≠ [] → Closed other past
  | _ => True

/-- Everything that was sent was allowed. -/
def Lawful (subscription : Subscription) : List Line → Prop
  | [] => True
  | .sent action :: past => Allowed subscription past action ∧ Lawful subscription past
  | .heard _ :: past => Lawful subscription past

namespace Lawful

/-- **Every line of a lawful past** was allowed after the lines before it. -/
theorem allowed {later : List Line} (h : Lawful subscription (later ++ .sent action :: past)) :
    Allowed subscription past action := by
  induction later with
  | nil => exact h.1
  | cons line later ih =>
    cases line with
    | sent => exact ih h.2
    | heard => exact ih h

/-- **The requests on each channel are a prefix of the setup.** -/
theorem asked_prefix (h : Lawful subscription past) (channel : Channel) :
    asked channel past <+: subscription.setup := by
  induction past with
  | nil => exact List.nil_prefix
  | cons line past ih =>
    cases line with
    | heard event => exact ih h
    | sent action =>
      cases action with
      | request on setup =>
        by_cases hon : on = channel
        · subst hon
          rw [asked, if_pos rfl]
          exact h.1.1
        · rw [asked_sent (by simp [hon])]
          exact ih h.2
      | _ => exact ih h.2

/-- **Two channels are never in use at once**: of two on which something was asked, one was
left. -/
theorem one_in_use (h : Lawful subscription past) (hasked : asked channel past ≠ [])
    (hother : asked other past ≠ []) (hopen : ¬ Closed channel past)
    (hopen' : ¬ Closed other past) : channel = other := by
  induction past with
  | nil => exact absurd rfl hasked
  | cons line past ih =>
    have kept {channel : Channel} (h : ¬ Closed channel (line :: past)) : ¬ Closed channel past :=
      fun hclosed => h (List.mem_cons_of_mem _ hclosed)
    cases line with
    | heard event => exact ih h hasked hother (kept hopen) (kept hopen')
    | sent action =>
      cases action with
      | request on setup =>
        obtain ⟨⟨-, -, -, hothers⟩, hpast⟩ := h
        -- Only the channel asked on now can be in use besides itself: all others were left.
        have hon {channel : Channel}
            (hasked : asked channel (.sent (.request on setup) :: past) ≠ [])
            (hopen : ¬ Closed channel past) : on = channel := by
          by_cases hon : on = channel
          · exact hon
          · rw [asked_sent (by simp [hon])] at hasked
            exact absurd (hothers channel (Ne.symm hon) hasked) hopen
        exact (hon hasked (kept hopen)).symm.trans (hon hother (kept hopen'))
      | _ => exact ih h.2 hasked hother (kept hopen) (kept hopen')

end Lawful

end Past

end Broker

end NotificationFeed
