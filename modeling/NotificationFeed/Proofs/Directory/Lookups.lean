import NotificationFeed.Directory.Client
import NotificationFeed.Database.Keeper
import NotificationFeed.Proofs.Rpc.Shape
import NotificationFeed.Proofs.World.Runs
/-!
# Sending — what comes of a lookup

The client of the user service stands in the place of the directory, so a
request to send is one program down to the call of the user service. Without
its asides little is left of it: the one lookup, and behind a lookup that ended
in a user the reading of the clock and the creation
(`Directory.reaches_stores`). So the row of its exchanges is known for every
outcome of the lookup, and with it what the caller is told.

That a creation is never refused as if a notification were missing is what the
caller of a keeper relies on. Both keepers hold to it, and between them they
may reply everything else (`creationReply_iff`).
-/

namespace NotificationFeed

/-! ## Creations -/

/-- The keeper in memory refuses no creation. -/
theorem Store.create_succeeds (now : Instant) (draft : Draft) (s : Store) :
    (perform now (.create draft) s).1 = .ok (s.lastId + 1) := rfl

namespace Database

/-- What is finished puts the blame. -/
theorem reaches_finish {α : Type} {query : Query} {started : Span} {found : Except QueryFailure α}
    {xs : List (NotificationFeed.Exchange surroundings)} {r : Except StoreFailure α}
    (h : (finish query started found).Reaches xs (.done r)) : r = found.mapError query.blame := by
  obtain ⟨_, _, -, h⟩ := h.of_ask
  obtain ⟨_, _, -, h⟩ := h.of_ask
  obtain ⟨_, _, -, h⟩ := h.of_ask
  cases found with
  | ok a =>
    obtain ⟨-, ⟨⟩⟩ := h.of_done
    rfl
  | error failure =>
    simp only at h
    split at h
    · obtain ⟨_, _, -, h⟩ := h.of_ask
      obtain ⟨-, ⟨⟩⟩ := h.of_done
      rfl
    · obtain ⟨-, ⟨⟩⟩ := h.of_done
      rfl

/-- **The keeper in a database refuses no creation as if a notification were missing**, whatever
the database answers. -/
theorem create_not_missing {draft : Draft} {xs : List (NotificationFeed.Exchange surroundings)}
    {r : Except StoreFailure Int} (h : (perform (.create draft)).Reaches xs (.done r)) :
    r ≠ .error .notificationNotFound := by
  obtain ⟨createdAt, _, _, -, -, h⟩ := Program.reaches_bind_iff.1 h
  obtain ⟨_, _, -, h⟩ := h.of_ask
  obtain ⟨reply, _, -, h⟩ := h.of_ask
  rw [reaches_finish h]
  rcases reply.number with failure | id
  · cases failure <;> exact nofun
  · exact nofun

/-- Surroundings in which the database always replies in the same way. -/
def replyingWith (reply : Reply) (_ : List (NotificationFeed.Exchange surroundings)) :
    (c : Call) → c.Reply
  | .execute _ => reply
  | .readClock => ⟨0⟩
  | .readStopwatch => (0 : Nat)
  | .observe _ | .note _ => ()

/-- **It may come to everything else**: to any identifier, and to a failure. -/
theorem create_reaches (draft : Draft) {r : Except StoreFailure Int}
    (h : r ≠ .error .notificationNotFound) :
    ∃ xs, (perform (.create draft)).Reaches xs (.done r) := by
  obtain ⟨reply, hreply⟩ : ∃ reply : Reply,
      ((perform (.create draft)).run (Program.replying (replyingWith reply)) []).1 = .ok r := by
    obtain ⟨userId, kind, createdAt, payload⟩ := draft
    rcases r with (_ | _) | id
    · exact absurd rfl h
    · refine ⟨.disconnected, ?_⟩
      cases createdAt <;> rfl
    · refine ⟨.rows [[("id", some (.int8 id))]], ?_⟩
      cases createdAt <;> rfl
  obtain ⟨a, xs, hrun, hreaches⟩ :=
    Program.reaches_run_replying (replyingWith reply) (perform (.create draft)) []
  rw [hrun] at hreply
  obtain rfl := Except.ok.inj hreply
  exact ⟨xs, hreaches⟩

end Database

/-- **What a keeper may reply to a creation**: the one in memory out of any store, and the one in a
database whatever the database replies to it. -/
inductive CreationReply (draft : Draft) : Except StoreFailure Int → Prop
  | inMemory (now : Instant) (s : Store) : CreationReply draft (s.perform now (.create draft)).1
  | inDatabase {xs : List (Exchange Database.surroundings)} {r : Except StoreFailure Int}
      (h : (Database.perform (.create draft)).Reaches xs (.done r)) : CreationReply draft r

/-- That is everything but that a notification is missing. -/
theorem creationReply_iff {draft : Draft} {r : Except StoreFailure Int} :
    CreationReply draft r ↔ r ≠ .error .notificationNotFound := by
  constructor
  · rintro (⟨now, s⟩ | h)
    · rw [Store.create_succeeds]
      exact nofun
    · exact Database.create_not_missing h
  · intro h
    obtain ⟨xs, hxs⟩ := Database.create_reaches draft h
    exact .inDatabase hxs

/-! ## Lookups -/

/-- Of all numbers of statuses one says that there is no such user. -/
theorem Code.ofNumber_eq_notFound (n : Int) : ofNumber n = .notFound ↔ n = 5 := by
  constructor
  · intro h
    unfold ofNumber at h
    split at h
    · cases h
    · rename_i hpos
      have hat : all[n.toNat]? = some .notFound := by
        cases hget : all[n.toNat]? with
        | none =>
          rw [hget] at h
          cases h
        | some code =>
          rw [hget] at h
          exact congrArg some h
      have hlt : n.toNat < all.length := (List.getElem?_eq_some_iff.1 hat).1
      have hfive : n.toNat = 5 := (List.getElem?_inj hlt (by decide)).1 (hat.trans rfl)
      omega
  · rintro rfl
    rfl

namespace Directory

/-- What stands beside the work of a service with a client for its directory. -/
def isAside : joined.Call → Bool
  | .inl call => call.isAside
  | .inr (.getUser _) => false
  | .inr (.note _) => true

/-- A question to the directory, at whatever door. -/
def isLookup : joined.Call → Bool
  | .inl (.findUser _) | .inr (.getUser _) => true
  | _ => false

/-- A request to the keeper. -/
def isStore : joined.Call → Bool
  | .inl call => call.isStore
  | .inr _ => false

/-- A creation that is refused as if a notification were missing. -/
def MissesCreation (x : Exchange joined) : Prop :=
  ∃ draft, x = ⟨.inl (.store (.create draft)), .error .notificationNotFound⟩

namespace Lookup

/-- The lookup ended in a user. -/
def IsUser (lookup : Lookup) : Prop := ∃ user, lookup = .user user

/-- **There is no such user**, says the user service. -/
def Missing (lookup : Lookup) : Prop := ∃ message, lookup = .status 5 message

/-- **A lookup that ended in no user**: the directory says that there is none when the user service
said so, and blames the service otherwise. -/
theorem answer_of_not_isUser {lookup : Lookup} (h : ¬ lookup.IsUser) :
    (lookup.Missing ∧ lookup.answer = .error .userNotFound) ∨
      (¬ lookup.Missing ∧ ∃ reason, lookup.answer = .error (.externalService reason)) := by
  cases lookup with
  | user user => exact absurd ⟨user, rfl⟩ h
  | status number message =>
    by_cases hcode : Code.ofNumber number = .notFound
    · obtain rfl := (Code.ofNumber_eq_notFound number).1 hcode
      exact .inl ⟨⟨message, rfl⟩, rfl⟩
    · refine .inr ⟨?_, "user service returned " ++ (Code.ofNumber number).name, ?_⟩
      · rintro ⟨_, ⟨⟩⟩
        exact hcode rfl
      · simp only [answer, statusFailure, if_neg hcode]
  | refused => exact .inr ⟨nofun, _, rfl⟩
  | silent => exact .inr ⟨nofun, _, rfl⟩

end Lookup

/-- The client in the place of the directory, without its journal. -/
def joinBare : (call : Service.Call) → Program joined call.Reply
  | .findUser id => .ask (I := joined) (.inr (.getUser id)) fun lookup => .done lookup.answer
  | call => .call (I := joined) (.inl call)

theorem fetch_follows (timeout : Span) (id : Int) :
    Program.Follows (I := surroundings) (fun call => isAside (.inr call)) (fetch timeout id)
      (.ask (.getUser id) fun lookup => .done lookup.answer) := by
  have hnotes : ∀ entries : List Entry, (entries.forM fun entry => ask (.note entry)).AsksOnly
      fun call => isAside (.inr call) = true :=
    Program.AsksOnly.forM fun _ => Program.asksOnly_call.2 rfl
  refine .both rfl fun lookup => ?_
  show Program.Follows _ ((lookup.entries id timeout).forM (fun entry => ask (.note entry)) >>=
    fun _ => .done lookup.answer) _
  exact .skips (hnotes _) fun _ => .done _

/-- **With the client in its place a task follows what it followed**, the client without its
journal. -/
theorem join_follows {α : Type} {p q : Service.Task α} (h : Service.Follows p q) (timeout : Span) :
    Program.Follows isAside (p.refine (join timeout)) (q.refine joinBare) := by
  refine h.refine (fun c hc => ?_) fun c hc => ?_
  · cases c with
    | findUser id => cases hc
    | readClock | store request => cases hc
    | _ => exact Program.asksOnly_call.2 rfl
  · cases c with
    | findUser id =>
      have hclient : Program.Follows isAside
          ((fetch timeout id).refine fun call => .call (I := joined) (.inr call))
          ((Program.ask (I := surroundings) (.getUser id) fun lookup => .done lookup.answer).refine
            fun call => .call (I := joined) (.inr call)) :=
        (fetch_follows timeout id).refine (fun call hcall => Program.asksOnly_call.2 hcall)
          fun call hcall => .both hcall fun r => .done r
      exact hclient
    | readClock => exact .both rfl fun now => .done now
    | store request => exact .both rfl fun reply => .done reply
    | _ => cases hc

variable {α : Type} {draft : Draft} {view : Except Failure Int → α}

/-- **What is left of having a draft stored, in exchanges**: the one lookup, and behind a user the
reading of the clock and the creation. -/
theorem reaches_stores {xs : List (Exchange joined)} {a : α} (hdraft : draft.createdAt = none)
    (h : ((Core.stores draft view).program.refine joinBare).Reaches xs (.done a)) :
    ∃ lookup : Lookup,
      (∃ failure, lookup.answer = .error failure ∧ a = view (.error failure) ∧
        xs = [⟨.inr (.getUser draft.userId), lookup⟩]) ∨
      ∃ (now : Instant) (reply : Except StoreFailure Int), lookup.IsUser ∧
        a = view (reply.mapError StoreFailure.toFailure) ∧
        xs = [⟨.inr (.getUser draft.userId), lookup⟩, ⟨.inl .readClock, now⟩,
          ⟨.inl (.store (.create { draft with createdAt := some now })), reply⟩] := by
  obtain ⟨lookup, later, rfl, hrest⟩ := h.of_ask
  refine ⟨lookup, ?_⟩
  cases hanswer : Lookup.answer lookup with
  | error failure =>
    simp only [hanswer] at hrest
    obtain ⟨rfl, ⟨⟩⟩ := hrest.of_done
    exact .inl ⟨failure, rfl, rfl, rfl⟩
  | ok user =>
    simp only [hanswer, Core.date, hdraft] at hrest
    obtain ⟨now, _, rfl, hcreate⟩ := hrest.of_ask
    obtain ⟨reply, _, rfl, hdone⟩ := hcreate.of_ask
    obtain ⟨rfl, ⟨⟩⟩ := hdone.of_done
    refine .inr ⟨now, reply, ?_, rfl, rfl⟩
    cases lookup with
    | user found => exact ⟨found, rfl⟩
    | _ => cases hanswer

theorem not_isAside_of_isStore {c : joined.Call} (h : isStore c = true) : isAside c = false := by
  cases c with
  | inl call =>
    cases call with
    | store request => rfl
    | _ => cases h
  | inr call => cases h

theorem not_isAside_of_isLookup {c : joined.Call} (h : isLookup c = true) :
    isAside c = false := by
  cases c with
  | inl call =>
    cases call with
    | findUser id => rfl
    | _ => cases h
  | inr call =>
    cases call with
    | getUser id => rfl
    | note entry => cases h

/-- What is no aside is found among what is no aside. -/
theorem filter_work {P : joined.Call → Bool} (h : ∀ c, P c = true → isAside c = false)
    (xs : List (Exchange joined)) :
    xs.filter (P ·.call) = (xs.filter (!isAside ·.call)).filter (P ·.call) := by
  rw [List.filter_filter]
  refine List.filter_congr fun x _ => ?_
  cases hx : P x.call with
  | false => rfl
  | true => rw [h _ hx]; rfl

/-- The first exchange that is no aside, if it is no request to the keeper, stands before every
such request. -/
theorem mem_of_isStore {xs row : List (Exchange joined)} {first : Exchange joined}
    (hrow : xs.filter (!isAside ·.call) = first :: row) (hfirst : isStore first.call = false)
    {before later : List (Exchange joined)} {x : Exchange joined}
    (hxs : xs = before ++ x :: later) (hx : isStore x.call = true) : first ∈ before := by
  have hlater : (x :: later).filter (!isAside ·.call) = x :: later.filter (!isAside ·.call) :=
    List.filter_cons_of_pos (by rw [not_isAside_of_isStore hx]; rfl)
  rw [hxs, List.filter_append, hlater] at hrow
  cases hbefore : before.filter (!isAside ·.call) with
  | nil =>
    rw [hbefore] at hrow
    obtain rfl := List.head_eq_of_cons_eq hrow
    rw [hfirst] at hx
    cases hx
  | cons y ys =>
    rw [hbefore] at hrow
    obtain rfl := List.head_eq_of_cons_eq hrow
    exact (List.mem_filter.1 (hbefore ▸ List.mem_cons_self)).1

end Directory

/-! ## A request to send -/

namespace Rpc

/-- **What comes of a request to send**, by how the lookup of its user ended. -/
structure SentAs (userId : Int) (kind : String) (payload : Bytes) (lookup : Directory.Lookup)
    (xs : List (Exchange Directory.joined)) (answer : Except Status Int) : Prop where
  /-- One lookup is made, that of the user the request is for. -/
  once : xs.filter (Directory.isLookup ·.call) = [⟨.inr (.getUser userId), lookup⟩]
  /-- Nothing is asked of the keeper before it. -/
  first : ∀ before x later, xs = before ++ x :: later → Directory.isStore x.call = true →
    ⟨.inr (.getUser userId), lookup⟩ ∈ before
  /-- For a user the notification is created, once, and the keeper's reply is the answer. -/
  stored : lookup.IsUser → ∃ (now : Instant) (reply : Except StoreFailure Int),
    xs.filter (Directory.isStore ·.call) =
        [⟨.inl (.store (.create ⟨userId, kind, some now, payload⟩)), reply⟩] ∧
      answer = (reply.mapError StoreFailure.toFailure).mapError Failure.status
  /-- Otherwise the keeper is asked for nothing. -/
  unstored : ¬ lookup.IsUser → xs.filter (Directory.isStore ·.call) = []
  /-- The caller is told that something is missing when the user service says so. -/
  missing : codeOf answer = .notFound ↔ lookup.Missing
  /-- Every other failure of the lookup is told by one fixed text. -/
  outage : ¬ lookup.IsUser → ¬ lookup.Missing →
    answer = .error ⟨.internal, "internal service error"⟩

/-- What a request to send of the right shape does without its asides. -/
theorem Request.core_send {userId : Int} {kind : String} {payload : Bytes}
    (h : (Request.send userId kind payload).WellShaped) :
    (Request.send userId kind payload).core =
      .stores ⟨userId, kind, none, payload⟩ (·.mapError Failure.status) := by
  have hkind : ¬ kind.isEmpty = true := by simpa using h.2.1
  unfold core performCore
  rw [check_of_wellShaped h]
  simp only [operation, Service.Request.core, Service.saveCore]
  rw [if_pos h.1, if_neg hkind]
  simp only [Core.map]
  congr 1
  funext r
  cases r <;> rfl

/-- **A row of exchanges and an answer** that a lookup, and behind a user the reply of the keeper,
determine as they do here. -/
theorem SentAs.of_reaches {userId : Int} {kind : String} {payload : Bytes}
    {xs : List (Exchange Directory.joined)} {answer : Except Status Int}
    (hreaches : ((Core.stores ⟨userId, kind, none, payload⟩
      (·.mapError Failure.status)).program.refine Directory.joinBare).Reaches
        (xs.filter (!Directory.isAside ·.call)) (.done answer))
    (hkeeper : ∀ x ∈ xs, ¬ Directory.MissesCreation x) :
    ∃ lookup, SentAs userId kind payload lookup xs answer := by
  have hlooks := Directory.filter_work (fun _ => Directory.not_isAside_of_isLookup) xs
  have hstores := Directory.filter_work (fun _ => Directory.not_isAside_of_isStore) xs
  obtain ⟨lookup, ⟨failure, hfailure, rfl, hrow⟩ | ⟨now, reply, huser, rfl, hrow⟩⟩ :=
    Directory.reaches_stores rfl hreaches
  · rw [hrow] at hlooks hstores
    have hno : ¬ lookup.IsUser := by
      rintro ⟨user, rfl⟩
      cases hfailure
    refine ⟨lookup, hlooks, fun _ _ _ => Directory.mem_of_isStore hrow rfl, fun h => absurd h hno,
      fun _ => hstores, ?_, fun _ hmissing => ?_⟩
    · rcases Directory.Lookup.answer_of_not_isUser hno with ⟨hmissing, h⟩ | ⟨hmissing, reason, h⟩
      · obtain rfl := Except.error.inj (hfailure.symm.trans h)
        exact ⟨fun _ => hmissing, fun _ => rfl⟩
      · obtain rfl := Except.error.inj (hfailure.symm.trans h)
        exact ⟨nofun, fun h => absurd h hmissing⟩
    · rcases Directory.Lookup.answer_of_not_isUser hno with ⟨h, -⟩ | ⟨-, reason, h⟩
      · exact absurd h hmissing
      · obtain rfl := Except.error.inj (hfailure.symm.trans h)
        rfl
  · have hreply : reply ≠ .error .notificationNotFound := by
      rintro rfl
      have hmem : (⟨.inl (.store (.create ⟨userId, kind, some now, payload⟩)),
          .error .notificationNotFound⟩ : Exchange Directory.joined) ∈
          xs.filter (!Directory.isAside ·.call) := by
        rw [hrow]
        exact List.mem_cons_of_mem _ (List.mem_cons_of_mem _ (List.mem_singleton.2 rfl))
      exact hkeeper _ (List.mem_of_mem_filter hmem) ⟨_, rfl⟩
    rw [hrow] at hlooks hstores
    refine ⟨lookup, hlooks, fun _ _ _ => Directory.mem_of_isStore hrow rfl,
      fun _ => ⟨now, reply, hstores, rfl⟩, fun h => absurd huser h, ?_, fun h => absurd huser h⟩
    -- The keeper never tells of something missing, and neither did the lookup.
    obtain ⟨user, rfl⟩ := huser
    refine ⟨fun h => ?_, nofun⟩
    rcases reply with (_ | _) | id
    · exact absurd rfl hreply
    · cases h
    · cases h

/-- **A request to send asks for its user once, and first, and what it comes to is told by how that
ends**, however the user service, the keeper and all else reply. An outage is never told as a
missing user and has nothing created. -/
theorem send_as_looked_up {userId : Int} {kind : String} {payload : Bytes}
    (hshape : (Request.send userId kind payload).WellShaped) (timeout : Span)
    (reply : List (Exchange Directory.joined) →
      (c : Directory.joined.Call) → Directory.joined.Reply c)
    (hkeeper : ∀ past draft, CreationReply draft (reply past (.inl (.store (.create draft))))) :
    ∃ answer xs lookup,
      ((handle (.send userId kind payload)).refine (Directory.join timeout)).run
          (Program.replying reply) [] = (.ok answer, xs) ∧
        SentAs userId kind payload lookup xs answer := by
  have hfollows := Directory.join_follows
    (Request.handle_follows (.send userId kind payload)) timeout
  rw [Request.core_send hshape] at hfollows
  obtain ⟨answer, xs, hrun, hreaches⟩ := Program.reaches_run_replying reply
    ((handle (.send userId kind payload)).refine (Directory.join timeout)) []
  obtain ⟨q, hq, hend⟩ := hfollows.reaches hreaches
  obtain rfl := hend.eq_done
  have hreply : ∀ past c, ¬ Directory.MissesCreation ⟨c, reply past c⟩ := by
    rintro past c ⟨draft, h⟩
    injection h with hcall hreply
    subst hcall
    exact creationReply_iff.1 (hkeeper past draft) (eq_of_heq hreply)
  have hkept := Program.forall_run_replying (fun x => ¬ Directory.MissesCreation x) hreply
    ((handle (.send userId kind payload)).refine (Directory.join timeout)) (List.forall_mem_nil _)
  rw [hrun] at hkept
  obtain ⟨lookup, hsent⟩ := SentAs.of_reaches hq hkept
  exact ⟨answer, xs, lookup, hrun, hsent⟩

/-- Surroundings in which every call of the user service ends in the same way, over an empty
store. -/
def answering (lookup : Directory.Lookup) (_ : List (Exchange Directory.joined)) :
    (c : Directory.joined.Call) → Directory.joined.Reply c
  | .inl (.findUser _) => lookup.answer
  | .inl .readClock => ⟨0⟩
  | .inl .readStopwatch => (0 : Nat)
  | .inl (.store request) => (Store.perform ⟨0⟩ request {}).1
  | .inl (.commit _) => .ok ()
  | .inl (.poll _) | .inl .closeQueue | .inl (.observe _) | .inl (.note _) => ()
  | .inr (.getUser _) => lookup
  | .inr (.note _) => ()

theorem send_as_looked_up_unavailable :
    (∃ answer xs lookup,
      ((handle (.send 42 "like" [1])).refine (Directory.join (.ofSeconds 5))).run
          (Program.replying (answering (.status 14 "no route to host"))) [] = (.ok answer, xs) ∧
        SentAs 42 "like" [1] lookup xs answer) ∧
      (((handle (.send 42 "like" [1])).refine (Directory.join (.ofSeconds 5))).run
          (Program.replying (answering (.status 14 "no route to host"))) []).1 =
        .ok (.error ⟨.internal, "internal service error"⟩) := by
  have hshape : (Request.send 42 "like" [1]).WellShaped := ⟨by decide, by decide, by decide⟩
  exact ⟨send_as_looked_up hshape (.ofSeconds 5) (answering (.status 14 "no route to host"))
    fun past draft => .inMemory ⟨0⟩ {}, rfl⟩

end Rpc

end NotificationFeed
