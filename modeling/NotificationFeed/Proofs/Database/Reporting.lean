import NotificationFeed.Database.Keeper
import NotificationFeed.Proofs.Database.Contents
import NotificationFeed.Proofs.Program.Exchanges
/-!
# Database — what every reply comes to

A database may reply to a query with anything. Whether a query succeeds is
said of its reply alone (`Inquiry.Succeeds`), and so is whether it misses the
one row it wants (`Inquiry.Misses`) or touches nothing (`Inquiry.Idles`). The
keeper reports every query it sends, and what it answers follows from its
queries and their replies: the same for all seven requests, so it is shown of
one query first (`obeys_ask`) and then of each request.
-/

namespace NotificationFeed

namespace Database

variable {α : Type}

/-! ## Queries and their replies -/

/-- A query that was sent, and what came back. -/
structure Inquiry where
  query : Query
  reply : Reply

namespace Inquiry

/-- **A query succeeds** if what it is for can be read from the reply. -/
def Succeeds : Inquiry → Prop
  | ⟨.insert .., reply⟩ | ⟨.countAll _, reply⟩ | ⟨.countUnread _, reply⟩ => ∃ k, reply.Counts k
  | ⟨.selectOne _, reply⟩ => ∃ n, reply.Shows n
  | ⟨.selectPage .., reply⟩ => ∃ notifications, reply.Lists notifications
  | ⟨.markRead _, reply⟩ | ⟨.markAllRead _, reply⟩ | ⟨.delete _, reply⟩ => ∃ k, reply.Touches k

/-- **A query misses its row**: it wants one and gets none. A query that inserts misses nothing,
for its row was not there before. -/
def Misses : Inquiry → Prop
  | ⟨.selectOne _, reply⟩ | ⟨.countAll _, reply⟩ | ⟨.countUnread _, reply⟩ => reply.Brings []
  | _ => False

/-- **A query idles** if it is about one notification and touches no row. -/
def Idles : Inquiry → Prop
  | ⟨.markRead _, reply⟩ | ⟨.delete _, reply⟩ => reply.Touches 0
  | _ => False

end Inquiry

/-- **The queries that a request sends**, each with its reply. The length of a feed is asked for
only if its page came back. -/
inductive Sends : Store.Request → List Inquiry → Prop
  | create (draft : Draft) (createdAt : Instant) (reply : Reply)
      (h : ∀ t ∈ draft.createdAt, createdAt = t) :
      Sends (.create draft) [⟨.insert draft.userId draft.kind createdAt draft.payload, reply⟩]
  | find (id : Int) (reply : Reply) : Sends (.find id) [⟨.selectOne id, reply⟩]
  | noPage (userId limit offset : Int) (reply : Reply)
      (h : ¬ Inquiry.Succeeds ⟨.selectPage userId limit offset, reply⟩) :
      Sends (.page userId limit offset) [⟨.selectPage userId limit offset, reply⟩]
  | page (userId limit offset : Int) (page count : Reply)
      (h : Inquiry.Succeeds ⟨.selectPage userId limit offset, page⟩) :
      Sends (.page userId limit offset)
        [⟨.selectPage userId limit offset, page⟩, ⟨.countAll userId, count⟩]
  | markRead (id : Int) (reply : Reply) : Sends (.markRead id) [⟨.markRead id, reply⟩]
  | markAllRead (userId : Int) (reply : Reply) :
      Sends (.markAllRead userId) [⟨.markAllRead userId, reply⟩]
  | delete (id : Int) (reply : Reply) : Sends (.delete id) [⟨.delete id, reply⟩]
  | countUnread (userId : Int) (reply : Reply) :
      Sends (.countUnread userId) [⟨.countUnread userId, reply⟩]

/-- **What replies give to a request**: all of its answer. -/
def Gives : (request : Store.Request) → request.Answer → List Reply → Prop
  | .create _, id, [reply] => reply.Counts id
  | .find _, n, [reply] => reply.Shows n
  | .page .., feed, [page, count] => page.Lists feed.notifications ∧ count.Counts feed.total
  | .markRead _, _, [reply] | .delete _, _, [reply] => ∃ k, reply.Touches (k + 1)
  | .markAllRead _, k, [reply] => reply.Touches k
  | .countUnread _, k, [reply] => reply.Counts k
  | _, _, _ => False

/-! ## What is recorded -/

/-- Whether a call is one to the database or to the metrics: the clocks are read and the journal is
kept beside the work. -/
def Call.isCollaborator : Call → Bool
  | execute _ | observe _ => true
  | readClock | readStopwatch | note _ => false

/-- A call of the keeper and what it was answered. -/
abbrev Call.Exchange := NotificationFeed.Exchange surroundings

/-- The query of an exchange, if it is one. -/
def inquiry? : Call.Exchange → Option Inquiry
  | ⟨.execute (.query query), reply⟩ => some ⟨query, reply⟩
  | _ => none

/-- The queries among exchanges, each with its reply. -/
def inquiries (past : List Call.Exchange) : List Inquiry := past.filterMap inquiry?

/-- The calls to collaborators among exchanges. -/
def calls (past : List Call.Exchange) : List Call :=
  (past.map (·.call)).filter (·.isCollaborator)

/-- **Calls report queries**: each query is sent, then counted as a success or not, and then timed,
under its own name. -/
inductive Reports : List Call → List Inquiry → Prop
  | nil : Reports [] []
  | snoc {calls : List Call} {inquiries : List Inquiry} (h : Reports calls inquiries) (x : Inquiry)
      (success : Bool) (hsuccess : success = true ↔ x.Succeeds) (elapsed : Span) :
      Reports (calls ++ [.execute (.query x.query), .observe (.queryCounted x.query.name success),
        .observe (.queryTimed x.query.name elapsed)]) (inquiries ++ [x])

/-! ## One query -/

/-- **How a query is read**: what is read is what the reply holds, the query succeeds if there is
such a thing, and it misses its row for want of a row. -/
structure Reads (query : Query) (read : Reply → Except QueryFailure α)
    (Holds : Reply → α → Prop) : Prop where
  holds : ∀ {reply a}, read reply = .ok a ↔ Holds reply a
  succeeds : ∀ {reply}, Inquiry.Succeeds ⟨query, reply⟩ ↔ ∃ a, Holds reply a
  misses : ∀ {reply}, read reply = .error .noRow ∧ query.blame .noRow = .notificationNotFound ↔
    Inquiry.Misses ⟨query, reply⟩

theorem reads_insert (userId : Int) (kind : String) (createdAt : Instant) (payload : Bytes) :
    Reads (.insert userId kind createdAt payload) Reply.number Reply.Counts where
  holds := Reply.number_eq_ok
  succeeds := .rfl
  misses := ⟨nofun, nofun⟩

/-- A query that counts what is there wants one row. -/
theorem reads_count {query : Query}
    (hsucceeds : ∀ {reply}, Inquiry.Succeeds ⟨query, reply⟩ ↔ ∃ k, reply.Counts k)
    (hmisses : ∀ {reply}, Inquiry.Misses ⟨query, reply⟩ ↔ reply.Brings [])
    (hblame : query.blame .noRow = .notificationNotFound) :
    Reads query Reply.number Reply.Counts where
  holds := Reply.number_eq_ok
  succeeds := hsucceeds
  misses := (and_iff_left hblame).trans (Reply.number_eq_noRow.trans hmisses.symm)

theorem reads_selectOne (id : Int) : Reads (.selectOne id) Reply.notification Reply.Shows where
  holds := Reply.notification_eq_ok
  succeeds := .rfl
  misses := (and_iff_left rfl).trans Reply.notification_eq_noRow

theorem reads_selectPage (userId limit offset : Int) :
    Reads (.selectPage userId limit offset) Reply.notifications Reply.Lists where
  holds := Reply.notifications_eq_ok
  succeeds := .rfl
  misses := ⟨fun h => Reply.notifications_ne_noRow h.1, nofun⟩

/-- A query that touches rows wants none back. -/
theorem reads_touch {query : Query}
    (hsucceeds : ∀ {reply}, Inquiry.Succeeds ⟨query, reply⟩ ↔ ∃ k, reply.Touches k)
    (hmisses : ∀ {reply}, ¬ Inquiry.Misses ⟨query, reply⟩) :
    Reads query Reply.affected Reply.Touches where
  holds := Reply.affected_eq_ok
  succeeds := hsucceeds
  misses := ⟨fun h => absurd h.1 Reply.affected_ne_noRow, fun h => absurd h hmisses⟩

/-- **What a query comes to.** What a reply holds is handed on. Otherwise there is no such
notification if the query missed its row, and the database is to blame if it did not. -/
def Settles (query : Query) (Holds : Reply → α → Prop) (reply : Reply) :
    Except StoreFailure α → Prop
  | .ok a => Holds reply a
  | .error .notificationNotFound => Inquiry.Misses ⟨query, reply⟩
  | .error .databaseQuery => ¬ Inquiry.Succeeds ⟨query, reply⟩ ∧ ¬ Inquiry.Misses ⟨query, reply⟩

variable {query : Query} {read : Reply → Except QueryFailure α} {Holds : Reply → α → Prop}

theorem Reads.settles (h : Reads query read Holds) (reply : Reply) :
    Settles query Holds reply ((read reply).mapError query.blame) := by
  cases hread : read reply with
  | ok a => exact h.holds.1 hread
  | error failure =>
    have hfails : ¬ Inquiry.Succeeds ⟨query, reply⟩ := by
      intro hsucceeds
      obtain ⟨a, ha⟩ := h.succeeds.1 hsucceeds
      rw [h.holds.2 ha] at hread
      cases hread
    show Settles query Holds reply (.error (query.blame failure))
    cases hblame : query.blame failure with
    | notificationNotFound =>
      cases failure with
      | noRow => exact h.misses.1 ⟨hread, hblame⟩
      | _ => cases hblame
    | databaseQuery =>
      refine ⟨hfails, fun hmisses => ?_⟩
      obtain ⟨hnone, hmissing⟩ := h.misses.2 hmisses
      obtain rfl := Except.error.inj (hread.symm.trans hnone)
      rw [hmissing] at hblame
      cases hblame

theorem Reads.succeeded_iff (h : Reads query read Holds) (reply : Reply) :
    succeeded (read reply) = true ↔ Inquiry.Succeeds ⟨query, reply⟩ := by
  rw [h.succeeds]
  cases hread : read reply with
  | ok a => exact ⟨fun _ => ⟨a, h.holds.1 hread⟩, fun _ => rfl⟩
  | error failure =>
    refine ⟨nofun, fun ⟨a, ha⟩ => ?_⟩
    rw [h.holds.2 ha] at hread
    cases hread

/-- **All that was sent was reported**, and nothing else was. -/
def Reported (past : List Call.Exchange) : Prop := Reports (calls past) (inquiries past)

/-- **One query more**: it was reported, and the answer is what it comes to. -/
def Asked (query : Query) (Holds : Reply → α → Prop) (past : List Call.Exchange)
    (answer : Except StoreFailure α) (later : List Call.Exchange) : Prop :=
  Reported later ∧ ∃ reply, inquiries later = inquiries past ++ [⟨query, reply⟩] ∧
    Settles query Holds reply answer

variable {past later : List Call.Exchange}

theorem inquiries_append : inquiries (past ++ later) = inquiries past ++ inquiries later :=
  List.filterMap_append

theorem calls_append : calls (past ++ later) = calls past ++ calls later := by
  rw [calls, List.map_append, List.filter_append]
  rfl

/-- **What is read is reported**: it is counted as a success or not, and then timed. A failure may
leave an entry in the journal too. -/
theorem obeys_finish (query : Query) (started : Span) (found : Except QueryFailure α)
    (past : List Call.Exchange) :
    (finish query started found).Obeys (fun _ _ => True)
      (fun answer later => answer = found.mapError query.blame ∧ ∃ elapsed,
        inquiries later = inquiries past ∧ calls later = calls past ++
          [.observe (.queryCounted query.name (succeeded found)),
            .observe (.queryTimed query.name elapsed)]) past := by
  refine ⟨trivial, fun _ => ⟨trivial, fun ended => ⟨trivial, fun _ => ?_⟩⟩⟩
  have hreported : ∀ block, inquiries block = [] → calls block =
      [.observe (.queryCounted query.name (succeeded found)),
        .observe (.queryTimed query.name (ended - started))] →
      inquiries (past ++ block) = inquiries past ∧ calls (past ++ block) = calls past ++
        [.observe (.queryCounted query.name (succeeded found)),
          .observe (.queryTimed query.name (ended - started))] := by
    intro block hinquiries hcalls
    rw [inquiries_append, calls_append, hinquiries, hcalls, List.append_nil]
    exact ⟨rfl, rfl⟩
  simp only [List.append_assoc]
  cases found with
  | ok a => exact ⟨rfl, _, hreported _ rfl rfl⟩
  | error failure =>
    simp only
    split
    · refine ⟨trivial, fun _ => ⟨rfl, ended - started, ?_⟩⟩
      rw [List.append_assoc]
      exact hreported _ rfl rfl
    · exact ⟨rfl, _, hreported _ rfl rfl⟩

/-- **A query is sent, reported and read**, whatever is replied. -/
theorem Reads.obeys_ask (h : Reads query read Holds) (hpast : Reported past) :
    (ask query read).Obeys (fun _ _ => True) (Asked query Holds past) past := by
  refine ⟨trivial, fun started => ⟨trivial, fun reply => ?_⟩⟩
  refine (obeys_finish query started (read reply) _).mono ?_
  rintro answer later ⟨rfl, elapsed, hinquiries, hcalls⟩
  have hsent : inquiries later = inquiries past ++ [⟨query, reply⟩] := by
    rw [hinquiries, List.append_assoc, inquiries_append]
    rfl
  refine ⟨?_, reply, hsent, h.settles reply⟩
  rw [Reported, hsent, hcalls, List.append_assoc, calls_append, List.append_assoc]
  exact hpast.snoc ⟨query, reply⟩ _ (h.succeeded_iff reply) elapsed

/-! ## One request -/

theorem Reply.Brings.unique {reply : Reply} {rows rows' : List Row} (h : reply.Brings rows)
    (h' : reply.Brings rows') : rows = rows' := by
  cases h <;> cases h' <;> rfl

theorem Reply.Touches.unique {reply : Reply} {k k' : Nat} (h : reply.Touches k)
    (h' : reply.Touches k') : k = k' := by
  cases h <;> cases h' <;> rfl

/-- **A query that misses its row fails.** -/
theorem Inquiry.Misses.not_succeeds {x : Inquiry} (h : x.Misses) : ¬ x.Succeeds := by
  obtain ⟨query, reply⟩ := x
  cases query with
  | selectOne id =>
    rintro ⟨n, row, rows, hrows, -⟩
    exact List.cons_ne_nil _ _ (hrows.unique h)
  | countAll userId | countUnread userId =>
    rintro ⟨k, column, rest, rows, hrows⟩
    exact List.cons_ne_nil _ _ (hrows.unique h)
  | _ => exact h.elim

/-- **A query that idles succeeds**: it was answered that there is nothing to touch. -/
theorem Inquiry.Idles.succeeds {x : Inquiry} (h : x.Idles) : x.Succeeds := by
  obtain ⟨query, reply⟩ := x
  cases query with
  | markRead id | delete id => exact ⟨0, h⟩
  | _ => exact h.elim

theorem Settles.not_succeeds {reply : Reply} {failure : StoreFailure}
    (h : Settles query Holds reply (.error failure)) : ¬ Inquiry.Succeeds ⟨query, reply⟩ := by
  cases failure with
  | notificationNotFound => exact Inquiry.Misses.not_succeeds h
  | databaseQuery => exact h.1

section

variable {reply : Reply} {answer : Except StoreFailure α} (h : Reads query read Holds)
  (hsettles : Settles query Holds reply answer)
include h hsettles

/-- There is no such notification if the query missed its row. -/
theorem Reads.notFound_iff :
    answer = .error .notificationNotFound ↔ Inquiry.Misses ⟨query, reply⟩ := by
  cases answer with
  | ok a => exact ⟨nofun, fun hmisses => absurd (h.succeeds.2 ⟨a, hsettles⟩) hmisses.not_succeeds⟩
  | error failure =>
    cases failure with
    | notificationNotFound => exact ⟨fun _ => hsettles, fun _ => rfl⟩
    | databaseQuery => exact ⟨nofun, fun hmisses => absurd hmisses hsettles.2⟩

/-- The database is to blame for every other failure. -/
theorem Reads.failed_iff : answer = .error .databaseQuery ↔
    ¬ Inquiry.Succeeds ⟨query, reply⟩ ∧ ¬ Inquiry.Misses ⟨query, reply⟩ := by
  cases answer with
  | ok a => exact ⟨nofun, fun hfails => absurd (h.succeeds.2 ⟨a, hsettles⟩) hfails.1⟩
  | error failure =>
    cases failure with
    | notificationNotFound => exact ⟨nofun, fun hfails => absurd hsettles hfails.2⟩
    | databaseQuery => exact ⟨fun _ => hsettles, fun _ => rfl⟩

end

/-- **What a request was answered**, once its queries were sent and read. -/
structure Answered (request : Store.Request) (answer : request.Reply)
    (past : List Call.Exchange) : Prop where
  reported : Reported past
  sends : Sends request (inquiries past)
  notFound : answer = .error .notificationNotFound ↔ ∃ x ∈ inquiries past, x.Misses ∨ x.Idles
  failed : answer = .error .databaseQuery ↔ ∃ x ∈ inquiries past, ¬ x.Succeeds ∧ ¬ x.Misses
  gives : ∀ a, answer = .ok a → Gives request a ((inquiries past).map (·.reply))

/-- A request of one query. -/
theorem Answered.of_one {request : Store.Request} {answer : request.Reply} {x : Inquiry}
    (hreported : Reported later) (hinquiries : inquiries later = [x]) (hsends : Sends request [x])
    (hnotFound : answer = .error .notificationNotFound ↔ x.Misses ∨ x.Idles)
    (hfailed : answer = .error .databaseQuery ↔ ¬ x.Succeeds ∧ ¬ x.Misses)
    (hgives : ∀ a, answer = .ok a → Gives request a [x.reply]) : Answered request answer later where
  reported := hreported
  sends := by rwa [hinquiries]
  notFound := by simpa [hinquiries] using hnotFound
  failed := by simpa [hinquiries] using hfailed
  gives := by simpa [hinquiries] using hgives

/-- A request that hands on what its one query comes to. -/
theorem Reads.answered {request : Store.Request} {read : Reply → Except QueryFailure request.Answer}
    {Holds : Reply → request.Answer → Prop} {answer : request.Reply}
    (h : Reads query read Holds) (hsends : ∀ reply, Sends request [⟨query, reply⟩])
    (hidles : ∀ reply, ¬ Inquiry.Idles ⟨query, reply⟩)
    (hgives : ∀ reply a, Holds reply a → Gives request a [reply])
    (hpast : inquiries past = []) (hasked : Asked query Holds past answer later) :
    Answered request answer later := by
  obtain ⟨hreported, reply, hinquiries, hsettles⟩ := hasked
  rw [hpast, List.nil_append] at hinquiries
  refine .of_one hreported hinquiries (hsends reply) ?_ (h.failed_iff hsettles) ?_
  · exact (h.notFound_iff hsettles).trans (or_iff_left (hidles reply)).symm
  · rintro a rfl
    exact hgives reply a hsettles

/-- **A query that has to touch a row**: that it touched none is seen from its answer. -/
theorem Reads.touchedOne_iff {reply : Reply} {answer : Except StoreFailure Nat}
    (h : Reads query Reply.affected Reply.Touches)
    (hsettles : Settles query Reply.Touches reply answer)
    (hidles : Inquiry.Idles ⟨query, reply⟩ ↔ reply.Touches 0) :
    (touchedOne answer = .error .notificationNotFound ↔
        Inquiry.Misses ⟨query, reply⟩ ∨ Inquiry.Idles ⟨query, reply⟩) ∧
      (touchedOne answer = .error .databaseQuery ↔
        ¬ Inquiry.Succeeds ⟨query, reply⟩ ∧ ¬ Inquiry.Misses ⟨query, reply⟩) ∧
      (touchedOne answer = .ok () → ∃ k, reply.Touches (k + 1)) := by
  have hnotFound := h.notFound_iff hsettles
  have hfailed := h.failed_iff hsettles
  cases answer with
  | ok k =>
    have htouches : reply.Touches k := hsettles
    cases k with
    | zero =>
      have hidle := hidles.2 htouches
      exact ⟨⟨fun _ => .inr hidle, fun _ => rfl⟩,
        ⟨nofun, fun hfails => absurd hidle.succeeds hfails.1⟩, nofun⟩
    | succ k =>
      refine ⟨⟨nofun, ?_⟩, ⟨nofun, fun h => nomatch hfailed.2 h⟩, fun _ => ⟨k, htouches⟩⟩
      rintro (hmisses | hidle)
      · cases hnotFound.2 hmisses
      · cases htouches.unique (hidles.1 hidle)
  | error failure =>
    have hidle : ¬ Inquiry.Idles ⟨query, reply⟩ := fun hidle => hsettles.not_succeeds hidle.succeeds
    refine ⟨?_, ?_, nofun⟩
    · simpa [touchedOne, hidle] using hnotFound
    · simpa [touchedOne] using hfailed

/-! ## Every request -/

/-- **Every request keeps to its account**, whatever the database replies. -/
theorem obeys_perform (request : Store.Request) :
    (perform request).Obeys (fun _ _ => True) (Answered request) [] := by
  have hnone : Reported [] := .nil
  cases request with
  | create draft =>
    have hask : ∀ (createdAt : Instant) (past : List Call.Exchange),
        (∀ t ∈ draft.createdAt, createdAt = t) → Reported past → inquiries past = [] →
        (ask (.insert draft.userId draft.kind createdAt draft.payload) Reply.number).Obeys
          (fun _ _ => True) (Answered (.create draft)) past := by
      intro createdAt past hcreated hreported hpast
      have hreads := reads_insert draft.userId draft.kind createdAt draft.payload
      refine (hreads.obeys_ask hreported).mono fun answer later hasked => ?_
      exact hreads.answered (fun reply => .create draft createdAt reply hcreated)
        (fun _ h => h) (fun _ _ h => h) hpast hasked
    rw [perform]
    cases hcreated : draft.createdAt with
    | some t => exact hask t [] (by simp [hcreated]) hnone rfl
    | none => exact ⟨trivial, fun now => hask now _ (by simp [hcreated]) hnone rfl⟩
  | find id =>
    have hreads := reads_selectOne id
    refine (hreads.obeys_ask hnone).mono fun answer later hasked => ?_
    exact hreads.answered (.find id) (fun _ h => h) (fun _ _ h => h) rfl hasked
  | page userId limit offset =>
    have hpage := reads_selectPage userId limit offset
    have hcount : Reads (.countAll userId) _ _ := reads_count .rfl .rfl rfl
    refine (hpage.obeys_ask hnone).bind fun listed later hlisted => ?_
    obtain ⟨hreported, page, hinquiries, hsettles⟩ := hlisted
    have hidles : ¬ Inquiry.Idles ⟨.selectPage userId limit offset, page⟩ := fun h => h
    cases listed with
    | error failure =>
      refine .of_one hreported hinquiries (.noPage userId limit offset page hsettles.not_succeeds)
        ?_ ?_ nofun
      · simpa [hidles] using hpage.notFound_iff hsettles
      · simpa using hpage.failed_iff hsettles
    | ok notifications =>
      -- The page came back, so the length of the feed is asked for and decides what is answered.
      have hsucceeds := hpage.succeeds.2 ⟨notifications, hsettles⟩
      have hmisses : ¬ Inquiry.Misses ⟨.selectPage userId limit offset, page⟩ := fun h => h
      refine (hcount.obeys_ask hreported).bind fun total last hcounted => ?_
      obtain ⟨hreported, count, hboth, hsettled⟩ := hcounted
      have hidles' : ¬ Inquiry.Idles ⟨.countAll userId, count⟩ := fun h => h
      have hnotFound := hcount.notFound_iff hsettled
      have hfailed := hcount.failed_iff hsettled
      obtain hinquiries : inquiries last = [⟨.selectPage userId limit offset, page⟩,
          ⟨.countAll userId, count⟩] := hboth.trans (congrArg (· ++ _) hinquiries)
      constructor
      · exact hreported
      · rw [hinquiries]
        exact .page userId limit offset page count hsucceeds
      · cases total <;> simpa [hinquiries, hmisses, hidles, hidles', Except.map] using hnotFound
      · cases total <;> simpa [hinquiries, hsucceeds, Except.map] using hfailed
      · rw [hinquiries]
        cases total with
        | error failure => exact nofun
        | ok total =>
          intro feed hfeed
          obtain rfl := Except.ok.inj hfeed
          exact ⟨hsettles, hsettled⟩
  | markRead id =>
    have hreads : Reads (.markRead id) _ _ := reads_touch .rfl fun h => h
    refine (hreads.obeys_ask hnone).bind fun answer later hasked => ?_
    obtain ⟨hreported, reply, hinquiries, hsettles⟩ := hasked
    obtain ⟨hnotFound, hfailed, htouched⟩ := hreads.touchedOne_iff hsettles .rfl
    exact .of_one hreported hinquiries (.markRead id reply) hnotFound hfailed fun _ => htouched
  | markAllRead userId =>
    have hreads : Reads (.markAllRead userId) _ _ := reads_touch .rfl fun h => h
    refine (hreads.obeys_ask hnone).mono fun answer later hasked => ?_
    exact hreads.answered (.markAllRead userId) (fun _ h => h) (fun _ _ h => h) rfl hasked
  | delete id =>
    have hreads : Reads (.delete id) _ _ := reads_touch .rfl fun h => h
    refine (hreads.obeys_ask hnone).bind fun answer later hasked => ?_
    obtain ⟨hreported, reply, hinquiries, hsettles⟩ := hasked
    obtain ⟨hnotFound, hfailed, htouched⟩ := hreads.touchedOne_iff hsettles .rfl
    exact .of_one hreported hinquiries (.delete id reply) hnotFound hfailed fun _ => htouched
  | countUnread userId =>
    have hreads : Reads (.countUnread userId) _ _ := reads_count .rfl .rfl rfl
    refine (hreads.obeys_ask hnone).mono fun answer later hasked => ?_
    exact hreads.answered (.countUnread userId) (fun _ h => h) (fun _ _ h => h) rfl hasked

end Database

end NotificationFeed
