import NotificationFeed.Proofs.Rpc.Abreast
/-!
# Remote requests — what is kept inside

When the directory of users fails for a reason of its own, the reason is
written into the journal and goes no further. Two scenes of the same requests,
whose directories give other such reasons, differ in their journals alone. To
show it the two are run side by side (`veil`): a lookup may end in one internal
failure here and in another there (`Directory.Alike`), an entry of the journal
may read differently, and every other call is the same and is answered the
same. A handler stays beside itself so (`Rpc.handle_discreet`), and with it
whole scenes do (`errors_stay_inside`).
-/

namespace NotificationFeed

/-! ## Failures kept inside -/

/-- A failure inside: what failed and how is not for the caller. -/
def Failure.Internal : Failure → Prop
  | databaseQuery | externalService _ | unexpected _ => True
  | validation _ | invalidInput _ | userNotFound | notificationNotFound => False

theorem Failure.Internal.status_eq {failure : Failure} (h : failure.Internal) :
    failure.status = ⟨.internal, "internal service error"⟩ := by
  cases failure <;> first | rfl | exact h.elim

namespace Directory

/-- Two answers of a directory that are one, or two internal failures. -/
inductive AnswersAlike : Except Failure User → Except Failure User → Prop
  | same (answer : Except Failure User) : AnswersAlike answer answer
  | internal {failure failure' : Failure} (h : failure.Internal) (h' : failure'.Internal) :
      AnswersAlike (.error failure) (.error failure')

/-- **Two directories that fail for the same users**, and differ in nothing but in which internal
failure that is and in its text. -/
def Alike (directory directory' : Directory) : Prop :=
  ∀ id, AnswersAlike (directory.lookUp id) (directory'.lookUp id)

end Directory

/-! ## Side by side -/

namespace Service

/-- A lookup of a user. -/
def Call.isLookup : Call → Bool
  | findUser _ => true
  | _ => false

/-- Where two runs may differ: in what a lookup ends in, and in an entry of the journal. -/
inductive Veiled where
  | lookup (id : Int)
  | entries (entry entry' : Entry)

/-- **Side by side but for internal failures and the journal.** -/
def veil : Pairing surroundings where
  Plain c := c.isLookup = false
  Link := Veiled
  left
    | .lookup id => .findUser id
    | .entries entry _ => .note entry
  right
    | .lookup id => .findUser id
    | .entries _ entry' => .note entry'
  Replies
    | .lookup _, answer, answer' => Directory.AnswersAlike answer answer'
    | .entries .., _, _ => True

/-- Two failures of which a caller is told the same. -/
def ToldAlike (failure failure' : Failure) : Prop := failure.status = failure'.status

theorem ToldAlike.refl (failure : Failure) : ToldAlike failure failure := rfl

/-- **An operation keeps internal failures inside**: beside itself it ends in the same, or in
failures of which a caller is told the same. -/
def Discreet {α : Type} (x : Operation α) : Prop :=
  Program.Pairs veil (Outcomes ToldAlike Eq) x.run x.run

variable {α β : Type}

theorem Discreet.bind {x : Operation α} {f : α → Operation β} (hx : Discreet x)
    (hf : ∀ a, Discreet (f a)) : Discreet (x >>= f) :=
  hx.run_bind fun a _ h => h ▸ hf a

theorem findUser_discreet (id : Int) : Discreet (findUser id) := by
  refine .linked (P := veil) (Veiled.lookup id) fun answer answer' halike => .done ?_
  cases halike with
  | same answer => exact Outcomes.refl ToldAlike.refl (fun _ => rfl) answer
  | internal h h' => exact .error (h.status_eq.trans h'.status_eq.symm)

/-- A call beside the work is no lookup. -/
theorem veil_plain_of_isAside (c : Call) (h : c.isAside = true) : veil.Plain c := by
  cases c with
  | findUser id => cases h
  | _ => rfl

theorem save_discreet (draft : Draft) : Discreet (save draft) :=
  save_pairs veil_plain_of_isAside rfl ToldAlike.refl (findUser_discreet draft.userId)
    fun _ => ask_pairs rfl ToldAlike.refl

theorem inquiry_discreet {name start : String} {fields : List (String × String)} {subject : Int}
    {reason : String} {request : Store.Request}
    {finish : request.Answer → String × List (String × String)} {view : request.Answer → α} :
    Discreet (inquiry name start fields subject reason request finish view) :=
  inquiry_pairs veil_plain_of_isAside ToldAlike.refl (ask_pairs rfl ToldAlike.refl)
    fun _ _ h => ⟨congrArg finish h, congrArg view h⟩

theorem Request.serve_discreet (r : Request) : Discreet r.serve := by
  cases r with
  | save draft => exact save_discreet draft
  | details id =>
    rw [serve, details_eq_inquiry]
    exact inquiry_discreet
  | feed userId limit page =>
    rw [serve, feed_eq_inquiry]
    exact inquiry_discreet
  | read id =>
    rw [serve, read_eq_inquiry]
    exact inquiry_discreet
  | readAll userId =>
    rw [serve, readAll_eq_inquiry]
    exact inquiry_discreet
  | remove id =>
    rw [serve, remove_eq_inquiry]
    exact inquiry_discreet
  | unread userId =>
    rw [serve, unread_eq_inquiry]
    exact inquiry_discreet

end Service

namespace Rpc

open Service (veil Discreet)

/-- The reason is written into the journal, and only the status goes on. -/
theorem refuse_discreet {failure failure' : Failure} (h : Service.ToldAlike failure failure') :
    Program.Pairs veil Eq (refuse failure) (refuse failure') :=
  .linked (P := veil) (Service.Veiled.entries _ _) fun _ _ _ => .done h

/-- **A handler keeps internal failures inside.** -/
theorem handle_discreet (r : Request) : Program.Pairs veil Eq (handle r) (handle r) := by
  have hperform : Discreet r.perform := by
    unfold Request.perform
    cases r.check with
    | error failure => exact .done (.error rfl)
    | ok _ =>
      show Discreet r.serve
      rw [Request.serve_eq_view, map_eq_pure_bind]
      exact r.operation.serve_discreet.bind fun _ => .done (.ok rfl)
  exact (observed_pairs Service.veil_plain_of_isAside r.method (fun _ _ => refuse_discreet)
    hperform).mono fun _ _ h => h.eq

end Rpc

/-! ## Worlds and scenes -/

/-- **Two worlds that differ in what their directories fail with inside, and in their journals.** -/
structure World.Veiled (w v : World) : Prop where
  store : w.store = v.store
  registry : w.registry = v.registry
  clock : w.clock = v.clock
  readings : w.readings = v.readings
  stopwatch : w.stopwatch = v.stopwatch
  disturbance : w.disturbance = v.disturbance
  directory : w.directory.Alike v.directory
  calls : w.calls = v.calls

namespace World.Veiled

variable {w v : World}

/-- One more call is recorded in both. -/
theorem calls_record {past past' : List Service.Call}
    (h : ({ past } : World).calls = ({ past := past' } : World).calls) (c : Service.Call) :
    ({ past := c :: past } : World).calls = ({ past := c :: past' } : World).calls := by
  simp only [World.calls, World.trace, List.reverse_cons, List.filter_append] at h ⊢
  rw [h]

/-- **Two such worlds answer side by side.** -/
theorem answered : Service.veil.Answered World.Veiled World.answer World.answer where
  same {c} hc {w v} h := by
    obtain ⟨hstore, hregistry, hclock, hreadings, hstopwatch, hdisturbance, hdirectory, hcalls⟩ := h
    cases w
    cases v
    simp only at hstore hregistry hclock hreadings hstopwatch hdisturbance hdirectory
    subst hstore hregistry hclock hreadings hstopwatch hdisturbance
    have hrecorded := calls_record hcalls c
    cases c with
    | findUser id => cases hc
    | store request =>
      simp only [World.answer, World.record, World.elapse]
      split
      · exact ⟨.ok rfl, ⟨rfl, rfl, rfl, rfl, rfl, rfl, hdirectory, hrecorded⟩⟩
      · exact ⟨.error rfl, ⟨rfl, rfl, rfl, rfl, rfl, rfl, hdirectory, hrecorded⟩⟩
      · unfold World.perform
        split <;> exact ⟨.ok rfl, ⟨rfl, rfl, rfl, rfl, rfl, rfl, hdirectory, hrecorded⟩⟩
    | _ => exact ⟨.ok rfl, ⟨rfl, rfl, rfl, rfl, rfl, rfl, hdirectory, hrecorded⟩⟩
  linked l {w v} h := by
    obtain ⟨hstore, hregistry, hclock, hreadings, hstopwatch, hdisturbance, hdirectory, hcalls⟩ := h
    cases l with
    | lookup id =>
      exact ⟨.ok (hdirectory id), hstore, hregistry, hclock, hreadings, hstopwatch, hdisturbance,
        hdirectory, calls_record hcalls (.findUser id)⟩
    | entries entry entry' =>
      refine ⟨.ok trivial, hstore, hregistry, hclock, hreadings, hstopwatch, hdisturbance,
        hdirectory, ?_⟩
      -- No entry of the journal is a call to a collaborator.
      show (Service.Call.note entry :: w.past).reverse.filter (·.isCollaborator) =
        (Service.Call.note entry' :: v.past).reverse.filter (·.isCollaborator)
      rw [List.reverse_cons, List.reverse_cons, List.filter_append, List.filter_append]
      exact congrArg (· ++ []) hcalls

end World.Veiled

/-- **The same happens twice**: requests are begun, and errands take their turns, under one
disturbance and before directories that fail for the same users. -/
inductive Happening.Alike : Happening → Happening → Prop
  | begins (r : Rpc.Request) : Alike (.begins (.remote r)) (.begins (.remote r))
  | calls (who : Nat) {directory directory' : Directory} (disturbance : Disturbance)
      (h : directory.Alike directory') :
      Alike (.calls who directory disturbance) (.calls who directory' disturbance)

/-- Two errands with one command that are side by side. -/
inductive Errand.Veiled : Errand → Errand → Prop
  | mk {c : Command} {heard heard' : List Service.Exchange}
      {rest rest' : Thread Service.surroundings (Except c.Refusal c.Answer)}
      (h : Outcomes Eq (Program.Pairs Service.veil Eq) rest rest') :
      Veiled ⟨c, heard, rest⟩ ⟨c, heard', rest'⟩

/-- Two errands with one command that have been answered the same, or both not yet. -/
inductive Errand.AnsweredAlike : Errand → Errand → Prop
  | mk {c : Command} {heard heard' : List Service.Exchange}
      {rest rest' : Thread Service.surroundings (Except c.Refusal c.Answer)}
      (h : rest.result? = rest'.result?) : AnsweredAlike ⟨c, heard, rest⟩ ⟨c, heard', rest'⟩

theorem Errand.Veiled.answeredAlike {e e' : Errand} (h : e.Veiled e') : e.AnsweredAlike e' := by
  cases h with
  | mk h => exact .mk (Program.Pairs.result?_eq h)

/-- **Two errands side by side stay so**, and so do the worlds they leave. -/
theorem Errand.Veiled.step {e e' : Errand} (h : e.Veiled e') {w v : World} (hw : w.Veiled v) :
    (e.step w).1.Veiled (e'.step v).1 ∧ (e.step w).2.Veiled (e'.step v).2 := by
  cases h with
  | mk h =>
    obtain ⟨hrest, hworld⟩ := Program.Pairs.step World.Veiled.answered h hw
    exact ⟨.mk hrest, hworld⟩

namespace Scene

/-- **Two scenes side by side.** -/
structure Veiled (s s' : Scene) : Prop where
  world : s.world.Veiled s'.world
  errands : List.Forall₂ Errand.Veiled s.errands s'.errands

/-- What happens in both alike keeps them side by side. -/
theorem abreast_alike {s s' : Scene} (h : Abreast World.Veiled Errand.Veiled s s')
    {x x' : Happening} (hx : x.Alike x') :
    Abreast World.Veiled Errand.Veiled (s.step x) (s'.step x') := by
  cases hx with
  | begins r => exact h.begins (.mk (.ok (Rpc.handle_discreet r)))
  | @calls who directory directory' disturbance hdirectory =>
    refine h.calls (fun he hw => he.step hw) ?_ who
    exact ⟨h.world.store, h.world.registry, h.world.clock, h.world.readings, h.world.stopwatch, rfl,
      hdirectory, h.world.calls⟩

/-- **Scenes side by side stay so**, whatever happens in both alike. -/
theorem Veiled.run {s s' : Scene} (h : s.Veiled s') {xs xs' : List Happening}
    (hxs : List.Forall₂ Happening.Alike xs xs') : (s.run xs).Veiled (s'.run xs') := by
  have hend : Abreast World.Veiled Errand.Veiled (s.run xs) (s'.run xs') :=
    Abreast.run (fun h hx => abreast_alike h hx) ⟨h.world, h.errands⟩ hxs
  exact ⟨hend.world, hend.errands⟩

/-- **Nothing of an internal failure leaves the service.** Where the same remote requests are
begun and take their turns in one order, however they lie between each other, before directories
that fail for the same users and differ only in which internal failure it is and in its text, every
request is answered the same, status and message, the same calls are made to the collaborators and
to the metrics, and the stores are the same in the end. -/
theorem errors_stay_inside (w : World) {xs xs' : List Happening}
    (h : List.Forall₂ Happening.Alike xs xs') :
    List.Forall₂ Errand.AnsweredAlike (run { world := w } xs).errands
        (run { world := w } xs').errands ∧
      (run { world := w } xs).world.calls = (run { world := w } xs').world.calls ∧
      (run { world := w } xs).world.registry = (run { world := w } xs').world.registry ∧
      (run { world := w } xs).world.store = (run { world := w } xs').world.store := by
  have hstart : Veiled { world := w } { world := w } :=
    ⟨⟨rfl, rfl, rfl, rfl, rfl, rfl, fun id => .same _, rfl⟩, .nil⟩
  have hend := hstart.run h
  exact ⟨hend.errands.imp fun _ _ he => he.answeredAlike, hend.world.calls, hend.world.registry,
    hend.world.store⟩

/-- A notification is sent to two users, call by call in turn, and the directory fails for the
first of them. -/
def outage (failure : Failure) : List Happening :=
  .begins (.remote (.send 7 "like" [1])) :: .begins (.remote (.send 8 "like" [2])) ::
    (List.replicate 11 [0, 1]).flatten.map
      (.calls · [(7, .error failure), (8, .ok ⟨8, "a", "a@b"⟩)] {})

theorem errors_stay_inside_outage :
    List.Forall₂ Happening.Alike (outage (.externalService "timed out")) (outage .databaseQuery) ∧
      List.Forall₂ Errand.AnsweredAlike
        (run { world := {} } (outage (.externalService "timed out"))).errands
        (run { world := {} } (outage .databaseQuery)).errands ∧
      (run { world := {} } (outage (.externalService "timed out"))).world.calls =
        (run { world := {} } (outage .databaseQuery)).world.calls ∧
      (run { world := {} } (outage (.externalService "timed out"))).world.journal ≠
        (run { world := {} } (outage .databaseQuery)).world.journal := by
  have hdirectory : Directory.Alike
      [(7, .error (.externalService "timed out")), (8, .ok ⟨8, "a", "a@b"⟩)]
      [(7, .error .databaseQuery), (8, .ok ⟨8, "a", "a@b"⟩)] := by
    intro id
    by_cases hid : 7 = id
    · subst hid
      exact .internal trivial trivial
    · have hskip : ∀ failure, Directory.lookUp
          [(7, .error failure), (8, .ok ⟨8, "a", "a@b"⟩)] id =
            Directory.lookUp [(8, .ok ⟨8, "a", "a@b"⟩)] id := fun failure => by
        simp [Directory.lookUp, List.find?_cons, hid]
      rw [hskip, hskip]
      exact .same _
  have halike : List.Forall₂ Happening.Alike (outage (.externalService "timed out"))
      (outage .databaseQuery) := by
    refine .cons (.begins _) (.cons (.begins _) ?_)
    rw [List.forall₂_map_left_iff, List.forall₂_map_right_iff]
    exact List.forall₂_same.2 fun who _ => .calls who {} hdirectory
  obtain ⟨hanswers, hcalls, -, -⟩ := errors_stay_inside {} halike
  exact ⟨halike, hanswers, hcalls, by decide +kernel⟩

end Scene

end NotificationFeed
