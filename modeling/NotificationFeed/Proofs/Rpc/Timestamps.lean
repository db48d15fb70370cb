import Mathlib.Data.Prod.Lex
import NotificationFeed.Proofs.History.Anew
import NotificationFeed.Proofs.Store.Feed
/-!
# Responses — timestamps and the order a client sees

A timestamp is the seconds rounded down and the nanoseconds past them, so the
nanoseconds are never negative and the two together are the moment, before
1970 too. A wall clock shows a moment as seconds on it and a part of a second;
where it hangs moves the seconds only (`WallTime.timestamp_instant`).

Timestamps compare first by the seconds and then by the nanoseconds, and this
is how moments compare (`Timestamp.key_lt_key`). The keeper sorts a feed by
moments and identifiers, so what it replies descends for a client who has
nothing but timestamps and identifiers. That is followed through any scene: a
page is replied by a well-numbered store, and a response shows a page that its
errand was replied (`Errand.PagesDescend`).
-/

namespace NotificationFeed

/-! ## Timestamps -/

namespace Instant

theorem subsecond_nonneg (t : Instant) : 0 ≤ t.subsecond :=
  Int.emod_nonneg _ (by decide)

theorem subsecond_lt (t : Instant) : t.subsecond < nanosPerSecond :=
  Int.emod_lt_of_pos _ (by decide)

/-- **The two parts of a moment make it up.** -/
theorem unixSeconds_add_subsecond (t : Instant) :
    t.unixSeconds * nanosPerSecond + t.subsecond = t.nanos :=
  Int.ediv_mul_add_emod _ _

/-- **And no other two do**, if the second is a part of a second. -/
theorem timestamp_ofUnix {seconds nanos : Int} (hnonneg : 0 ≤ nanos)
    (hlt : nanos < nanosPerSecond) : (ofUnix seconds nanos).timestamp = ⟨seconds, nanos⟩ := by
  have hseconds : (seconds * nanosPerSecond + nanos) / nanosPerSecond = seconds := by
    rw [Int.add_comm, Int.add_mul_ediv_right _ _ (by decide), Int.ediv_eq_zero_of_lt hnonneg hlt,
      Int.zero_add]
  have hnanos : (seconds * nanosPerSecond + nanos) % nanosPerSecond = nanos := by
    rw [Int.add_comm, Int.add_mul_emod_self_right, Int.emod_eq_of_lt hnonneg hlt]
  show Timestamp.mk _ _ = _
  rw [ofUnix, unixSeconds, subsecond, hseconds, hnanos]

/-- Rounding down goes on past the start of 1970: half a second before it is the second before. -/
example : (⟨-500000000⟩ : Instant).timestamp = ⟨-1, 500000000⟩ := by decide

end Instant

/-- The same moment on a clock that is `offset` seconds ahead of UTC. -/
def WallTime.toOffset (t : WallTime) (offset : Int) : WallTime :=
  { t with localSeconds := t.localSeconds - t.offset + offset, offset }

namespace WallTime

theorem instant_toOffset (t : WallTime) (offset : Int) :
    (t.toOffset offset).instant = t.instant := by
  simp only [instant, toOffset, Int.add_sub_cancel]

/-- **A timestamp shows the seconds of a wall clock in UTC and its part of a second.** -/
theorem timestamp_instant (t : WallTime) :
    t.instant.timestamp = ⟨t.localSeconds - t.offset, t.nanos⟩ :=
  Instant.timestamp_ofUnix (Int.natCast_nonneg _) (Int.ofNat_lt.2 t.nanos_lt)

end WallTime

namespace Timestamp

/-- What a client compares timestamps by: the seconds, and then the nanoseconds. -/
def key (t : Timestamp) : Int ×ₗ Int := toLex (t.seconds, t.nanos)

/-- **Timestamps compare as the moments they show.** -/
theorem key_lt_key {a b : Instant} : a.timestamp.key < b.timestamp.key ↔ a < b := by
  have ha := a.unixSeconds_add_subsecond
  have hb := b.unixSeconds_add_subsecond
  have ha0 := a.subsecond_nonneg
  have hb0 := b.subsecond_nonneg
  have ha1 := a.subsecond_lt
  have hb1 := b.subsecond_lt
  have hsecond : (nanosPerSecond : Int) = 1000000000 := rfl
  have hmoments : a < b ↔ a.nanos < b.nanos := Iff.rfl
  rw [hsecond] at ha hb ha1 hb1
  rw [key, key, Prod.Lex.toLex_lt_toLex, hmoments]
  show a.unixSeconds < b.unixSeconds ∨
    a.unixSeconds = b.unixSeconds ∧ a.subsecond < b.subsecond ↔ _
  omega

end Timestamp

/-! ## The order of a feed -/

namespace Rpc

/-- What a client can order a feed by: the seconds, the nanoseconds and the identifier. -/
def NotificationView.key (v : NotificationView) : Int ×ₗ Int ×ₗ Int :=
  toLex (v.createdAt.seconds, toLex (v.createdAt.nanos, v.id))

/-- **The newer of two notifications** comes with the greater key. -/
theorem NotificationView.key_lt_of_newer {a b : Notification} (h : a.Newer b) :
    (ofNotification b).key < (ofNotification a).key := by
  rw [key, key, Prod.Lex.toLex_lt_toLex, Prod.Lex.toLex_lt_toLex]
  rcases h with hlater | ⟨hsame, hid⟩
  · have hstamps := Timestamp.key_lt_key.2 hlater
    rw [Timestamp.key, Timestamp.key, Prod.Lex.toLex_lt_toLex] at hstamps
    rcases hstamps with hseconds | ⟨hseconds, hnanos⟩
    · exact .inl hseconds
    · exact .inr ⟨hseconds, .inl hnanos⟩
  · have hstamps : (ofNotification b).createdAt = (ofNotification a).createdAt :=
      congrArg Instant.timestamp hsame
    rw [hstamps]
    exact .inr ⟨rfl, .inr ⟨rfl, hid⟩⟩

/-- **A response to a request for a feed shows a page that was replied** on the way to it. -/
theorem Request.page_of_feed {userId : Int} {limit page : Int32} {part : FeedView}
    {xs : List Service.Exchange}
    (h : (Request.feed userId limit page).core.program.Reaches xs (.done (.ok part))) :
    ∃ feed, (⟨.store (.page userId (Service.Window.ofPage limit page).limit
        (Service.Window.ofPage limit page).offset), .ok feed⟩ : Service.Exchange) ∈ xs ∧
      part = .ofFeed feed := by
  unfold core performCore at h
  cases hcheck : (Request.feed userId limit page).check with
  | error failure =>
    simp only [hcheck] at h
    obtain ⟨-, hdone⟩ := h.of_done
    cases hdone
  | ok _ =>
    simp only [hcheck, operation, Service.Request.core, Service.inquiryCore] at h
    split at h
    · obtain ⟨reply, later, rfl, hend⟩ := h.of_ask
      obtain ⟨rfl, hdone⟩ := hend.of_done
      cases reply with
      | error failure => cases hdone
      | ok feed =>
        refine ⟨feed, List.mem_cons_self, ?_⟩
        exact Except.ok.inj (Program.done.inj hdone)
    · obtain ⟨-, hdone⟩ := h.of_done
      cases hdone

end Rpc

/-! ## Feeds in a scene -/

namespace World

variable {w : World}

/-- **A call keeps the store well numbered**, whatever hits it. -/
theorem answer_wellNumbered (h : w.store.WellNumbered) (c : Service.Call) :
    (answer c w).2.store.WellNumbered := by
  cases c with
  | store request => exact (answer_store_makes request w).wellNumbered h
  | _ => exact h

/-- **A page that is replied descends strictly.** -/
theorem page_newer (h : w.store.WellNumbered) {userId limit offset : Int} {feed : Feed}
    (hreply : (answer (.store (.page userId limit offset)) w).1 = .ok (.ok feed)) :
    feed.notifications.Pairwise (·.Newer ·) := by
  have hpage : feed = w.store.page userId limit offset := by
    rcases answer_store (.page userId limit offset) w with ⟨failure, -, hrefused, -⟩ |
      ⟨panic, -, hthrown, -⟩ | ⟨-, now, hanswered, -⟩
    · rw [hrefused] at hreply
      cases hreply
    · rw [hthrown] at hreply
      cases hreply
    · rw [hanswered] at hreply
      exact (Except.ok.inj (Except.ok.inj hreply)).symm
  rw [hpage]
  exact ((Store.feed_newer h userId).drop).take

end World

namespace Errand

variable {e : Errand} {w : World}

/-- **The pages an errand was replied descend strictly.** -/
def PagesDescend (e : Errand) : Prop :=
  ∀ userId limit offset feed,
    (⟨.store (.page userId limit offset), .ok feed⟩ : Service.Exchange) ∈ e.heard →
      feed.notifications.Pairwise (·.Newer ·)

theorem PagesDescend.step (h : e.PagesDescend) (hstore : w.store.WellNumbered) :
    (e.step w).1.PagesDescend := by
  rcases step_cases e w with ⟨call, resume, reply, -, hreply, hstep⟩ |
    ⟨call, resume, panic, -, -, hstep⟩ | hstep
  · rw [hstep]
    intro userId limit offset feed hmem
    rcases List.mem_append.1 hmem with hold | hnew
    · exact h userId limit offset feed hold
    · -- The page was replied in this step, by the store as it is now.
      obtain ⟨⟩ := List.mem_singleton.1 hnew
      exact World.page_newer hstore hreply
  · rw [hstep]
    exact h
  · rw [hstep]
    exact h

theorem step_wellNumbered (e : Errand) (hstore : w.store.WellNumbered) :
    (e.step w).2.store.WellNumbered := by
  rcases step_cases e w with ⟨call, resume, reply, -, -, hstep⟩ |
    ⟨call, resume, panic, -, -, hstep⟩ | hstep
  · rw [hstep]
    exact World.answer_wellNumbered hstore call
  · rw [hstep]
    exact World.answer_wellNumbered hstore call
  · rw [hstep]
    exact hstore

end Errand

/-- **Every response to a request for a feed descends strictly**, in every scene that begins with
nothing stored. -/
theorem Scene.feed_descends (w : World) (happenings : List Happening) {userId : Int}
    {limit page : Int32} {heard : List Service.Exchange}
    {rest : Thread Service.surroundings (Except Status Rpc.FeedView)} {part : Rpc.FeedView}
    (hmem : ⟨.remote (.feed userId limit page), heard, rest⟩ ∈
      (run { world := w.fresh } happenings).errands)
    (hrest : rest.result? = some (.ok (.ok part))) :
    part.notifications.Pairwise fun newer older => older.key < newer.key := by
  have hinvariant : ∀ e ∈ (run { world := w.fresh } happenings).errands,
      e.OnCourse ∧ e.PagesDescend := by
    have hrun := run_invariant (s := { world := w.fresh }) (fun e => e.OnCourse ∧ e.PagesDescend)
      Store.WellNumbered
      (fun e v h hstore => ⟨⟨h.1.step v, h.2.step hstore⟩, e.step_wellNumbered hstore⟩)
      (fun e he => absurd he List.not_mem_nil) Store.wellNumbered_empty happenings
      fun c _ => ⟨Errand.begin_onCourse c, fun _ _ _ _ hnone => absurd hnone List.not_mem_nil⟩
    exact hrun.1
  obtain ⟨hcourse, hpages⟩ := hinvariant _ hmem
  have hdone : rest = .ok (.done (.ok part)) := by
    cases rest with
    | error panic => cases hrest
    | ok program =>
      cases program with
      | done result =>
        obtain rfl := Except.ok.inj (Option.some.inj hrest)
        rfl
      | ask call resume => cases hrest
  obtain ⟨feed, hfeed, rfl⟩ := Rpc.Request.page_of_feed (hcourse.ended hdone)
  have hnewer := hpages _ _ _ feed (List.mem_of_mem_filter hfeed)
  exact List.pairwise_map.2 (hnewer.imp Rpc.NotificationView.key_lt_of_newer)

namespace Rpc

/-- **What a client learns of moments.** The timestamp of a notification, as any wall clock showed
its moment, has nanoseconds from 0 up to a second and makes up the moment exactly; it is the one
of every other clock that showed the moment. So timestamps compare as moments do, and in every
scene that begins with nothing stored every response to a request for a feed descends strictly by
the seconds, the nanoseconds and the identifiers that it shows. -/
theorem timestamps_tell_moments (w : World) (happenings : List Happening) :
    (∀ (n : Notification) (t : WallTime),
      let shown := (NotificationView.ofNotification { n with createdAt := t.instant }).createdAt
      0 ≤ shown.nanos ∧ shown.nanos < 1000000000 ∧
        shown.seconds * 1000000000 + shown.nanos = t.instant.nanos ∧
        shown = ⟨t.localSeconds - t.offset, t.nanos⟩ ∧
        ∀ offset, (NotificationView.ofNotification
          { n with createdAt := (t.toOffset offset).instant }).createdAt = shown) ∧
      (∀ (n m : Notification) (t u : WallTime),
        (NotificationView.ofNotification { n with createdAt := t.instant }).createdAt.key <
            (NotificationView.ofNotification { m with createdAt := u.instant }).createdAt.key ↔
          t.instant < u.instant) ∧
      ∀ (userId : Int) (limit page : Int32) (heard : List Service.Exchange)
        (rest : Thread Service.surroundings (Except Status FeedView)) (part : FeedView),
        ⟨.remote (.feed userId limit page), heard, rest⟩ ∈
            (Scene.run { world := w.fresh } happenings).errands →
          rest.result? = some (.ok (.ok part)) →
            part.notifications.Pairwise fun newer older => older.key < newer.key := by
  refine ⟨?_, ?_, ?_⟩
  · intro n t shown
    refine ⟨t.instant.subsecond_nonneg, t.instant.subsecond_lt,
      t.instant.unixSeconds_add_subsecond, t.timestamp_instant, fun offset => ?_⟩
    exact congrArg Instant.timestamp (t.instant_toOffset offset)
  · intro n m t u
    exact Timestamp.key_lt_key
  · intro userId limit page heard rest part hmem hrest
    exact Scene.feed_descends w happenings hmem hrest

/-- Two notifications of moments before 1970, the later one stored first, and a request for the
feed that shows them. -/
def beforeEpoch : List Happening :=
  [.begins (.keeper (.create ⟨7, "like", some ⟨-500000000⟩, [1]⟩)), .calls 0 [] {},
    .begins (.keeper (.create ⟨7, "like", some ⟨-1250000000⟩, [2]⟩)), .calls 1 [] {},
    .begins (.remote (.feed 7 10 1))] ++ List.replicate 9 (.calls 2 [] {})

theorem timestamps_tell_moments_beforeEpoch :
    ∃ (heard : List Service.Exchange)
      (rest : Thread Service.surroundings (Except Status FeedView)) (part : FeedView),
      ⟨.remote (.feed 7 10 1), heard, rest⟩ ∈
          (Scene.run { world := ({} : World).fresh } beforeEpoch).errands ∧
        rest.result? = some (.ok (.ok part)) ∧
        part.notifications.map (fun v => (v.createdAt, v.id)) =
          [(⟨-1, 500000000⟩, 1), (⟨-2, 750000000⟩, 2)] ∧
        part.notifications.Pairwise fun newer older => older.key < newer.key := by
  obtain ⟨-, -, hdescends⟩ := timestamps_tell_moments {} beforeEpoch
  let store := (Scene.run { world := ({} : World).fresh } beforeEpoch).world.store
  obtain ⟨heard, herrand⟩ : ∃ heard,
      (Scene.run { world := ({} : World).fresh } beforeEpoch).errands[2]? = some
        ⟨.remote (.feed 7 10 1), heard, .ok (.done (.ok (.ofFeed (store.page 7 10 0))))⟩ :=
    ⟨_, rfl⟩
  -- The rows are in the order of the feed, so that sorting leaves them as they are.
  have hfeed : store.feed 7 = store.ofUser 7 := List.mergeSort_of_pairwise (by decide)
  have hmem := List.mem_of_getElem? herrand
  refine ⟨heard, _, _, hmem, rfl, ?_, hdescends 7 10 1 heard _ _ hmem rfl⟩
  rw [Store.page, hfeed]
  decide

end Rpc

end NotificationFeed
