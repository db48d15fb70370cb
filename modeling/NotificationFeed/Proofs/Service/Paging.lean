import NotificationFeed.Proofs.Store.Feed
import NotificationFeed.Proofs.History.Lifetime
/-!
# Feeds — page after page

The two 32-bit numbers of a feed request stand for the size of a page and its
number, each with a default. The window they make lies within the range of an
unsigned count, so nothing wraps, and what is answered is a slice of the
user's feed. The slices of one size list the whole feed, each notification
once, and end where it ends.
-/

namespace NotificationFeed

namespace Service

variable {w : World} {userId : Int}

/-! ## The two numbers of a request -/

namespace Window

/-- How many notifications a page holds. -/
def size (limit : Int32) : Nat := if 0 < limit.toInt then limit.toInt.toNat else 10

/-- Which page is shown. -/
def number (page : Int32) : Nat := if 0 < page.toInt then page.toInt.toNat else 1

/-- How many pages a feed fills: its length over the size of a page, rounded up. -/
def pages (size total : Nat) : Nat := (total + (size - 1)) / size

theorem size_pos (limit : Int32) : 0 < size limit := by
  unfold size
  split <;> omega

theorem size_lt (limit : Int32) : size limit < 2147483648 := by
  have := limit.toInt_lt
  unfold size
  split <;> omega

theorem number_lt (page : Int32) : number page < 2147483648 := by
  have := page.toInt_lt
  unfold number
  split <;> omega

/-- A number that fits is the number of its page. -/
theorem number_ofNat {k : Nat} (hpos : 0 < k) (hle : k ≤ Int32.maxValue.toInt) :
    number (Int32.ofNat k) = k := by
  rw [Int32.toInt_maxValue] at hle
  rw [number, Int32.toInt_ofNat_of_lt (by omega), if_pos (by omega), Int.toNat_natCast]

theorem ofPage_limit (limit page : Int32) : (ofPage limit page).limit = size limit := by
  show (if limit.toInt ≤ 0 then defaultLimit else limit.toInt) = (size limit : Int)
  unfold size defaultLimit
  split <;> split <;> omega

theorem ofPage_offset (limit page : Int32) :
    (ofPage limit page).offset = ((number page - 1) * size limit : Nat) := by
  have hlimit := ofPage_limit limit page
  have hpage : (if page.toInt ≤ 0 then defaultPage else page.toInt) - 1 = (number page - 1 : Nat) := by
    unfold number defaultPage
    split <;> split <;> omega
  show ((if page.toInt ≤ 0 then defaultPage else page.toInt) - 1) * (ofPage limit page).limit = _
  rw [hlimit, hpage, Int.natCast_mul]

/-- The pages of a feed reach its end. -/
theorem le_pages_mul {size : Nat} (h : 0 < size) (total : Nat) :
    total ≤ pages size total * size := by
  have hdiv := Nat.div_add_mod (total + (size - 1)) size
  have hmod := Nat.mod_lt (total + (size - 1)) h
  rw [Nat.mul_comm] at hdiv
  unfold pages
  omega

end Window

/-- **The page of a request is a slice of the feed.** -/
theorem page_eq_slice (s : Store) (userId : Int) (limit page : Int32) :
    s.page userId (Window.ofPage limit page).limit (Window.ofPage limit page).offset =
      ⟨Store.slice (s.feed userId) (Window.size limit) (Window.number page),
        (s.ofUser userId).length⟩ := by
  have hword : UInt64.size = 18446744073709551616 := rfl
  have hsize := Window.size_lt limit
  have hnumber := Window.number_lt page
  -- Both factors have 31 bits, so their product is far from the end of an unsigned count.
  have hoffset : (Window.number page - 1) * Window.size limit ≤ 2147483648 * 2147483648 :=
    Nat.mul_le_mul (by omega) (by omega)
  rw [Window.ofPage_limit, Window.ofPage_offset, Store.page, Store.asCount_natCast (by omega),
    Store.asCount_natCast (by omega), (Store.feed_perm s userId).length_eq]
  rfl

/-- A request for a feed that no fault hits shows that page and changes nothing. -/
theorem run_feed (hpositive : 0 < userId) {d : Disturbance} (hfault : d.fault = none)
    (limit page : Int32) :
    (w.run d (feed userId limit page).run).1 =
        .ok (.ok ⟨Store.slice (w.store.feed userId) (Window.size limit) (Window.number page),
          (w.store.ofUser userId).length⟩) ∧
      (w.run d (feed userId limit page).run).2.store = w.store := by
  have hclear : ∃ v, World.Yields (feed userId limit page).run { w with disturbance := d }
      (.ok (.ok (w.store.page userId (Window.ofPage limit page).limit
        (Window.ofPage limit page).offset))) v ∧ v.store = w.store := by
    rw [feed_eq_inquiry]
    obtain ⟨now, v, hyields, hstore⟩ :=
      inquiry_clear (w := { w with disturbance := d }) hpositive hfault
    exact ⟨v, hyields, hstore⟩
  obtain ⟨v, hyields, hstore⟩ := hclear
  obtain ⟨houtcome, hworld⟩ := World.run_of_yields hyields
  rw [houtcome, hworld, page_eq_slice]
  exact ⟨rfl, hstore⟩

/-! ## The whole feed -/

/-- **The feed of a user, page after page**, over every store that a history
can leave. There is one list of the user's notifications, each once and
strictly descending, such that every request for a feed shows the positions
`(p - 1) * l` up to `p * l - 1` of it, and its length. For a fixed size of
pages the pages up to the last one make up the list, as far as a request can
name their numbers; a page after that is empty. -/
theorem feed_pages (w : World) (moves : List Move) {userId : Int} (hpositive : 0 < userId) :
    ∃ sorted : List Notification,
      sorted.Perm ((w.fresh.after moves).store.ofUser userId) ∧
      sorted.Pairwise (·.Newer ·) ∧
      (∀ n ∈ sorted, n.userId = userId) ∧
      (∀ (u : World) (d : Disturbance) (limit page : Int32),
        u.store = (w.fresh.after moves).store → d.fault = none →
        (u.run d (feed userId limit page).run).1 =
            .ok (.ok ⟨Store.slice sorted (Window.size limit) (Window.number page),
              ((w.fresh.after moves).store.ofUser userId).length⟩) ∧
          (u.run d (feed userId limit page).run).2.store = u.store) ∧
      ∀ limit : Int32,
        (Window.pages (Window.size limit) sorted.length ≤ Int32.maxValue.toInt →
          (List.range (Window.pages (Window.size limit) sorted.length)).flatMap (fun i =>
            Store.slice sorted (Window.size limit) (Window.number (Int32.ofNat (i + 1)))) =
              sorted) ∧
        ∀ page : Int32, Window.pages (Window.size limit) sorted.length < Window.number page →
          Store.slice sorted (Window.size limit) (Window.number page) = [] := by
  have hnumbered := w.fresh_wellNumbered moves
  refine ⟨(w.fresh.after moves).store.feed userId, Store.feed_perm _ _,
    Store.feed_newer hnumbered userId, ?_, ?_, ?_⟩
  · intro n hn
    exact (Store.mem_ofUser.1 ((Store.feed_perm _ _).mem_iff.1 hn)).2
  · intro u d limit page hstore hfault
    rw [← hstore]
    exact run_feed hpositive hfault limit page
  · intro limit
    have hreach := Window.le_pages_mul (Window.size_pos limit)
      ((w.fresh.after moves).store.feed userId).length
    constructor
    · intro hfits
      have hnumbers : ∀ i ∈ List.range (Window.pages (Window.size limit)
          ((w.fresh.after moves).store.feed userId).length),
          Window.number (Int32.ofNat (i + 1)) = i + 1 := by
        intro i hi
        have := List.mem_range.1 hi
        exact Window.number_ofNat (by omega) (by omega)
      rw [List.flatMap_congr fun i hi => by rw [hnumbers i hi], Store.flatMap_slice,
        List.take_of_length_le hreach]
    · intro page hpage
      refine Store.slice_eq_nil (Nat.le_trans hreach (Nat.mul_le_mul_right _ ?_))
      omega

/-- Two notifications of one moment, with another user's between them. -/
theorem feed_pages_same_moment :
    (0 : Int) < 1 ∧ ∃ sorted : List Notification,
      sorted.Perm [⟨1, 1, "like", false, ⟨5⟩, []⟩, ⟨3, 1, "like", false, ⟨5⟩, []⟩] ∧
      sorted.Pairwise (·.Newer ·) ∧
      ∀ limit page : Int32,
        ((World.after {} [⟨.keeper (.create ⟨1, "like", some ⟨5⟩, []⟩), {}, []⟩,
            ⟨.keeper (.create ⟨2, "like", some ⟨5⟩, []⟩), {}, []⟩,
            ⟨.service (.save ⟨1, "like", some ⟨5⟩, []⟩), {}, [(1, .ok ⟨1, "a", "a@b"⟩)]⟩]).run {}
          (feed 1 limit page).run).1 =
        .ok (.ok ⟨Store.slice sorted (Window.size limit) (Window.number page), 2⟩) := by
  obtain ⟨sorted, hperm, hnewer, -, hrun, -⟩ := feed_pages {}
    [⟨.keeper (.create ⟨1, "like", some ⟨5⟩, []⟩), {}, []⟩,
      ⟨.keeper (.create ⟨2, "like", some ⟨5⟩, []⟩), {}, []⟩,
      ⟨.service (.save ⟨1, "like", some ⟨5⟩, []⟩), {}, [(1, .ok ⟨1, "a", "a@b"⟩)]⟩]
    (show (0 : Int) < 1 by decide)
  refine ⟨by decide, sorted, hperm, hnewer, fun limit page => ?_⟩
  exact (hrun _ {} limit page rfl rfl).1

end Service

end NotificationFeed
