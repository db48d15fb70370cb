import NotificationFeed.Proofs.Service.Calls
import NotificationFeed.Proofs.Service.Paging
/-!
# Windows — in 64-bit words

The window of a page is a product of two 32-bit numbers, computed in signed
words of 64 bits and counted by the keeper in unsigned ones. Each step of the
computation is a word (`Window.inWords?_eq`), and both numbers of a window are
their own counts (`Window.asCount_eq`), so the window is the exact one wherever
it is looked at. The windows of one size lie side by side and do not meet.

Every page that an operation or a remote request asks the keeper for is such a
window, since no other call asks for a page (`Request.serve_inRange`,
`Rpc.handle_inRange`).
-/

namespace NotificationFeed

namespace Service

namespace Window

/-! ## Step by step -/

/-- A whole number as a signed word of 64 bits, if it is in the range of one. -/
def word? (n : Int) : Option Int64 :=
  if Int64.minValue.toInt ≤ n ∧ n ≤ Int64.maxValue.toInt then some (Int64.ofInt n) else none

/-- **The window computed in signed words**, step by step: its limit and its offset, and neither if
a step leaves the range. -/
def inWords? (limit page : Int32) : Option (Int64 × Int64) := do
  let limit ← word? (if limit.toInt ≤ 0 then defaultLimit else limit.toInt)
  let page ← word? (if page.toInt ≤ 0 then defaultPage else page.toInt)
  let before ← word? (page.toInt - 1)
  let offset ← word? (before.toInt * limit.toInt)
  return (limit, offset)

/-- A number in the range is a word that is worth it. -/
theorem word?_eq {n : Int} (hmin : -9223372036854775808 ≤ n) (hmax : n ≤ 9223372036854775807) :
    ∃ word : Int64, word? n = some word ∧ word.toInt = n := by
  have hword : Int64.minValue.toInt ≤ n ∧ n ≤ Int64.maxValue.toInt := by
    rw [Int64.toInt_minValue, Int64.toInt_maxValue]
    omega
  exact ⟨Int64.ofInt n, if_pos hword, Int64.toInt_ofInt_of_le (by omega) (by omega)⟩

theorem number_pos (page : Int32) : 0 < number page := by
  unfold number
  split <;> omega

/-- **The offset and a page behind it are far from the end of a word**: both factors have 31
bits. -/
theorem offset_add_limit_le (limit page : Int32) :
    (number page - 1) * size limit + size limit ≤ 9223372036854775807 := by
  have hsize := size_lt limit
  have hnumber := number_lt page
  have hproduct : number page * size limit ≤ 2147483648 * 2147483648 :=
    Nat.mul_le_mul (Nat.le_of_lt hnumber) (Nat.le_of_lt hsize)
  rw [← Nat.succ_mul, Nat.succ_eq_add_one, Nat.sub_add_cancel (number_pos page)]
  omega

/-- **No step leaves the range**, and what is computed is the window. -/
theorem inWords?_eq (limit page : Int32) :
    ∃ words, inWords? limit page = some words ∧ words.1.toInt = (ofPage limit page).limit ∧
      words.2.toInt = (ofPage limit page).offset := by
  have hlimit := limit.toInt_lt
  have hpage := page.toInt_lt
  have hend := offset_add_limit_le limit page
  obtain ⟨limitWord, hlimitWord, hlimitWorth⟩ :=
    word?_eq (n := if limit.toInt ≤ 0 then defaultLimit else limit.toInt)
      (by unfold defaultLimit; split <;> omega) (by unfold defaultLimit; split <;> omega)
  obtain ⟨pageWord, hpageWord, hpageWorth⟩ :=
    word?_eq (n := if page.toInt ≤ 0 then defaultPage else page.toInt)
      (by unfold defaultPage; split <;> omega) (by unfold defaultPage; split <;> omega)
  have hfirst : 1 ≤ pageWord.toInt ∧ pageWord.toInt < 2147483648 := by
    rw [hpageWorth]
    unfold defaultPage
    split <;> omega
  obtain ⟨beforeWord, hbeforeWord, hbeforeWorth⟩ :=
    word?_eq (n := pageWord.toInt - 1) (by omega) (by omega)
  -- The last step is the product, which is the offset of the window.
  have hproduct : beforeWord.toInt * limitWord.toInt = (ofPage limit page).offset := by
    rw [hbeforeWorth, hpageWorth, hlimitWorth]
    rfl
  have hoffset := ofPage_offset limit page
  obtain ⟨offsetWord, hoffsetWord, hoffsetWorth⟩ :=
    word?_eq (n := beforeWord.toInt * limitWord.toInt) (by omega) (by omega)
  refine ⟨(limitWord, offsetWord), ?_, hlimitWorth, hoffsetWorth.trans hproduct⟩
  simp only [inWords?, hlimitWord, hpageWord, hbeforeWord, hoffsetWord, Option.bind_eq_bind,
    Option.bind_some]
  rfl

/-! ## The numbers of a window -/

/-- **The bounds of a window.** -/
theorem bounds (limit page : Int32) :
    1 ≤ (ofPage limit page).limit ∧ 0 ≤ (ofPage limit page).offset ∧
      (ofPage limit page).offset ≤ Int64.maxValue.toInt - (ofPage limit page).limit ∧
      (ofPage limit page).limit ∣ (ofPage limit page).offset := by
  have hsize := size_pos limit
  have hend := offset_add_limit_le limit page
  rw [ofPage_limit, ofPage_offset, Int64.toInt_maxValue]
  refine ⟨by omega, by omega, by omega, ?_⟩
  exact Int.natCast_dvd_natCast.2 (Nat.dvd_mul_left _ _)

/-- Both are worth the same as unsigned counts. -/
theorem asCount_eq (limit page : Int32) :
    (Store.asCount (ofPage limit page).limit : Int) = (ofPage limit page).limit ∧
      (Store.asCount (ofPage limit page).offset : Int) = (ofPage limit page).offset := by
  have hword : UInt64.size = 18446744073709551616 := rfl
  have hend := offset_add_limit_le limit page
  rw [ofPage_limit, ofPage_offset, Store.asCount_natCast (by omega),
    Store.asCount_natCast (by omega)]
  exact ⟨rfl, rfl⟩

/-! ## Side by side -/

/-- A position of a feed that a window shows. -/
def Shows (w : Window) (position : Int) : Prop :=
  w.offset ≤ position ∧ position < w.offset + w.limit

theorem number_of_pos {page : Int32} (h : 0 < page.toInt) : (number page : Int) = page.toInt := by
  unfold number
  rw [if_pos h]
  omega

/-- **A later page begins no sooner than an earlier one ends.** -/
theorem end_le_offset (limit : Int32) {page later : Int32} (hpage : 0 < page.toInt)
    (hlater : page.toInt < later.toInt) :
    (ofPage limit page).offset + (ofPage limit page).limit ≤ (ofPage limit later).offset := by
  have hnumber := number_of_pos hpage
  have hnumber' := number_of_pos (Int.lt_trans hpage hlater)
  have hle : (number page - 1 + 1) * size limit ≤ (number later - 1) * size limit :=
    Nat.mul_le_mul_right _ (by omega)
  rw [Nat.succ_mul] at hle
  rw [ofPage_limit, ofPage_offset, ofPage_offset]
  omega

/-- And the next page begins where it ends. -/
theorem offset_next (limit : Int32) {page next : Int32} (hpage : 0 < page.toInt)
    (hnext : next.toInt = page.toInt + 1) :
    (ofPage limit next).offset = (ofPage limit page).offset + (ofPage limit page).limit := by
  have hpositive : 0 < next.toInt := by omega
  have hnumber := number_of_pos hpage
  have hnumber' := number_of_pos hpositive
  have hsucc : number next - 1 = number page - 1 + 1 := by omega
  rw [ofPage_limit, ofPage_offset, ofPage_offset, hsucc, Nat.succ_mul]
  omega

theorem not_shows_later (limit : Int32) {page later : Int32} (hpage : 0 < page.toInt)
    (hlater : page.toInt < later.toInt) {position : Int}
    (hshows : (ofPage limit page).Shows position) : ¬ (ofPage limit later).Shows position := by
  have hle := end_le_offset limit hpage hlater
  intro hagain
  have hbefore := hshows.2
  have hafter := hagain.1
  omega

end Window

/-! ## What the keeper is asked for -/

/-- **A call whose numbers are in the range of a count**: where it asks for a page, neither number is
negative, and each is worth the same as an unsigned count. -/
def Call.InRange : Call → Prop
  | .store (.page _ limit offset) =>
    0 ≤ limit ∧ 0 ≤ offset ∧ (Store.asCount limit : Int) = limit ∧
      (Store.asCount offset : Int) = offset
  | _ => True

theorem page_inRange (userId : Int) (limit page : Int32) :
    Call.InRange (.store (.page userId (Window.ofPage limit page).limit
      (Window.ofPage limit page).offset)) := by
  obtain ⟨hlimit, hoffset, -, -⟩ := Window.bounds limit page
  exact ⟨by omega, hoffset, Window.asCount_eq limit page⟩

theorem inquiry_inRange {α : Type} {x : Operation α} {name start reason : String}
    {fields : List (String × String)} {subject : Int} {request : Store.Request}
    {finish : request.Answer → String × List (String × String)} {view : request.Answer → α}
    (hx : x = inquiry name start fields subject reason request finish view)
    (hrequest : Call.InRange (.store request)) : x.run.AsksOnly Call.InRange := by
  obtain ⟨body, hinquiry, hbody⟩ :=
    inquiry_counted name start fields subject reason request finish view
  rw [hx, hinquiry]
  exact counted_asksOnly (hbody Call.InRange (fun _ => trivial) hrequest) fun _ => trivial

/-- **An operation asks for no page but with numbers in the range of a count**, whatever it is
answered. -/
theorem Request.serve_inRange (r : Request) : r.serve.run.AsksOnly Call.InRange := by
  cases r with
  | save draft =>
    obtain ⟨body, hsave, hbody⟩ := save_counted draft
    rw [serve, hsave]
    refine counted_asksOnly ?_ fun _ => trivial
    exact hbody Call.InRange (fun _ _ _ => trivial) (fun _ => trivial) trivial fun _ => trivial
  | details id => exact inquiry_inRange (details_eq_inquiry id) trivial
  | feed userId limit page =>
    exact inquiry_inRange (feed_eq_inquiry userId limit page) (page_inRange userId limit page)
  | read id => exact inquiry_inRange (read_eq_inquiry id) trivial
  | readAll userId => exact inquiry_inRange (readAll_eq_inquiry userId) trivial
  | remove id => exact inquiry_inRange (remove_eq_inquiry id) trivial
  | unread userId => exact inquiry_inRange (unread_eq_inquiry userId) trivial

end Service

namespace Rpc

open Service (Call)

/-- **Nor does a remote request.** -/
theorem handle_inRange (r : Request) : (handle r).AsksOnly Call.InRange := by
  have hperform : r.perform.run.AsksOnly Call.InRange := by
    unfold Request.perform
    cases r.check with
    | error failure => trivial
    | ok _ =>
      show r.serve.run.AsksOnly Call.InRange
      rw [Request.serve_eq_view, map_eq_pure_bind]
      exact r.operation.serve_inRange.run_bind fun _ => trivial
  refine ⟨trivial, fun started => Program.AsksOnly.bind (p := r.perform.run) hperform fun result => ?_⟩
  -- What is left writes the journal, reads the stopwatch and reports.
  cases result with
  | ok response =>
    exact ⟨trivial, fun _ => ⟨trivial, fun _ => ⟨trivial, fun _ => ⟨trivial, fun _ => trivial⟩⟩⟩⟩
  | error failure =>
    exact ⟨trivial, fun _ => ⟨trivial, fun _ => ⟨trivial, fun _ => ⟨trivial, fun _ =>
      ⟨trivial, fun _ => trivial⟩⟩⟩⟩⟩

end Rpc

/-- **The window of a page is what it is meant to be**, for every two numbers of a request.
Computed in signed words of 64 bits no step leaves the range, and the words are worth the exact
numbers; a page holds one notification at least, and its offset is a multiple of its size that
leaves room for the page. The next page begins where a page ends, and two pages show no position
in common. No operation and no remote request, whatever it is answered, asks the keeper for a page
with a negative number or with one that is worth something else as an unsigned count. -/
theorem Service.window_exact :
    (∀ limit page : Int32,
      (∃ words, Window.inWords? limit page = some words ∧
        words.1.toInt = (Window.ofPage limit page).limit ∧
        words.2.toInt = (Window.ofPage limit page).offset) ∧
      1 ≤ (Window.ofPage limit page).limit ∧ 0 ≤ (Window.ofPage limit page).offset ∧
      (Window.ofPage limit page).offset ≤
        Int64.maxValue.toInt - (Window.ofPage limit page).limit ∧
      (Window.ofPage limit page).limit ∣ (Window.ofPage limit page).offset) ∧
    (∀ limit page later : Int32, 0 < page.toInt → page.toInt < later.toInt →
      (later.toInt = page.toInt + 1 → (Window.ofPage limit later).offset =
        (Window.ofPage limit page).offset + (Window.ofPage limit page).limit) ∧
      ∀ position, (Window.ofPage limit page).Shows position →
        ¬ (Window.ofPage limit later).Shows position) ∧
    (∀ r : Service.Request, r.serve.run.AsksOnly Call.InRange) ∧
    ∀ r : Rpc.Request, (Rpc.handle r).AsksOnly Call.InRange := by
  refine ⟨fun limit page => ⟨Window.inWords?_eq limit page, Window.bounds limit page⟩, ?_,
    Service.Request.serve_inRange, Rpc.handle_inRange⟩
  intro limit page later hpage hlater
  exact ⟨Window.offset_next limit hpage, fun _ => Window.not_shows_later limit hpage hlater⟩

end NotificationFeed
