import Mathlib.Data.List.Induction
import NotificationFeed.Wire.Endpoint
import NotificationFeed.World
import NotificationFeed.Proofs.Wire.Grammar
/-!
# Requests on the wire — what encodes one

A request is encoded by any message whose fields make it (`Encodes`): one
after another they replace parts of the request that has all defaults, and a
field that the request does not have makes no difference. The reader looks
for each part by itself and takes its last value, and that comes to the same
(`decodeRequest_eq_some`), because a value that replaces a part forgets the
one before it.

So a request has many encodings, and what is answered depends on the request
alone: the answer, the calls on the way and the world that is left are those
of its handler.
-/

namespace NotificationFeed

namespace Wire

open Rpc

variable {method : Method} {request : Request} {body : Bytes}

/-! ## Requests by their fields -/

/-- The request of a method whose message has no fields. -/
def blank : Method → Request
  | .send => .send 0 "" []
  | .details => .details 0
  | .feed => .feed 0 0 0
  | .read => .read 0
  | .readAll => .readAll 0
  | .remove => .remove 0
  | .unread => .unread 0

/-- **What one more field makes of a request**: its part is replaced, if the
value is laid out as that part is, and a field that the message does not have
makes no difference. -/
def merge : Request → Nat × Value → Option Request
  | .send _ kind payload, (1, v) => v.int64?.map (.send · kind payload)
  | .send userId _ payload, (2, v) => v.text?.map (.send userId · payload)
  | .send userId kind _, (3, v) => v.bytes?.map (.send userId kind ·)
  | .details _, (1, v) => v.int64?.map .details
  | .feed _ limit page, (1, v) => v.int64?.map (.feed · limit page)
  | .feed userId _ page, (2, v) => v.int32?.map (.feed userId · page)
  | .feed userId limit _, (3, v) => v.int32?.map (.feed userId limit ·)
  | .read _, (1, v) => v.int64?.map .read
  | .readAll _, (1, v) => v.int64?.map .readAll
  | .remove _, (1, v) => v.int64?.map .remove
  | .unread _, (1, v) => v.int64?.map .unread
  | request, _ => some request

/-- The request that the fields of a message make, one after another. -/
def requestOf? (method : Method) (fields : Fields) : Option Request :=
  fields.foldlM merge (blank method)

/-- **Bytes that encode a request of a method**: a message whose fields make
the request. -/
def Encodes (method : Method) (body : Bytes) (request : Request) : Prop :=
  ∃ fields, IsMessage body fields ∧ requestOf? method fields = some request

/-- The numbers of the fields that the message of a method has. -/
def parts : Method → List Nat
  | .send | .feed => [1, 2, 3]
  | .details | .read | .readAll | .remove | .unread => [1]

/-! ## The reader -/

/-- The last occurrence of a field counts, and every one has to be readable. -/
theorem Fields.last_concat {α : Type} (fields : Fields) (number : Nat) (value : Value)
    (field : Nat) (default : α) (read : Value → Option α) :
    Fields.last (fields ++ [(number, value)]) field default read =
      if number = field then (fields.last field default read).bind fun _ => read value
      else fields.last field default read := by
  unfold Fields.last Fields.values
  by_cases h : number = field
  · simp only [h, if_true, List.filter_append, List.map_append, List.mapM_append]
    cases (List.map (·.2) (fields.filter (·.1 == field))).mapM read <;> cases hr : read value <;>
      simp [hr]
  · simp [h, List.filter_append]

section Parts

variable {α β γ : Type} {readFirst : Value → Option α} {readSecond : Value → Option β}
variable {readThird : Value → Option γ}

/-- A request of one part is what the last occurrence of its field makes it. -/
theorem foldlM_merge_one {build : α → Request}
    (hmerge : ∀ a number value, merge (build a) (number, value) =
      if number = 1 then (readFirst value).map build else some (build a))
    (default : α) (fields : Fields) :
    fields.foldlM merge (build default) = (fields.last 1 default readFirst).map build := by
  induction fields using List.reverseRecOn with
  | nil => rfl
  | append_singleton fields field ih =>
    obtain ⟨number, value⟩ := field
    rw [List.foldlM_append, ih, Fields.last_concat]
    cases Fields.last fields 1 default readFirst <;> by_cases h : number = 1 <;> simp [hmerge, h]

/-- And one of three parts is what the last occurrences of its fields make it. -/
theorem foldlM_merge_three {build : α → β → γ → Request}
    (hmerge : ∀ a b c number value, merge (build a b c) (number, value) =
      if number = 1 then (readFirst value).map (build · b c)
      else if number = 2 then (readSecond value).map (build a · c)
      else if number = 3 then (readThird value).map (build a b ·) else some (build a b c))
    (a : α) (b : β) (c : γ) (fields : Fields) :
    fields.foldlM merge (build a b c) = do
      return build (← fields.last 1 a readFirst) (← fields.last 2 b readSecond)
        (← fields.last 3 c readThird) := by
  induction fields using List.reverseRecOn with
  | nil => rfl
  | append_singleton fields field ih =>
    obtain ⟨number, value⟩ := field
    rw [List.foldlM_append, ih, Fields.last_concat, Fields.last_concat, Fields.last_concat]
    -- A part that could not be read before stays so; else the field replaces its part or none.
    cases Fields.last fields 1 a readFirst <;> cases Fields.last fields 2 b readSecond <;>
      cases Fields.last fields 3 c readThird <;>
      by_cases h1 : number = 1 <;> by_cases h2 : number = 2 <;> by_cases h3 : number = 3 <;>
      simp [hmerge, h1, h2, h3, Option.map_eq_bind]

end Parts

/-- **Of every part the last occurrence counts.** -/
theorem requestOf?_eq_last (method : Method) (fields : Fields) :
    requestOf? method fields = match method with
      | .send => do
        return .send (← fields.last 1 0 Value.int64?) (← fields.last 2 "" Value.text?)
          (← fields.last 3 [] Value.bytes?)
      | .details => (fields.last 1 0 Value.int64?).map .details
      | .feed => do
        return .feed (← fields.last 1 0 Value.int64?) (← fields.last 2 0 Value.int32?)
          (← fields.last 3 0 Value.int32?)
      | .read => (fields.last 1 0 Value.int64?).map .read
      | .readAll => (fields.last 1 0 Value.int64?).map .readAll
      | .remove => (fields.last 1 0 Value.int64?).map .remove
      | .unread => (fields.last 1 0 Value.int64?).map .unread := by
  cases method with
  | send =>
    refine foldlM_merge_three ?_ 0 "" [] fields
    rintro userId kind payload (_ | _ | _ | _ | number) value <;> simp [merge]
  | feed =>
    refine foldlM_merge_three ?_ 0 0 0 fields
    rintro userId limit page (_ | _ | _ | _ | number) value <;> simp [merge]
  | details | read | readAll | remove | unread =>
    refine foldlM_merge_one ?_ 0 fields
    rintro id (_ | _ | number) value <;> simp [merge]

/-- **The reader accepts exactly what encodes a request**, and gives that one. -/
theorem decodeRequest_eq_some :
    decodeRequest method body = some request ↔ Encodes method body request := by
  have hread : decodeRequest method body = (fieldsOf body).bind (requestOf? method) := by
    unfold decodeRequest
    refine congrArg _ (funext fun fields => ?_)
    rw [requestOf?_eq_last]
    cases method <;> simp [Option.map_eq_bind]
  rw [hread, Option.bind_eq_some_iff]
  exact exists_congr fun fields => and_congr_left' fieldsOf_eq_some

/-! ## The many encodings of one request -/

theorem merge_method {r r' : Request} {field : Nat × Value} (h : merge r field = some r') :
    r'.method = r.method := by
  unfold merge at h
  split at h
  -- The last case is the field that the request does not have.
  case h_12 => rw [Option.some.inj h]
  all_goals
    obtain ⟨_, -, rfl⟩ := Option.map_eq_some_iff.1 h
    rfl

theorem requestOf?_method {fields : Fields} (h : requestOf? method fields = some request) :
    request.method = method := by
  unfold requestOf? at h
  induction fields using List.reverseRecOn generalizing request with
  | nil =>
    obtain rfl := Option.some.inj h
    cases method <;> rfl
  | append_singleton fields field ih =>
    rw [List.foldlM_append, Option.bind_eq_bind, Option.bind_eq_some_iff] at h
    obtain ⟨r, hr, hmerge⟩ := h
    rw [List.foldlM_cons, Option.bind_eq_bind, Option.bind_eq_some_iff] at hmerge
    obtain ⟨r', hmerge, hlast⟩ := hmerge
    obtain rfl := Option.some.inj hlast
    exact (merge_method hmerge).trans (ih hr)

/-- A part that is there twice is what the later value says, if the earlier one could be read. -/
theorem merge_again {r r' : Request} {number : Nat} {earlier : Value}
    (h : merge r (number, earlier) = some r') (later : Value) :
    merge r' (number, later) = merge r (number, later) := by
  unfold merge at h
  split at h
  case h_12 => rw [Option.some.inj h]
  all_goals
    rename_i hfield
    obtain ⟨_, -, rfl⟩ := Option.map_eq_some_iff.1 h
    obtain ⟨rfl, -⟩ := Prod.mk.inj hfield
    rfl

theorem Fields.last_congr {α : Type} {f g : Fields} {field : Nat}
    (h : f.values field = g.values field) (default : α) (read : Value → Option α) :
    f.last field default read = g.last field default read := by
  unfold Fields.last
  rw [h]

/-- **Neither the order of different fields counts nor a field that the message
does not have**, but the values of each of its own in their order. -/
theorem requestOf?_congr {f g : Fields}
    (h : ∀ number ∈ parts method, f.values number = g.values number) :
    requestOf? method f = requestOf? method g := by
  have hfirst := h 1 (by cases method <;> simp [parts])
  rw [requestOf?_eq_last, requestOf?_eq_last]
  cases method with
  | send | feed =>
    have hsecond := h 2 (by simp [parts])
    have hthird := h 3 (by simp [parts])
    simp only [Fields.last_congr hfirst, Fields.last_congr hsecond, Fields.last_congr hthird]
  | details | read | readAll | remove | unread => simp only [Fields.last_congr hfirst]

/-- **A later occurrence of a part overrides an earlier one** that could be read. -/
theorem requestOf?_overridden {front back : Fields} {number : Nat} {earlier : Value}
    (h : (requestOf? method (front ++ [(number, earlier)])).isSome) (later : Value) :
    requestOf? method (front ++ (number, earlier) :: (number, later) :: back) =
      requestOf? method (front ++ (number, later) :: back) := by
  obtain ⟨r', hr'⟩ := Option.isSome_iff_exists.1 h
  simp only [requestOf?, List.foldlM_append, List.foldlM_cons, Option.bind_eq_bind,
    Option.bind_eq_some_iff] at hr' ⊢
  obtain ⟨r, hr, r'', hmerge, -⟩ := hr'
  simp only [hr, hmerge, Option.bind_some, merge_again hmerge]

/-- **A default that is written out makes no difference.** -/
theorem requestOf?_explicit {field : Nat × Value}
    (h : requestOf? method [field] = some (blank method)) (back : Fields) :
    requestOf? method (field :: back) = requestOf? method back := by
  have hmerge : merge (blank method) field = some (blank method) := by
    simpa [requestOf?] using h
  simp only [requestOf?, List.foldlM_cons, hmerge, Option.bind_eq_bind, Option.bind_some]

/-! ## Answers -/

theorem path_injective {method method' : Method} (h : path method = path method') :
    method = method' := by
  have hsome := methodAt?_path method
  rw [h, methodAt?_path] at hsome
  exact (Option.some.inj hsome).symm

theorem methodAt?_eq_some {p : String} : methodAt? p = some method ↔ p = path method := by
  constructor
  · intro h
    have hfound := List.find?_some h
    exact (beq_iff_eq.1 hfound).symm
  · rintro rfl
    have hall : method ∈ Method.all := by cases method <;> simp [Method.all]
    have hsome : (methodAt? (path method)).isSome :=
      List.find?_isSome.2 ⟨method, hall, beq_iff_eq.2 rfl⟩
    obtain ⟨found, hfound⟩ := Option.isSome_iff_exists.1 hsome
    have hpath := List.find?_some hfound
    rw [hfound, path_injective (beq_iff_eq.1 hpath)]

/-- What encodes a request is answered as the request is handled. -/
theorem respond_encoded {locator : String} (hpath : Locator.path locator = path method)
    (h : Encodes method body request) :
    respond locator body = do
      let answer ← handle request
      return answer.map (encodeResponse request.method) := by
  simp only [respond, methodAt?_eq_some.2 hpath, decodeRequest_eq_some.2 h]

/-- What encodes none is refused before anything is asked for. -/
theorem respond_malformed {locator : String} (hpath : Locator.path locator = path method)
    (h : ∀ request, ¬ Encodes method body request) :
    respond locator body = .done (.error malformed) := by
  have hnone : decodeRequest method body = none :=
    Option.eq_none_iff_forall_ne_some.2 fun request hsome =>
      h request (decodeRequest_eq_some.1 hsome)
  simp only [respond, methodAt?_eq_some.2 hpath, hnone]
  rfl

/-- And so is everything that is sent to a path without a method. -/
theorem respond_unimplemented {locator : String}
    (hpath : ∀ method, Locator.path locator ≠ path method) (body : Bytes) :
    respond locator body = .done (.error unimplemented) := by
  have hnone : methodAt? (Locator.path locator) = none :=
    Option.eq_none_iff_forall_ne_some.2 fun method hsome => hpath method (methodAt?_eq_some.1 hsome)
  simp only [respond, hnone]
  rfl

/-- What is done with the answer of a program shows in the answer alone. -/
theorem run_map {α β : Type} (w : World) (d : Disturbance) (p : Service.Task α) (f : α → β) :
    w.run d (do return f (← p)) = ((w.run d p).1.map f, (w.run d p).2) := by
  simp only [World.run]
  rw [Program.run_bind]
  rcases p.run World.answer { w with disturbance := d } with ⟨_ | a, v⟩ <;> rfl

end Wire

end NotificationFeed
