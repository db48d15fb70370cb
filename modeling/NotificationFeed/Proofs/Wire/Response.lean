import Mathlib.Data.List.Basic
import NotificationFeed.Wire.Response
import NotificationFeed.Proofs.Text
import NotificationFeed.Proofs.Wire.Grammar
/-!
# Responses on the wire — nothing is lost

A response is a row of fields, and each of them may be left out: a scalar that
is the default of its type is (`intValue` to `textValue`), while a message
within a message is always there, an empty one too. What the writers write is
such a row (`isMessage_encodeNotification`, `isMessage_encodeFeed`), so reading
it back is a matter of its fields and not of its bytes. A field that was left
out is read as the default that it was left out for (`Recalls`).

Numbers on the wire have 64 bits, and so has the length that stands before a
notification on a page. A page itself has nothing before it and may be of any
length.
-/

namespace NotificationFeed

namespace Wire

open Rpc

/-! ## Numbers -/

/-- Integers of 64 bits. -/
def IsInt64 (n : Int) : Prop := Int64.minValue.toInt ≤ n ∧ n ≤ Int64.maxValue.toInt

instance (n : Int) : Decidable (IsInt64 n) := inferInstanceAs (Decidable (_ ∧ _))

theorem toInt_ofInt {n : Int} (h : IsInt64 n) : toInt (ofInt n) = n := by
  obtain ⟨hmin, hmax⟩ := h
  have hnat : 0 ≤ n % UInt64.size := Int.emod_nonneg _ (by decide)
  rw [Int64.toInt_minValue] at hmin
  rw [Int64.toInt_maxValue] at hmax
  rw [toInt, ofInt, UInt64.toInt64_ofNat', Int64.toInt_ofNat', Int.toNat_of_nonneg hnat,
    Int.bmod_def]
  simp only [UInt64.size, Int64.size]
  omega

theorem toInt32_ofInt {n : Int} (hmin : -2 ^ 31 ≤ n) (hmax : n < 2 ^ 31) :
    (toInt32 (ofInt n)).toInt = n := by
  have hnat : 0 ≤ n % UInt64.size := Int.emod_nonneg _ (by decide)
  rw [toInt32, ofInt, UInt64.toUInt32_ofNat', UInt32.toInt32_ofNat', Int32.toInt_ofNat',
    Int.toNat_of_nonneg hnat, Int.bmod_def]
  simp only [UInt64.size, Int32.size]
  omega

theorem isGroups_last {n : Nat} (h : n < 128) :
    IsGroups [UInt8.ofNat n] ∧ worth [UInt8.ofNat n] = n := by
  have hbyte : (UInt8.ofNat n).toNat = n :=
    UInt8.toNat_ofNat_of_lt' (by simp only [UInt8.size]; omega)
  have hsmall : UInt8.ofNat n < 128 := by
    rw [UInt8.lt_iff_toNat_lt, hbyte]
    exact h
  exact ⟨.last hsmall, by rw [worth_singleton hsmall, hbyte]⟩

/-- **The groups of a number** are groups, no more than there is room for, and worth the number. -/
theorem isGroups_putGroups {fuel n : Nat} (h : n < 128 ^ (fuel + 1)) :
    IsGroups (putGroups (fuel + 1) n) ∧ (putGroups (fuel + 1) n).length ≤ fuel + 1 ∧
      worth (putGroups (fuel + 1) n) = n := by
  induction fuel generalizing n with
  | zero =>
    rw [putGroups, if_pos (by omega)]
    obtain ⟨hlast, hworth⟩ := isGroups_last (show n < 128 by omega)
    exact ⟨hlast, le_rfl, hworth⟩
  | succ fuel ih =>
    rw [putGroups]
    split
    · rename_i hn
      obtain ⟨hlast, hworth⟩ := isGroups_last hn
      exact ⟨hlast, by simp, hworth⟩
    · -- The lowest group is marked as followed by the groups of what is left.
      have hrest : n / 128 < 128 ^ (fuel + 1) := by
        rw [Nat.pow_succ] at h
        omega
      obtain ⟨hgroups, hlength, hworth⟩ := ih hrest
      have hbyte : (UInt8.ofNat (n % 128 + 128)).toNat = n % 128 + 128 :=
        UInt8.toNat_ofNat_of_lt' (by simp only [UInt8.size]; omega)
      have hmarked : 128 ≤ UInt8.ofNat (n % 128 + 128) := by
        rw [UInt8.le_iff_toNat_le, hbyte]
        exact Nat.le_add_left _ _
      refine ⟨.more hmarked hgroups, by simpa using hlength, ?_⟩
      rw [worth_cons hmarked, hbyte, hworth]
      omega

theorem isVarint_putVarint (n : UInt64) : IsVarint (putVarint n) n := by
  have hlt := n.toNat_lt
  obtain ⟨hgroups, hlength, hworth⟩ := isGroups_putGroups (show n.toNat < 128 ^ (9 + 1) by omega)
  exact ⟨hgroups, hlength, hworth⟩

/-! ## Fields that may be left out -/

/-- The value of an integer's field, if it has one. -/
def intValue (n : Int) : Option Value := if n = 0 then none else some (.number (ofInt n))

/-- The value of a flag's field, if it has one. -/
def flagValue (b : Bool) : Option Value := if b then some (.number 1) else none

/-- The value of the field of a run of bytes, if it has one. -/
def bytesValue (b : Bytes) : Option Value := if b.isEmpty then none else some (.sized b)

/-- The value of a text's field, if it has one. -/
def textValue (t : String) : Option Value := bytesValue t.toUTF8.toList

/-- A field that is there if it has a value. -/
def optional (number : Nat) (value : Option Value) : Fields := value.toList.map (number, ·)

/-- A value that is the default of its type. -/
def Value.IsDefault : Value → Prop
  | number n => n = 0
  | sized b => b = []
  | other => False

/-- **What was written is read as it was** and is no default, and what was left out is the
default. -/
structure Recalls {α : Type} (value : Option Value) (default : α) (read : Value → Option α)
    (a : α) : Prop where
  written : ∀ v, value = some v → read v = some a ∧ ¬ v.IsDefault
  omitted : value = none → default = a

section Recalls

variable {α : Type} {value : Option Value} {default a : α} {read : Value → Option α}

theorem recalls_int {n : Int} (h : IsInt64 n) : Recalls (intValue n) 0 Value.int64? n := by
  unfold intValue
  constructor
  · intro v hv
    split at hv
    · cases hv
    · rename_i hn
      obtain rfl := Option.some.inj hv
      refine ⟨by rw [Value.int64?, toInt_ofInt h], fun hzero => hn ?_⟩
      rw [← toInt_ofInt h, show ofInt n = 0 from hzero]
      rfl
  · intro hv
    split at hv
    · rename_i hzero
      exact hzero.symm
    · cases hv

theorem recalls_int32 {n : Int} (hmin : 0 ≤ n) (hmax : n < 2 ^ 31) :
    Recalls (intValue n) 0 Value.int32? (toInt32 (ofInt n)) := by
  have hint : IsInt64 n := by
    rw [IsInt64, Int64.toInt_minValue, Int64.toInt_maxValue]
    omega
  constructor
  · intro v hv
    obtain ⟨hread, hdefault⟩ := (recalls_int hint).written v hv
    cases v with
    | number m =>
      obtain rfl : m = ofInt n := by
        unfold intValue at hv
        split at hv
        · cases hv
        · exact (Value.number.inj (Option.some.inj hv)).symm
      exact ⟨rfl, hdefault⟩
    | sized b => cases hread
    | other => cases hread
  · intro hv
    rw [← (recalls_int hint).omitted hv]
    rfl

theorem recalls_flag (b : Bool) : Recalls (flagValue b) false Value.flag? b := by
  cases b with
  | true =>
    refine ⟨fun v hv => ?_, nofun⟩
    obtain rfl := Option.some.inj hv
    exact ⟨rfl, nofun⟩
  | false => exact ⟨nofun, fun _ => rfl⟩

theorem recalls_bytes (b : Bytes) : Recalls (bytesValue b) [] Value.bytes? b := by
  cases b with
  | nil => exact ⟨nofun, fun _ => rfl⟩
  | cons first rest =>
    refine ⟨fun v hv => ?_, nofun⟩
    obtain rfl := Option.some.inj hv
    exact ⟨rfl, List.cons_ne_nil _ _⟩

theorem text?_toUTF8 (t : String) : Value.text? (.sized t.toUTF8.toList) = some t :=
  fromUTF8?_toUTF8 t

theorem recalls_text (t : String) : Recalls (textValue t) "" Value.text? t := by
  have htext := text?_toUTF8 t
  unfold textValue bytesValue
  constructor
  · intro v hv
    split at hv
    · cases hv
    · rename_i hfull
      obtain rfl := Option.some.inj hv
      exact ⟨htext, fun hempty => hfull (List.isEmpty_iff.2 hempty)⟩
  · intro hv
    split at hv
    · rename_i hempty
      rw [List.isEmpty_iff.1 hempty] at htext
      exact Option.some.inj htext
    · cases hv

/-- **The reader recalls a field** that occurs at most once. -/
theorem Recalls.last (h : Recalls value default read a) {fields : Fields} {number : Nat}
    (hvalues : fields.values number = value.toList) :
    fields.last number default read = some a := by
  rw [Fields.last, hvalues]
  cases value with
  | none => exact congrArg some (h.omitted rfl)
  | some v => simp [(h.written v rfl).1]

end Recalls

/-! ## Rows of fields -/

section Rows

variable {number field : Nat} {value : Option Value} {s t : Bytes} {f g : Fields}

@[simp] theorem Fields.values_append (f g : Fields) (field : Nat) :
    Fields.values (f ++ g) field = f.values field ++ g.values field := by
  simp [Fields.values]

theorem values_optional (number : Nat) (value : Option Value) (field : Nat) :
    (optional number value).values field = if number = field then value.toList else [] := by
  unfold optional Fields.values
  cases value with
  | none => simp
  | some v => by_cases h : number = field <;> simp [h]

theorem IsMessage.append (hs : IsMessage s f) (ht : IsMessage t g) :
    IsMessage (s ++ t) (f ++ g) := by
  induction hs with
  | nil => exact ht
  | cons hk hv _ ih =>
    rw [List.append_assoc]
    exact .cons hk hv ih

/-- One field. -/
theorem isMessage_field {k v : Bytes} {key : Key} {value : Value} (hk : IsKey k key)
    (hv : IsValue key v value) : IsMessage (k ++ v) [(key.field, value)] := by
  have h : IsMessage (k ++ v ++ []) [(key.field, value)] := .cons hk hv .nil
  rwa [List.append_nil] at h

theorem isKey_putKey {key : Key} (hpositive : 0 < key.field) (hsmall : key.field ≤ maxField) :
    IsKey (putKey key) key :=
  ⟨isVarint_putVarint _, hpositive, hsmall⟩

theorem isSized_putSized {b : Bytes} (h : b.length < UInt64.size) : IsSized (putSized b) b :=
  .behind (isVarint_putVarint _) (UInt64.toNat_ofNat_of_lt' h).symm

theorem length_le_putPart (number : Nat) (b : Bytes) : b.length ≤ (putPart number b).length := by
  simp only [putPart, putSized, List.length_append]
  omega

theorem length_le_putBytes (number : Nat) (b : Bytes) :
    b.length ≤ (putBytes number b).length := by
  cases b with
  | nil => exact Nat.zero_le _
  | cons first rest => exact length_le_putPart number (first :: rest)

variable (hpositive : 0 < number) (hsmall : number ≤ maxField)
include hpositive hsmall

theorem isMessage_putInt (n : Int) :
    IsMessage (putInt number n) (optional number (intValue n)) := by
  unfold putInt intValue
  split
  · exact .nil
  · exact isMessage_field (isKey_putKey hpositive hsmall) (.number (isVarint_putVarint _))

theorem isMessage_putFlag (b : Bool) :
    IsMessage (putFlag number b) (optional number (flagValue b)) := by
  cases b with
  | false => exact .nil
  | true => exact isMessage_field (isKey_putKey hpositive hsmall) (.number (isVarint_putVarint _))

theorem isMessage_putPart {b : Bytes} (hsize : b.length < UInt64.size) :
    IsMessage (putPart number b) (optional number (some (.sized b))) :=
  isMessage_field (isKey_putKey hpositive hsmall) (.sized (isSized_putSized hsize))

theorem isMessage_putBytes {b : Bytes} (hsize : b.length < UInt64.size) :
    IsMessage (putBytes number b) (optional number (bytesValue b)) := by
  unfold putBytes bytesValue
  split
  · exact .nil
  · exact isMessage_putPart hpositive hsmall hsize

end Rows

/-! ## Responses by their fields -/

/-- The fields of a moment. -/
def timestampFields (t : Timestamp) : Fields :=
  optional 1 (intValue t.seconds) ++ optional 2 (intValue t.nanos)

/-- The fields of a notification. -/
def notificationFields (n : NotificationView) : Fields :=
  optional 1 (intValue n.id) ++ optional 2 (intValue n.userId) ++ optional 3 (textValue n.kind) ++
    optional 4 (flagValue n.isRead) ++ optional 5 (some (.sized (encodeTimestamp n.createdAt))) ++
    optional 6 (bytesValue n.payload)

/-- The fields of a page of a feed. -/
def feedFields (feed : FeedView) : Fields :=
  feed.notifications.flatMap (fun n => optional 1 (some (.sized (encodeNotification n)))) ++
    optional 2 (intValue feed.totalCount)

theorem isMessage_encodeTimestamp (t : Timestamp) :
    IsMessage (encodeTimestamp t) (timestampFields t) :=
  (isMessage_putInt (by decide) (by decide) t.seconds).append
    (isMessage_putInt (by decide) (by decide) t.nanos)

theorem isMessage_encodeNotification {n : NotificationView}
    (hsize : (encodeNotification n).length < UInt64.size) :
    IsMessage (encodeNotification n) (notificationFields n) := by
  have hkindSize := length_le_putBytes 3 n.kind.toUTF8.toList
  have hmomentSize := length_le_putPart 5 (encodeTimestamp n.createdAt)
  have hpayloadSize := length_le_putBytes 6 n.payload
  simp only [encodeNotification, putText, List.length_append] at hsize
  have hid : IsMessage (putInt 1 n.id) _ := isMessage_putInt (by decide) (by decide) n.id
  have huser : IsMessage (putInt 2 n.userId) _ := isMessage_putInt (by decide) (by decide) n.userId
  have hkind : IsMessage (putText 3 n.kind) (optional 3 (textValue n.kind)) :=
    isMessage_putBytes (by decide) (by decide) (by omega)
  have hread : IsMessage (putFlag 4 n.isRead) _ :=
    isMessage_putFlag (by decide) (by decide) n.isRead
  have hmoment : IsMessage (putPart 5 (encodeTimestamp n.createdAt)) _ :=
    isMessage_putPart (by decide) (by decide) (by omega)
  have hpayload : IsMessage (putBytes 6 n.payload) _ :=
    isMessage_putBytes (by decide) (by decide) (by omega)
  exact ((((hid.append huser).append hkind).append hread).append hmoment).append hpayload

theorem isMessage_encodeFeed {feed : FeedView}
    (hsize : ∀ n ∈ feed.notifications, (encodeNotification n).length < UInt64.size) :
    IsMessage (encodeFeed feed) (feedFields feed) := by
  obtain ⟨notifications, total⟩ := feed
  refine IsMessage.append ?_ (isMessage_putInt (by decide) (by decide) total)
  induction notifications with
  | nil => exact .nil
  | cons n rest ih =>
    have hfirst : IsMessage (putPart 1 (encodeNotification n)) _ :=
      isMessage_putPart (by decide) (by decide) (hsize n List.mem_cons_self)
    exact hfirst.append (ih fun m hm => hsize m (List.mem_cons_of_mem _ hm))

/-! ## Reading them back -/

/-- **A notification that can be shown**: its numbers have 64 bits and so has the number of its
bytes, and its moment is one. -/
structure IsShown (n : NotificationView) : Prop where
  id : IsInt64 n.id
  userId : IsInt64 n.userId
  moment : ∃ t : Instant, IsInt64 t.unixSeconds ∧ t.timestamp = n.createdAt
  size : (encodeNotification n).length < UInt64.size

theorem decodeTimestamp_encodeTimestamp {t : Instant} (h : IsInt64 t.unixSeconds) :
    decodeTimestamp (encodeTimestamp t.timestamp) = some t.timestamp := by
  have hmin : 0 ≤ t.subsecond := Int.emod_nonneg _ (by decide)
  have hmax : t.subsecond < 1000000000 := Int.emod_lt_of_pos _ (by decide)
  have hseconds : (timestampFields t.timestamp).last 1 0 Value.int64? = some t.unixSeconds :=
    (recalls_int h).last (by simp [timestampFields, values_optional, Instant.timestamp])
  have hnanos : (timestampFields t.timestamp).last 2 0 Value.int32? =
      some (toInt32 (ofInt t.subsecond)) :=
    (recalls_int32 hmin (by omega)).last
      (by simp [timestampFields, values_optional, Instant.timestamp])
  have hback : (toInt32 (ofInt t.subsecond)).toInt = t.subsecond :=
    toInt32_ofInt (by omega) (by omega)
  simp only [decodeTimestamp, fieldsOf_eq_some.2 (isMessage_encodeTimestamp t.timestamp),
    Option.bind_eq_bind, Option.bind_some, hseconds, hnanos, hback]
  rfl

theorem decodeNotification_encodeNotification {n : NotificationView} (h : IsShown n) :
    decodeNotification (encodeNotification n) = some n := by
  obtain ⟨t, ht, hmoment⟩ := h.moment
  have hid : (notificationFields n).last 1 0 Value.int64? = some n.id :=
    (recalls_int h.id).last (by simp [notificationFields, values_optional])
  have huser : (notificationFields n).last 2 0 Value.int64? = some n.userId :=
    (recalls_int h.userId).last (by simp [notificationFields, values_optional])
  have hkind : (notificationFields n).last 3 "" Value.text? = some n.kind :=
    (recalls_text n.kind).last (by simp [notificationFields, values_optional])
  have hread : (notificationFields n).last 4 false Value.flag? = some n.isRead :=
    (recalls_flag n.isRead).last (by simp [notificationFields, values_optional])
  have hpart : (notificationFields n).last 5 none (·.bytes?.map some) =
      some (some (encodeTimestamp n.createdAt)) := by
    simp [Fields.last, notificationFields, values_optional, Value.bytes?]
  have hpayload : (notificationFields n).last 6 [] Value.bytes? = some n.payload :=
    (recalls_bytes n.payload).last (by simp [notificationFields, values_optional])
  have hback : decodeTimestamp (encodeTimestamp n.createdAt) = some n.createdAt := by
    rw [← hmoment]
    exact decodeTimestamp_encodeTimestamp ht
  simp only [decodeNotification, fieldsOf_eq_some.2 (isMessage_encodeNotification h.size),
    Option.bind_eq_bind, Option.bind_some, hid, huser, hkind, hread, hpart, hpayload, hback]
  rfl

theorem mapM_decodeNotification {notifications : List NotificationView}
    (h : ∀ n ∈ notifications, IsShown n) :
    (notifications.map encodeNotification).mapM decodeNotification = some notifications := by
  induction notifications with
  | nil => rfl
  | cons n rest ih =>
    have hfirst : decodeNotification (encodeNotification n) = some n :=
      decodeNotification_encodeNotification (h n List.mem_cons_self)
    have hrest : (rest.map encodeNotification).mapM decodeNotification = some rest :=
      ih fun m hm => h m (List.mem_cons_of_mem _ hm)
    rw [List.map_cons, List.mapM_cons, hfirst, hrest]
    rfl

theorem mapM_bytes? (parts : List Bytes) :
    (parts.map Value.sized).mapM Value.bytes? = some parts := by
  induction parts with
  | nil => rfl
  | cons b rest ih =>
    rw [List.map_cons, List.mapM_cons, ih]
    rfl

theorem values_feedFields (feed : FeedView) (field : Nat) :
    (feedFields feed).values field =
      (if 1 = field then (feed.notifications.map encodeNotification).map Value.sized else []) ++
        if 2 = field then (intValue feed.totalCount).toList else [] := by
  rw [feedFields, Fields.values_append, values_optional]
  congr 1
  induction feed.notifications with
  | nil => simp [Fields.values]
  | cons n rest ih =>
    rw [List.flatMap_cons, Fields.values_append, values_optional, ih]
    by_cases h : 1 = field <;> simp [h]

/-- **Each notification of a page is read in its place.** -/
theorem decodeFeed_encodeFeed {feed : FeedView} (h : ∀ n ∈ feed.notifications, IsShown n)
    (htotal : IsInt64 feed.totalCount) : decodeFeed (encodeFeed feed) = some feed := by
  have hmessage : IsMessage (encodeFeed feed) (feedFields feed) :=
    isMessage_encodeFeed fun n hn => (h n hn).size
  have hparts : (feedFields feed).values 1 =
      (feed.notifications.map encodeNotification).map Value.sized := by
    simp [values_feedFields]
  have hcount : (feedFields feed).last 2 0 Value.int64? = some feed.totalCount :=
    (recalls_int htotal).last (by simp [values_feedFields])
  simp only [decodeFeed, fieldsOf_eq_some.2 hmessage, Option.bind_eq_bind, Option.bind_some,
    hparts, mapM_bytes?, mapM_decodeNotification h, hcount]
  rfl

/-! ## What is left out -/

/-- No field has the default of its type, those apart whose numbers are in `parts`. -/
def OmitsDefaults (parts : List Nat) (fields : Fields) : Prop :=
  ∀ field ∈ fields, field.1 ∉ parts → ¬ field.2.IsDefault

section OmitsDefaults

variable {parts : List Nat} {f g : Fields} {number : Nat}

theorem OmitsDefaults.append (hf : OmitsDefaults parts f) (hg : OmitsDefaults parts g) :
    OmitsDefaults parts (f ++ g) :=
  fun field h => (List.mem_append.1 h).elim (hf field) (hg field)

/-- A scalar is left out where it is the default. -/
theorem Recalls.omitsDefaults {α : Type} {value : Option Value} {default a : α}
    {read : Value → Option α} (h : Recalls value default read a) (number : Nat)
    (parts : List Nat) : OmitsDefaults parts (optional number value) := by
  intro field hfield _
  obtain ⟨v, hv, rfl⟩ := List.mem_map.1 hfield
  exact (h.written v (Option.mem_toList.1 hv)).2

/-- A message within a message is there. -/
theorem omitsDefaults_part (h : number ∈ parts) (value : Option Value) :
    OmitsDefaults parts (optional number value) := by
  intro field hfield hout
  obtain ⟨v, -, rfl⟩ := List.mem_map.1 hfield
  exact absurd h hout

theorem omitsDefaults_feed {notifications : List NotificationView} :
    OmitsDefaults [1]
      (notifications.flatMap fun n => optional 1 (some (.sized (encodeNotification n)))) := by
  intro field hfield
  obtain ⟨n, -, hn⟩ := List.mem_flatMap.1 hfield
  exact omitsDefaults_part List.mem_cons_self _ field hn

end OmitsDefaults

/-- **How a notification is laid out**: a scalar that is a default is left out, and the moment is
there, laid out in the same way. -/
def IsNotification (s : Bytes) : Prop :=
  ∃ fields moment inner, IsMessage s fields ∧ OmitsDefaults [5] fields ∧
    fields.values 5 = [.sized moment] ∧ IsMessage moment inner ∧ OmitsDefaults [] inner

/-- **How a response is laid out**: so is a notification, by itself and on a page. -/
def IsLaidOut : Method → Bytes → Prop
  | .details, s => IsNotification s
  | .feed, s => ∃ (fields : Fields) (parts : List Bytes), IsMessage s fields ∧
      OmitsDefaults [1] fields ∧ fields.values 1 = parts.map Value.sized ∧
      ∀ part ∈ parts, IsNotification part
  | .send, s | .unread, s => ∃ fields, IsMessage s fields ∧ OmitsDefaults [] fields
  | .read, s | .readAll, s | .remove, s => s = []

theorem isNotification_encodeNotification {n : NotificationView} (h : IsShown n) :
    IsNotification (encodeNotification n) := by
  obtain ⟨t, ht, hmoment⟩ := h.moment
  have hnanos : IsInt64 t.subsecond := by
    have hmin : 0 ≤ t.subsecond := Int.emod_nonneg _ (by decide)
    have hmax : t.subsecond < 1000000000 := Int.emod_lt_of_pos _ (by decide)
    rw [IsInt64, Int64.toInt_minValue, Int64.toInt_maxValue]
    omega
  refine ⟨notificationFields n, encodeTimestamp n.createdAt, timestampFields n.createdAt,
    isMessage_encodeNotification h.size, ?_, ?_, isMessage_encodeTimestamp _, ?_⟩
  · have hid := (recalls_int h.id).omitsDefaults 1 [5]
    have huser := (recalls_int h.userId).omitsDefaults 2 [5]
    have hkind := (recalls_text n.kind).omitsDefaults 3 [5]
    have hread := (recalls_flag n.isRead).omitsDefaults 4 [5]
    have hpart : OmitsDefaults [5] (optional 5 (some (.sized (encodeTimestamp n.createdAt)))) :=
      omitsDefaults_part List.mem_cons_self _
    have hpayload := (recalls_bytes n.payload).omitsDefaults 6 [5]
    exact ((((hid.append huser).append hkind).append hread).append hpart).append hpayload
  · simp [notificationFields, values_optional]
  · rw [← hmoment]
    exact ((recalls_int ht).omitsDefaults 1 []).append ((recalls_int hnanos).omitsDefaults 2 [])

/-! ## Every response -/

/-- **What a request of a method can be answered with.** -/
def IsAnswer : (method : Method) → method.Response → Prop
  | .send, n | .unread, n => IsInt64 n
  | .details, notification => IsShown notification
  | .feed, feed => (∀ n ∈ feed.notifications, IsShown n) ∧ IsInt64 feed.totalCount
  | .read, _ | .readAll, _ | .remove, _ => True

section Responses

variable {method : Method} {response other : method.Response}

theorem decodeResponse_encodeResponse (h : IsAnswer method response) :
    decodeResponse method (encodeResponse method response) = some response := by
  cases method with
  | send | unread =>
    have hmessage : IsMessage (putInt 1 response) (optional 1 (intValue response)) :=
      isMessage_putInt (by decide) (by decide) response
    simp only [decodeResponse, encodeResponse, fieldsOf_eq_some.2 hmessage, Option.bind_eq_bind,
      Option.bind_some]
    exact (recalls_int h).last (by simp [values_optional])
  | details => exact decodeNotification_encodeNotification h
  | feed => exact decodeFeed_encodeFeed h.1 h.2
  | read | readAll | remove => rfl

theorem isLaidOut_encodeResponse (h : IsAnswer method response) :
    IsLaidOut method (encodeResponse method response) := by
  cases method with
  | send | unread =>
    exact ⟨_, isMessage_putInt (by decide) (by decide) response, (recalls_int h).omitsDefaults 1 []⟩
  | details => exact isNotification_encodeNotification h
  | feed =>
    have hmessage := isMessage_encodeFeed fun n hn => (h.1 n hn).size
    have hcount := (recalls_int h.2).omitsDefaults 2 [1]
    refine ⟨feedFields response, response.notifications.map encodeNotification, hmessage,
      omitsDefaults_feed.append hcount, by simp [values_feedFields], fun part hpart => ?_⟩
    obtain ⟨n, hn, rfl⟩ := List.mem_map.1 hpart
    exact isNotification_encodeNotification (h.1 n hn)
  | read | readAll | remove => rfl

/-- **Nothing of a response is lost on the wire.** What a request can be
answered with is read back exactly as it was, each notification of a page in
its place. Scalars that are defaults are left out of the bytes and the moment
of a notification is always in them. So no two answers of one method have the
same bytes. -/
theorem response_read_back (h : IsAnswer method response) :
    decodeResponse method (encodeResponse method response) = some response ∧
      IsLaidOut method (encodeResponse method response) ∧
      ∀ other, IsAnswer method other →
        encodeResponse method other = encodeResponse method response → other = response := by
  have hback := decodeResponse_encodeResponse h
  refine ⟨hback, isLaidOut_encodeResponse h, fun other hother hbytes => ?_⟩
  have hback' := decodeResponse_encodeResponse hother
  rw [hbytes, hback] at hback'
  exact (Option.some.inj hback').symm

end Responses

/-- A page with a notification from before 1970 and one whose fields are all defaults. -/
def oldPage : FeedView where
  notifications :=
    [⟨-1, 7, "like", true, ⟨-1, 999999999⟩, [0]⟩, ⟨0, 0, "", false, ⟨0, 0⟩, []⟩]
  totalCount := -2

theorem response_read_back_oldPage :
    IsAnswer .feed oldPage ∧
      decodeResponse .feed (encodeResponse .feed oldPage) = some oldPage := by
  have hold : IsShown ⟨-1, 7, "like", true, ⟨-1, 999999999⟩, [0]⟩ :=
    ⟨by decide, by decide, ⟨⟨-1⟩, by decide, rfl⟩, by decide +kernel⟩
  have hblank : IsShown ⟨0, 0, "", false, ⟨0, 0⟩, []⟩ :=
    ⟨by decide, by decide, ⟨⟨0⟩, by decide, rfl⟩, by decide +kernel⟩
  have hpage : IsAnswer .feed oldPage := by
    refine ⟨fun n hn => ?_, by decide⟩
    rcases List.mem_cons.1 hn with rfl | hn
    · exact hold
    · obtain rfl := List.mem_singleton.1 hn
      exact hblank
  exact ⟨hpage, (response_read_back hpage).1⟩

end Wire

end NotificationFeed
