import Mathlib.Data.List.Basic
import NotificationFeed.Notification
/-!
# Texts and their bytes

Wherever a text leaves the service it leaves as its bytes in UTF-8, and it
comes back as the text that those bytes encode. A text that went out comes
back.
-/

namespace NotificationFeed

theorem toList_loop (b : ByteArray) (i : Nat) (r : Bytes) :
    ByteArray.toList.loop b i r = r.reverse ++ b.data.toList.drop i := by
  fun_induction ByteArray.toList.loop b i r with
  | case1 i r hi ih =>
    have hlength : i < b.data.toList.length := hi
    have hget : b.get! i = b.data.toList[i] := getElem!_pos b.data i hi
    rw [ih, List.reverse_cons, List.append_assoc, hget, List.singleton_append,
      ← List.drop_eq_getElem_cons]
  | case2 i r hi =>
    have hlength : b.data.toList.length ≤ i := Nat.le_of_not_lt hi
    rw [List.drop_eq_nil_of_le hlength, List.append_nil]

theorem toArray_toList (b : ByteArray) : (⟨b.toList.toArray⟩ : ByteArray) = b := by
  rw [ByteArray.toList, toList_loop]
  rfl

/-- **A text is what its bytes are read as.** -/
theorem fromUTF8?_toUTF8 (t : String) : String.fromUTF8? ⟨t.toUTF8.toList.toArray⟩ = some t := by
  have hvalid : t.toUTF8.IsValidUTF8 := t.isValidUTF8
  rw [toArray_toList, String.fromUTF8?, dif_pos hvalid]
  rfl

/-- And no other bytes are read as it. -/
theorem fromUTF8?_eq_some_iff {bytes : Bytes} {t : String} :
    String.fromUTF8? ⟨bytes.toArray⟩ = some t ↔ bytes = t.toUTF8.toList := by
  constructor
  · intro h
    rw [String.fromUTF8?] at h
    split at h
    · obtain rfl := Option.some.inj h
      rw [ByteArray.toList, toList_loop]
      rfl
    · cases h
  · rintro rfl
    exact fromUTF8?_toUTF8 t

/-- Two texts of the same bytes are one text. -/
theorem eq_of_toUTF8 {t t' : String} (h : t.toUTF8.toList = t'.toUTF8.toList) : t = t' :=
  Option.some.inj ((fromUTF8?_toUTF8 t).symm.trans (fromUTF8?_eq_some_iff.2 h))

end NotificationFeed
