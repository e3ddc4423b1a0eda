import EstateFiling.Text.Utf8

/-!
# Text in bytes comes back

The bytes of a text are those of its characters (`Text.toUtf8_eq_flatMap`), and they encode
that text (`Text.ofUtf8?_toUtf8`).  A byte below 128 is the whole of the character with that
code and part of no other (`Text.eq_of_mem_utf8EncodeChar`), so bytes can be searched for
such a character.
-/

namespace EstateFiling.Text

theorem toList_loop_eq (bytes : ByteArray) (i : Nat) (before : List UInt8) :
    ByteArray.toList.loop bytes i before = before.reverse ++ bytes.data.toList.drop i := by
  fun_induction ByteArray.toList.loop bytes i before with
  | case1 i before inside ih =>
    have inside' : i < bytes.data.toList.length := inside
    have byte : bytes.get! i = bytes.data.toList[i] :=
      (getElem!_pos bytes.data i inside).trans (Array.getElem_toList inside).symm
    rw [ih, byte, List.reverse_cons, List.append_assoc, List.drop_eq_getElem_cons inside']
    rfl
  | case2 i before outside =>
    have outside' : bytes.data.toList.length ≤ i := Nat.le_of_not_lt outside
    rw [List.drop_eq_nil_of_le outside', List.append_nil]

theorem toList_eq_toList_data (bytes : ByteArray) : bytes.toList = bytes.data.toList := by
  rw [ByteArray.toList, toList_loop_eq]
  rfl

/-- The bytes of a text are those of its characters. -/
theorem toUtf8_ofList (cs : List Char) :
    toUtf8 (String.ofList cs) = cs.flatMap String.utf8EncodeChar := by
  rw [toUtf8, String.toUTF8_eq_toByteArray, String.toByteArray_ofList, toList_eq_toList_data,
    List.utf8Encode, List.toList_data_toByteArray]

theorem toUtf8_eq_flatMap (s : String) : toUtf8 s = s.toList.flatMap String.utf8EncodeChar := by
  rw [← toUtf8_ofList, String.ofList_toList]

/-- The bytes of a text encode it. -/
theorem ofUtf8?_toUtf8 (s : String) : ofUtf8? (toUtf8 s) = some s := by
  have bytes : s.toUTF8.toList.toByteArray = s.toByteArray := by
    rw [toList_eq_toList_data]
    exact ByteArray.ext (by rw [List.data_toByteArray, Array.toArray_toList]; rfl)
  rw [ofUtf8?, toUtf8, bytes, String.fromUTF8?, dif_pos s.isValidUTF8]
  rfl

/-- Bytes encode a text exactly if they are its bytes. -/
theorem ofUtf8?_eq_some_iff {bytes : List UInt8} {s : String} :
    ofUtf8? bytes = some s ↔ toUtf8 s = bytes := by
  refine ⟨fun h => ?_, fun h => h ▸ ofUtf8?_toUtf8 s⟩
  unfold ofUtf8? String.fromUTF8? at h
  split at h
  · cases h
    have whole : (String.fromUTF8 bytes.toByteArray ‹_›).toUTF8 = bytes.toByteArray := rfl
    rw [toUtf8, whole, toList_eq_toList_data, List.data_toByteArray]
  · cases h

theorem toUtf8_injective : Function.Injective toUtf8 := by
  intro s s' same
  have decoded := ofUtf8?_toUtf8 s
  rw [same, ofUtf8?_toUtf8] at decoded
  exact (Option.some.inj decoded).symm

/-- The bytes of a character with a code from 128 on are so too. -/
theorem le_toNat_of_mem_utf8EncodeChar {b : UInt8} {c : Char} (large : 128 ≤ c.toNat)
    (h : b ∈ String.utf8EncodeChar c) : 128 ≤ b.toNat := by
  have several : ¬ c.val.toNat ≤ 127 := Nat.not_le.mpr large
  unfold String.utf8EncodeChar at h
  dsimp only at h
  rw [if_neg several] at h
  split at h
  · simp only [List.mem_cons, List.not_mem_nil, or_false] at h
    rcases h with rfl | rfl <;> rw [UInt8.toNat_ofNat'] <;> omega
  · split at h
    · simp only [List.mem_cons, List.not_mem_nil, or_false] at h
      rcases h with rfl | rfl | rfl <;> rw [UInt8.toNat_ofNat'] <;> omega
    · simp only [List.mem_cons, List.not_mem_nil, or_false] at h
      rcases h with rfl | rfl | rfl | rfl <;> rw [UInt8.toNat_ofNat'] <;> omega

/-- A character with a code below 128 is one byte. -/
theorem utf8EncodeChar_of_lt {c : Char} (small : c.toNat < 128) :
    String.utf8EncodeChar c = [UInt8.ofNat c.toNat] :=
  if_pos (Nat.le_of_lt_succ small)

/-- A byte below 128 is the whole of one character and part of no other. -/
theorem eq_of_mem_utf8EncodeChar {b : UInt8} {c : Char} (small : b.toNat < 128)
    (h : b ∈ String.utf8EncodeChar c) : c.toNat = b.toNat := by
  rcases Nat.lt_or_ge c.toNat 128 with ascii | large
  · rw [utf8EncodeChar_of_lt ascii] at h
    obtain rfl := List.mem_singleton.mp h
    rw [UInt8.toNat_ofNat']
    omega
  · exact absurd (le_toNat_of_mem_utf8EncodeChar large h) (Nat.not_le.mpr small)

end EstateFiling.Text
