import EstateFiling.Proofs.Json.Records

/-!
# What decoding keeps

A property of the record to start with that is kept when a field is put
(`Json.Field.Keeps`) holds of every record that is decoded, from an object or from a list
(`Json.decodeRecord_keeps`).  What stands in a decoded list or is not missing was decoded
itself.
-/

namespace EstateFiling.Json

variable {α β : Type} {P : α → Prop}

/-! ## Fields -/

/-- Putting the field keeps a property of the record. -/
def Field.Keeps (P : α → Prop) (g : Field α) : Prop :=
  ∀ s change, g.decode s = .ok change → ∀ r, P r → P (change r)

theorem Field.Keeps.make {isRequired : Bool} {name : String} {decode : Decoder β}
    {put : α → β → α} (h : ∀ s b, decode s = .ok b → ∀ r, P r → P (put r b)) :
    (Field.make isRequired name decode put).Keeps P := by
  intro s change decoded
  obtain ⟨b, value, rfl⟩ := Field.exists_of_decode_make decoded
  exact h s b value

/-! ## Records -/

theorem Field.Keeps.readMembers {fields : List (Field α)} (keeps : ∀ g ∈ fields, g.Keeps P)
    {ms : List (Option String × Source)} {given given' : List String} {r r' : α}
    (h : Json.readMembers fields given r ms = .ok (given', r')) (start : P r) : P r' := by
  induction ms generalizing given r with
  | nil =>
    rw [Json.readMembers] at h
    obtain ⟨rfl, rfl⟩ := Prod.mk.inj (Except.ok.inj h)
    exact start
  | cons m ms ih =>
    obtain ⟨_ | name, value⟩ := m
    · rw [Json.readMembers] at h
      cases h
    · rw [Json.readMembers] at h
      split at h
      · exact ih h start
      · rename_i g found
        split at h
        · cases h
        · obtain ⟨change, decoded, h⟩ := exists_of_bind_ok h
          exact ih h (keeps g (List.mem_of_find?_eq_some found) value change decoded r start)

theorem Field.Keeps.readItems {fields left : List (Field α)} (keeps : ∀ g ∈ fields, g.Keeps P)
    {items : List Source} {r r' : α}
    (h : Json.readItems fields r items = .ok (left, r')) (start : P r) : P r' := by
  induction items generalizing fields r with
  | nil =>
    rw [Json.readItems] at h
    obtain ⟨rfl, rfl⟩ := Prod.mk.inj (Except.ok.inj h)
    exact start
  | cons item items ih =>
    cases fields with
    | nil =>
      rw [Json.readItems] at h
      cases h
    | cons g fields =>
      obtain ⟨first, others⟩ := List.forall_mem_cons.mp keeps
      rw [Json.readItems] at h
      obtain ⟨change, decoded, h⟩ := exists_of_bind_ok h
      exact ih others h (first item change decoded r start)

theorem eq_of_whole_ok {r r' : α} {closed : Bool} {missing : List (Field α)}
    (h : whole r closed missing = .ok r') : r = r' := by
  unfold whole at h
  split at h
  · cases h
  · split at h
    · cases h
    · exact Except.ok.inj h

/-- What holds of the record to start with and is kept by each field holds of every decoded
record. -/
theorem decodeRecord_keeps {start r : α} {fields : List (Field α)} {s : Source}
    (h : decodeRecord start fields s = .ok r) (base : P start) (keeps : ∀ g ∈ fields, g.Keeps P) :
    P r := by
  unfold decodeRecord at h
  split at h
  · obtain ⟨⟨given, made⟩, read, ended⟩ := exists_of_bind_ok h
    exact eq_of_whole_ok ended ▸ Field.Keeps.readMembers keeps read base
  · obtain ⟨⟨left, made⟩, read, ended⟩ := exists_of_bind_ok h
    exact eq_of_whole_ok ended ▸ Field.Keeps.readItems keeps read base
  · cases h

/-! ## Lists and missing values -/

theorem exists_of_mem_mapM {decode : Decoder β} {items : List Source} {bs : List β}
    (h : items.mapM decode = .ok bs) {b : β} (hb : b ∈ bs) : ∃ s, decode s = .ok b := by
  induction items generalizing bs with
  | nil =>
    cases h
    cases hb
  | cons item items ih =>
    rw [List.mapM_cons] at h
    obtain ⟨first, decoded, h⟩ := exists_of_bind_ok h
    obtain ⟨others, rest, same⟩ := exists_of_bind_ok h
    cases same
    rcases List.mem_cons.mp hb with rfl | hb
    · exact ⟨item, decoded⟩
    · exact ih rest hb

/-- Each item of a decoded list was decoded. -/
theorem exists_of_mem_decodeList {decode : Decoder β} {s : Source} {bs : List β}
    (h : decodeList decode s = .ok bs) {b : β} (hb : b ∈ bs) : ∃ s', decode s' = .ok b := by
  unfold decodeList at h
  split at h
  · obtain ⟨values, decoded, ended⟩ := exists_of_bind_ok h
    split at ended
    · cases ended
      exact exists_of_mem_mapM decoded hb
    · cases ended
  · cases h

/-- A value that is not missing was decoded. -/
theorem exists_of_mem_decodeOption {decode : Decoder β} {s : Source} {x : Option β}
    (h : decodeOption decode s = .ok x) {b : β} (hb : b ∈ x) : ∃ s', decode s' = .ok b := by
  unfold decodeOption at h
  split at h
  · cases h
    cases hb
  · obtain ⟨b', decoded, same⟩ := exists_of_bind_ok h
    cases same
    cases hb
    exact ⟨s, decoded⟩

end EstateFiling.Json
