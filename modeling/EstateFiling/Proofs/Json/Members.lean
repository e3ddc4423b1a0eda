import EstateFiling.Proofs.Json.Records

/-!
# Objects with known members

An object whose members are of a known sort, with no name given twice
(`Json.HasMembers`), is determined by what stands under each of the names
(`Json.perm_given`).  So a record is decoded from it as from its members in the order of the
fields, whichever of them are given (`Json.HasMembers.decodeRecord_eq`,
`Json.Fills.looked`).
-/

namespace EstateFiling.Json

/-- An object that gives no name twice, and each name with a value of a sort. -/
def HasMembers (Member : String → Json → Prop) (j : Json) : Prop :=
  ∃ ms, j = .object ms ∧ (ms.map Prod.fst).Nodup ∧ ∀ m ∈ ms, Member m.1 m.2

/-- The members of an object with some names, in the order of the names. -/
def given (j : Json) (names : List String) : List (String × Json) :=
  names.flatMap fun name => ((j.get? name).map (Prod.mk name)).toList

variable {Member : String → Json → Prop} {j : Json} {names : List String}
  {ms : List (String × Json)}

/-! ## Members -/

theorem mem_iff_lookup_eq_some (once : (ms.map Prod.fst).Nodup) (name : String) (value : Json) :
    (name, value) ∈ ms ↔ ms.lookup name = some value := by
  induction ms with
  | nil => exact iff_of_false List.not_mem_nil fun found => nomatch found
  | cons m ms ih =>
    obtain ⟨new, once⟩ := List.nodup_cons.mp once
    rw [List.mem_cons, List.lookup_cons, ih once]
    cases same : name == m.1 with
    | true =>
      obtain rfl := beq_iff_eq.mp same
      have gone : ms.lookup m.1 ≠ some value := fun found =>
        new (List.mem_map.mpr ⟨_, (ih once).mpr found, rfl⟩)
      rw [or_iff_left gone, Option.some.injEq, eq_comm]
      exact ⟨fun h => congrArg Prod.snd h, fun h => Prod.ext rfl h⟩
    | false =>
      refine or_iff_right fun h => ?_
      rw [← h, beq_self_eq_true] at same
      cases same

theorem mem_given_iff (name : String) (value : Json) :
    (name, value) ∈ j.given names ↔ name ∈ names ∧ j.get? name = some value := by
  simp only [given, List.mem_flatMap, Option.mem_toList, Option.map_eq_some_iff, Prod.mk.injEq]
  constructor
  · rintro ⟨_, known, _, found, rfl, rfl⟩
    exact ⟨known, found⟩
  · rintro ⟨known, found⟩
    exact ⟨name, known, value, found, rfl, rfl⟩

theorem names_given_sublist (j : Json) (names : List String) :
    ((j.given names).map Prod.fst).Sublist names := by
  induction names with
  | nil => exact List.Sublist.refl []
  | cons name names ih =>
    have first : (j.given (name :: names)).map Prod.fst
        = ((j.get? name).map fun _ => name).toList ++ (j.given names).map Prod.fst := by
      rw [given, List.flatMap_cons, List.map_append]
      cases j.get? name <;> rfl
    rw [first]
    cases j.get? name with
    | none => exact ih.cons name
    | some _ => exact ih.cons_cons name

/-- Nothing of an object is outside its members of the names that it may give. -/
theorem perm_given (distinct : names.Nodup) (once : (ms.map Prod.fst).Nodup)
    (known : ∀ m ∈ ms, m.1 ∈ names) : ms.Perm ((Json.object ms).given names) := by
  have kept := distinct.sublist (names_given_sublist (.object ms) names)
  rw [List.perm_ext_iff_of_nodup once.of_map kept.of_map]
  rintro ⟨name, value⟩
  rw [mem_given_iff, mem_iff_lookup_eq_some once]
  refine (and_iff_right_of_imp fun found => ?_).symm
  exact known _ ((mem_iff_lookup_eq_some once name value).mpr found)

namespace HasMembers

/-- What stands under a name is of its sort. -/
theorem member (h : HasMembers Member j) {name : String} {value : Json}
    (found : j.get? name = some value) : Member name value := by
  obtain ⟨ms, rfl, once, sorts⟩ := h
  exact sorts _ ((mem_iff_lookup_eq_some once name value).mpr found)

theorem get?_eq_none (h : HasMembers Member j) {name : String}
    (foreign : ∀ value, ¬ Member name value) : j.get? name = none :=
  Option.eq_none_iff_forall_ne_some.mpr fun value found => foreign value (h.member found)

/-- An object with the members of a record is decoded like its members in the order of the
fields. -/
theorem decodeRecord_eq {α : Type} {start r : α} {fields : List (Field α)}
    (h : HasMembers Member j) (lawful : Lawful fields)
    (known : ∀ name value, Member name value → name ∈ fields.map Field.name)
    (fill : Fills .asWritten fields (j.given (fields.map Field.name)) start r) :
    decodeRecord start fields j.source = .ok r := by
  obtain ⟨ms, rfl, once, sorts⟩ := h
  refine decodeRecord_of_arranges lawful fill ?_
  have perm := perm_given lawful.distinct once fun m hm => known _ _ (sorts m hm)
  rw [Arrangement.Arranges]
  exact perm.trans (List.Perm.of_eq (List.map_id _).symm)

end HasMembers

/-! ## Fields that may be given -/

/-- A value that is not null is not missing. -/
theorem Decodes.present {α : Type} {f : Arrangement} {decode : Decoder α} {j : Json} {a : α}
    (present : j.isNull = false) (h : Decodes f decode j a) :
    Decodes f (decodeOption decode) j (some a) := by
  have lone : Decodes f (decodeOption decode) (.optional (fun _ : α => j) (some a)) (some a) := by
    refine .optional fun b same => ?_
    obtain rfl := Option.some.inj same
    exact ⟨present, h⟩
  exact lone

/-- A field with a default, whether it is given or not. -/
theorem Fills.looked {α β : Type} {f : Arrangement} {fields : List (Field α)} {name : String}
    {decode : Decoder β} {put : α → β → α} {x : Option Json} {b : β} {r r' : α}
    (given : ∀ j ∈ x, Decodes f decode j b) (missing : x = none → put r b = r)
    (rest : Fills f fields ms (put r b) r') :
    Fills f (Field.withDefault name decode put :: fields)
      ((x.map (Prod.mk name)).toList ++ ms) r r' := by
  cases x with
  | none =>
    rw [missing rfl] at rest
    exact .omitted rfl rest
  | some j => exact .given (given j rfl) rest

end EstateFiling.Json
