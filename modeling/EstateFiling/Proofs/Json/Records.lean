import EstateFiling.Proofs.Failure.Chain
import EstateFiling.Proofs.Json.Canonical
import EstateFiling.Proofs.Json.Reading
import Mathlib.Data.List.Nodup
import Mathlib.Data.List.Pairwise

/-!
# Records come back from data

A decoder *takes* a value to a result in an arrangement of the members of its objects
(`Json.Decodes`).  Two arrangements matter: the order in which a value was written
(`Arrangement.asWritten`) and the order of the names (`Arrangement.canonical`).

A record comes back in every arrangement (`Decodes.record`) if its fields have different
names, if putting two of them does not depend on which is put first (`Lawful`), and if its
members in the order of the fields make it up (`Fills`).  The members of a record that is
arranged in some way are put in another order, and by independence that makes the same
record.
-/

namespace EstateFiling.Json

/-! ## Arrangements -/

/-- A way to arrange the members of objects. -/
structure Arrangement where
  /-- The value with its members arranged. -/
  apply : Json → Json
  /-- There is nothing to arrange in a scalar. -/
  scalar : ∀ j, j.array? = none → j.object? = none → apply j = j
  /-- Items keep their order. -/
  array : ∀ items, apply (.array items) = .array (items.map apply)
  /-- Members are put in another order, where no name is given twice. -/
  object : ∀ ms, ∃ ms', apply (.object ms) = .object ms' ∧
    ((ms.map Prod.fst).Nodup → ms'.Perm (ms.map fun m => (m.1, apply m.2)))
  /-- The value stands for the same as before. -/
  canonical_apply : ∀ j, (apply j).canonical = j.canonical

namespace Arrangement

/-- All members where they were written. -/
def asWritten : Arrangement where
  apply j := j
  scalar _ _ _ := rfl
  array items := by rw [List.map_id']
  object ms := ⟨ms, rfl, fun _ => by rw [List.map_id']⟩
  canonical_apply _ := rfl

/-- All members in the order of their names. -/
def canonical : Arrangement where
  apply := Json.canonical
  scalar j noItems noMembers := by
    cases j with
    | array => cases noItems
    | object => cases noMembers
    | _ => rfl
  array items := by rw [Json.canonical, canonicalItems_eq_map]
  object ms := ⟨canonicalMembers ms [], by rw [Json.canonical], perm_canonicalMembers⟩
  canonical_apply := canonical_canonical

/-- Members arranged in some order, values and all. -/
def Arranges (f : Arrangement) (ms ms' : List (String × Json)) : Prop :=
  ms'.Perm (ms.map fun m => (m.1, f.apply m.2))

theorem isNull_apply (f : Arrangement) {j : Json} (h : j.isNull = false) :
    (f.apply j).isNull = false := by
  cases j with
  | array items => rw [f.array]; rfl
  | object ms =>
    obtain ⟨ms', arranged, _⟩ := f.object ms
    rw [arranged]
    rfl
  | _ => rwa [f.scalar _ rfl rfl]

end Arrangement

/-! ## Plain values -/

/-- The decoder takes a value to a result, with the members of objects arranged. -/
def Decodes {α : Type} (f : Arrangement) (decode : Decoder α) (j : Json) (a : α) : Prop :=
  decode (f.apply j).source = .ok a

namespace Decodes

variable {α : Type} {f : Arrangement}

/-- A scalar stays as it is. -/
theorem scalar {decode : Decoder α} {j : Json} {a : α} (noItems : j.array? = none)
    (noMembers : j.object? = none) (h : decode j.source = .ok a) : Decodes f decode j a := by
  rw [Decodes, f.scalar j noItems noMembers]
  exact h

theorem string (s : String) : Decodes f decodeString (.string s) s := scalar rfl rfl rfl

theorem bool (b : Bool) : Decodes f decodeBool (.bool b) b := scalar rfl rfl rfl

theorem decodeBounded_nat {n bound : Nat} (h : n < bound) :
    decodeBounded bound (Json.nat n).source = .ok n := by
  have bounds : (decide ((0 : Int) ≤ n) && decide ((n : Int) < bound)) = true := by
    simp [h]
  exact if_pos bounds

theorem uint16 (n : UInt16) : Decodes f decodeUInt16 (.nat n.toNat) n := by
  refine scalar rfl rfl ?_
  rw [decodeUInt16, decodeBounded_nat n.toNat_lt]
  exact congrArg Except.ok UInt16.ofNat_toNat

theorem uint32 (n : UInt32) : Decodes f decodeUInt32 (.nat n.toNat) n := by
  refine scalar rfl rfl ?_
  rw [decodeUInt32, decodeBounded_nat n.toNat_lt]
  exact congrArg Except.ok UInt32.ofNat_toNat

/-- A canonical value stands for itself. -/
theorem any {j : Json} (h : j.canonical = j) : Decodes f decodeAny j j := by
  rw [Decodes, decodeAny, decodeGiven, json?_source]
  exact congrArg Except.ok ((f.canonical_apply j).trans h)

/-- A value of an enumeration is found by its name. -/
theorem enum {values : List α} {name : α → String} {a : α}
    (h : values.find? (fun b => name b == name a) = some a) :
    Decodes f (decodeEnum values name) (.string (name a)) a := by
  refine scalar rfl rfl ?_
  rw [decodeEnum]
  change found (values.find? fun b => name b == name a) = .ok a
  rw [h]
  rfl

/-! ## Lists and missing values -/

variable {decode : Decoder α} {encode : α → Json}

/-- The items of a list come back one by one. -/
theorem list_map {as : List α} {β : Type} {encode : α → Json} {decode : Decoder β} {g : α → β}
    (h : ∀ a ∈ as, Decodes f decode (encode a) (g a)) :
    Decodes f (decodeList decode) (.array (as.map encode)) (as.map g) := by
  have items : (itemSources ((as.map encode).map f.apply)).mapM decode = .ok (as.map g) := by
    induction as with
    | nil => rfl
    | cons a as ih =>
      obtain ⟨first, others⟩ := List.forall_mem_cons.mp h
      rw [List.map_cons, List.map_cons, itemSources, List.mapM_cons, first, ih others]
      rfl
  rw [Decodes, f.array, source, decodeList, items]
  rfl

theorem list {as : List α} (h : ∀ a ∈ as, Decodes f decode (encode a) a) :
    Decodes f (decodeList decode) (.array (as.map encode)) as := by
  have mapped := list_map (g := id) h
  rwa [List.map_id] at mapped

theorem strings (ss : List String) : Decodes f (decodeList decodeString) (.strings ss) ss :=
  list fun s _ => string s

theorem isNull_of_source_eq_null {j : Json} (h : j.source = .null) : j.isNull = true := by
  cases j with
  | null => rfl
  | _ => cases h

/-- Null is for a missing value only. -/
theorem optional {x : Option α}
    (h : ∀ a ∈ x, (encode a).isNull = false ∧ Decodes f decode (encode a) a) :
    Decodes f (decodeOption decode) (.optional encode x) x := by
  cases x with
  | none => exact scalar rfl rfl rfl
  | some a =>
    obtain ⟨present, decodes⟩ := h a rfl
    have value := f.isNull_apply present
    rw [Decodes, Json.optional, decodeOption, decodes]
    · rfl
    · intro null
      rw [isNull_of_source_eq_null null] at value
      cases value

theorem optionalString (x : Option String) :
    Decodes f (decodeOption decodeString) (.optional .string x) x :=
  optional fun s _ => ⟨rfl, string s⟩

theorem optionalBool (x : Option Bool) :
    Decodes f (decodeOption decodeBool) (.optional .bool x) x :=
  optional fun b _ => ⟨rfl, bool b⟩

end Decodes

/-! ## Records -/

section Records

variable {α β : Type} {f : Arrangement}

/-- Two fields of different names, where it does not matter which is put first. -/
inductive Field.Independent : Field α → Field α → Prop where
  | make {β β' : Type} {isRequired isRequired' : Bool} {name name' : String}
      {decode : Decoder β} {decode' : Decoder β'} {put : α → β → α} {put' : α → β' → α}
      (differ : (name == name') = false)
      (commute : (fun r b b' => put (put' r b') b) = fun r b b' => put' (put r b) b') :
      Field.Independent (.make isRequired name decode put) (.make isRequired' name' decode' put')

/-- A field that is independent of each of some others. -/
inductive Field.Apart (g : Field α) : List (Field α) → Prop where
  | nil : g.Apart []
  | cons {g' : Field α} {fields : List (Field α)} (first : g.Independent g')
      (rest : g.Apart fields) : g.Apart (g' :: fields)

/-- Fields of a record that do not get into each other's way; where the fields are written out,
the constructors alone show it. -/
inductive Lawful : List (Field α) → Prop where
  | nil : Lawful []
  | cons {g : Field α} {fields : List (Field α)} (first : g.Apart fields)
      (rest : Lawful fields) : Lawful (g :: fields)

/-- Members in the order of the fields make a record of the one to start with. -/
inductive Fills (f : Arrangement) : List (Field α) → List (String × Json) → α → α → Prop where
  /-- Nothing more is to be put. -/
  | nil (r : α) : Fills f [] [] r r
  /-- A field is given. -/
  | given {β : Type} {isRequired : Bool} {name : String} {decode : Decoder β} {put : α → β → α}
      {j : Json} {b : β} {fields : List (Field α)} {ms : List (String × Json)} {r r' : α}
      (h : Decodes f decode j b) (rest : Fills f fields ms (put r b) r') :
      Fills f (Field.make isRequired name decode put :: fields) ((name, j) :: ms) r r'
  /-- A field that is not required is left out. -/
  | omitted {g : Field α} {fields : List (Field α)} {ms : List (String × Json)} {r r' : α}
      (h : g.isRequired = false) (rest : Fills f fields ms r r') : Fills f (g :: fields) ms r r'

theorem Field.exists_of_decode_make {isRequired : Bool} {name : String} {decode : Decoder β}
    {put : α → β → α} {s : Source} {change : α → α}
    (h : (Field.make isRequired name decode put).decode s = .ok change) :
    ∃ b, decode s = .ok b ∧ change = fun r => put r b := by
  obtain ⟨b, decoded, same⟩ := exists_of_bind_ok h
  exact ⟨b, decoded, (Except.ok.inj same).symm⟩

namespace Field

variable {g g' : Field α}

theorem Independent.symm (h : g.Independent g') : g'.Independent g := by
  cases h with
  | make differ commute =>
    rw [beq_eq_false_iff_ne] at differ
    refine .make (beq_eq_false_iff_ne.mpr differ.symm) ?_
    funext r b' b
    exact (congrFun (congrFun (congrFun commute r) b) b').symm

theorem Independent.name_ne (h : g.Independent g') : g.name ≠ g'.name := by
  cases h with
  | make differ commute => exact beq_eq_false_iff_ne.mp differ

/-- Changes by independent fields are made in any order. -/
theorem Independent.comm (h : g.Independent g') {s s' : Source} {change change' : α → α}
    (decoded : g.decode s = .ok change) (decoded' : g'.decode s' = .ok change') (r : α) :
    change (change' r) = change' (change r) := by
  cases h with
  | make differ commute =>
    obtain ⟨b, -, rfl⟩ := exists_of_decode_make decoded
    obtain ⟨b', -, rfl⟩ := exists_of_decode_make decoded'
    exact congrFun (congrFun (congrFun commute r) b) b'

theorem Apart.independent {fields : List (Field α)} (h : g.Apart fields) :
    ∀ g' ∈ fields, g.Independent g' := by
  induction h with
  | nil => exact List.forall_mem_nil _
  | cons first _ ih => exact List.forall_mem_cons.mpr ⟨first, ih⟩

end Field

namespace Lawful

variable {fields : List (Field α)}

theorem pairwise (h : Lawful fields) : fields.Pairwise Field.Independent := by
  induction h with
  | nil => exact .nil
  | cons first _ ih => exact .cons first.independent ih

theorem distinct (h : Lawful fields) : (fields.map Field.name).Nodup :=
  List.pairwise_map.mpr (h.pairwise.imp Field.Independent.name_ne)

end Lawful

/-! ## Putting members -/

theorem find?_name {fields : List (Field α)} (distinct : (fields.map Field.name).Nodup)
    {g : Field α} (hg : g ∈ fields) :
    fields.find? (fun g' => g'.name == g.name) = some g := by
  induction fields with
  | nil => cases hg
  | cons first fields ih =>
    rw [List.map_cons, List.nodup_cons] at distinct
    rcases List.mem_cons.mp hg with rfl | hg
    · exact List.find?_cons_of_pos (beq_self_eq_true _)
    · have other : first.name ≠ g.name := fun same =>
        distinct.1 (same ▸ List.mem_map_of_mem hg)
      rw [List.find?_cons_of_neg (by simpa using other)]
      exact ih distinct.2 hg

/-- A member of a field that takes its value to a change of the record. -/
def Puts (fields : List (Field α)) (m : String × Json) (change : α → α) : Prop :=
  ∃ g ∈ fields, g.name = m.1 ∧ g.decode m.2.source = .ok change

/-- Puts a member into a record; a member of no field changes nothing. -/
def putMember (fields : List (Field α)) (r : α) (m : String × Json) : α :=
  match fields.find? (fun g => g.name == m.1) with
  | none => r
  | some g =>
    match g.decode m.2.source with
    | .ok change => change r
    | .error _ => r

variable {fields : List (Field α)} {ms : List (String × Json)}

theorem putMember_of_puts (distinct : (fields.map Field.name).Nodup) {m : String × Json}
    {change : α → α} (h : Puts fields m change) (r : α) : putMember fields r m = change r := by
  obtain ⟨g, hg, named, decoded⟩ := h
  rw [putMember, ← named, find?_name distinct hg]
  simp only [decoded]

/-- Two members of a record are put in any order. -/
theorem putMember_comm (lawful : Lawful fields) {m m' : String × Json} {change change' : α → α}
    (h : Puts fields m change) (h' : Puts fields m' change') (other : m.1 ≠ m'.1) (r : α) :
    putMember fields (putMember fields r m) m' = putMember fields (putMember fields r m') m := by
  simp only [putMember_of_puts lawful.distinct h, putMember_of_puts lawful.distinct h']
  obtain ⟨g, hg, named, decoded⟩ := h
  obtain ⟨g', hg', named', decoded'⟩ := h'
  have symm : Std.Symm (@Field.Independent α) := ⟨fun _ _ => Field.Independent.symm⟩
  have differ : g ≠ g' := by
    rintro rfl
    exact other (named.symm.trans named')
  exact ((lawful.pairwise.forall hg hg' differ).comm decoded decoded' r).symm

/-- Members of fields, each with its own name, are put one after the other. -/
theorem readMembers_eq_foldl (distinct : (fields.map Field.name).Nodup)
    (once : (ms.map Prod.fst).Nodup) (known : ∀ m ∈ ms, ∃ change, Puts fields m change)
    {given : List String} (new : ∀ m ∈ ms, m.1 ∉ given) (r : α) :
    readMembers fields given r (memberSources ms) =
      .ok ((ms.map Prod.fst).reverse ++ given, ms.foldl (putMember fields) r) := by
  induction ms generalizing given r with
  | nil => rfl
  | cons m ms ih =>
    obtain ⟨⟨change, puts⟩, others⟩ := List.forall_mem_cons.mp known
    obtain ⟨first, rest⟩ := List.forall_mem_cons.mp new
    rw [List.map_cons, List.nodup_cons] at once
    have put := putMember_of_puts distinct puts r
    obtain ⟨g, hg, named, decoded⟩ := puts
    have found := find?_name distinct hg
    rw [named] at found
    have later : ∀ m' ∈ ms, m'.1 ∉ m.1 :: given := by
      intro m' hm'
      rw [List.mem_cons, not_or]
      exact ⟨fun same => once.1 (same ▸ List.mem_map_of_mem hm'), rest m' hm'⟩
    rw [memberSources, readMembers]
    simp only [found, decoded]
    rw [if_neg (by simpa using first)]
    refine (ih once.2 others later (change r)).trans ?_
    rw [List.map_cons, List.reverse_cons, List.append_assoc, List.foldl_cons, put]
    rfl

namespace Fills

variable {r r' : α}

/-- An optional field whose member is left out when its value is missing. -/
theorem ifPresent {name : String} {decode : Decoder β} {encode : β → Json}
    {put : α → Option β → α} {x : Option β}
    (h : ∀ b ∈ x, (encode b).isNull = false ∧ Decodes f decode (encode b) b)
    (absent : put r none = r) (rest : Fills f fields ms (put r x) r') :
    Fills f (Field.optional name decode put :: fields) (memberIfPresent name encode x ++ ms)
      r r' := by
  cases x with
  | none =>
    rw [absent] at rest
    exact .omitted rfl rest
  | some b => exact .given (.optional h) rest

theorem names (h : Fills f fields ms r r') :
    (ms.map Prod.fst).Sublist (fields.map Field.name) := by
  induction h with
  | nil => exact List.Sublist.refl _
  | given _ _ ih => exact ih.cons_cons _
  | omitted _ _ ih => exact ih.cons _

/-- A required field is given. -/
theorem given_of_isRequired (h : Fills f fields ms r r') {g : Field α} (hg : g ∈ fields)
    (required : g.isRequired = true) : g.name ∈ ms.map Prod.fst := by
  induction h with
  | nil => cases hg
  | given _ _ ih =>
    rcases List.mem_cons.mp hg with rfl | hg
    · exact List.mem_cons_self
    · exact List.mem_cons_of_mem _ (ih hg)
  | omitted optional _ ih =>
    rcases List.mem_cons.mp hg with rfl | hg
    · rw [optional] at required
      cases required
    · exact ih hg

/-- The arranged members are put one after the other. -/
theorem foldl_eq {all : List (Field α)} (distinct : (all.map Field.name).Nodup)
    (h : Fills f fields ms r r') (part : fields ⊆ all) :
    (∀ m ∈ ms, ∃ change, Puts all (m.1, f.apply m.2) change) ∧
      (ms.map fun m => (m.1, f.apply m.2)).foldl (putMember all) r = r' := by
  induction h with
  | nil => exact ⟨List.forall_mem_nil _, rfl⟩
  | @given β isRequired name decode put j b fields ms r r' h _ ih =>
    obtain ⟨first, rest⟩ := List.cons_subset.mp part
    obtain ⟨known, result⟩ := ih rest
    have puts : Puts all (name, f.apply j) (fun r => put r b) := by
      refine ⟨_, first, rfl, ?_⟩
      change (decode (f.apply j).source >>= fun b => Except.ok fun r => put r b) = _
      rw [h]
      rfl
    refine ⟨fun m hm => ?_, ?_⟩
    · rcases List.mem_cons.mp hm with rfl | hm
      · exact ⟨_, puts⟩
      · exact known m hm
    · rw [List.map_cons, List.foldl_cons, putMember_of_puts distinct puts]
      exact result
  | omitted _ _ ih => exact ih (List.cons_subset.mp part).2

end Fills

/-- A record comes back from its members in any order. -/
theorem decodeRecord_of_arranges {start r : α} (lawful : Lawful fields)
    (fill : Fills f fields ms start r) {ms' : List (String × Json)} (perm : f.Arranges ms ms') :
    decodeRecord start fields (Json.object ms').source = .ok r := by
  obtain ⟨known, result⟩ := fill.foldl_eq lawful.distinct (List.Subset.refl fields)
  have names : (ms'.map Prod.fst).Perm (ms.map Prod.fst) := by
    have perm := perm.map Prod.fst
    rwa [List.map_map] at perm
  have once : (ms'.map Prod.fst).Nodup :=
    names.nodup_iff.mpr (lawful.distinct.sublist fill.names)
  have known' : ∀ m ∈ ms', ∃ change, Puts fields m change := by
    intro m hm
    obtain ⟨written, hwritten, rfl⟩ := List.mem_map.mp (perm.mem_iff.mp hm)
    exact known written hwritten
  have folded : ms'.foldl (putMember fields) start = r := by
    refine (perm.foldl_eq' (fun m hm m' hm' z => ?_) start).trans result
    by_cases same : m.1 = m'.1
    · rw [List.inj_on_of_nodup_map once hm hm' same]
    · obtain ⟨change, puts⟩ := known' m hm
      obtain ⟨change', puts'⟩ := known' m' hm'
      exact putMember_comm lawful puts puts' same z
  have complete : (fields.filter fun g => !((ms'.map Prod.fst).reverse ++ []).contains g.name).any
      Field.isRequired = false := by
    rw [List.any_eq_false]
    intro g hg required
    obtain ⟨hg, left⟩ := List.mem_filter.mp hg
    have given := names.mem_iff.mpr (fill.given_of_isRequired hg required)
    simp [given] at left
  rw [source, decodeRecord,
    readMembers_eq_foldl lawful.distinct once known' (fun _ _ => List.not_mem_nil) start, folded]
  change whole r true _ = .ok r
  rw [whole, complete]
  rfl

/-- A record comes back from its object. -/
theorem Decodes.record {start r : α} (lawful : Lawful fields) (fill : Fills f fields ms start r) :
    Decodes f (decodeRecord start fields) (.object ms) r := by
  obtain ⟨ms', arranged, perm⟩ := f.object ms
  rw [Decodes, arranged]
  exact decodeRecord_of_arranges lawful fill (perm (lawful.distinct.sublist fill.names))

/-! ## Values -/

theorem Decodes.decodeValue? {decode : Decoder α} {j : Json} {a : α} (h : Decodes f decode j a) :
    Json.decodeValue? decode (f.apply j) = some a := by
  rw [Json.decodeValue?, h]
  rfl

/-- What holds in every arrangement holds of a value as it was written and of its canonical
value. -/
theorem Arrangement.forall_mem {P : Json → Prop} {j : Json}
    (h : ∀ f : Arrangement, P (f.apply j)) : ∀ j' ∈ [j, j.canonical], P j' :=
  List.forall_mem_cons.mpr ⟨h asWritten, List.forall_mem_singleton.mpr (h canonical)⟩

end Records

end EstateFiling.Json
