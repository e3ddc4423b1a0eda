import EstateFiling.Case.Override
import EstateFiling.Proofs.Json.Canonical

/-!
# Fields that can be entered by hand

An *override field* of a record is a name under which a value for one of its
fields can be entered: how the entry is read, which field it is for, and how a
value replaces what the field holds.

A builder of records *follows* a list of override fields when each entry that can
be read is put into the field it names, each entry that cannot be read counts as
missing, and nothing else that was entered matters (`Follows`).  Three
consequences of that are all a caller needs: the builder depends on the readings
alone (`Follows.congr`), a reading decides its field (`Follows.holds_of_read`),
and an entry touches no other field (`Follows.frame`).

A builder that puts its fields one after the other into a record of its own
follows them (`follows_of_fill`), whichever the fields are, provided that they are
lawful and apart from each other.
-/

namespace EstateFiling

namespace ManualOverrides

/-! ## Entries that agree but for one name -/

variable {o o' : ManualOverrides} {key : String}

/-- The same entries, except possibly under one name. -/
def AgreeOff (key : String) (o o' : ManualOverrides) : Prop :=
  ∀ k, k ≠ key → o.get? k = o'.get? k

/-- The part of a record that a name is about: what stands before the first dot. -/
def part (key : String) : String := String.ofList (key.toList.takeWhile (· != '.'))

theorem lookup_filter_ne (entries : List (String × Json)) (key k : String) :
    (entries.filter fun e => e.1 != key).lookup k =
      if k = key then none else entries.lookup k := by
  induction entries with
  | nil => simp
  | cons e rest ih =>
      obtain ⟨name, value⟩ := e
      by_cases hname : name = key
      · -- The member is dropped, and nothing else has its name.
        subst hname
        rw [List.filter_cons_of_neg (by simp), ih]
        by_cases hk : k = name
        · rw [if_pos hk, if_pos hk]
        · rw [if_neg hk, if_neg hk, List.lookup_cons, beq_false_of_ne hk]
      · rw [List.filter_cons_of_pos (by simpa using hname), List.lookup_cons, List.lookup_cons, ih]
        by_cases hk : k = name
        · subst hk
          simp [hname]
        · rw [beq_false_of_ne hk]

@[simp] theorem get?_erase_self (o : ManualOverrides) (key : String) :
    (o.erase key).get? key = none := by
  unfold get? erase
  rw [lookup_filter_ne, if_pos rfl]
  rfl

/-- What is entered under a name is found there, unless it is null. -/
theorem get?_insert_self (o : ManualOverrides) (key : String) (value : Json) :
    (o.insert key value).get? key = (some value).filter fun j => !j.isNull := by
  unfold get? insert
  rw [Json.lookup_insertMember]

@[simp] theorem get?_empty (key : String) : ({} : ManualOverrides).get? key = none := rfl

theorem agreeOff_insert (o : ManualOverrides) (key : String) (value : Json) :
    AgreeOff key o (o.insert key value) := by
  intro k hk
  unfold get? insert
  rw [Json.lookup_insertMember_of_ne hk]

theorem agreeOff_erase (o : ManualOverrides) (key : String) : AgreeOff key o (o.erase key) := by
  intro k hk
  unfold get? erase
  rw [lookup_filter_ne, if_neg hk]

end ManualOverrides

/-! ## Override fields -/

/-- A name under which a value for a field of a record can be entered. -/
structure OverrideField (S : Type) where
  /-- The name. -/
  key : String
  /-- The values that can be entered. -/
  Value : Type
  /-- Reads an entry. -/
  coerce : Json → Option Value
  /-- The field of the record is what the value says. -/
  holds : S → Value → Prop
  /-- Replaces the field by what the value says. -/
  put : Value → S → S

namespace OverrideField

variable {S : Type}

/-- A field given by its reading and its replacement, for which an entered value
stands. -/
def ofLens {V β : Type} (key : String) (coerce : Json → Option V) (embed : V → β)
    (get : S → β) (set : β → S → S) : OverrideField S where
  key := key
  Value := V
  coerce := coerce
  holds s v := get s = embed v
  put v := set (embed v)

/-- A record that is entered as a whole. -/
def whole {V : Type} (key : String) (coerce : Json → Option V) : OverrideField V :=
  ofLens key coerce id id fun x _ => x

/-- What is entered for the field, if it can be read. -/
def read (f : OverrideField S) (o : ManualOverrides) : Option f.Value :=
  (o.get? f.key).bind f.coerce

/-- Replaces the field if there is a value for it. -/
def apply (f : OverrideField S) : Option f.Value → S → S
  | none, s => s
  | some v, s => f.put v s

/-- A value that was put is held, and putting another one leaves no trace of
it. -/
structure Lawful (f : OverrideField S) : Prop where
  /-- The value put is the value held. -/
  holds_put : ∀ v s, f.holds (f.put v s) v
  /-- The last value put counts. -/
  put_put : ∀ v w s, f.put w (f.put v s) = f.put w s

theorem lawful_ofLens {V β : Type} {key : String} {coerce : Json → Option V} {embed : V → β}
    {get : S → β} {set : β → S → S} (get_set : ∀ x s, get (set x s) = x)
    (set_set : ∀ x y s, set y (set x s) = set y s) :
    (ofLens key coerce embed get set).Lawful where
  holds_put v s := get_set (embed v) s
  put_put v w s := set_set (embed v) (embed w) s

theorem Lawful.put_apply {f : OverrideField S} (h : f.Lawful) (x : Option f.Value)
    (w : f.Value) (s : S) : f.put w (f.apply x s) = f.put w s := by
  cases x with
  | none => rfl
  | some v => exact h.put_put v w s

variable {f : OverrideField S} {o o' : ManualOverrides}

@[simp] theorem read_erase_self (f : OverrideField S) (o : ManualOverrides) :
    f.read (o.erase f.key) = none := by
  unfold read
  rw [ManualOverrides.get?_erase_self]
  rfl

theorem read_eq_of_agreeOff {key : String} (h : ManualOverrides.AgreeOff key o o')
    (hkey : f.key ≠ key) : f.read o = f.read o' := by
  unfold read
  rw [h f.key hkey]

/-! ### Filling a record -/

/-- Two fields under different names, which can be put in either order. -/
def Apart (f g : OverrideField S) : Prop :=
  f.key ≠ g.key ∧ ∀ v w s, f.put v (g.put w s) = g.put w (f.put v s)

theorem Apart.apply_comm {f g : OverrideField S} (h : f.Apart g) (x : Option f.Value)
    (y : Option g.Value) (s : S) : f.apply x (g.apply y s) = g.apply y (f.apply x s) := by
  cases x with
  | none => rfl
  | some v =>
      cases y with
      | none => rfl
      | some w => exact h.2 v w s

/-- Puts what is entered for each field into a record. -/
@[simp] def fill (base : S) (o : ManualOverrides) : List (OverrideField S) → S
  | [] => base
  | f :: fs => f.apply (f.read o) (fill base o fs)

variable {fields : List (OverrideField S)}

theorem fill_congr (base : S) (same : ∀ f ∈ fields, f.read o = f.read o') :
    fill base o fields = fill base o' fields := by
  induction fields with
  | nil => rfl
  | cons f fs ih =>
      obtain ⟨head, rest⟩ := List.forall_mem_cons.mp same
      rw [fill, fill, head, ih rest]

/-- What is entered for one field can be put last. -/
theorem fill_eq_apply (base : S) (apart : fields.Pairwise Apart) (hf : f ∈ fields)
    (others : ∀ g ∈ fields, g.key ≠ f.key → g.read o = g.read o') (absent : f.read o' = none) :
    fill base o fields = f.apply (f.read o) (fill base o' fields) := by
  induction fields with
  | nil => exact absurd hf List.not_mem_nil
  | cons g gs ih =>
      obtain ⟨apartHead, apartRest⟩ := List.pairwise_cons.mp apart
      obtain ⟨sameHead, sameRest⟩ := List.forall_mem_cons.mp others
      rcases List.mem_cons.mp hf with rfl | hf
      · -- No field after this one has its name.
        have same : ∀ g ∈ gs, g.read o = g.read o' := fun g hg =>
          sameRest g hg (apartHead g hg).1.symm
        rw [fill, fill, fill_congr base same, absent]
        rfl
      · have apartFields := apartHead f hf
        rw [fill, fill, ih apartRest hf sameRest, sameHead apartFields.1, apartFields.apply_comm]

/-- The field is what is entered for it, or else what it was. -/
@[simp] theorem apply_read_ofLens {V β : Type} {key : String} {coerce : Json → Option V}
    {embed : V → β} {get : S → β} {set : β → S → S} (set_get : ∀ s, set (get s) s = s)
    (o : ManualOverrides) (s : S) :
    (ofLens key coerce embed get set).apply ((ofLens key coerce embed get set).read o) s =
      set ((((o.get? key).bind coerce).map embed).getD (get s)) s := by
  unfold read ofLens
  cases (o.get? key).bind coerce with
  | none => exact (set_get s).symm
  | some v => rfl

end OverrideField

/-! ## Builders that follow their fields -/

variable {S : Type} {build : ManualOverrides → S} {fields : List (OverrideField S)}

/-- The builder puts what is entered for each field into the record built without
that entry. -/
structure Follows (build : ManualOverrides → S) (fields : List (OverrideField S)) : Prop where
  /-- The fields are lawful. -/
  lawful : ∀ f ∈ fields, f.Lawful
  /-- An entry is put into the record that is built without it. -/
  apply : ∀ f ∈ fields, ∀ o o' : ManualOverrides,
    (∀ g ∈ fields, g.key ≠ f.key → g.read o = g.read o') → f.read o' = none →
      build o = f.apply (f.read o) (build o')

namespace Follows

variable {f : OverrideField S} {o o' : ManualOverrides}

/-- The record is built from the one without an entry for the field. -/
theorem apply_erase (h : Follows build fields) (hf : f ∈ fields) (o : ManualOverrides) :
    build o = f.apply (f.read o) (build (o.erase f.key)) :=
  h.apply f hf o (o.erase f.key)
    (fun _ _ hkey => OverrideField.read_eq_of_agreeOff (o.agreeOff_erase f.key) hkey)
    (f.read_erase_self o)

/-- The record depends on the readings of its fields alone. -/
theorem congr (h : Follows build fields) (nonempty : fields ≠ [])
    (same : ∀ f ∈ fields, f.read o = f.read o') : build o = build o' := by
  obtain ⟨f, hf⟩ := List.exists_mem_of_ne_nil fields nonempty
  -- Both records are built from the one without an entry for the field.
  have left := h.apply_erase hf o
  have right := h.apply f hf o' (o.erase f.key)
    (fun g hg hkey => (same g hg).symm.trans
      (OverrideField.read_eq_of_agreeOff (o.agreeOff_erase f.key) hkey))
    (f.read_erase_self o)
  rw [left, right, same f hf]

/-- An entry under a name that no field has does not matter. -/
theorem congr_of_agreeOff (h : Follows build fields) (nonempty : fields ≠ []) {key : String}
    (hkey : key ∉ fields.map OverrideField.key) (agree : ManualOverrides.AgreeOff key o o') :
    build o = build o' :=
  h.congr nonempty fun _ hf => OverrideField.read_eq_of_agreeOff agree fun heq =>
    hkey (heq ▸ List.mem_map_of_mem hf)

/-- An entry about another part does not matter. -/
theorem congr_of_part (h : Follows build fields) (nonempty : fields ≠ []) {p : String}
    (named : ∀ f ∈ fields, ManualOverrides.part f.key = p) {key : String}
    (agree : ManualOverrides.AgreeOff key o o') (hkey : ManualOverrides.part key ≠ p) :
    build o = build o' := by
  refine h.congr_of_agreeOff nonempty (fun hmem => ?_) agree
  obtain ⟨f, hf, rfl⟩ := List.mem_map.mp hmem
  exact hkey (named f hf)

/-- An entry that can be read decides its field. -/
theorem holds_of_read (h : Follows build fields) (hf : f ∈ fields) {v : f.Value}
    (hread : f.read o = some v) : f.holds (build o) v := by
  rw [h.apply_erase hf o, hread]
  exact (h.lawful f hf).holds_put v _

/-- An entry touches no field but its own. -/
theorem frame (h : Follows build fields) (hf : f ∈ fields)
    (agree : ManualOverrides.AgreeOff f.key o o') (v : f.Value) :
    f.put v (build o) = f.put v (build o') := by
  have right := h.apply f hf o' (o.erase f.key)
    (fun _ _ hkey => (OverrideField.read_eq_of_agreeOff agree hkey).symm.trans
      (OverrideField.read_eq_of_agreeOff (o.agreeOff_erase f.key) hkey))
    (f.read_erase_self o)
  rw [h.apply_erase hf o, right, (h.lawful f hf).put_apply, (h.lawful f hf).put_apply]

end Follows

/-- A builder that fills a record of its own follows the fields it fills. -/
theorem follows_of_fill (base : S) (filled : ∀ o, build o = OverrideField.fill base o fields)
    (lawful : ∀ f ∈ fields, f.Lawful) (apart : fields.Pairwise OverrideField.Apart) :
    Follows build fields where
  lawful := lawful
  apply f hf o o' others absent := by
    rw [filled o, filled o']
    exact OverrideField.fill_eq_apply base apart hf others absent

/-- What is entered as a whole, or something that does not depend on the entries. -/
theorem follows_getD {V : Type} (key : String) (coerce : Json → Option V) (otherwise : V) :
    Follows (fun o => ((o.get? key).bind coerce).getD otherwise)
      [OverrideField.whole key coerce] := by
  refine follows_of_fill otherwise (fun o => ?filled) ?lawful (List.pairwise_singleton _ _)
  case filled => simp [OverrideField.whole]
  case lawful => simp [OverrideField.whole, OverrideField.lawful_ofLens]

end EstateFiling
