import EstateFiling.Case.Bundle
import EstateFiling.Proofs.Estate.RoundTrip
import EstateFiling.Proofs.Json.Kept

/-!
# Cases come back from data

A bundle holds some data values as they were entered: the amounts of creditors and schedule
lines, the payload of the interview, and the values entered by hand.  They are kept in
canonical form (`CaseBundle.Canonical`), which decoding guarantees
(`CaseBundle.canonical_of_decode`).

An amount that is null is not told from one that is missing, because both are written as
null.  So a bundle comes back without its nulls (`CaseBundle.decodes`), and as it was if it
holds none.  No estate depends on them (`CaseBundle.build_withoutNulls`).
-/

namespace EstateFiling

open Json

variable {f : Arrangement}

/-! ## Values as they were entered -/

/-- A value whose members stand in the order of their names. -/
def Json.IsCanonical (j : Json) : Prop := j.canonical = j

/-- A value unless it is null. -/
def Json.withoutNull (x : Option Json) : Option Json := x.filter fun j => !j.isNull

theorem Json.withoutNull_eq_self {x : Option Json} (h : x ≠ some .null) : withoutNull x = x := by
  rcases x with _ | _ | _ | _ | _ | _ | _ <;> first | rfl | exact absurd rfl h

/-- A null states no amount. -/
theorem Json.bind_moneyAmount?_withoutNull (x : Option Json) :
    (withoutNull x).bind moneyAmount? = x.bind moneyAmount? := by
  rcases x with _ | _ | _ | _ | _ | _ | _ <;> rfl

/-- A value comes back, unless it is null. -/
theorem Json.Decodes.optionalAny {x : Option Json} (h : ∀ j ∈ x, j.IsCanonical) :
    Decodes f (decodeOption decodeAny) (.optional id x) (withoutNull x) := by
  by_cases null : x = some .null
  · subst null
    exact .scalar rfl rfl rfl
  · rw [withoutNull_eq_self null]
    refine .optional fun j hj => ⟨?_, .any (h j hj)⟩
    cases j with
    | null => exact absurd hj null
    | _ => rfl

/-! ## Creditors and schedule lines -/

namespace CreditorRecord

/-- The amount is canonical. -/
def Canonical (r : CreditorRecord) : Prop := ∀ j ∈ r.amount, j.IsCanonical

/-- The record without an amount that is null. -/
def withoutNulls (r : CreditorRecord) : CreditorRecord :=
  { r with amount := withoutNull r.amount }

theorem decodes {r : CreditorRecord} (h : r.Canonical) :
    Decodes f decode r.toJson r.withoutNulls :=
  .record (by repeat' constructor) <|
    .given (.optionalString _) <| .given (.optionalAny h) <| .nil _

end CreditorRecord

namespace ScheduleRecord

/-- The value and the secured amount are canonical. -/
structure Canonical (r : ScheduleRecord) : Prop where
  value : ∀ j ∈ r.value, j.IsCanonical
  securedAmount : ∀ j ∈ r.securedAmount, j.IsCanonical

/-- The line without amounts that are null. -/
def withoutNulls (r : ScheduleRecord) : ScheduleRecord :=
  { r with value := withoutNull r.value, securedAmount := withoutNull r.securedAmount }

theorem decodes {r : ScheduleRecord} (h : r.Canonical) :
    Decodes f decode r.toJson r.withoutNulls :=
  .record (by repeat' constructor) <|
    .given (.string _) <| .given (.string _) <| .given (.optionalAny h.value) <|
    .given (.optionalString _) <| .given (.optionalAny h.securedAmount) <| .nil _

end ScheduleRecord

/-! ## The case -/

theorem AddressRecord.decodes (r : AddressRecord) : Decodes f AddressRecord.decode r.toJson r :=
  .record (by repeat' constructor) <|
    .given (.optionalString _) <| .given (.optionalString _) <| .given (.optionalString _) <|
    .given (.optionalString _) <| .given (.optionalString _) <| .given (.optionalString _) <|
    .given (.optionalString _) <| .nil _

theorem DeliveryRecord.decodes (r : DeliveryRecord) : Decodes f DeliveryRecord.decode r.toJson r :=
  .record (by repeat' constructor) <|
    .given (.optionalString _) <| .given (.optionalString _) <| .given (.optionalString _) <|
    .given (.optionalString _) <| .given (.optionalString _) <| .given (.optionalBool _) <| .nil _

namespace CaseRecord

/-- The amounts of the creditors are canonical. -/
def Canonical (r : CaseRecord) : Prop := ∀ c ∈ r.creditors, c.Canonical

/-- The case without amounts that are null. -/
def withoutNulls (r : CaseRecord) : CaseRecord :=
  { r with creditors := r.creditors.map CreditorRecord.withoutNulls }

theorem decodes {r : CaseRecord} (h : r.Canonical) : Decodes f decode r.toJson r.withoutNulls :=
  .record (by repeat' constructor) <|
    .given (.optionalString _) <| .given (.optionalString _) <| .given (.optionalString _) <|
    .given (.optionalString _) <| .given (.optionalString _) <| .given (.strings _) <|
    .given (.optionalString _) <| .given (.optionalString _) <|
    .given (.optional fun a _ => ⟨rfl, a.decodes⟩) <| .given (.optionalBool _) <|
    .given (.optionalBool _) <| .given (.optionalString _) <| .given (.optionalString _) <|
    .given (.optionalBool _) <| .given (.optionalString _) <| .given (.optionalString _) <|
    .given (.optional fun _ _ => ⟨rfl, .uint32 _⟩) <|
    .given (.optional fun a _ => ⟨rfl, a.decodes⟩) <| .given (.optionalString _) <|
    .given (.optionalString _) <| .given (.optionalBool _) <| .given (.optionalBool _) <|
    .given (.optionalBool _) <| .given (.optionalBool _) <| .given (.optionalBool _) <|
    .given (.list fun a _ => a.decodes) <| .given (.strings _) <|
    .given (.list_map fun c hc => CreditorRecord.decodes (h c hc)) <| .given (.optionalString _) <|
    .given (.optionalString _) <| .given (.optionalString _) <| .nil _

end CaseRecord

namespace IntakeDraft

/-- The payload is canonical. -/
def Canonical (d : IntakeDraft) : Prop := d.payload.IsCanonical

theorem decodes {d : IntakeDraft} (h : d.Canonical) : Decodes f decode d.toJson d :=
  .record (by repeat' constructor) <|
    .given (.optionalBool _) <| .given (.optionalString _) <| .given (.optionalString _) <|
    .given (.optionalBool _) <| .given (.optionalBool _) <| .given (.strings _) <|
    .given (.optionalBool _) <| .given (.optionalBool _) <| .given (.strings _) <|
    .given (.optionalBool _) <| .given (.optionalBool _) <| .given (.strings _) <|
    .given (.any h) <| .nil _

end IntakeDraft

theorem ExecutorRecord.decodes (r : ExecutorRecord) : Decodes f ExecutorRecord.decode r.toJson r :=
  .record (by repeat' constructor) <|
    .given (.optionalString _) <| .given (.optionalString _) <| .given (.optionalString _) <|
    .given (.optionalString _) <| .given (.optionalString _) <| .given (.optionalBool _) <|
    .given (.optionalString _) <| .given (.optionalBool _) <| .given (.optionalString _) <|
    .given (.optional fun a _ => ⟨rfl, a.decodes⟩) <| .given (.optionalString _) <|
    .given (.optionalString _) <| .nil _

theorem BeneficiaryRecord.decodes (r : BeneficiaryRecord) :
    Decodes f BeneficiaryRecord.decode r.toJson r :=
  .record (by repeat' constructor) <|
    .given (.optionalString _) <| .given (.optionalString _) <| .given (.optionalString _) <|
    .given (.optionalString _) <| .nil _

namespace ManualOverrides

/-- The entries stand in the order of their names, and so do the members of each value. -/
def Canonical (o : ManualOverrides) : Prop := o.toJson.IsCanonical

theorem decodes {o : ManualOverrides} (h : o.Canonical) : Decodes f decode o.toJson o := by
  have value := Decodes.any (f := f) h
  obtain ⟨ms, arranged, -⟩ := f.object o.entries
  rw [Decodes, toJson, arranged] at value
  rw [Decodes, toJson, arranged, source, decode, ← source, value]
  rfl

end ManualOverrides

/-! ## Bundles -/

namespace CaseBundle

/-- Every value that was entered is canonical. -/
structure Canonical (b : CaseBundle) : Prop where
  case : b.case.Canonical
  intake : ∀ d ∈ b.intake, d.Canonical
  schedules : ∀ r ∈ b.schedules, r.Canonical
  overrides : b.overrides.Canonical

/-- The amounts that may be missing. -/
def amounts (b : CaseBundle) : List (Option Json) :=
  b.case.creditors.map CreditorRecord.amount
    ++ b.schedules.flatMap fun r => [r.value, r.securedAmount]

/-- The bundle without amounts that are null. -/
def withoutNulls (b : CaseBundle) : CaseBundle :=
  { b with
    case := b.case.withoutNulls
    schedules := b.schedules.map ScheduleRecord.withoutNulls }

/-- A bundle comes back without its nulls. -/
theorem decodes {b : CaseBundle} (h : b.Canonical) : Decodes f decode b.toJson b.withoutNulls :=
  .record (by repeat' constructor) <|
    .given (CaseRecord.decodes h.case) <|
    .given (.optional fun d hd => ⟨rfl, IntakeDraft.decodes (h.intake d hd)⟩) <|
    .given (.list fun a _ => a.decodes) <| .given (.list fun a _ => a.decodes) <|
    .given (.list_map fun r hr => ScheduleRecord.decodes (h.schedules r hr)) <|
    .given (ManualOverrides.decodes h.overrides) <| .nil _

/-! ## Nulls -/

theorem withoutNulls_eq_self {b : CaseBundle} (h : some .null ∉ b.amounts) :
    b.withoutNulls = b := by
  rw [amounts, List.mem_append, not_or, List.mem_map, List.mem_flatMap] at h
  obtain ⟨creditors, lines⟩ := h
  have case : b.case.withoutNulls = b.case := by
    have same : b.case.creditors.map CreditorRecord.withoutNulls = b.case.creditors := by
      refine (List.map_congr_left fun r hr => ?_).trans (List.map_id _)
      have amount : r.amount ≠ some .null := fun null => creditors ⟨r, hr, null⟩
      rw [CreditorRecord.withoutNulls, withoutNull_eq_self amount, id]
    rw [CaseRecord.withoutNulls, same]
  have schedules : b.schedules.map ScheduleRecord.withoutNulls = b.schedules := by
    refine (List.map_congr_left fun r hr => ?_).trans (List.map_id _)
    have value : r.value ≠ some .null := fun null => lines ⟨r, hr, by simp [null]⟩
    have secured : r.securedAmount ≠ some .null := fun null => lines ⟨r, hr, by simp [null]⟩
    rw [ScheduleRecord.withoutNulls, withoutNull_eq_self value, withoutNull_eq_self secured, id]
  rw [withoutNulls, case, schedules]

theorem amount_withoutNull (x : Option Json) :
    ScheduleRecord.amount (withoutNull x) = ScheduleRecord.amount x :=
  congrArg (Option.getD · Money.zero) (bind_moneyAmount?_withoutNull x)

theorem asset_withoutNulls (r : ScheduleRecord) : r.withoutNulls.asset = r.asset := by
  unfold ScheduleRecord.asset ScheduleRecord.withoutNulls
  rw [amount_withoutNull]

theorem securedAsset_withoutNulls (r : ScheduleRecord) :
    r.withoutNulls.securedAsset = r.securedAsset := by
  unfold ScheduleRecord.securedAsset ScheduleRecord.securedDebt? ScheduleRecord.withoutNulls
  rw [amount_withoutNull, amount_withoutNull]

theorem isOf_comp_withoutNulls (category : AssetCategory) :
    ScheduleRecord.isOf category ∘ ScheduleRecord.withoutNulls = ScheduleRecord.isOf category := by
  funext r
  unfold Function.comp ScheduleRecord.isOf
  rfl

/-- Lines without their nulls make the same schedule. -/
theorem ofRecords_withoutNulls (lines : List ScheduleRecord) :
    AssetSchedule.ofRecords (lines.map ScheduleRecord.withoutNulls)
      = AssetSchedule.ofRecords lines := by
  have asset : ScheduleRecord.asset ∘ ScheduleRecord.withoutNulls = ScheduleRecord.asset :=
    funext asset_withoutNulls
  have securedAsset :
      ScheduleRecord.securedAsset ∘ ScheduleRecord.withoutNulls = ScheduleRecord.securedAsset :=
    funext securedAsset_withoutNulls
  unfold AssetSchedule.ofRecords
  simp only [List.filter_map, List.map_map, isOf_comp_withoutNulls, asset, securedAsset]

theorem creditor?_withoutNulls (r : CreditorRecord) : creditor? r.withoutNulls = creditor? r := by
  unfold creditor? CreditorRecord.withoutNulls
  simp only [bind_moneyAmount?_withoutNull]

/-- No estate depends on amounts that are null. -/
theorem build_withoutNulls (b : CaseBundle) (settings : DocumentSettings) :
    b.withoutNulls.build settings = b.build settings := by
  have creditors : b.withoutNulls.creditors = b.creditors := by
    have records : b.withoutNulls.case.creditors.filterMap creditor?
        = b.case.creditors.filterMap creditor? := by
      have same : creditor? ∘ CreditorRecord.withoutNulls = creditor? := by
        funext r
        rw [Function.comp_apply, creditor?_withoutNulls]
      rw [withoutNulls, CaseRecord.withoutNulls, List.filterMap_map, same]
    unfold CaseBundle.creditors
    rw [records]
    rfl
  have assets : b.withoutNulls.assets = b.assets := by
    have recorded : b.withoutNulls.recordedAssets = b.recordedAssets := by
      unfold recordedAssets withoutNulls payload?
      rw [List.isEmpty_map, ofRecords_withoutNulls]
    unfold CaseBundle.assets
    rw [recorded]
    rfl
  have model : b.withoutNulls.model = b.model := by
    unfold model
    rw [creditors, assets]
    rfl
  unfold build
  rw [model]

end CaseBundle

/-! ## What decoding guarantees -/

theorem isCanonical_of_decodeAny {s : Source} {j : Json} (h : decodeAny s = .ok j) :
    j.IsCanonical := by
  obtain ⟨given, -, same⟩ := exists_of_bind_ok h
  obtain rfl := Except.ok.inj same
  exact canonical_canonical given

theorem isCanonical_of_mem_decodeOption {s : Source} {x : Option Json}
    (h : decodeOption decodeAny s = .ok x) : ∀ j ∈ x, j.IsCanonical := by
  intro j hj
  obtain ⟨s', decoded⟩ := exists_of_mem_decodeOption h hj
  exact isCanonical_of_decodeAny decoded

theorem CreditorRecord.canonical_of_decode {s : Source} {r : CreditorRecord}
    (h : decode s = .ok r) : r.Canonical := by
  refine decodeRecord_keeps (P := Canonical) h (fun _ hj => by cases hj) ?_
  refine List.forall_mem_cons.mpr ⟨.make fun _ _ _ _ kept => kept, ?_⟩
  refine List.forall_mem_cons.mpr ⟨.make fun _ _ decoded _ _ => ?_, List.forall_mem_nil _⟩
  exact isCanonical_of_mem_decodeOption decoded

theorem ScheduleRecord.canonical_of_decode {s : Source} {r : ScheduleRecord}
    (h : decode s = .ok r) : r.Canonical := by
  have absent : ∀ j ∈ (none : Option Json), j.IsCanonical := fun _ hj => by cases hj
  refine decodeRecord_keeps (P := Canonical) h ⟨absent, absent⟩ ?_
  refine List.forall_mem_cons.mpr ⟨.make fun _ _ _ _ kept => ⟨kept.1, kept.2⟩, ?_⟩
  refine List.forall_mem_cons.mpr ⟨.make fun _ _ _ _ kept => ⟨kept.1, kept.2⟩, ?_⟩
  refine List.forall_mem_cons.mpr ⟨.make fun _ _ decoded _ kept => ⟨?_, kept.2⟩, ?_⟩
  · exact isCanonical_of_mem_decodeOption decoded
  refine List.forall_mem_cons.mpr ⟨.make fun _ _ _ _ kept => ⟨kept.1, kept.2⟩, ?_⟩
  refine List.forall_mem_cons.mpr ⟨.make fun _ _ decoded _ kept => ⟨kept.1, ?_⟩,
    List.forall_mem_nil _⟩
  exact isCanonical_of_mem_decodeOption decoded

theorem CaseRecord.canonical_of_decode {s : Source} {r : CaseRecord}
    (h : decode s = .ok r) : r.Canonical := by
  refine decodeRecord_keeps (P := Canonical) h (List.forall_mem_nil _) ?_
  -- Only one field has such values.
  repeat' first
    | exact List.forall_mem_nil _
    | refine List.forall_mem_cons.mpr ⟨.make fun _ _ _ _ kept => kept, ?_⟩
    | refine List.forall_mem_cons.mpr ⟨.make fun _ _ decoded _ _ => ?_, ?_⟩
  intro c hc
  obtain ⟨s', decoded⟩ := exists_of_mem_decodeList decoded hc
  exact CreditorRecord.canonical_of_decode decoded

theorem IntakeDraft.canonical_of_decode {s : Source} {d : IntakeDraft}
    (h : decode s = .ok d) : d.Canonical := by
  refine decodeRecord_keeps (P := Canonical) h rfl ?_
  -- Only one field has such values.
  repeat' first
    | exact List.forall_mem_nil _
    | refine List.forall_mem_cons.mpr ⟨.make fun _ _ _ _ kept => kept, ?_⟩
    | refine List.forall_mem_cons.mpr ⟨.make fun _ _ decoded _ _ => ?_, ?_⟩
  exact isCanonical_of_decodeAny decoded

/-- What is written as an object is an object. -/
theorem exists_object_of_decodeGiven {members : List (Option String × Source)} {closed : Bool}
    {j : Json} (h : decodeGiven (.object members closed) = .ok j) : ∃ ms, j = .object ms := by
  rw [decodeGiven, Source.json?] at h
  cases closed with
  | false => cases h
  | true =>
    cases values : Source.members? members with
    | none =>
      rw [values] at h
      cases h
    | some ms =>
      rw [values] at h
      exact ⟨ms, (Except.ok.inj h).symm⟩

theorem ManualOverrides.canonical_of_decode {s : Source} {o : ManualOverrides}
    (h : decode s = .ok o) : o.Canonical := by
  unfold decode at h
  split at h
  · obtain ⟨value, decoded, same⟩ := exists_of_bind_ok h
    obtain ⟨given, read, canonical⟩ := exists_of_bind_ok decoded
    obtain ⟨ms, rfl⟩ := exists_object_of_decodeGiven read
    obtain rfl := Except.ok.inj canonical
    obtain rfl := Except.ok.inj same
    exact isCanonical_of_decodeAny decoded
  · cases h

namespace CaseBundle

/-- Every bundle that is decoded is canonical. -/
theorem canonical_of_decode {s : Source} {b : CaseBundle} (h : decode s = .ok b) :
    b.Canonical := by
  refine decodeRecord_keeps (P := Canonical) h
    ⟨List.forall_mem_nil _, (fun _ hd => by cases hd), List.forall_mem_nil _, rfl⟩ ?_
  refine List.forall_mem_cons.mpr ⟨.make fun _ _ decoded _ kept => { kept with
    case := CaseRecord.canonical_of_decode decoded }, ?_⟩
  refine List.forall_mem_cons.mpr ⟨.make fun _ _ decoded _ kept => { kept with
    intake := fun d hd => ?_ }, ?_⟩
  · obtain ⟨s', decoded⟩ := exists_of_mem_decodeOption decoded hd
    exact IntakeDraft.canonical_of_decode decoded
  refine List.forall_mem_cons.mpr ⟨.make fun _ _ _ _ kept => { kept with }, ?_⟩
  refine List.forall_mem_cons.mpr ⟨.make fun _ _ _ _ kept => { kept with }, ?_⟩
  refine List.forall_mem_cons.mpr ⟨.make fun _ _ decoded _ kept => { kept with
    schedules := fun r hr => ?_ }, ?_⟩
  · obtain ⟨s', decoded⟩ := exists_of_mem_decodeList decoded hr
    exact ScheduleRecord.canonical_of_decode decoded
  exact List.forall_mem_cons.mpr ⟨.make fun _ _ decoded _ kept => { kept with
    overrides := ManualOverrides.canonical_of_decode decoded }, List.forall_mem_nil _⟩

/-! ## Saving and loading -/

/-- Every estate comes back from its data, in the order it was written and in the order of
the names.  So does every bundle that holds no null for an amount, and any other comes back
as a bundle that builds the same estates. -/
theorem models_and_bundles_come_back :
    (∀ m : EstateModel, ∀ j ∈ [m.toJson, m.toJson.canonical],
      decodeValue? EstateModel.decode j = some m)
    ∧ (∀ b : CaseBundle, b.Canonical → ∀ j ∈ [b.toJson, b.toJson.canonical],
      (some .null ∉ b.amounts → decodeValue? CaseBundle.decode j = some b)
      ∧ ∃ b', decodeValue? CaseBundle.decode j = some b'
        ∧ ∀ settings, b'.build settings = b.build settings)
    ∧ ∀ j b, decodeValue? CaseBundle.decode j = some b → b.Canonical := by
  refine ⟨fun m => ?_, fun b canonical => ?_, fun j b loaded => ?_⟩
  · exact Arrangement.forall_mem fun f => (m.decodes (f := f)).decodeValue?
  · refine Arrangement.forall_mem fun f => ?_
    have loaded := (decodes (f := f) canonical).decodeValue?
    refine ⟨fun noNull => ?_, b.withoutNulls, loaded, b.build_withoutNulls⟩
    rw [loaded, withoutNulls_eq_self noNull]
  · cases decoded : decode j.source with
    | error fault =>
      rw [decodeValue?, decoded] at loaded
      cases loaded
    | ok b' =>
      rw [decodeValue?, decoded] at loaded
      obtain rfl := Option.some.inj loaded
      exact canonical_of_decode decoded

end CaseBundle

end EstateFiling
