import EstateFiling.Proofs.Case.Builders
import Mathlib.Data.List.Nodup

/-!
# Precedence of values entered by hand

A value entered by hand goes before the records, and it does nothing else
(`CaseBundle.override_precedence`).

*Fields.*  `estateFields` lists every name under which something is read, with the
reading and the field of the estate.  The parts of the estate follow their own
fields (`Builders`); here they are put together.

*Readings.*  The estate depends on the readings of the fields alone
(`model_congr`).  So an entry that cannot be read is as good as none, and a name
that no field has does not matter.

*Frame.*  Names of one part of the estate start alike, so an entry about one part
leaves the other parts as they are (`model_splice`), and within its part it touches
its own field only (`Follows.frame`).  Two names are read by more than one part:
the grant decides whether there is a will and whether there must be a foreign
grant, and where none is named the existence of a will decides the grant.  They are
left out of the frame.
-/

namespace EstateFiling

open OverrideField ManualOverrides

/-! ## The fields of the estate -/

/-- A field of a part of the estate, as a field of the estate. -/
def OverrideField.within {S : Type} (get : EstateModel → S)
    (update : (S → S) → EstateModel → EstateModel) (f : OverrideField S) :
    OverrideField EstateModel where
  key := f.key
  Value := f.Value
  coerce := f.coerce
  holds m v := f.holds (get m) v
  put v := update (f.put v)

/-- A field of the will, as a field of the estate.  There is a will only under a
grant that rests on one. -/
def OverrideField.ofWill (f : OverrideField Will) : OverrideField EstateModel where
  key := f.key
  Value := f.Value
  coerce := f.coerce
  holds m v := m.grantType.impliesWill = true → ∃ w, m.will = some w ∧ f.holds w v
  put v m := { m with will := m.will.map (f.put v) }

/-- The grant. -/
def grantField : OverrideField EstateModel :=
  ofLens "grant_type" (fun j => (textOf? j).bind GrantType.parse?) id (·.grantType)
    (fun x m => { m with grantType := x })

/-- The grant made elsewhere. -/
def foreignField : OverrideField EstateModel :=
  ofLens "foreign_grant" (Json.decodeValue? ForeignGrant.decode) some (·.foreignGrant)
    (fun x m => { m with foreignGrant := x })

/-- Everything that can be entered by hand. -/
def estateFields : List (OverrideField EstateModel) :=
  grantField :: foreignField
    :: willFields.map ofWill
    ++ deceasedFields.map (within (·.deceased) fun g m => { m with deceased := g m.deceased })
    ++ familyFields.map (within (·.family) fun g m => { m with family := g m.family })
    ++ assetsFields.map (within (·.assets) fun g m => { m with assets := g m.assets })
    ++ filingFields.map (within (·.filing) fun g m => { m with filing := g m.filing })
    ++ applicantsFields.map
      (within (·.applicants) fun g m => { m with applicants := g m.applicants })
    ++ otherExecutorsFields.map
      (within (·.otherExecutors) fun g m => { m with otherExecutors := g m.otherExecutors })
    ++ deliveriesFields.map
      (within (·.deliveries) fun g m => { m with deliveries := g m.deliveries })
    ++ citorsFields.map (within (·.citors) fun g m => { m with citors := g m.citors })
    ++ creditorsFields.map (within (·.creditors) fun g m => { m with creditors := g m.creditors })

theorem estateFields_nodup : (estateFields.map OverrideField.key).Nodup := by
  decide

variable {b : CaseBundle} {o o' : ManualOverrides}

/-! ## Readings decide the estate -/

/-- The grant depends on what is entered for it and on whether a will is said to
exist. -/
theorem grantType_congr (grant : grantField.read o = grantField.read o')
    (will : o.flag? "will.exists" = o'.flag? "will.exists") :
    (b.withOverrides o).grantType = (b.withOverrides o').grantType := by
  have named : (o.text? "grant_type").bind GrantType.parse? =
      (o'.text? "grant_type").bind GrantType.parse? := by
    unfold text?
    rw [Option.bind_assoc, Option.bind_assoc]
    exact grant
  have namedGrant : (b.withOverrides o).namedGrant? = (b.withOverrides o').namedGrant? :=
    congrArg (fun g => g.or (b.case.grantType.bind GrantType.parse?)) named
  have hasWill : (b.withOverrides o).hasWill? = (b.withOverrides o').hasWill? :=
    congrArg (fun w => w.or ((b.intake.bind IntakeDraft.hasWill).or b.case.hasWill)) will
  unfold CaseBundle.grantType
  rw [namedGrant, hasWill]

/-- The foreign grant depends on what is entered for it and on the grant. -/
theorem foreignGrant_congr (foreign : foreignField.read o = foreignField.read o')
    (grant : (b.withOverrides o).grantType = (b.withOverrides o').grantType) :
    (b.withOverrides o).foreignGrant = (b.withOverrides o').foreignGrant := by
  unfold CaseBundle.foreignGrant
  rw [grant]
  exact congrArg (fun x => Option.or x _) foreign

/-- The estate depends on the readings of its fields alone. -/
theorem model_congr (same : ∀ f ∈ estateFields, f.read o = f.read o') :
    (b.withOverrides o).model = (b.withOverrides o').model := by
  simp only [estateFields, List.forall_mem_append, List.forall_mem_cons, List.forall_mem_map,
    and_assoc] at same
  obtain ⟨hgrant, hforeign, hwill, hdeceased, hfamily, hassets, hfiling, happlicants, hexecutors,
    hdeliveries, hcitors, hcreditors⟩ := same
  have grant := grantType_congr (b := b) hgrant (hwill _ (.head _))
  unfold CaseBundle.model
  rw [grant, foreignGrant_congr hforeign grant, (will_follows b).congr (by simp [willFields]) hwill,
    (deceased_follows b).congr (by simp [deceasedFields]) hdeceased,
    (family_follows b).congr (by simp [familyFields]) hfamily,
    (assets_follows b).congr (by simp [assetsFields]) hassets,
    (filing_follows b).congr (by simp [filingFields]) hfiling,
    (applicants_follows b).congr (by simp [applicantsFields]) happlicants,
    (otherExecutors_follows b).congr (by simp [otherExecutorsFields]) hexecutors,
    (deliveries_follows b).congr (by simp [deliveriesFields]) hdeliveries,
    (citors_follows b).congr (by simp [citorsFields]) hcitors,
    (creditors_follows b).congr (by simp [creditorsFields]) hcreditors]

/-! ## An entry touches its own field only -/

theorem deceasedFields_part : ∀ f ∈ deceasedFields, part f.key = "deceased" := by decide

theorem willFields_part : ∀ f ∈ willFields, part f.key = "will" := by decide

theorem familyFields_part : ∀ f ∈ familyFields, part f.key = "family" := by decide

theorem assetsFields_part : ∀ f ∈ assetsFields, part f.key = "assets" := by decide

theorem filingFields_part : ∀ f ∈ filingFields, part f.key = "filing" := by decide

theorem applicantsFields_part : ∀ f ∈ applicantsFields, part f.key = "applicants" := by decide

theorem otherExecutorsFields_part :
    ∀ f ∈ otherExecutorsFields, part f.key = "other_executors" := by decide

theorem deliveriesFields_part : ∀ f ∈ deliveriesFields, part f.key = "deliveries" := by decide

theorem citorsFields_part : ∀ f ∈ citorsFields, part f.key = "citors" := by decide

theorem creditorsFields_part : ∀ f ∈ creditorsFields, part f.key = "creditors" := by decide

/-- The estate with the part that a name is about taken from another estate. -/
def EstateModel.splice (m : EstateModel) (p : String) (m' : EstateModel) : EstateModel :=
  { m with
    deceased := if p = "deceased" then m'.deceased else m.deceased
    will := if p = "will" then m'.will else m.will
    applicants := if p = "applicants" then m'.applicants else m.applicants
    otherExecutors := if p = "other_executors" then m'.otherExecutors else m.otherExecutors
    family := if p = "family" then m'.family else m.family
    assets := if p = "assets" then m'.assets else m.assets
    deliveries := if p = "deliveries" then m'.deliveries else m.deliveries
    filing := if p = "filing" then m'.filing else m.filing
    citors := if p = "citors" then m'.citors else m.citors
    creditors := if p = "creditors" then m'.creditors else m.creditors
    foreignGrant := if p = "foreign_grant" then m'.foreignGrant else m.foreignGrant }

theorem ite_of_ne {α : Type} {p q : String} {x y : α} (h : p ≠ q → x = y) :
    (if p = q then x else y) = x := by
  split
  · rfl
  · rename_i hne
    exact (h hne).symm

/-- Entries that agree but for one name build estates that agree but for the part
which the name is about, unless the name decides the grant. -/
theorem model_splice (b : CaseBundle) {key : String} (agree : AgreeOff key o o')
    (hgrant : key ≠ "grant_type") (hexists : key ≠ "will.exists") :
    (b.withOverrides o').model.splice (part key) (b.withOverrides o).model =
      (b.withOverrides o).model := by
  have grant : (b.withOverrides o).grantType = (b.withOverrides o').grantType := by
    refine grantType_congr (read_eq_of_agreeOff agree hgrant.symm) ?_
    unfold flag?
    rw [agree "will.exists" hexists.symm]
  have foreign : part key ≠ "foreign_grant" →
      (b.withOverrides o).foreignGrant = (b.withOverrides o').foreignGrant := by
    intro h
    exact foreignGrant_congr (read_eq_of_agreeOff agree fun heq => h (heq ▸ by decide)) grant
  have will : part key ≠ "will" →
      (b.withOverrides o).model.will = (b.withOverrides o').model.will := by
    intro h
    unfold CaseBundle.model
    rw [grant, (will_follows b).congr_of_part (by simp [willFields]) willFields_part agree h]
  have deceased := (deceased_follows b).congr_of_part (by simp [deceasedFields])
    deceasedFields_part agree
  have family := (family_follows b).congr_of_part (by simp [familyFields]) familyFields_part agree
  have assets := (assets_follows b).congr_of_part (by simp [assetsFields]) assetsFields_part agree
  have filing := (filing_follows b).congr_of_part (by simp [filingFields]) filingFields_part agree
  have applicants := (applicants_follows b).congr_of_part (by simp [applicantsFields])
    applicantsFields_part agree
  have otherExecutors := (otherExecutors_follows b).congr_of_part (by simp [otherExecutorsFields])
    otherExecutorsFields_part agree
  have deliveries := (deliveries_follows b).congr_of_part (by simp [deliveriesFields])
    deliveriesFields_part agree
  have citors := (citors_follows b).congr_of_part (by simp [citorsFields]) citorsFields_part agree
  have creditors := (creditors_follows b).congr_of_part (by simp [creditorsFields])
    creditorsFields_part agree
  unfold EstateModel.splice
  rw [ite_of_ne will]
  unfold CaseBundle.model
  simp only [grant]
  rw [ite_of_ne deceased, ite_of_ne family, ite_of_ne assets, ite_of_ne filing,
    ite_of_ne applicants, ite_of_ne otherExecutors, ite_of_ne deliveries, ite_of_ne citors,
    ite_of_ne creditors, ite_of_ne foreign]

/-- Putting a value into a part of two estates that agree but for this part, and
whose parts agree but for the field. -/
theorem frame_within (b : CaseBundle) {S : Type} {get : EstateModel → S}
    {update : (S → S) → EstateModel → EstateModel} {build : ManualOverrides → S}
    {fields : List (OverrideField S)} {p : String} (follows : Follows build fields)
    (named : ∀ f ∈ fields, part f.key = p)
    (built : ∀ o, get (b.withOverrides o).model = build o)
    (update_eq : ∀ F m, update F m = update (fun _ => F (get m)) m)
    (update_splice : ∀ F m m', update F (m.splice p m') = update (fun _ => F (get m')) m)
    {g : OverrideField S} (hg : g ∈ fields) (hgrant : g.key ≠ "grant_type")
    (hexists : g.key ≠ "will.exists") (agree : AgreeOff g.key o o') (v : g.Value) :
    (g.within get update).put v (b.withOverrides o).model =
      (g.within get update).put v (b.withOverrides o').model := by
  show update (g.put v) (b.withOverrides o).model = update (g.put v) (b.withOverrides o').model
  rw [← model_splice b agree hgrant hexists, named g hg, update_splice, built,
    follows.frame hg agree v, update_eq (g.put v) (b.withOverrides o').model, built]

theorem frame_ofWill (b : CaseBundle) {g : OverrideField Will} (hg : g ∈ willFields)
    (hgrant : g.key ≠ "grant_type") (hexists : g.key ≠ "will.exists")
    (agree : AgreeOff g.key o o') (v : g.Value) :
    g.ofWill.put v (b.withOverrides o).model = g.ofWill.put v (b.withOverrides o').model := by
  have spliced := model_splice b agree hgrant hexists
  have grant : (b.withOverrides o').grantType = (b.withOverrides o).grantType :=
    congrArg EstateModel.grantType spliced
  have will : (b.withOverrides o).model.will.map (g.put v) =
      (b.withOverrides o').model.will.map (g.put v) := by
    unfold CaseBundle.model
    dsimp only
    rw [grant]
    split
    · exact congrArg some ((will_follows b).frame hg agree v)
    · rfl
  rw [← spliced, willFields_part g hg]
  exact congrArg (fun w => { (b.withOverrides o').model with will := w }) will

/-- An entry touches no field of the estate but its own. -/
theorem model_frame (b : CaseBundle) {f : OverrideField EstateModel} (hf : f ∈ estateFields)
    (hgrant : f.key ≠ "grant_type") (hexists : f.key ≠ "will.exists")
    (agree : AgreeOff f.key o o') (v : f.Value) :
    f.put v (b.withOverrides o).model = f.put v (b.withOverrides o').model := by
  simp only [estateFields, List.mem_append, List.mem_cons, List.mem_map, or_assoc] at hf
  rcases hf with rfl | rfl | ⟨g, hg, rfl⟩ | ⟨g, hg, rfl⟩ | ⟨g, hg, rfl⟩ | ⟨g, hg, rfl⟩ |
    ⟨g, hg, rfl⟩ | ⟨g, hg, rfl⟩ | ⟨g, hg, rfl⟩ | ⟨g, hg, rfl⟩ | ⟨g, hg, rfl⟩ | ⟨g, hg, rfl⟩
  · exact absurd rfl hgrant
  · rw [← model_splice b agree hgrant hexists]
    rfl
  · exact frame_ofWill b hg hgrant hexists agree v
  · exact frame_within b (deceased_follows b) deceasedFields_part (fun _ => rfl)
      (fun _ _ => rfl) (fun _ _ _ => rfl) hg hgrant hexists agree v
  · exact frame_within b (family_follows b) familyFields_part (fun _ => rfl)
      (fun _ _ => rfl) (fun _ _ _ => rfl) hg hgrant hexists agree v
  · exact frame_within b (assets_follows b) assetsFields_part (fun _ => rfl)
      (fun _ _ => rfl) (fun _ _ _ => rfl) hg hgrant hexists agree v
  · exact frame_within b (filing_follows b) filingFields_part (fun _ => rfl)
      (fun _ _ => rfl) (fun _ _ _ => rfl) hg hgrant hexists agree v
  · exact frame_within b (applicants_follows b) applicantsFields_part (fun _ => rfl)
      (fun _ _ => rfl) (fun _ _ _ => rfl) hg hgrant hexists agree v
  · exact frame_within b (otherExecutors_follows b) otherExecutorsFields_part (fun _ => rfl)
      (fun _ _ => rfl) (fun _ _ _ => rfl) hg hgrant hexists agree v
  · exact frame_within b (deliveries_follows b) deliveriesFields_part (fun _ => rfl)
      (fun _ _ => rfl) (fun _ _ _ => rfl) hg hgrant hexists agree v
  · exact frame_within b (citors_follows b) citorsFields_part (fun _ => rfl)
      (fun _ _ => rfl) (fun _ _ _ => rfl) hg hgrant hexists agree v
  · exact frame_within b (creditors_follows b) creditorsFields_part (fun _ => rfl)
      (fun _ _ => rfl) (fun _ _ _ => rfl) hg hgrant hexists agree v

/-! ## A reading decides its field -/

theorem grantType_of_read {g : GrantType} (entered : grantField.read o = some g) :
    (b.withOverrides o).grantType = g := by
  have named : (o.text? "grant_type").bind GrantType.parse? = some g := by
    unfold text?
    rw [Option.bind_assoc]
    exact entered
  have namedGrant : (b.withOverrides o).namedGrant? = some g :=
    congrArg (fun x => Option.or x (b.case.grantType.bind GrantType.parse?)) named
  unfold CaseBundle.grantType
  rw [namedGrant]
  rfl

theorem foreignGrant_of_read {g : ForeignGrant} (entered : foreignField.read o = some g) :
    (b.withOverrides o).foreignGrant = some g := by
  unfold CaseBundle.foreignGrant
  exact congrArg (fun x => Option.or x _) entered

/-- The estate has the will of the bundle when the grant rests on one. -/
theorem model_will (h : b.grantType.impliesWill = true) : b.model.will = some b.will :=
  if_pos h

/-- What is entered for a field and can be read is what the estate has. -/
theorem model_holds (b : CaseBundle) {f : OverrideField EstateModel} (hf : f ∈ estateFields)
    {v : f.Value} (entered : f.read o = some v) : f.holds (b.withOverrides o).model v := by
  simp only [estateFields, List.mem_append, List.mem_cons, List.mem_map, or_assoc] at hf
  rcases hf with rfl | rfl | ⟨g, hg, rfl⟩ | ⟨g, hg, rfl⟩ | ⟨g, hg, rfl⟩ | ⟨g, hg, rfl⟩ |
    ⟨g, hg, rfl⟩ | ⟨g, hg, rfl⟩ | ⟨g, hg, rfl⟩ | ⟨g, hg, rfl⟩ | ⟨g, hg, rfl⟩ | ⟨g, hg, rfl⟩
  · exact grantType_of_read entered
  · exact foreignGrant_of_read entered
  · intro rests
    exact ⟨_, model_will rests, (will_follows b).holds_of_read hg entered⟩
  · exact (deceased_follows b).holds_of_read hg entered
  · exact (family_follows b).holds_of_read hg entered
  · exact (assets_follows b).holds_of_read hg entered
  · exact (filing_follows b).holds_of_read hg entered
  · exact (applicants_follows b).holds_of_read hg entered
  · exact (otherExecutors_follows b).holds_of_read hg entered
  · exact (deliveries_follows b).holds_of_read hg entered
  · exact (citors_follows b).holds_of_read hg entered
  · exact (creditors_follows b).holds_of_read hg entered

/-! ## Precedence -/

/-- An entry that cannot be read is as good as none. -/
theorem model_erase (b : CaseBundle) {f : OverrideField EstateModel} (hf : f ∈ estateFields)
    (unread : f.read o = none) :
    (b.withOverrides o).model = (b.withOverrides (o.erase f.key)).model := by
  refine model_congr fun g hg => ?_
  by_cases hkey : g.key = f.key
  · obtain rfl := List.inj_on_of_nodup_map estateFields_nodup hg hf hkey
    rw [unread, read_erase_self]
  · exact read_eq_of_agreeOff (o.agreeOff_erase f.key) hkey

/-- Values entered by hand take precedence, and do nothing else.  For every bundle:
an entry that cannot be read is as good as none; an entry that can be read is what
the estate has in its field, whatever the records say; a name that no field has
does not matter; and changing the entry of a field changes no other field, where
the field is neither the grant nor the existence of the will. -/
theorem CaseBundle.override_precedence (b : CaseBundle) :
    (∀ f ∈ estateFields, f.read b.overrides = none →
      b.model = (b.withOverrides (b.overrides.erase f.key)).model)
    ∧ (∀ f ∈ estateFields, ∀ v : f.Value, f.read b.overrides = some v → f.holds b.model v)
    ∧ (∀ key ∉ estateFields.map OverrideField.key, ∀ o : ManualOverrides,
        AgreeOff key b.overrides o → b.model = (b.withOverrides o).model)
    ∧ (∀ f ∈ estateFields, f.key ≠ "grant_type" → f.key ≠ "will.exists" →
        ∀ o : ManualOverrides, AgreeOff f.key b.overrides o →
          ∀ v : f.Value, f.put v b.model = f.put v (b.withOverrides o).model) := by
  refine ⟨?unread, ?read, ?unknown, ?frame⟩
  case unread =>
    intro f hf unread
    exact model_erase b hf unread
  case read =>
    intro f hf v entered
    exact model_holds b hf entered
  case unknown =>
    intro key hkey o agree
    refine model_congr fun f hf => read_eq_of_agreeOff agree fun heq => hkey ?_
    rw [← heq]
    exact List.mem_map_of_mem hf
  case frame =>
    intro f hf hgrant hexists o agree v
    exact model_frame b hf hgrant hexists agree v

end EstateFiling
