import EstateFiling.Estate.Model
import EstateFiling.Proofs.Calendar.Text
import EstateFiling.Proofs.Json.Records
import EstateFiling.Proofs.Money.Currency

/-!
# Estates come back from data

Every record of an estate is decoded from its data, with the members in any arrangement
(`EstateModel.decodes`).  Each proof follows the fields of the record: a text, a truth
value or a count comes back as it is, a date from its text, an amount from its cents, and
the parts that are records themselves by their own theorems.
-/

namespace EstateFiling

open Json

variable {f : Arrangement}

/-! ## Amounts and dates -/

theorem Money.decodes (m : Money) : Decodes f Money.decode m.toJson m := by
  refine .scalar rfl rfl ?_
  change found (ofCents? m.cents) = .ok m
  rw [ofCents?_cents]
  rfl

theorem Date.decodes (d : Date) : Decodes f Date.decode d.toJson d := by
  refine .scalar rfl rfl ?_
  change found (parse? d.text) = .ok d
  rw [parse?_text]
  rfl

/-! ## Names and addresses -/

theorem PersonName.decodes (p : PersonName) : Decodes f PersonName.decode p.toJson p :=
  .record (by repeat' constructor) <|
    .given (.string _) <| .given (.string _) <| .given (.string _) <| .nil _

theorem Address.decodes (a : Address) : Decodes f Address.decode a.toJson a :=
  .record (by repeat' constructor) <|
    .given (.string _) <| .given (.string _) <| .given (.string _) <| .given (.string _) <|
    .given (.string _) <| .given (.string _) <| .nil _

/-! ## Applicants and other executors -/

theorem Relationship.decodes (r : Relationship) : Decodes f Relationship.decode r.toJson r := by
  cases r with
  | other description =>
    -- An object of one member is arranged as it is.
    obtain ⟨ms, arranged, arranges⟩ := f.object [("other", .string description)]
    have single := arranges (List.nodup_singleton _)
    rw [List.map_singleton, f.scalar _ rfl rfl, List.perm_singleton] at single
    rw [Decodes, toJson, arranged, single]
    rfl
  | _ => exact .scalar rfl rfl rfl

theorem ApplicantKind.decodes (a : ApplicantKind) : Decodes f ApplicantKind.decode a.toJson a :=
  .enum (by cases a <;> rfl)

theorem Applicant.decodes (a : Applicant) : Decodes f Applicant.decode a.toJson a :=
  .record (by repeat' constructor) <|
    .given a.name.decodes <| .given (.string _) <| .given a.kind.decodes <|
    .given a.address.decodes <| .given (.string _) <| .given (.string _) <| .given (.bool _) <|
    .given a.relationship.decodes <| .nil _

theorem Disposition.decodes (d : Disposition) : Decodes f Disposition.decode d.toJson d :=
  .enum (by cases d <;> rfl)

theorem OtherExecutor.decodes (o : OtherExecutor) : Decodes f OtherExecutor.decode o.toJson o :=
  .record (by repeat' constructor) <|
    .given (.string _) <| .given o.disposition.decodes <| .nil _

/-! ## Assets -/

theorem SecuredDebt.decodes (s : SecuredDebt) : Decodes f SecuredDebt.decode s.toJson s :=
  .record (by repeat' constructor) <|
    .given (.string _) <| .given s.amount.decodes <| .nil _

theorem SecuredAsset.decodes (s : SecuredAsset) : Decodes f SecuredAsset.decode s.toJson s :=
  .record (by repeat' constructor) <|
    .given (.string _) <| .given s.value.decodes <|
    .given (.optional fun a _ => ⟨rfl, a.decodes⟩) <| .nil _

theorem Asset.decodes (a : Asset) : Decodes f Asset.decode a.toJson a :=
  .record (by repeat' constructor) <|
    .given (.string _) <| .given a.value.decodes <| .nil _

theorem AssetSchedule.decodes (a : AssetSchedule) : Decodes f AssetSchedule.decode a.toJson a :=
  .record (by repeat' constructor) <|
    .given (.list fun a _ => a.decodes) <| .given (.list fun a _ => a.decodes) <|
    .given (.list fun a _ => a.decodes) <| .given (.list fun a _ => a.decodes) <|
    .given (.list fun a _ => a.decodes) <| .nil _

/-! ## The deceased -/

theorem IndigenousStatus.decodes (i : IndigenousStatus) :
    Decodes f IndigenousStatus.decode i.toJson i :=
  .record (by repeat' constructor) <|
    .given (.bool _) <| .given (.bool _) <| .given (.string _) <| .nil _

theorem Deceased.decodes (d : Deceased) : Decodes f Deceased.decode d.toJson d :=
  .record (by repeat' constructor) <|
    .given d.name.decodes <| .given (.strings _) <|
    .given (.optional fun a _ => ⟨rfl, a.decodes⟩) <| .given (.string _) <|
    .given d.lastAddress.decodes <| .given (.bool _) <| .given d.indigenous.decodes <| .nil _

/-! ## Deliveries -/

theorem DeliveryMethod.decodes (d : DeliveryMethod) : Decodes f DeliveryMethod.decode d.toJson d :=
  .enum (by cases d <;> rfl)

theorem DeliveryCapacity.decodes (d : DeliveryCapacity) :
    Decodes f DeliveryCapacity.decode d.toJson d :=
  .record (by repeat' constructor) <|
    .given (.string _) <| .given (.string _) <| .nil _

theorem Delivery.decodes (d : Delivery) : Decodes f Delivery.decode d.toJson d :=
  .record (by repeat' constructor) <|
    .given (.string _) <| .given d.method.decodes <|
    .given (.optional fun a _ => ⟨rfl, a.decodes⟩) <|
    .given (.optional fun a _ => ⟨rfl, a.decodes⟩) <| .given (.bool _) <| .nil _

/-! ## Family and beneficiaries -/

theorem SpouseStatus.decodes (s : SpouseStatus) : Decodes f SpouseStatus.decode s.toJson s :=
  .enum (by cases s <;> rfl)

theorem Spouse.decodes (s : Spouse) : Decodes f Spouse.decode s.toJson s :=
  .record (by repeat' constructor) <|
    .given s.status.decodes <| .given (.string _) <| .nil _

theorem FamilyMember.decodes (m : FamilyMember) : Decodes f FamilyMember.decode m.toJson m :=
  .record (by repeat' constructor) <|
    .given (.string _) <| .given (.bool _) <| .nil _

theorem IntestateSuccessor.decodes (i : IntestateSuccessor) :
    Decodes f IntestateSuccessor.decode i.toJson i :=
  .record (by repeat' constructor) <|
    .given (.string _) <| .given (.string _) <| .nil _

theorem Family.decodes (family : Family) : Decodes f Family.decode family.toJson family :=
  .record (by repeat' constructor) <|
    .given family.spouse.decodes <| .given (.list fun a _ => a.decodes) <|
    .given (.list fun a _ => a.decodes) <| .given (.list fun a _ => a.decodes) <| .nil _

/-! ## Grants -/

theorem GrantType.decodes (g : GrantType) : Decodes f GrantType.decode g.toJson g :=
  .enum (by cases g <;> rfl)

theorem ForeignGrant.decodes (grant : ForeignGrant) :
    Decodes f ForeignGrant.decode grant.toJson grant :=
  .record (by repeat' constructor) <|
    .given (.string _) <| .given (.string _) <| .given (.optional fun a _ => ⟨rfl, a.decodes⟩) <|
    .nil _

/-! ## Wills -/

theorem Codicil.decodes (c : Codicil) : Decodes f Codicil.decode c.toJson c :=
  .record (by repeat' constructor) <|
    .given (.optional fun a _ => ⟨rfl, a.decodes⟩) <| .nil _

theorem ElectronicWillDemand.decodes (e : ElectronicWillDemand) :
    Decodes f ElectronicWillDemand.decode e.toJson e :=
  .record (by repeat' constructor) <|
    .given (.bool _) <| .given (.strings _) <| .nil _

theorem Will.decodes (w : Will) : Decodes f Will.decode w.toJson w :=
  .record (by repeat' constructor) <|
    .given (.bool _) <| .given (.optional fun a _ => ⟨rfl, a.decodes⟩) <| .given (.string _) <|
    .given (.bool _) <| .given (.bool _) <| .given (.list fun a _ => a.decodes) <|
    .given (.bool _) <| .given (.bool _) <| .given (.strings _) <| .given (.bool _) <|
    .given w.electronicDemand.decodes <| .nil _

/-! ## The whole estate -/

theorem Filing.decodes (filing : Filing) : Decodes f Filing.decode filing.toJson filing :=
  .record (by repeat' constructor) <|
    .given (.string _) <| .given (.optional fun a _ => ⟨rfl, a.decodes⟩) <| .given (.uint32 _) <|
    .given (.optional fun a _ => ⟨rfl, a.decodes⟩) <| .given (.string _) <| .given (.string _) <|
    .given (.bool _) <| .given (.bool _) <| .given (.bool _) <| .given (.bool _) <|
    .given (.bool _) <| .nil _

theorem Creditor.decodes (c : Creditor) : Decodes f Creditor.decode c.toJson c :=
  .record (by repeat' constructor) <|
    .given (.string _) <| .given (.optional fun a _ => ⟨rfl, a.decodes⟩) <| .nil _

theorem EstateModel.decodes (m : EstateModel) : Decodes f EstateModel.decode m.toJson m :=
  .record (by repeat' constructor) <|
    .given m.deceased.decodes <| .given m.grantType.decodes <|
    .given (.optional fun a _ => ⟨rfl, a.decodes⟩) <| .given (.list fun a _ => a.decodes) <|
    .given (.list fun a _ => a.decodes) <| .given m.family.decodes <| .given m.assets.decodes <|
    .given (.list fun a _ => a.decodes) <| .given m.filing.decodes <| .given (.strings _) <|
    .given (.list fun a _ => a.decodes) <| .given (.optional fun a _ => ⟨rfl, a.decodes⟩) <| .nil _

end EstateFiling
