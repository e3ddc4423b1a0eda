import EstateFiling.Case.Bundle
import EstateFiling.Form.AdministrationAffidavit
import EstateFiling.Form.AssetsAffidavit
import EstateFiling.Form.ChecklistLetter
import EstateFiling.Form.CoverLetter
import EstateFiling.Form.DeliveryAffidavit
import EstateFiling.Form.Notice
import EstateFiling.Form.ShortAffidavit
import EstateFiling.Form.Submission

/-!
# Writing a document

`EstateModel.document` writes the document of a kind from an estate, and
`CaseBundle.document` from the records of a case.
-/

namespace EstateFiling

/-- The document of a kind for an estate, in a style. -/
def EstateModel.document (m : EstateModel) (style : StyleProfile) :
    DocumentKind → DocumentContent
  | .notice => Notice.document style m
  | .submission => Submission.document style m
  | .shortAffidavit => ShortAffidavit.document style m
  | .administrationAffidavit => AdministrationAffidavit.document style m
  | .deliveryAffidavit => DeliveryAffidavit.document style m
  | .assetsAffidavit => AssetsAffidavit.document style m
  | .registryCoverLetter => CoverLetter.document style m
  | .filingChecklistLetter => ChecklistLetter.document style m

/-- The document of a kind for a case, under the settings. -/
def CaseBundle.document (b : CaseBundle) (settings : DocumentSettings) (kind : DocumentKind) :
    DocumentContent :=
  (b.build settings).document settings.style kind

end EstateFiling
