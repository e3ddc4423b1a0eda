import EstateFiling.Command.FileTree
import EstateFiling.Main
import EstateFiling.Service.Routes
import EstateFiling.Proofs.Case.Precedence
import EstateFiling.Proofs.Case.Shape
import EstateFiling.Proofs.Form.AssetsTables
import EstateFiling.Proofs.Form.ForeignGrant
import EstateFiling.Proofs.Form.WillAgreement
import EstateFiling.Proofs.Form.DeliveryAgreement
import EstateFiling.Proofs.Form.Affidavits
import EstateFiling.Proofs.Form.ServiceAddress
import EstateFiling.Proofs.Json.Records
import EstateFiling.Proofs.Json.Reading
import EstateFiling.Proofs.Document.RoundTrip
import EstateFiling.Proofs.Calendar.Text
import EstateFiling.Proofs.Estate.RoundTrip
import EstateFiling.Proofs.Json.Kept
import EstateFiling.Proofs.Case.RoundTrip
import EstateFiling.Proofs.Csv.Quoting
import EstateFiling.Proofs.Case.ScheduleFile
import EstateFiling.Proofs.Document.Points
import EstateFiling.Proofs.Form.Beneficiaries
import EstateFiling.Proofs.Form.Executors
import EstateFiling.Proofs.Document.Lookups
import EstateFiling.Proofs.Form.Deliveries
import EstateFiling.Proofs.Form.Lookups
import EstateFiling.Proofs.Document.Styling
import EstateFiling.Proofs.Form.Styling
import EstateFiling.Proofs.Form.Formed
import EstateFiling.Proofs.Form.EmptyEntries
import EstateFiling.Proofs.Form.SurvivingSpouse
import EstateFiling.Proofs.Service.FrontEnds
import EstateFiling.Proofs.Case.NullAnswers
import EstateFiling.Proofs.Case.Creditors
import EstateFiling.Proofs.Form.Signatures
import EstateFiling.Proofs.Form.Certificates
import EstateFiling.Proofs.Case.Placing
import EstateFiling.Proofs.Case.EnteredAssets
import EstateFiling.Proofs.Case.AssetItems
import EstateFiling.Proofs.Form.TrimmedEntries
import EstateFiling.Proofs.Money.Printing
import EstateFiling.Proofs.Money.Numbers
import EstateFiling.Proofs.Document.Selection
import EstateFiling.Proofs.Estate.Names
import EstateFiling.Proofs.Calendar.Records
import EstateFiling.Proofs.Form.EarliestSubmission
import EstateFiling.Proofs.Form.Enumerations
import EstateFiling.Proofs.Command.Stages
