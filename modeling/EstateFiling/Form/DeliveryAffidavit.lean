import EstateFiling.Form.Deponents

/-!
# Affidavit of delivery

Form P9, sworn by all applicants together.  The deliveries are listed by their
method, and after them the people who received the notice for someone else.
-/

namespace EstateFiling.DeliveryAffidavit

/-! ## Clauses -/

/-- What of the will was delivered with the notice. -/
def willCopy : ClauseTable EstateModel where
  group := "will_copy"
  fallback := "no_will"
  clauses :=
    [⟨"will_copy_attached", fun m => m.willExists && m.will.any (fun w => !w.electronic)⟩,
      ⟨"electronic_will_copy", fun m => m.willExists && m.will.any Will.electronic⟩]

/-- Whether a copy of an electronic will was demanded. -/
def electronicWillDemand : ClauseTable EstateModel where
  group := "electronic_will_demand"
  fallback := "not_demanded"
  clauses :=
    [⟨"demanded", fun m =>
      m.willExists && m.will.any (fun w => w.electronic && w.electronicDemand.demanded)⟩]

/-! ## Deliveries by a method -/

/-- The identifier of a method's box. -/
def boxId : DeliveryMethod → String
  | .postal => "delivery_postal"
  | .personal => "delivery_personal"
  | .electronic => "delivery_electronic"

/-- The identifier of a method's table. -/
def tableId : DeliveryMethod → String
  | .postal => "postal_deliveries"
  | .personal => "personal_deliveries"
  | .electronic => "electronic_deliveries"

/-- A method in words. -/
def description : DeliveryMethod → String
  | .postal => "by ordinary or registered mail to the following persons"
  | .personal => "by personally handing the documents to the following persons"
  | .electronic => "by e-mail or other electronic means to the following persons"

/-- The headings of a method's table. -/
def header : DeliveryMethod → List String
  | .postal | .personal => ["Recipient", "Date delivered"]
  | .electronic => ["Recipient", "Date delivered", "Receipt acknowledged"]

/-- A delivery's row in its method's table. -/
def row (method : DeliveryMethod) (d : Delivery) : TableRow where
  cells := [Filler.orDots d.recipient 30, Filler.dateOrDots d.deliveredOn 20]
    ++ (match method with
      | .postal | .personal => []
      | .electronic => [if d.acknowledged then "Yes" else "No"])
  emphasis := false

/-- Whether there are electronic deliveries and each was acknowledged. -/
def allElectronicAcknowledged (m : EstateModel) : Bool :=
  let deliveries := m.deliveriesBy .electronic
  !deliveries.isEmpty && deliveries.all Delivery.acknowledged

/-- The box that confirms the receipts of the electronic deliveries. -/
def acknowledgement (style : StyleProfile) (m : EstateModel) : Block :=
  Compose.checkboxes style "electronic_acknowledged" none
    [("electronic_acknowledged",
      "Each person who received the documents electronically has acknowledged receipt.",
      allElectronicAcknowledged m)]
    2

/-- A method's box and, if there are deliveries by it, their table. -/
def methodBlocks (style : StyleProfile) (m : EstateModel) (method : DeliveryMethod) :
    List Block :=
  let deliveries := m.deliveriesBy method
  Compose.checkboxes style (boxId method) none
      [(boxId method, description method, !deliveries.isEmpty)] 1
    :: (if deliveries.isEmpty then []
      else Compose.table style (tableId method) (header method) (deliveries.map (row method))
        :: (if method = .electronic then [acknowledgement style m] else []))

/-! ## Deliveries for someone else -/

/-- The statement of a delivery that was received for someone else. -/
def capacityEntry? (d : Delivery) : Option String :=
  d.onBehalfOf.map fun capacity =>
    Filler.orDots capacity.person 30 ++ " received delivery on behalf of "
      ++ Filler.orDots d.recipient 30 ++ ", in the capacity of "
      ++ Filler.orDots capacity.capacity 20 ++ "."

/-! ## The form -/

/-- The title. -/
def title : String := "AFFIDAVIT OF DELIVERY"

/-- The wording of what was delivered of the will. -/
def willCopyOptions : List (String × String) :=
  [("will_copy_attached", "a copy of the will and of any codicil."),
    ("electronic_will_copy",
      "notice that the will is an electronic will, together with a copy of the will or an "
        ++ "explanation of how a copy may be obtained."),
    ("no_will", "no will, as the deceased is not known to have left one.")]

/-- The wording of the demands for a copy. -/
def demandOptions (m : EstateModel) : List (String × String) :=
  [("demanded",
      "A copy of the electronic will was demanded and was provided to: "
        ++ Form.copyRecipients m),
    ("not_demanded", "No person demanded a copy of an electronic will.")]

/-- The affidavit. -/
def affidavit (style : StyleProfile) (m : EstateModel) : Section where
  id := "affidavit"
  heading := none
  blocks :=
    let d := Deponents.together m
    Form.affidavitOpening style m "P9" title d
      ++ [Compose.numbered style "1."
          (d.pronoun ++ " delivered a copy of the notice of proposed application in Form P1 in "
            ++ "relation to the estate of " ++ Form.deceasedName m
            ++ ", deceased, to each of the persons named below, in the manner and on the date "
            ++ "shown:")]
      ++ DeliveryMethod.all.flatMap (methodBlocks style m)
      ++ [Compose.numbered style "2."
          "The following persons received the documents on behalf of another person:"]
      ++ Compose.enumerationOrNone style (m.deliveries.filterMap capacityEntry?)
      ++ [Compose.numbered style "3." ("With the notice, " ++ d.pronoun ++ " delivered:"),
        Compose.passage style willCopy m willCopyOptions,
        Compose.numbered style "4." "As to demands for a copy of the electronic will:",
        Compose.passage style electronicWillDemand m (demandOptions m),
        Form.affidavitClose style d]

/-- The affidavit of delivery of an estate. -/
def document (style : StyleProfile) (m : EstateModel) : DocumentContent where
  kind := .deliveryAffidavit
  title := title
  style := style
  sections := [affidavit style m]

end EstateFiling.DeliveryAffidavit
