import EstateFiling.Form.Deponents

/-!
# Letters

The head and the close that the letters share.
-/

namespace EstateFiling.Letter

/-- The date, whom the letter is for and what it is about. -/
def head (style : StyleProfile) (m : EstateModel) (salutation : String) : Section where
  id := "letterhead"
  heading := none
  blocks :=
    [Compose.dateLine style "Date" m.filing.submissionDate,
      Compose.text style salutation,
      Compose.paragraph style
        ("Re: Estate of " ++ Form.deceasedName m ++ ", deceased (date of death "
          ++ Filler.dateOrDots m.deceased.dateOfDeath 20 ++ ")")
        { bold := true }]

/-- The applicants' places to sign. -/
def closing (style : StyleProfile) (m : EstateModel) : Section where
  id := "closing"
  heading := none
  blocks := Compose.text style "Yours truly,"
    :: Compose.signatures style m.applicantNames "Applicant"

end EstateFiling.Letter
