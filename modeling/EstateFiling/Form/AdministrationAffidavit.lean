import EstateFiling.Form.Deponents

/-!
# Affidavit of applicant without a will

Form P5.  Each group of deponents swears one affidavit.  What gives an applicant
priority depends on the relationship to the deceased and, for a child, on whether
the spouse survives.
-/

namespace EstateFiling.AdministrationAffidavit

/-! ## Clauses -/

/-- What an applicant's priority depends on. -/
structure PriorityFacts where
  /-- The applicant's relationship to the deceased. -/
  relationship : Relationship
  /-- What is known of the spouse. -/
  spouse : SpouseStatus
deriving DecidableEq, Repr

/-- What the priority of an applicant for an estate depends on. -/
def PriorityFacts.of (m : EstateModel) (a : Applicant) : PriorityFacts :=
  ⟨a.relationship, m.family.spouse.status⟩

/-- Why an applicant has priority. -/
def priority : ClauseTable PriorityFacts where
  group := "priority"
  fallback := "unspecified"
  clauses :=
    [⟨"spouse", fun f => f.relationship = .spouse⟩,
      ⟨"child_with_surviving_spouse", fun f => f.relationship = .child && f.spouse = .surviving⟩,
      ⟨"child_without_spouse", fun f => f.relationship = .child && f.spouse != .surviving⟩,
      ⟨"grandchild", fun f => f.relationship = .grandchild⟩,
      ⟨"parent", fun f => f.relationship = .parent⟩,
      ⟨"sibling", fun f => f.relationship = .sibling⟩,
      ⟨"other_relationship", fun f => match f.relationship with
        | .other _ => true
        | _ => false⟩]

/-- What is known of the spouse. -/
def spouseStatus : ClauseTable EstateModel where
  group := "spouse_status"
  fallback := "unknown"
  clauses :=
    [⟨"surviving", fun m => m.family.spouse.status = .surviving⟩,
      ⟨"deceased", fun m => m.family.spouse.status = .deceased⟩,
      ⟨"never_married", fun m => m.family.spouse.status = .neverMarried⟩]

/-- Whether there are children. -/
def children : ClauseTable EstateModel where
  group := "children"
  fallback := "none"
  clauses := [⟨"listed", fun m => !m.family.children.isEmpty⟩]

/-- Whether there are intestate successors. -/
def intestateSuccessors : ClauseTable EstateModel where
  group := "intestate_successors"
  fallback := "none"
  clauses := [⟨"listed", fun m => !m.family.intestateSuccessors.isEmpty⟩]

/-! ## Wording -/

/-- The title. -/
def title : String := "AFFIDAVIT OF APPLICANT FOR GRANT OF ADMINISTRATION WITHOUT WILL ANNEXED"

/-- The wording of an applicant's priority. -/
def priorityOptions (m : EstateModel) (a : Applicant) : List (String × String) :=
  let deceased := Form.deceasedName m
  [("spouse",
      "is the spouse of " ++ deceased ++ " and, under section 130 of the Wills, Estates and "
        ++ "Succession Act, has priority to apply for a grant of administration."),
    ("child_with_surviving_spouse",
      "is a child of " ++ deceased ++ ". The surviving spouse, "
        ++ Filler.orDots m.family.spouse.name 30
        ++ ", has renounced the right to apply or consents to this application, and the "
        ++ "applicant applies with the consent of a majority of the children of the deceased."),
    ("child_without_spouse",
      "is a child of " ++ deceased ++ ", who left no surviving spouse, and applies with the "
        ++ "consent of a majority of the children of the deceased."),
    ("grandchild",
      "is a grandchild of " ++ deceased ++ ". No spouse or child of the deceased is applying "
        ++ "and the applicant is an intestate successor entitled to apply."),
    ("parent",
      "is a parent of " ++ deceased ++ ". The deceased left no spouse or descendant entitled "
        ++ "to apply."),
    ("sibling",
      "is a sibling of " ++ deceased ++ ". The deceased left no spouse, descendant or parent "
        ++ "entitled to apply."),
    ("other_relationship",
      "is the " ++ Filler.orDots a.relationship.label 20 ++ " of " ++ deceased
        ++ " and applies as a person with priority under section 130 of the Wills, Estates and "
        ++ "Succession Act, no person with a prior right being willing or able to apply."),
    ("unspecified",
      "applies as " ++ Filler.dots 20 ++ " of " ++ deceased ++ " on the following basis: "
        ++ Filler.dots 40)]

/-- The wording of what is known of the spouse. -/
def spouseOptions (m : EstateModel) : List (String × String) :=
  let spouse := Filler.orDots m.family.spouse.name 30
  [("surviving", "The deceased was survived by a spouse, " ++ spouse ++ "."),
    ("deceased", "The spouse of the deceased, " ++ spouse ++ ", died before the deceased."),
    ("never_married", "The deceased never had a spouse."),
    ("unknown", "As to a spouse of the deceased: " ++ Filler.dots 40)]

/-- The wording of the children. -/
def childrenOptions : List (String × String) :=
  [("listed", "The deceased had the following children:"),
    ("none", "The deceased had no children.")]

/-- The entry of a child. -/
def childEntry (c : FamilyMember) : String :=
  Filler.orDots c.name 30 ++ (if c.surviving then "" else " (predeceased the deceased)")

/-- The wording of the intestate successors. -/
def successorOptions : List (String × String) :=
  [("listed", "The following persons are entitled to share in the estate on an intestacy:"),
    ("none", Compose.noneText)]

/-- The entry of an intestate successor. -/
def successorEntry (s : IntestateSuccessor) : String :=
  let relationship := Text.trim s.relationship
  Filler.orDots s.name 30 ++ (if relationship.isEmpty then "" else ", " ++ relationship)

/-! ## Sections -/

/-- The priority of one member. -/
def priorityPassage (style : StyleProfile) (m : EstateModel) (d : Deponents) (offset : Nat)
    (a : Applicant) : Block :=
  Compose.choice style (Form.numberedId priority.group (d.firstIndex + offset))
    (some (Filler.orDots a.displayName 30 ++ ":"))
    (priority.select (PriorityFacts.of m a)) (priorityOptions m a)

/-- The affidavit with a number. -/
def affidavit (style : StyleProfile) (m : EstateModel) (number : Nat) (d : Deponents) :
    Section where
  id := Form.numberedId "affidavit" number
  heading := none
  blocks :=
    (if 1 < number then [Block.pageBreak] else [])
      ++ Form.affidavitOpening style m "P5" title d
      ++ [Compose.numbered style "1."
          (d.pronoun ++ " " ++ d.be ++ " " ++ d.role ++ " for a grant of administration without "
            ++ "will annexed in relation to the estate of " ++ Form.deceasedName m
            ++ ", deceased, who died on " ++ Filler.dateOrDots m.deceased.dateOfDeath 20 ++ "."),
        Compose.numbered style "2." ("As to " ++ d.possessive ++ " priority to apply:")]
      ++ d.membersOrBlank.mapIdx (priorityPassage style m d)
      ++ [Compose.numbered style "3."
          (d.pronoun ++ " have made a diligent search for a will of the deceased and none has "
            ++ "been found. The results of the search for a wills notice are reflected in the "
            ++ "submission for estate grant."),
        Compose.numbered style "4." "As to the spouse of the deceased:",
        Compose.passage style spouseStatus m (spouseOptions m),
        Compose.numbered style "5." "As to the children of the deceased:",
        Compose.passage style children m childrenOptions]
      ++ Compose.enumeration style (m.family.children.map childEntry) 2
      ++ [Compose.numbered style "6." "As to the intestate successors of the deceased:",
        Compose.passage style intestateSuccessors m successorOptions]
      ++ Compose.enumeration style (m.family.intestateSuccessors.map successorEntry) 2
      ++ [Compose.numbered style "7."
          (d.pronoun ++ " will administer the estate according to law, will deliver the notices "
            ++ "required under Rule 25-2 and will prepare an accounting as to how the estate "
            ++ "was administered."),
        Form.affidavitClose style d]

/-- The affidavits of an estate. -/
def document (style : StyleProfile) (m : EstateModel) : DocumentContent where
  kind := .administrationAffidavit
  title := title
  style := style
  sections := (Deponents.groups m).mapIdx (fun i d => affidavit style m (i + 1) d)

end EstateFiling.AdministrationAffidavit
