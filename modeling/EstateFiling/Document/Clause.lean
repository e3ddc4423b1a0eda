/-!
# Clause tables

A conditional passage of a form is a table of clauses, each with an identifier
and the condition under which it applies, and a fallback.  Selecting from the
table always gives exactly one active clause: the first whose condition holds,
and the fallback when none does.
-/

namespace EstateFiling

/-- A clause and the condition under which it applies. -/
structure Clause (Facts : Type) where
  /-- The identifier. -/
  id : String
  /-- The condition. -/
  applies : Facts → Bool

/-- The clauses of a passage, one of which is active. -/
structure ClauseTable (Facts : Type) where
  /-- The identifier of the passage. -/
  group : String
  /-- The clause that is active when no other applies. -/
  fallback : String
  /-- The clauses with their conditions, in order. -/
  clauses : List (Clause Facts)

/-- The outcome of selecting from a table. -/
structure ClauseSelection where
  /-- The identifier of the passage. -/
  group : String
  /-- The identifier of the active clause. -/
  active : String
  /-- Whether the fallback was taken. -/
  fellBack : Bool
deriving DecidableEq, Repr

/-- Whether a clause is the active one. -/
def ClauseSelection.isActive (s : ClauseSelection) (id : String) : Bool := s.active == id

namespace ClauseTable

variable {Facts : Type}

/-- The identifiers of the clauses in order, and the fallback if it is not one of
them. -/
def ids (t : ClauseTable Facts) : List String :=
  let own := t.clauses.map Clause.id
  if own.contains t.fallback then own else own ++ [t.fallback]

/-- The identifiers of the clauses that apply. -/
def matching (t : ClauseTable Facts) (facts : Facts) : List String :=
  (t.clauses.filter (fun c => c.applies facts)).map Clause.id

/-- The active clause. -/
def select (t : ClauseTable Facts) (facts : Facts) : ClauseSelection :=
  match t.matching facts with
  | [] => ⟨t.group, t.fallback, true⟩
  | id :: _ => ⟨t.group, id, false⟩

end ClauseTable

end EstateFiling
