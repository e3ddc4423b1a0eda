import EstateFiling.Service.Failure

/-!
# Actions

A command prints texts and writes files while it goes, and what was done before it fails
stays done.  So an action carries its effects along: each part of it goes on from the effects
so far, and gives something or fails.
-/

namespace EstateFiling

/-- Something that a command does. -/
inductive Effect where
  /-- A text is printed. -/
  | print (text : String)
  /-- A file is written. -/
  | write (path text : String)
deriving DecidableEq, Repr

/-- A part of a command: it goes on from the effects so far, in their order, and gives
something or fails. -/
abbrev Action := ExceptT Failure (StateM (List Effect))

namespace Action

/-- Does something. -/
def perform (e : Effect) : Action Unit := modify fun done => done ++ [e]

/-- What an action gives or why it fails, and what it does. -/
def execute {α : Type} (x : Action α) : Except Failure α × List Effect :=
  Id.run (StateT.run (ExceptT.run x) [])

end Action

end EstateFiling
