/-!
# Environment

Named values that a program is started with.
-/

namespace EstateFiling

/-- Named values, the first of a name counting. -/
structure Environment where
  /-- The names and their values. -/
  values : List (String × String) := []
deriving DecidableEq, Repr, Inhabited

namespace Environment

/-- The value of a name. -/
def get? (e : Environment) (name : String) : Option String :=
  (e.values.find? (fun entry => entry.1 == name)).map Prod.snd

/-- The environment with a value for a name that has none yet. -/
def withDefault (e : Environment) (name value : String) : Environment :=
  if (e.get? name).isSome then e else ⟨e.values ++ [(name, value)]⟩

end Environment

end EstateFiling
