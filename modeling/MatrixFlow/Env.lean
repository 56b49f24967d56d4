/-!
# Environments

`Env` binds names to texts, each name at most once. `Env.insert` binds a name anew in the place
where it stands or at the end, and `Env.extend` lays one environment over another.
-/

namespace MatrixFlow

/-- Variables with their values, in the order in which they were first bound. -/
structure Env where
  vars : List (String × String)
deriving DecidableEq, Repr

namespace Env

/-- No variables. -/
def empty : Env := ⟨[]⟩

/-- The value of a variable. -/
def get? (env : Env) (name : String) : Option String :=
  (env.vars.find? fun (k, _) => k == name).map (·.2)

/-- Bindings with a name bound anew. -/
def insertVar (name value : String) : List (String × String) → List (String × String)
  | [] => [(name, value)]
  | (k, v) :: rest => if k = name then (k, value) :: rest else (k, v) :: insertVar name value rest

/-- Binds a name. -/
def insert (env : Env) (name value : String) : Env :=
  ⟨insertVar name value env.vars⟩

/-- Lays the variables of a list over an environment, in order. -/
def extend (env : Env) (vars : List (String × String)) : Env :=
  vars.foldl (fun env (k, v) => env.insert k v) env

/-- The environment that a list of variables makes; the last binding of a name counts. -/
def ofList (vars : List (String × String)) : Env :=
  empty.extend vars

end Env

end MatrixFlow
