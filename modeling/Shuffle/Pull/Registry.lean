/-!
# Applications

A worker serves the output of one application at a time: the one that was started last, until it
is stopped.
-/

namespace Shuffle

/-- An application of a user. -/
structure AppIdentity where
  user : String
  app : String
deriving DecidableEq, Repr

/-- The applications that have been started, and the one whose output is served. -/
structure Registry where
  /-- The user of each application. -/
  users : List (String × String) := []
  current : Option String := none
deriving DecidableEq, Repr

namespace Registry

/-- The user of an application. -/
def user? (r : Registry) (app : String) : Option String :=
  (r.users.find? (·.1 = app)).map (·.2)

/-- Starts an application and serves it. -/
def start (r : Registry) (id : AppIdentity) : Registry :=
  -- An application that was started before is from now on that of this user.
  ⟨(id.app, id.user) :: r.users.filter (·.1 ≠ id.app), some id.app⟩

/-- Stops an application. -/
def stop (r : Registry) (app : String) : Registry :=
  ⟨r.users.filter (·.1 ≠ app), if r.current = some app then none else r.current⟩

/-- The application whose output is served. -/
def active (r : Registry) : Option AppIdentity := do
  let app ← r.current
  let user ← r.user? app
  return ⟨user, app⟩

end Registry

end Shuffle
