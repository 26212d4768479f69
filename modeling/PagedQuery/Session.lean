import PagedQuery.Settings

/-!
# Sessions

A process has one set of settings, loaded at its first use and shared from then on. Sets of
settings are told apart by the order in which they were made.
-/

namespace PagedQuery

structure HeldSettings where
  number : Nat
  settings : Settings

structure Session where
  shared : Option HeldSettings := none
  count : Nat := 0

namespace Session

/-- Settings that are new to the session. -/
def hold (s : Session) (settings : Settings) : Session × HeldSettings :=
  ({ s with count := s.count + 1 }, ⟨s.count, settings⟩)

/-- Loads the shared settings anew. -/
def reload (s : Session) (w : Workspace) (file : Option String) :
    Except Fault (Session × HeldSettings) := do
  let (s, held) := s.hold (← Settings.load w file)
  return ({ s with shared := some held }, held)

/-- The shared settings, loaded if there are none yet. -/
def obtain (s : Session) (w : Workspace) (file : Option String) :
    Except Fault (Session × HeldSettings) :=
  match s.shared with
  | some held => .ok (s, held)
  | none => s.reload w file

/-- Puts overrides into the shared settings, which are loaded anew if a file is named. -/
def setUp (s : Session) (w : Workspace) (file : Option String) (overrides : List (String × Value)) :
    Except Fault (Session × HeldSettings) := do
  let (s, held) ← if file.isSome then s.reload w file else s.obtain w file
  let held := { held with settings := held.settings.override overrides }
  return ({ s with shared := some held }, held)

end Session

end PagedQuery
