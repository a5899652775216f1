import DeclarationFetch.Location

/-!
# Standard places

Where settings and cached sources are kept: in a home directory that the environment may name, and for
a project in its working directory.
-/

namespace DeclarationFetch

structure Surroundings where
  user : Location
  work : Location
  /-- The value of the variable that names the home directory of the tool. -/
  homeVariable : Option String
  deriving Repr, DecidableEq

namespace Surroundings

/-- The home directories that a name such as `~` stands for; of the other users only the superuser's is
known. -/
def homeOf? (s : Surroundings) (name : String) : Option Location :=
  if name = "~" then some s.user
  else if name = "~root" then some (Location.root.child "root")
  else none

/-- A path whose first name begins with `~` starts in the home directory of a user, who has to be known. -/
def expand? (s : Surroundings) (path : String) : Option Location :=
  if Location.isAbsolute path then some (Location.root.resolve path)
  else match Location.namesOf path with
    | first :: rest =>
        if Text.startsWith first "~" then (s.homeOf? first).map (rest.foldl Location.step)
        else some (s.work.resolve path)
    | [] => some s.work

/-- The home directory of the tool; a variable that is empty counts as unset. -/
def home? (s : Surroundings) : Option Location :=
  match s.homeVariable with
  | none => some (s.user.child ".auto-typings")
  | some path => if path = "" then some (s.user.child ".auto-typings") else s.expand? path

def settingsName : String := "settings.yaml"

def projectSettings (s : Surroundings) : Location :=
  (s.work.child ".auto-typings").child settingsName

def globalSettings? (s : Surroundings) : Option Location :=
  s.home?.map fun home => home.child settingsName

def cachedSources? (s : Surroundings) : Option Location :=
  s.home?.map fun home => (home.child "cache").child "sources"

end Surroundings

end DeclarationFetch
