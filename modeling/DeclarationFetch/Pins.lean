import DeclarationFetch.Assoc
import DeclarationFetch.Value.Display

/-!
# Pinned versions

The version at which the files of each package are asked for. A pin that is not set leaves the package
at its latest version.
-/

namespace DeclarationFetch

/-- Pins by package name. The caller may pin a package to anything, but only a text is a version that
a manifest can agree with. -/
abbrev Pins := Assoc Value

namespace Pins

def ofVersions (versions : Option (Assoc String)) : Pins := (versions.getD {}).map .text

/-- The pin of a package as it is handed to the source of packages. -/
def pin (pins : Pins) (name : String) : Value := (pins.get? name).getD .null

/-- The version in the name of a package, if its pin is set. -/
def version? (pins : Pins) (name : String) : Option String :=
  let v := pins.pin name
  if v.isSet then some v.display else none

def agrees (pins : Pins) (name version : String) : Bool :=
  match pins.get? name with
  | some (.text v) => v = version
  | _ => false

theorem agrees_insert (pins : Pins) (name version : String) :
    agrees (pins.insert name (.text version)) name version = true := by
  simp [agrees]

theorem pin_of_agrees {pins : Pins} {name version : String} (h : pins.agrees name version = true) :
    pins.pin name = .text version := by
  unfold agrees at h
  split at h
  · next v hp =>
    have heq : v = version := by simpa using h
    simp [pin, hp, heq]
  · cases h

theorem version?_of_agrees {pins : Pins} {name version : String}
    (h : pins.agrees name version = true) (hv : version ≠ "") : pins.version? name = some version := by
  simp [version?, pin_of_agrees h, Value.isSet, Value.display, hv]

end Pins

/-- A pin of the command line that does not have the form `name=version`. -/
structure BadPin where
  pin : String
  deriving Repr, DecidableEq

def BadPin.message (b : BadPin) : String :=
  s!"Invalid value for --version: Expected PKG=VERSION, got '{b.pin}'"

/-- Name and version on the two sides of the last equals sign, neither empty. -/
def readPin (pin : String) : Except BadPin (String × String) :=
  let version := (pin.toList.reverse.takeWhile (· ≠ '=')).reverse
  let name := (pin.toList.reverse.dropWhile (· ≠ '=')).drop 1 |>.reverse
  if name = [] ∨ version = [] then .error ⟨pin⟩
  else .ok (String.ofList name, String.ofList version)

/-- The pins of a command line, none if it has none. Of equal names the last counts. -/
def readPins (pins : List String) : Except BadPin (Option (Assoc String)) :=
  if pins = [] then .ok none else (pins.mapM readPin).map fun parsed => some (Assoc.ofList parsed)

end DeclarationFetch
