import DeclarationFetch.Command.Words
import DeclarationFetch.Decimal.Word
import DeclarationFetch.FileTree
import DeclarationFetch.Package

/-!
# Commands

What a command line asks for.

* Options come first, in the order in which they were given, then the source file, then the options that
  are missing; the first parameter at fault is reported. Words that are left over are reported last.
* An option that is given more than once has its last value, except that every pin counts.
* Paths are checked against the files that are there.
-/

namespace DeclarationFetch

structure Arguments where
  source : String
  out : Option String := none
  config : Option String := none
  pins : List String := []
  onlySpecified : Bool := false
  preload : Bool := false
  fileDepth : Option Int := none
  packageDepth : Option Int := none
  cacheDirectory : Option String := none
  registry : String := Registry.defaultRoot
  /-- Seconds between two looks at the source file. -/
  interval : Double := 0.5
  debounce : Option Double := none

inductive Command where
  | help
  | dependencies (source : String)
  | resolve (arguments : Arguments)
  | watch (out : String) (arguments : Arguments)
  | clearCache (directory : Option String)

namespace Command

/-! ## Flags -/

def helpFlag : Flag := { name := "--help", takesValue := false }

def mainFlags : List Flag := [{ name := "--verbose", short := some 'v', takesValue := false }, helpFlag]

def resolutionFlags : List Flag := [
  { name := "--config" }, { name := "--version" }, { name := "--only-specified", takesValue := false },
  { name := "--preload", takesValue := false }, { name := "--file-depth" },
  { name := "--package-depth" }, { name := "--cache-dir" }, { name := "--registry" }, helpFlag]

def resolveFlags : List Flag := { name := "--out" } :: resolutionFlags

def watchFlags : List Flag :=
  { name := "--out" } :: { name := "--interval" } :: { name := "--debounce" } :: resolutionFlags

def clearFlags : List Flag := [{ name := "--cache-dir" }, helpFlag]

/-! ## Paths -/

/-- Where a path leads to from a working directory. -/
def routeOf (work : Location) (path : String) : Route :=
  if Location.isAbsolute path then Location.namesOf path else work.names ++ Location.namesOf path

/-- A path that ends in a slash or in `.` is one of a directory. -/
def namesDirectory (path : String) : Bool :=
  match (Path.parts path.toList).getLast? with
  | some last => last = [] || last = Path.here
  | none => false

def nodeAt? (t : FileTree) (work : Location) (path : String) : Option Node :=
  if path = "" then none
  else match t.status (routeOf work path) with
    | .ok (.file content) => if namesDirectory path then none else some (.file content)
    | .ok .directory => some .directory
    | .error _ => none

/-- The path of a file that is there. -/
def filePath (t : FileTree) (work : Location) (name path : String) : Except UsageFault String :=
  match nodeAt? t work path with
  | some (.file _) => .ok (Location.plain path)
  | _ => .error (.badValue name)

/-- The path of a directory that may be missing. -/
def directoryPath (t : FileTree) (work : Location) (name path : String) : Except UsageFault String :=
  match nodeAt? t work path with
  | some (.file _) => .error (.badValue name)
  | _ => .ok (Location.plain path)

/-! ## Parameters -/

def number {α : Type} (name : String) (read : Option α) : Except UsageFault α :=
  match read with
  | some n => .ok n
  | none => .error (.badValue name)

def setOption (t : FileTree) (work : Location) (w : Words) (a : Arguments) (name : String) :
    Except UsageFault Arguments :=
  let value := (w.values name).getLast?.getD ""
  match name with
  | "--out" => (directoryPath t work name value).map fun path => { a with out := some path }
  | "--config" => (filePath t work name value).map fun path => { a with config := some path }
  | "--version" => .ok { a with pins := w.values name }
  | "--only-specified" => .ok { a with onlySpecified := true }
  | "--preload" => .ok { a with preload := true }
  | "--file-depth" =>
      (number name (Decimal.wholeWord? value)).map fun n => { a with fileDepth := some n }
  | "--package-depth" =>
      (number name (Decimal.wholeWord? value)).map fun n => { a with packageDepth := some n }
  | "--cache-dir" =>
      (directoryPath t work name value).map fun path => { a with cacheDirectory := some path }
  | "--registry" => .ok { a with registry := value }
  | "--interval" => (number name (Decimal.decimalWord? value)).map fun x => { a with interval := x }
  | "--debounce" =>
      (number name (Decimal.decimalWord? value)).map fun x => { a with debounce := some x }
  | _ => .ok a

def setOptions (t : FileTree) (work : Location) (w : Words) : Except UsageFault Arguments :=
  w.names.foldlM (setOption t work w) { source := "" }

def sourceName : String := "SOURCE_FILE"

/-- The source file, which is the first of the other words. -/
def sourcePath (t : FileTree) (work : Location) (w : Words) : Except UsageFault String :=
  match w.others with
  | [] => .error (.missingParameter sourceName)
  | path :: _ => filePath t work sourceName path

def atMost (n : Nat) (w : Words) : Except UsageFault Unit :=
  if n < w.others.length then .error .extraArguments else .ok ()

/-! ## Reading -/

/-- The words of a command, and what they ask for unless that is help. -/
def unlessHelp (flags : List Flag) (words : List String) (read : Words → Except UsageFault Command) :
    Except UsageFault Command := do
  let w ← Words.read flags true words
  if w.has helpFlag.name then .ok .help else read w

def readDependencies (t : FileTree) (work : Location) (words : List String) :
    Except UsageFault Command :=
  unlessHelp [helpFlag] words fun w => do
    let source ← sourcePath t work w
    atMost 1 w
    .ok (.dependencies source)

def readResolve (t : FileTree) (work : Location) (words : List String) : Except UsageFault Command :=
  unlessHelp resolveFlags words fun w => do
    let a ← setOptions t work w
    let source ← sourcePath t work w
    atMost 1 w
    .ok (.resolve { a with source })

def readWatch (t : FileTree) (work : Location) (words : List String) : Except UsageFault Command :=
  unlessHelp watchFlags words fun w => do
    let a ← setOptions t work w
    let source ← sourcePath t work w
    match a.out with
    | none => .error (.missingParameter "--out")
    | some out =>
        atMost 1 w
        .ok (.watch out { a with source })

def readClearCache (t : FileTree) (work : Location) (words : List String) :
    Except UsageFault Command :=
  unlessHelp clearFlags words fun w => do
    let a ← setOptions t work w
    atMost 0 w
    .ok (.clearCache a.cacheDirectory)

/-- A word that is none of the commands. If it looks like an option, it is taken for one first. -/
def unknown (flags : List Flag) (words : List String) : Except UsageFault Command := do
  let w ← Words.read flags false words
  if w.has helpFlag.name then .ok .help
  else .error (.unknownCommand (words.headD ""))

/-- The words after a group's name: its own options, and then the name of a command. -/
def readGroup (flags : List Flag) (words : List String)
    (read : String → List String → Option (Except UsageFault Command)) : Except UsageFault Command := do
  if words.isEmpty then .error .noArguments
  else
    let w ← Words.read flags false words
    if w.has helpFlag.name then .ok .help
    else match w.others with
      | [] => .error .missingCommand
      | name :: rest => (read name rest).getD (unknown flags w.others)

def readCache (t : FileTree) (work : Location) (words : List String) : Except UsageFault Command :=
  readGroup [helpFlag] words fun name rest =>
    if name = "clear" then some (readClearCache t work rest) else none

def read (t : FileTree) (work : Location) (words : List String) : Except UsageFault Command :=
  readGroup mainFlags words fun name rest =>
    match name with
    | "deps" => some (readDependencies t work rest)
    | "resolve" => some (readResolve t work rest)
    | "watch" => some (readWatch t work rest)
    | "cache" => some (readCache t work rest)
    | _ => none

end Command

end DeclarationFetch
