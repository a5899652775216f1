/-!
# Recursion budgets

How far a resolution may still go: along the files of one package, and across packages. Entering a
package restores the first.
-/

namespace DeclarationFetch

structure Budget where
  fileDepth : Int
  packageDepth : Int
  initialFileDepth : Int
  deriving Repr, DecidableEq

namespace Budget

def ofDepths (file package : Int) : Budget := ⟨file, package, file⟩

def fileExhausted (b : Budget) : Bool := b.fileDepth ≤ 0

def packageExhausted (b : Budget) : Bool := b.packageDepth ≤ 0

def stepFile (b : Budget) : Budget := { b with fileDepth := b.fileDepth - 1 }

def crossPackage (b : Budget) : Budget :=
  { b with packageDepth := b.packageDepth - 1, fileDepth := b.initialFileDepth }

end Budget

end DeclarationFetch
