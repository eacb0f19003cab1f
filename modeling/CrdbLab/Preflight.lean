import CrdbLab.Lib.Numeral

/-!
The report that checks of the testbed are added to.

Each kind of check records its own observations.
-/

namespace CrdbLab.Preflight

open CrdbLab.Lib.Numeral

/-- What a command on a node left behind. -/
structure RemoteResult where
  returncode : ℤ
  stdout : String
  stderr : String
  deriving DecidableEq, Repr

/-- What a command said: the first of its two texts that is not blank. -/
def firstText (result : RemoteResult) : String :=
  let text := strip isSpace result.stderr.toList
  String.ofList (if text ≠ [] then text else strip isSpace result.stdout.toList)

structure Check (Observed : Type) where
  name : String
  passed : Bool
  detail : String
  observed : Observed
  deriving DecidableEq, Repr

structure PreflightReport (Observed : Type) where
  checks : List (Check Observed) := []
  deriving DecidableEq, Repr

variable {Observed : Type}

def PreflightReport.ok (report : PreflightReport Observed) : Bool :=
  report.checks.all Check.passed

def PreflightReport.add (report : PreflightReport Observed) (check : Check Observed) :
    PreflightReport Observed :=
  ⟨report.checks ++ [check]⟩

end CrdbLab.Preflight
