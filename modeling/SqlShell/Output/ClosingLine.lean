import SqlShell.Execution.Cancellation
import SqlShell.Execution.Outcome
import SqlShell.Number.Binary64.Printer
import SqlShell.Output.Settings

/-! # Closing Lines

    The line that tells how a statement has ended. -/

namespace SqlShell

/-- The two outputs of the program. -/
inductive Channel where
  /-- The results. -/
  | out
  /-- The messages. -/
  | err
deriving DecidableEq, Repr

/-- A time in seconds with three decimal places. -/
def secondsText (elapsed : Binary64) : Text := elapsed.fixedText 3

/-- **The summary line** of a result. -/
def successLine (rows : Int) (elapsed : Binary64) (timing : Bool) : Text :=
  integerText rows ++ (if rows = 1 then " row in set." else " rows in set.").toList
    ++ (if timing then
          " Query took ".toList ++ secondsText elapsed ++ " seconds.".toList
        else [])
    ++ ['\n']

/-- **The report on an outcome** and the output that it goes to; a success is
    not reported in a quiet session. -/
def Outcome.closingLine (settings : Settings) : Outcome Binary64 → Option (Channel × Text)
  | .success rows elapsed =>
    if settings.quiet then none else some (.out, successLine rows elapsed settings.timing)
  | .failure error _ => some (.err, "Error: ".toList ++ error.describe ++ ['\n'])
  | .cancelled reason elapsed =>
    if reason = timeoutReason then
      some (.err, "Query timed out after ".toList ++ secondsText elapsed ++ " seconds.\n".toList)
    else some (.err, "Query cancelled.\n".toList)

end SqlShell
