/-
# Retarget.Session.Step -- what a session can be asked for

A `Step` is one request to a session, an `Answer` what comes back.  `Session.perform` takes a
step; `Session.performAll` takes a history of steps and keeps what each left behind.  A step that
fails answers with its failure and changes nothing, and the steps after it are still taken.
-/
import Retarget.Session

namespace Retarget

set_option autoImplicit false

inductive Step where
  | line (raw : Text)
  | text (source : Text)
  | file (path : Path)
  | write (path : Path) (text : Text)
  | report
  | stats
  deriving DecidableEq, Repr

inductive Answer where
  | lines (lines : List Text)
  | text (text : Text)
  | stats (stats : Stats)
  | written
  | failed (failure : Failure)
  deriving DecidableEq, Repr

namespace Session

variable {m : Type → Type} [Monad m]

def perform (s : Session) (files : FileAccess m) : Step → m (Answer × Session)
  | .line raw => return (.lines (s.convertLine raw).1, (s.convertLine raw).2)
  | .text source =>
      return (.text (s.convertText unnamed source).1, (s.convertText unnamed source).2)
  | .file path => do
      match ← s.convertFile files path with
      | .ok (output, ended) => return (.text output, ended)
      | .error failure => return (.failed failure, s)
  | .write path text => do
      match ← s.writeFile files path text with
      | .ok ended => return (.written, ended)
      | .error failure => return (.failed failure, s)
  | .report => return (.text s.diagnostics.report, s)
  | .stats => return (.stats s.stats, s)

/-- Take steps one after the other: each answer, and the session after it. -/
def performAll (s : Session) (files : FileAccess m) : List Step → m (List (Answer × Session))
  | [] => return []
  | step :: rest => do
      let done ← s.perform files step
      return done :: (← done.2.performAll files rest)

end Session

end Retarget
