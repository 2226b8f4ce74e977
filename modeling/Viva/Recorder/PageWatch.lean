import Viva.Recorder.Clock

/-! # A recorder that follows a page

A page reports its visibility to a recorder once it is attached. What the page was like when it was
attached is no report.
-/

namespace Viva

/-- A recorder, and whether a page is attached to it. -/
structure PageWatch where
  recorder : Recorder
  isAttached : Bool := false
  deriving Repr, DecidableEq, Inhabited

namespace PageWatch

/-- Attaches a page, in place of the one before. -/
def attach (watch : PageWatch) : PageWatch :=
  { watch with isAttached := true }

/-- A report of the page's visibility; it goes nowhere while no page is attached. -/
def signal (watch : PageWatch) (visibility : Visibility) : PageWatch :=
  if watch.isAttached then
    { watch with recorder := watch.recorder.step (.setVisibility visibility) }
  else watch

/-- Detaches the page. -/
def detach (watch : PageWatch) : PageWatch :=
  { watch with isAttached := false }

end PageWatch

end Viva
