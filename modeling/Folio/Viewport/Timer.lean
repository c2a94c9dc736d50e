/-!
# Timers

A timer holds at most one task that is still to be done. A direct timer does it when it
runs out. A signalling timer gives a signal when it runs out, and the task is done on
the signal; a signal may be given late or twice, but the task is done once.
-/

namespace Folio
namespace Viewport

/-- A timer with its task. -/
inductive Timer where
  | direct (pending : Bool)
  | signalling (running pending : Bool)
  deriving DecidableEq, Repr

namespace Timer

/-- Whether a task is still to be done. -/
def pending : Timer -> Bool
  | direct pending => pending
  | signalling _ pending => pending

/-- Whether the timer will run out. -/
def running : Timer -> Bool
  | direct pending => pending
  | signalling running _ => running

/-- Start over with a task. -/
def arm : Timer -> Timer
  | direct _ => direct true
  | signalling _ _ => signalling true true

/-- Stop, and forget the task. -/
def disarm : Timer -> Timer
  | direct _ => direct false
  | signalling _ _ => signalling false false

/-- The timer runs out, if it is running; says whether the task is done now. -/
def runOut : Timer -> Timer × Bool
  | direct pending => (direct false, pending)
  | signalling true pending => (signalling false false, pending)
  | signalling false pending => (signalling false pending, false)

/-- The signal is given without the timer having run out. A direct timer has no other
signal than running out. -/
def signal : Timer -> Timer × Bool
  | direct pending => (direct false, pending)
  | signalling running pending => (signalling running false, pending)

@[simp] theorem pending_arm (t : Timer) : t.arm.pending = true := by
  cases t <;> rfl

@[simp] theorem pending_disarm (t : Timer) : t.disarm.pending = false := by
  cases t <;> rfl

/-- A task is done by a signal exactly if it was still to be done. -/
theorem signal_eq (t : Timer) : t.signal.2 = t.pending ∧ t.signal.1.pending = false := by
  cases t <;> simp [signal, pending]

end Timer
end Viewport
end Folio
