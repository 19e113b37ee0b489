import AlarmMesh.Time.Duration

/-!
# Clocks

A clock gives two times: a steady one for timers and the time of day for what is reported.

A `Clock` moves by `advance` only, never by being looked at.  So it stands still inside a handler:
however often a handler looks at it, it shows one time.  Where it matters that a clock runs on
meanwhile, the time that passes from one look to the next is part of the move.

Steady time does not go on for ever.  `Instant.fits` says whether there is an instant so long after
another one, and `Instant.after?` gives it.
-/

namespace AlarmMesh

/-- A point of steady time, in nanoseconds. -/
abbrev Instant := Nat

namespace Instant

/-- Whole seconds are counted with 63 bits: no instant has this number of nanoseconds or more. -/
def limit : Nat := 0x8000000000000000 * 1000000000

/-- There is an instant `delay` after `now`. -/
def fits (now : Instant) (delay : Duration) : Bool := Nat.blt (now + delay.nanoseconds) limit

/-- The instant `delay` after `now`, if there is one. -/
def after? (now : Instant) (delay : Duration) : Option Instant :=
  if fits now delay then some (now + delay.nanoseconds) else none

variable {now : Instant} {delay : Duration}

theorem fits_iff : fits now delay ↔ now + delay.nanoseconds < limit := by
  unfold fits
  rw [Nat.blt_eq]

theorem after?_of_fits (h : fits now delay) : after? now delay = some (now + delay.nanoseconds) :=
  if_pos h

theorem after?_of_not_fits (h : ¬ fits now delay) : after? now delay = none := if_neg h

end Instant

/-- A clock that stands still between two advances, and so inside a handler. -/
structure Clock where
  /-- Steady time. -/
  now : Instant := 0
  /-- Time of day, in seconds of the Unix epoch. -/
  unix : Int
  deriving DecidableEq, Repr

namespace Clock

/-- Move time forward.  The time of day moves by whole seconds only. -/
def advance (clock : Clock) (step : Duration) : Clock :=
  { now := clock.now + step.nanoseconds, unix := clock.unix + step.seconds }

/-- The time since an instant; nothing if it is yet to come. -/
def since (clock : Clock) (instant : Instant) : Duration := ⟨clock.now - instant⟩

end Clock

end AlarmMesh
