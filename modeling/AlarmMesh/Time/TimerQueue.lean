import AlarmMesh.Radio.DeviceId
import AlarmMesh.Time.Clock

/-!
# Timers

A timer never runs anything.  When it is due its kind is handed back, to be dealt with like any
other input.

A `TimerQueue` keeps the live timers in the order in which they fire: by deadline, and timers
with one deadline in the order of scheduling.  A cancelled timer is no longer in it.

A deadline for which there is no instant is an overflow, and whoever asks for it fails.  The queue
is `overrun` from then on: what is said of it afterwards is not reached any more.
-/

namespace AlarmMesh

/-- What a timer means when it fires. -/
inductive TimerKind where
  /-- Time to ask for the SID map again. -/
  | retrieveSidMap
  /-- Time to start a missing-node test. -/
  | testMissingInit
  /-- No missing-node report came in time. -/
  | testMissingTimeout
  /-- Time for the next probe of a missing-node test. -/
  | testMissingContinue
  /-- Time for the next SID map update that takes out missing devices. -/
  | testMissingUpdateMap
  /-- Learn mode has lasted as long as it was asked to. -/
  | learnModeTimeout
  /-- No identity came; time to ask the next unknown SID. -/
  | interrogate
  /-- The follow-up of a fault did not come. -/
  | faultTimeout (id : Radio.DeviceId)
  /-- The follow-up of an alarm did not come. -/
  | alarmTimeout (id : Radio.DeviceId)
  deriving DecidableEq, Repr

/-- Names a scheduled timer, so that it can be cancelled. -/
structure TimerHandle where
  /-- How many timers were scheduled before it. -/
  number : Nat
  deriving DecidableEq, Repr

/-- A live timer. -/
structure Timer where
  deadline : Instant
  handle : TimerHandle
  kind : TimerKind
  deriving DecidableEq, Repr

/-- The live timers. -/
structure TimerQueue where
  /-- The live timers, in the order in which they fire. -/
  live : List Timer := []
  /-- How many timers were ever scheduled. -/
  scheduled : Nat := 0
  /-- A timer was asked for with a deadline for which there is no instant. -/
  overrun : Bool := false
  deriving DecidableEq, Repr

namespace TimerQueue

/-- Put a timer behind every timer that fires no later. -/
def place (timer : Timer) : List Timer → List Timer
  | [] => [timer]
  | other :: rest =>
    if other.deadline ≤ timer.deadline then other :: place timer rest else timer :: other :: rest

/-- A new timer that fires `delay` after `now`. -/
def schedule (queue : TimerQueue) (now : Instant) (kind : TimerKind) (delay : Duration) :
    TimerHandle × TimerQueue :=
  let handle : TimerHandle := ⟨queue.scheduled⟩
  (handle,
    { live := place ⟨now + delay.nanoseconds, handle, kind⟩ queue.live
      scheduled := queue.scheduled + 1
      overrun := queue.overrun || !Instant.fits now delay })

/-- The timer has neither fired nor been cancelled. -/
def isPending (queue : TimerQueue) (handle : TimerHandle) : Bool :=
  queue.live.any fun timer => timer.handle = handle

/-- Cancel a timer.  Gives whether it was pending; one that was not is ignored. -/
def cancel (queue : TimerQueue) (handle : TimerHandle) : Bool × TimerQueue :=
  (queue.isPending handle,
    { queue with live := queue.live.filter fun timer => timer.handle ≠ handle })

/-- When the first timer is due. -/
def nextDeadline (queue : TimerQueue) : Option Instant := queue.live.head?.map Timer.deadline

/-- Take out the first timer, if it is due. -/
def popExpired (queue : TimerQueue) (now : Instant) : Option Timer × TimerQueue :=
  match queue.live with
  | [] => (none, queue)
  | timer :: rest =>
    if timer.deadline ≤ now then (some timer, { queue with live := rest }) else (none, queue)

/-- The number of live timers. -/
def size (queue : TimerQueue) : Nat := queue.live.length

theorem mem_place {timer other : Timer} {timers : List Timer} :
    other ∈ place timer timers ↔ other = timer ∨ other ∈ timers := by
  induction timers with
  | nil => simp [place]
  | cons head rest ih =>
    unfold place
    split
    · simp only [List.mem_cons, ih]
      exact or_left_comm
    · simp

end TimerQueue

end AlarmMesh
