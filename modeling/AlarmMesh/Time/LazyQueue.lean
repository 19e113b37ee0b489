import AlarmMesh.Shadow.Table
import AlarmMesh.Time.TimerQueue

/-!
# Timers that leave the heap late

A `LazyQueue` keeps a heap of deadlines beside a table of the live timers.  A timer that is
cancelled leaves the table at once; its entry stays in the heap until it comes to the top, and is
then discarded.

The heap is a list of its entries, the least first: by deadline, and entries with one deadline by
number.
-/

namespace AlarmMesh

/-- An entry of the heap. -/
structure HeapEntry where
  deadline : Instant
  /-- The number of the timer. -/
  number : Nat
  deriving DecidableEq, Repr

/-- The order of the heap. -/
def HeapEntry.le (a b : HeapEntry) : Prop :=
  a.deadline < b.deadline ∨ a.deadline = b.deadline ∧ a.number ≤ b.number

instance (a b : HeapEntry) : Decidable (a.le b) :=
  inferInstanceAs (Decidable (a.deadline < b.deadline ∨ _))

/-- A heap of deadlines and a table of the live timers. -/
structure LazyQueue where
  /-- The entries of the heap, the least first. -/
  heap : List HeapEntry := []
  /-- What each live timer means, by its number. -/
  live : Shadow.Table Nat TimerKind := []
  /-- The number of the next timer. -/
  nextNumber : Nat := 0
  deriving DecidableEq, Repr

namespace LazyQueue

/-- Put an entry into a heap. -/
def push (entry : HeapEntry) : List HeapEntry → List HeapEntry
  | [] => [entry]
  | other :: rest => if other.le entry then other :: push entry rest else entry :: other :: rest

/-- A new timer that fires `delay` after `now`.  Fails if there is no such instant. -/
def schedule (queue : LazyQueue) (now : Instant) (kind : TimerKind) (delay : Duration) :
    Option (TimerHandle × LazyQueue) :=
  (Instant.after? now delay).map fun deadline =>
    (⟨queue.nextNumber⟩,
      { heap := push ⟨deadline, queue.nextNumber⟩ queue.heap
        live := queue.live.put queue.nextNumber kind
        nextNumber := queue.nextNumber + 1 })

/-- The timer has neither fired nor been cancelled. -/
def isPending (queue : LazyQueue) (handle : TimerHandle) : Bool := queue.live.has handle.number

/-- Cancel a timer.  Gives whether it was pending. -/
def cancel (queue : LazyQueue) (handle : TimerHandle) : Bool × LazyQueue :=
  ((queue.live.get? handle.number).isSome, { queue with live := queue.live.erase handle.number })

/-- The entry is one of a live timer. -/
def isLive (queue : LazyQueue) (entry : HeapEntry) : Bool := queue.live.has entry.number

/-- Discard what is on top of the heap and no longer live. -/
def discardDead (queue : LazyQueue) : LazyQueue :=
  { queue with heap := queue.heap.dropWhile fun entry => !queue.isLive entry }

/-- When the first live timer is due. -/
def nextDeadline (queue : LazyQueue) : Option Instant × LazyQueue :=
  (queue.discardDead.heap.head?.map HeapEntry.deadline, queue.discardDead)

/-- Take out the first live timer, if it is due.  An entry whose timer has no meaning is taken out
all the same, and nothing fires. -/
def popExpired (queue : LazyQueue) (now : Instant) :
    Option (TimerHandle × TimerKind) × LazyQueue :=
  match queue.discardDead.heap with
  | [] => (none, queue.discardDead)
  | entry :: heap =>
    if now < entry.deadline then (none, queue.discardDead)
    else
      ((queue.live.get? entry.number).map fun kind => (⟨entry.number⟩, kind),
        { queue with heap := heap, live := queue.live.erase entry.number })

/-- The number of live timers. -/
def size (queue : LazyQueue) : Nat := queue.live.length

end LazyQueue

end AlarmMesh
