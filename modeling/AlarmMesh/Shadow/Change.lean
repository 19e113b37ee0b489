import AlarmMesh.Shadow.Store

/-!
# What changed in a store

The difference between two states of a store in what devices report, as far as it has to be told
to somebody who knows the first state.
-/

namespace AlarmMesh.Shadow

open Radio (DeviceId)

/-- What became of a device. -/
inductive Change where
  /-- It has no record any more. -/
  | removed
  /-- It reports other values, or, where there is none, a property no more. -/
  | reported (values : List (Property × Option Value))
  deriving DecidableEq, Repr

namespace Change

/-- The properties whose values differ between two tables, with their new values. -/
def values (old new : Table Property Value) : List (Property × Option Value) :=
  (List.filter (fun entry => old.get? entry.1 ≠ some entry.2) new).map
      (fun entry => (entry.1, some entry.2))
    ++ (List.filter (fun entry => !new.has entry.1) old).map (fun entry => (entry.1, none))

/-- What became of a device, given its records; none if nothing did. -/
def between (old new : Option Record) : Option Change :=
  match old, new with
  | none, none => none
  | some _, none => some .removed
  | none, some new => some (.reported (values [] new.reported))
  | some old, some new =>
    match values old.reported new.reported with
    | [] => none
    | values => some (.reported values)

end Change

/-- What changed from one state of a store to another, by device. -/
def Store.changes (old new : Store) : List (DeviceId × Change) :=
  (old.devices ++ new.devices).eraseDups.filterMap fun id =>
    (Change.between (old.record? id) (new.record? id)).map (id, ·)

end AlarmMesh.Shadow
