import AlarmMesh.Gateway.Engine

/-!
# Runs of the engine

What can happen to a started engine, one `Move` after the other: it deals with a frame, with an
operation or with timers that are due, or something changes around it meanwhile.

Two things are not in these runs.  Time passes between moves only, by `Move.advance`, so that a move
looks at one clock that stands still; a `Stride` is a move that takes time.  And an engine whose
timers are `overrun` has failed at a deadline for which there is no instant: it makes no more moves,
and what is said of the engine after them is about a state that is not reached.

* `Engine.move`, `Engine.moves` — one move, and a list of them;
* `Engine.Along` — what holds all along a list of moves;
* `Reachable settings engine` — what moves make of a new engine after its start;
* `fireDue_eq`, `applyDeltas_eq` — what fires and what is wished for together, one by one;
* `receive_missingNodes`, `receive_sidMap` — a report of missing slots, and a SID map.
-/

namespace AlarmMesh.Gateway

/-- What can happen to an engine. -/
inductive Move where
  /-- A frame arrives. -/
  | receive (frame : List UInt8)
  /-- An operation arrives. -/
  | control (operation : Control)
  /-- One wish is dealt with. -/
  | wish (delta : Delta)
  /-- The next timer that is due fires. -/
  | expire
  /-- Every timer that is due fires. -/
  | fireDue
  /-- Time passes.  It does so between moves only. -/
  | advance (step : Duration)
  /-- The platform wants a value of a property. -/
  | desire (id : Radio.DeviceId) (property : Shadow.Property) (value : Shadow.Value)
  /-- Other calls to the shadow fail from now on. -/
  | outages (outages : List Shadow.Outage)
  /-- The other users of the pool take and release buffers between two moves. -/
  | share (pool : Link.Pool)
  /-- The other users of the pool take and release buffers during the moves to come. -/
  | contend (contention : List Bool)
  deriving DecidableEq, Repr

/-- Something changes around the engine, which does nothing. -/
def Move.Passive : Move → Prop
  | .desire .. | .advance _ | .outages _ | .share _ | .contend _ => True
  | _ => False

/-- The engine is asked for nothing: it deals with a frame or with a timer, or does nothing. -/
def Move.Unasked : Move → Prop
  | .control _ | .wish _ | .fireDue => False
  | _ => True

instance : DecidablePred Move.Unasked := fun move => by
  unfold Move.Unasked; split <;> infer_instance

namespace Engine

/-- Deal with the next timer that is due, if there is one. -/
def expire (engine : Engine) : Engine :=
  match engine.popDue with
  | (none, _) => engine
  | (some kind, engine) => engine.fire kind

/-- Make a move. -/
def move (engine : Engine) : Move → Engine
  | .receive frame => engine.receive frame
  | .control operation => engine.control operation
  | .wish delta => engine.applyDelta delta
  | .expire => engine.expire
  | .fireDue => engine.fireDue
  | .advance step => engine.onSite fun site => { site with clock := site.clock.advance step }
  | .desire id property value =>
    engine.onSite fun site => site.after (site.platform.setDesired id property value)
  | .outages outages =>
    engine.onSite fun site => { site with platform := { site.platform with outages := outages } }
  | .share pool => engine.onSite fun site => { site with pool := pool }
  | .contend contention => engine.onSite fun site => { site with contention := contention }

/-- Make several moves, in order. -/
def moves (engine : Engine) (moves : List Move) : Engine := moves.foldl move engine

/-- A new engine, after its start. -/
def started (settings : Config.Settings) (platform : Shadow.Platform) (pool : Link.Pool)
    (clock : Clock) (contention : List Bool) : Engine :=
  (ofSettings settings
    { platform := platform, pool := pool, clock := clock, contention := contention }).start

@[simp]
theorem moves_nil (engine : Engine) : engine.moves [] = engine := rfl

@[simp]
theorem moves_cons (engine : Engine) (move : Move) (moves : List Move) :
    engine.moves (move :: moves) = (engine.move move).moves moves := rfl

/-- What every move preserves holds after any moves. -/
theorem moves_induct {P : Engine → Prop} (step : ∀ engine move, P engine → P (engine.move move))
    (moves : List Move) (engine : Engine) (h : P engine) : P (engine.moves moves) := by
  induction moves generalizing engine with
  | nil => exact h
  | cons move moves ih => exact ih _ (step engine move h)

/-- `P` holds before and after every move, and `Q` of each move where it is made. -/
def Along (P : Engine → Prop) (Q : Engine → Move → Prop) : Engine → List Move → Prop
  | engine, [] => P engine
  | engine, move :: moves => P engine ∧ Q engine move ∧ Along P Q (engine.move move) moves

instance decidableAlong {P : Engine → Prop} {Q : Engine → Move → Prop} [DecidablePred P]
    [∀ engine, DecidablePred (Q engine)] : ∀ engine moves, Decidable (Along P Q engine moves)
  | engine, [] => inferInstanceAs (Decidable (P engine))
  | engine, move :: moves =>
    have := decidableAlong (P := P) (Q := Q) (engine.move move) moves
    inferInstanceAs (Decidable (P engine ∧ Q engine move ∧ Along P Q (engine.move move) moves))

theorem Along.head {P : Engine → Prop} {Q : Engine → Move → Prop} {engine : Engine}
    {moves : List Move} (h : Along P Q engine moves) : P engine := by
  cases moves with
  | nil => exact h
  | cons move moves => exact h.1

/-- What every such move preserves holds after such moves. -/
theorem along_induct {P I : Engine → Prop} {Q : Engine → Move → Prop}
    (step : ∀ engine move, P engine → Q engine move → P (engine.move move) → I engine →
      I (engine.move move))
    {moves : List Move} {engine : Engine} (h : Along P Q engine moves) (hi : I engine) :
    I (engine.moves moves) := by
  induction moves generalizing engine with
  | nil => exact hi
  | cons move moves ih =>
    obtain ⟨hp, hq, hrest⟩ := h
    exact ih hrest (step engine move hp hq hrest.head hi)

theorem Along.mono {P P' : Engine → Prop} {Q Q' : Engine → Move → Prop} {engine : Engine}
    {moves : List Move} (hp : ∀ engine, P engine → P' engine)
    (hq : ∀ engine move, Q engine move → Q' engine move) (h : Along P Q engine moves) :
    Along P' Q' engine moves := by
  induction moves generalizing engine with
  | nil => exact hp engine h
  | cons move moves ih =>
    obtain ⟨here, hmove, hrest⟩ := h
    exact ⟨hp engine here, hq engine move hmove, ih hrest⟩

theorem Along.last {P : Engine → Prop} {Q : Engine → Move → Prop} {engine : Engine}
    {moves : List Move} (h : Along P Q engine moves) : P (engine.moves moves) :=
  along_induct (I := P) (fun _ _ _ _ hp _ => hp) h h.head

/-! ### Several things at once -/

theorem expire_of_none {engine rest : Engine} (h : engine.popDue = (none, rest)) :
    engine.expire = engine := by
  simp [expire, h]

theorem expire_of_some {engine rest : Engine} {kind : TimerKind}
    (h : engine.popDue = (some kind, rest)) : engine.expire = rest.fire kind := by
  simp [expire, h]

theorem fireUpTo_eq (rounds : Nat) (engine : Engine) :
    engine.fireUpTo rounds = engine.moves (List.replicate rounds .expire) := by
  induction rounds generalizing engine with
  | zero => rfl
  | succ rounds ih =>
    rw [List.replicate_succ, moves_cons]
    unfold fireUpTo
    cases h : engine.popDue with
    | mk popped rest =>
      cases popped with
      | none =>
        -- nothing is due, and so nothing is at any later attempt
        have hstay : engine.move .expire = engine := expire_of_none h
        rw [hstay, ← ih engine]
        cases rounds with
        | zero => rfl
        | succ rounds => simp [fireUpTo, h]
      | some kind =>
        have hfire : engine.move .expire = rest.fire kind := expire_of_some h
        rw [hfire]
        exact ih (rest.fire kind)

/-- The timers that are due fire one by one. -/
theorem fireDue_eq (engine : Engine) :
    engine.fireDue = engine.moves (List.replicate engine.fireLimit .expire) :=
  fireUpTo_eq _ _

/-- Wishes that changed together are dealt with one by one. -/
theorem applyDeltas_eq (engine : Engine) (deltas : List Delta) :
    ∃ wishes : List Delta, engine.applyDeltas deltas = engine.moves (wishes.map .wish) :=
  ⟨_, by unfold applyDeltas moves; rw [List.foldl_map]; rfl⟩

/-! ### Reports of slots -/

/-- The engine after a frame was counted, before its report is handed on. -/
def counted (engine : Engine) (frame : List UInt8) : Engine :=
  engine.onSite fun site => site.count (.frameHandled (frame.headD 0))

theorem receive_missingNodes (engine : Engine) {frame : List UInt8} {map : Radio.SidMap}
    (h : Radio.Report.decode frame = .ok (.missingNodes map)) : engine.receive frame =
      (engine.counted frame).onNetwork fun d => d.receiveMissing map := by
  unfold receive
  rw [h]
  rfl

theorem receive_sidMap (engine : Engine) {frame : List UInt8} {map : Radio.SidMap}
    (h : Radio.Report.decode frame = .ok (.sidMap map)) : engine.receive frame =
      (engine.counted frame).onNetwork fun d => d.receiveSidMap map := by
  unfold receive
  rw [h]
  rfl

end Engine

/-- The engine is what moves make of a new one after its start. -/
inductive Reachable (settings : Config.Settings) : Engine → Prop where
  | start (platform : Shadow.Platform) (pool : Link.Pool) (clock : Clock)
      (contention : List Bool) :
      Reachable settings (Engine.started settings platform pool clock contention)
  | move {engine : Engine} (move : Move) (reachable : Reachable settings engine) :
      Reachable settings (engine.move move)

theorem Reachable.moves {settings : Config.Settings} {engine : Engine}
    (h : Reachable settings engine) (moves : List Move) : Reachable settings (engine.moves moves) :=
  Engine.moves_induct (fun _ move h => h.move move) moves engine h

/-! ### A small network -/

/-- A shadow of three devices, at the slots 5, 6 and 7.  The device at slot 5 was left out of a map
before. -/
def threeDevices : Shadow.Platform :=
  { store := { records := [
      (.ofNat 5, { reported := [(.sid, .ofNat 5), (.missing, .bool true)] }),
      (.ofNat 6, { reported := [(.sid, .ofNat 6)] }),
      (.ofNat 7, { reported := [(.sid, .ofNat 7)] })] } }

/-- An engine that was told of the three devices and of its own slot. -/
def joined : Engine :=
  (Engine.started {} threeDevices (.ofSlots 10) { unix := 0 } []).move
    (.receive [0xd4, 3, 0xe1, 0, 0, 0, 0, 0, 0, 0])

theorem reachable_joined : Reachable {} joined := .move _ (.start _ _ _ _)

end AlarmMesh.Gateway
