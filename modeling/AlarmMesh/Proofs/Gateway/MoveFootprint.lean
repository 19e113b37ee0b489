import AlarmMesh.Proofs.Gateway.Ending
import AlarmMesh.Proofs.Gateway.Run

/-!
# What a move changes in the shadow

A move registers at most the device that a frame is about, removes only what the sessions delete
that it ends, and writes events only for the report or the timer that it deals with.

* `Move.Single`, `Engine.singles`, `exists_single` — every run is a run of moves that deal with one
  thing each, and what these preserve every run does, `single_induct`;
* `Engine.accepted?` — the report of a frame that is neither unreadable nor a repetition;
* `Engine.endings` — the states in which a move ends sessions, `completed_move`;
* `Engine.footprint` — what a move may change, `edits_move`.
-/

namespace AlarmMesh.Gateway

open Radio (DeviceId Report SidMap)
open Shadow (Footprint Mode Property Value)

/-! ### One thing at a time -/

/-- The move deals with one thing. -/
def Move.Single : Move → Prop
  | .fireDue | .control (.deltas _) => False
  | _ => True

instance : DecidablePred Move.Single := fun move => by unfold Move.Single; split <;> infer_instance

namespace Engine

/-- Of wishes that changed together, those that are dealt with. -/
def heeded (deltas : List Delta) : List Delta :=
  deltas.filter fun delta => !(deltas.any (concerns .learnCommand) && concerns .mode delta)

/-- The moves that deal with one thing each that a move is made of. -/
def singles (engine : Engine) : Move → List Move
  | .fireDue => List.replicate engine.fireLimit .expire
  | .control (.deltas changes) => (heeded changes).map .wish
  | move => [move]

theorem moves_singles (engine : Engine) (move : Move) :
    engine.moves (engine.singles move) = engine.move move := by
  cases move with
  | fireDue => exact (fireDue_eq engine).symm
  | control operation =>
    cases operation with
    | deltas changes =>
      show engine.moves ((heeded changes).map .wish) = engine.applyDeltas changes
      unfold moves
      rw [List.foldl_map]
      rfl
    | _ => rfl
  | _ => rfl

theorem single_of_mem_singles (engine : Engine) {move single : Move}
    (h : single ∈ engine.singles move) : single.Single := by
  have hself (hmove : move.Single) (hmem : single ∈ [move]) : single.Single :=
    List.mem_singleton.1 hmem ▸ hmove
  cases move with
  | fireDue =>
    rw [List.eq_of_mem_replicate h]
    exact trivial
  | control operation =>
    cases operation with
    | deltas changes =>
      obtain ⟨delta, -, rfl⟩ := List.mem_map.1 h
      exact trivial
    | _ => exact hself trivial h
  | _ => exact hself trivial h

theorem exists_single_move (engine : Engine) (move : Move) :
    ∃ moves : List Move, (∀ single ∈ moves, single.Single) ∧
      engine.move move = engine.moves moves :=
  ⟨engine.singles move, fun _ => engine.single_of_mem_singles, (engine.moves_singles move).symm⟩

theorem exists_single (engine : Engine) (moves : List Move) :
    ∃ singles : List Move, (∀ single ∈ singles, single.Single) ∧
      engine.moves moves = engine.moves singles := by
  induction moves generalizing engine with
  | nil => exact ⟨[], by simp, rfl⟩
  | cons move moves ih =>
    obtain ⟨first, hfirst, heq⟩ := exists_single_move engine move
    obtain ⟨rest, hrest, hmoves⟩ := ih (engine.move move)
    refine ⟨first ++ rest, fun single hsingle => ?_, ?_⟩
    · rcases List.mem_append.1 hsingle with h | h
      · exact hfirst single h
      · exact hrest single h
    · rw [moves_cons, hmoves, heq]
      exact List.foldl_append.symm

/-- What every such move preserves holds after any moves. -/
theorem single_induct {P : Engine → Prop}
    (step : ∀ engine move, move.Single → P engine → P (engine.move move)) (engine : Engine)
    (moves : List Move) (h : P engine) : P (engine.moves moves) := by
  obtain ⟨singles, hsingles, heq⟩ := engine.exists_single moves
  rw [heq]
  clear heq
  induction singles generalizing engine with
  | nil => exact h
  | cons move singles ih =>
    obtain ⟨hfirst, hrest⟩ := List.forall_mem_cons.1 hsingles
    exact ih (engine.move move) (step engine move hfirst h) hrest

end Engine

/-! ### Events -/

/-- What is written of a report before it is dealt with: its sequence number, if it has one. -/
def reportNotes (report : Report) (id : DeviceId) (property : Property) : Prop :=
  property = .lastSequence ∧ ∃ seq, report.sequence = some (id, seq)

/-- What a report may write beside what is routine. -/
def reportWrites (report : Report) (id : DeviceId) (property : Property) : Prop :=
  match report with
  | .fault report => id = report.id ∧ property.isFault
  | .faultDetails report => id = report.id ∧ property.isFault
  | .slotValue report => id = report.id ∧ (property.isFault ∨ property.isAlarm)
  | .alarm report => id = report.id ∧ property.isAlarm
  | .alarmStop report => id = report.id ∧ property.isAlarm
  | .hush _ => property.isAlarm
  | .locate report => id = report.id ∧ property.isAlarm
  | _ => False

/-- What a timer may write beside what is routine. -/
def timerWrites (kind : TimerKind) (id : DeviceId) (property : Property) : Prop :=
  match kind with
  | .faultTimeout other => id = other ∧ property.isFault
  | .alarmTimeout other => id = other ∧ property.isAlarm
  | _ => False

namespace Engine

variable {f : Footprint} (engine : Engine)

theorem edits_dispatch {report : Report} (frame : List UInt8)
    (hadmits : ∀ id, engine.site.platform.isRegistered id = false → f.admits id)
    (hends : ∀ map, report = .missingNodes map → Covers f (engine.discovery.reportEnds map))
    (hwrites : ∀ id property, reportWrites report id property → f.writes id property) :
    engine.site.Edits f (engine.dispatch report frame).site := by
  unfold dispatch
  cases report with
  | ack | nack | remoteIdNotice => exact .refl f _
  | statusRequest => exact Site.edits_of_platform (Site.send_platform _ _)
  | sidMap map => exact engine.discovery.edits_receiveSidMap map
  | missingNodes map => exact engine.discovery.edits_receiveMissing (hends map rfl)
  | sidMapUpdate map => exact engine.discovery.edits_receiveSidMapUpdate map
  | remoteStatus status =>
    exact Correlator.edits_receiveRemoteStatus ⟨engine.incidents, engine.site⟩ status
  | rumourTarget => exact engine.discovery.edits_transmit _
  | deviceTested identity =>
    exact engine.discovery.edits_receiveIdentity identity .unknown true (hadmits _)
  | remoteId identity => exact engine.discovery.edits_receiveRemoteId identity (hadmits _)
  | fault report =>
    exact Correlator.edits_receiveFault ⟨engine.incidents, engine.site⟩ frame
      fun _ _ => hwrites _ _ ⟨rfl, rfl⟩
  | alarm report =>
    exact Correlator.edits_receiveAlarm ⟨engine.incidents, engine.site⟩ frame
      fun _ h => hwrites _ _ ⟨rfl, h⟩
  | slotValue report =>
    exact Correlator.edits_receiveSlotValue ⟨engine.incidents, engine.site⟩ report.value
      (fun _ => hwrites _ _ ⟨rfl, .inl rfl⟩) fun _ h => hwrites _ _ ⟨rfl, .inr h⟩
  | faultDetails report =>
    exact Correlator.edits_receiveFaultDetails ⟨engine.incidents, engine.site⟩ report.faults
      fun _ _ _ _ => hwrites _ _ ⟨rfl, rfl⟩
  | alarmStop report => exact Site.edits_writeAlarm _ (fun _ h => hwrites _ _ ⟨rfl, h⟩) _ none
  | hush =>
    exact Correlator.edits_receiveHush ⟨engine.incidents, engine.site⟩ fun id p h =>
      hwrites id p h
  | locate report => exact Site.edits_silence _ fun _ h => hwrites _ _ ⟨rfl, h⟩
  | radioDiagnostic status => exact engine.discovery.edits_receiveDiagnostic status
  | detectorFault => exact Site.edits_increment _ (.inl rfl)

/-! ### Frames -/

/-- The report of a frame that is dealt with: it can be read, and it is not a repetition. -/
def accepted? (frame : List UInt8) : Option Report :=
  match Report.decode frame with
  | .ok report => if (engine.checkRepetition report).1 then none else some report
  | .error _ => none

/-- The engine once a frame is counted and the sequence number of its report remembered. -/
def noted (frame : List UInt8) (report : Report) : Engine :=
  ((engine.counted frame).checkRepetition report).2

variable {frame : List UInt8} {report : Report}

theorem decode_of_accepted (h : engine.accepted? frame = some report) :
    Report.decode frame = .ok report := by
  unfold accepted? at h
  split at h
  · next hdecode =>
    split at h
    · simp at h
    · rwa [Option.some.inj h] at hdecode
  · simp at h

/-- Counting a frame does not tell whether its report is a repetition. -/
theorem checkRepetition_counted (frame : List UInt8) (report : Report) :
    ((engine.counted frame).checkRepetition report).1 = (engine.checkRepetition report).1 := by
  unfold checkRepetition
  split <;> rfl

/-- A frame that can be read is counted as a repetition, or its report is dealt with. -/
theorem receive_of_decode (h : Report.decode frame = .ok report) : engine.receive frame =
    if ((engine.counted frame).checkRepetition report).1 then
      (engine.noted frame report).onSite fun site => site.count .duplicate
    else (engine.noted frame report).dispatch report frame := by
  have hcounted : (engine.onSite fun site => site.count (.frameHandled (frame.headD 0))) =
      engine.counted frame := rfl
  unfold receive noted
  rw [h]
  dsimp only
  rw [hcounted]
  generalize (engine.counted frame).checkRepetition report = checked
  obtain ⟨repeated, noted⟩ := checked
  cases repeated <;> rfl

theorem receive_of_accepted (h : engine.accepted? frame = some report) :
    engine.receive frame = (engine.noted frame report).dispatch report frame := by
  have hdecode := decode_of_accepted engine h
  have hnew : ((engine.counted frame).checkRepetition report).1 = false := by
    rw [checkRepetition_counted]
    simpa [accepted?, hdecode] using h
  rw [receive_of_decode engine hdecode, if_neg (ne_true_of_eq_false hnew)]

/-- Only the site takes note of a frame. -/
theorem noted_eq (frame : List UInt8) (report : Report) :
    engine.noted frame report = { engine with site := (engine.noted frame report).site } := by
  unfold noted checkRepetition checkSequence
  split
  · dsimp only
    split <;> rfl
  · rfl

theorem edits_noted (frame : List UInt8) (report : Report)
    (hwrites : ∀ id property, reportNotes report id property → f.writes id property) :
    engine.site.Edits f (engine.noted frame report).site := by
  have hcount : engine.site.Edits f (engine.counted frame).site := Site.edits_of_platform rfl
  unfold noted checkRepetition checkSequence
  split
  · next id seq hseq =>
    dsimp only
    split
    · exact hcount.trans (Site.edits_report _ (.inr (hwrites _ _ ⟨rfl, seq, hseq⟩)) _)
    · exact hcount
  · exact hcount

theorem edits_noted_noting (frame : List UInt8) (report : Report) :
    engine.site.Edits .noting (engine.noted frame report).site :=
  edits_noted engine frame report fun _ _ hnotes => hnotes.1

/-- Taking note of a frame registers and removes nothing. -/
theorem isRegistered_noted (frame : List UInt8) (report : Report) (id : DeviceId) :
    (engine.noted frame report).site.platform.isRegistered id =
      engine.site.platform.isRegistered id :=
  (edits_noted_noting engine frame report).store.isRegistered_eq not_false not_false

/-- A frame that is not dealt with is dropped, or counted as a repetition. -/
theorem receive_ignored_cases (h : engine.accepted? frame = none) :
    (∃ reason, engine.receive frame =
      engine.onSite fun site => site.count (.frameDropped reason)) ∨
    ∃ report, Report.decode frame = .ok report ∧ engine.receive frame =
      (engine.noted frame report).onSite fun site => site.count .duplicate := by
  cases hdecode : Report.decode frame with
  | error error =>
    unfold receive
    rw [hdecode]
    exact .inl ⟨_, rfl⟩
  | ok report =>
    have hrepeated : ((engine.counted frame).checkRepetition report).1 = true := by
      rw [checkRepetition_counted]
      simpa [accepted?, hdecode] using h
    exact .inr ⟨report, rfl, (receive_of_decode engine hdecode).trans (if_pos hrepeated)⟩

/-- A frame that is not dealt with changes nothing but the site, and there only what is routine and
the sequence number of its report. -/
theorem receive_of_ignored (h : engine.accepted? frame = none) :
    ∃ site, engine.receive frame = { engine with site := site } ∧
      ∀ f : Footprint, (∀ report, Report.decode frame = .ok report → ∀ id property,
        reportNotes report id property → f.writes id property) → engine.site.Edits f site := by
  obtain ⟨reason, hreceive⟩ | ⟨report, hdecode, hreceive⟩ := receive_ignored_cases engine h
  · exact ⟨_, hreceive, fun f _ => Site.edits_of_platform rfl⟩
  · refine ⟨(engine.noted frame report).site.count .duplicate, ?_, fun f hwrites =>
      (edits_noted engine frame report (hwrites report hdecode)).trans
        (Site.edits_of_platform rfl)⟩
    rw [hreceive, noted_eq engine frame report]
    rfl

/-! ### Sessions that end -/

/-- The states in which a wish ends sessions. -/
def wishEnds (delta : Delta) : List Discovery :=
  if delta.device.isGateway then
    match delta.property with
    | .mode =>
      if Mode.ofValue? delta.value = some .running ∧
          (engine.site.reported .gateway .mode).bind Mode.ofValue? = some .testMode then
        engine.discovery.testModeEnds false false
      else []
    | .deleteAllCommand => engine.discovery.flushAllEnds
    | _ => []
  else
    match delta.property with
    | .flushCommand =>
      if delta.value.asBool = some true then engine.discovery.flushEnds delta.device else []
    | _ => []

/-- The states in which the next timer that is due ends sessions. -/
def expireEnds : List Discovery :=
  match engine.popDue with
  | (some kind, rest) =>
    if kind.place = .missing then { rest.discovery with missingTimer := none }.fireEnds kind
    else []
  | (none, _) => []

/-- The states in which a move that deals with one thing ends sessions. -/
def endings (move : Move) : List Discovery :=
  match move with
  | .receive frame =>
    match Report.decode frame with
    | .ok (.missingNodes map) => (engine.counted frame).discovery.reportEnds map
    | _ => []
  | .control .stopScan => engine.discovery.testModeEnds false false
  | .control .flushAll => engine.discovery.flushAllEnds
  | .control (.flush id) => engine.discovery.flushEnds id
  | .wish delta => engine.wishEnds delta
  | .expire => engine.expireEnds
  | _ => []

theorem wishEnds_cases (delta : Delta) : engine.wishEnds delta = [] ∨
    engine.wishEnds delta = engine.discovery.testModeEnds false false ∨
    engine.wishEnds delta = engine.discovery.flushAllEnds ∨
    ∃ id, engine.wishEnds delta = engine.discovery.flushEnds id := by
  unfold wishEnds
  split
  · split
    · split
      · exact .inr (.inl rfl)
      · exact .inl rfl
    · exact .inr (.inr (.inl rfl))
    · exact .inl rfl
  · split
    · split
      · exact .inr (.inr (.inr ⟨delta.device, rfl⟩))
      · exact .inl rfl
    · exact .inl rfl

/-- What is asked for ends sessions only to stop the test or to remove devices. -/
theorem endings_of_asked {move : Move} (hreceive : ∀ frame, move ≠ .receive frame)
    (hexpire : move ≠ .expire) : engine.endings move = [] ∨
      engine.endings move = engine.discovery.testModeEnds false false ∨
      engine.endings move = engine.discovery.flushAllEnds ∨
      ∃ id, engine.endings move = engine.discovery.flushEnds id := by
  cases move with
  | receive frame => exact absurd rfl (hreceive frame)
  | expire => exact absurd rfl hexpire
  | control operation =>
    cases operation with
    | stopScan => exact .inr (.inl rfl)
    | flushAll => exact .inr (.inr (.inl rfl))
    | flush id => exact .inr (.inr (.inr ⟨id, rfl⟩))
    | _ => exact .inl rfl
  | wish delta => exact wishEnds_cases engine delta
  | _ => exact .inl rfl

theorem endings_receive_of_missing {map : SidMap}
    (h : Report.decode frame = .ok (.missingNodes map)) :
    engine.endings (.receive frame) = (engine.counted frame).discovery.reportEnds map := by
  unfold endings
  dsimp only
  rw [h]

theorem endings_receive_of_other (h : ∀ map, Report.decode frame ≠ .ok (.missingNodes map)) :
    engine.endings (.receive frame) = [] := by
  unfold endings
  dsimp only
  split
  · next map hmap => exact absurd hmap (h map)
  · rfl

/-! ### Timers -/

/-- A timer that is none of the test changes what it may write. -/
theorem edits_fire {kind : TimerKind} (h : kind.place ≠ .missing)
    (hwrites : ∀ id property, timerWrites kind id property → f.writes id property) :
    engine.site.Edits f (engine.fire kind).site := by
  cases kind with
  | retrieveSidMap =>
    exact Discovery.edits_refresh { engine.discovery with refreshTimer := none }
  | learnModeTimeout =>
    exact Discovery.edits_setLearnMode { engine.discovery with learnTimer := none } false 0
  | interrogate =>
    exact Discovery.edits_continueInterrogation { engine.discovery with interrogateTimer := none }
  | faultTimeout id =>
    exact Correlator.edits_faultTimedOut ⟨engine.incidents, engine.site⟩
      fun _ _ _ => hwrites id _ ⟨rfl, rfl⟩
  | alarmTimeout id =>
    exact Correlator.edits_alarmTimedOut ⟨engine.incidents, engine.site⟩
      fun _ hp => hwrites id _ ⟨rfl, hp⟩
  | _ => simp [TimerKind.place] at h

/-- A timer of the test is due, and finds a session as `expireEnds` tells. -/
theorem expireEnds_of_due {kind : TimerKind} (hdue : engine.popDue.1 = some kind)
    (hplace : kind.place = .missing) : ∃ d, engine.Fires kind d ∧
      engine.expireEnds = d.fireEnds kind ∧
      engine.expire = (d.fireTest kind).among engine.incidents := by
  cases hpop : engine.site.timers.popExpired engine.site.clock.now with
  | mk popped rest =>
    have heq := popDue_eq engine hpop
    rw [heq] at hdue
    obtain ⟨timer, rfl, rfl⟩ := Option.map_eq_some_iff.1 hdue
    have hfires := Fires.pop hpop hplace
    refine ⟨_, hfires, ?_, ?_⟩
    · unfold expireEnds
      rw [heq]
      exact if_pos hplace
    · rw [expire_of_some heq, fire_test engine rest hplace, hfires.onTimer_eq]

/-- The next timer that is due is one of the test, or what it does is beside the test and ends no
session. -/
theorem expireEnds_cases :
    (engine.expireEnds = [] ∧ Beside engine engine.expire ∧ ∀ f : Footprint,
      (∀ kind, engine.popDue.1 = some kind → ∀ id property, timerWrites kind id property →
        f.writes id property) → engine.site.Edits f engine.expire.site) ∨
    ∃ kind d, engine.Fires kind d ∧ engine.expireEnds = d.fireEnds kind ∧
      engine.expire = (d.fireTest kind).among engine.incidents := by
  cases hpop : engine.site.timers.popExpired engine.site.clock.now with
  | mk popped rest =>
    have hdue := popDue_eq engine hpop
    cases popped with
    | none =>
      unfold expireEnds
      rw [hdue, expire_of_none hdue]
      exact .inl ⟨rfl, .refl engine, fun f _ => .refl f _⟩
    | some timer =>
      by_cases hplace : timer.kind.place = .missing
      · obtain ⟨d, hd⟩ := expireEnds_of_due engine (by rw [hdue]; rfl) hplace
        exact .inr ⟨timer.kind, d, hd⟩
      · unfold expireEnds
        rw [hdue, expire_of_some hdue]
        refine .inl ⟨if_neg hplace, ?_, fun f hwrites => ?_⟩
        · obtain ⟨haside, hregular⟩ := aside_fire hpop hplace
          exact ⟨haside, hregular⟩
        · have hpopped : engine.site.Edits f (engine.popped rest).site :=
            Site.edits_of_platform rfl
          exact hpopped.trans (edits_fire _ hplace (hwrites timer.kind rfl))

/-! ### Operations and wishes -/

theorem edits_issueTest : engine.site.Edits f engine.issueTest.site := by
  unfold issueTest
  split
  · exact .refl f _
  split
  · exact Site.edits_of_platform (Site.send_platform _ _)
  · exact .refl f _

theorem edits_identify (id : DeviceId) : engine.site.Edits f (engine.identify id).site := by
  unfold identify
  split
  · exact Site.edits_of_platform (Site.send_platform _ _)
  · exact .refl f _

theorem edits_transmit (command : Radio.Command) :
    engine.site.Edits f (engine.transmit command).site :=
  Site.edits_of_platform (Site.send_platform _ _)

theorem edits_report {property : Property} (h : property.isRoutine) (value : Value) :
    engine.site.Edits f (engine.report property value).site :=
  Site.edits_report _ (.inl h) value

theorem edits_control {operation : Control} (hsingle : (Move.control operation).Single)
    (hends : Covers f (engine.endings (.control operation))) :
    engine.site.Edits f (engine.control operation).site := by
  cases operation with
  | beginScan delete => exact engine.discovery.edits_setTestMode true delete
  | stopScan => exact engine.discovery.edits_setTestMode false false
  | issueTest => exact edits_issueTest engine
  | learn enabled seconds => exact engine.discovery.edits_setLearnMode enabled seconds
  | leave => exact .refl f _
  | flushAll => exact engine.discovery.edits_flushAll hends
  | flush id => exact engine.discovery.edits_flush hends
  | identify id => exact edits_identify engine id
  | silenceAll | locate | sounder => exact edits_transmit engine _
  | deltas changes => exact absurd hsingle id

theorem edits_setTestMode (enabled delete : Bool) : engine.site.Edits f
    (engine.onNetwork fun d => d.setTestMode enabled delete).site :=
  engine.discovery.edits_setTestMode enabled delete

theorem edits_setLearnMode (enabled : Bool) (seconds : Nat) : engine.site.Edits f
    (engine.onNetwork fun d => d.setLearnMode enabled seconds).site :=
  engine.discovery.edits_setLearnMode enabled seconds

theorem edits_wishTest (wish : Value) : engine.site.Edits f (engine.wishTest wish).site := by
  unfold wishTest
  split
  · exact .refl f _
  · exact (edits_report engine rfl _).trans ((edits_setTestMode _ true _).trans
      ((edits_report _ rfl _).trans (edits_report _ rfl _)))

theorem edits_wishLearn (wish : Value) : engine.site.Edits f (engine.wishLearn wish).site := by
  unfold wishLearn
  dsimp only
  split
  · exact (edits_setLearnMode engine true _).trans
      ((edits_report _ rfl _).trans (edits_report _ rfl _))
  · exact (edits_report engine rfl wish).trans (edits_setLearnMode _ false 0)

theorem edits_wishMode (wish : Value) : engine.site.Edits f (engine.wishMode wish).site := by
  unfold wishMode
  split
  · split
    · exact edits_setLearnMode engine false 0
    · exact edits_setTestMode engine false false
    · exact .refl f _
  · exact .refl f _

theorem edits_applyDelta {delta : Delta} (hends : Covers f (engine.wishEnds delta)) :
    engine.site.Edits f (engine.applyDelta delta).site := by
  unfold applyDelta
  unfold wishEnds at hends
  split
  · next hgateway =>
    rw [if_pos hgateway] at hends
    unfold applyGatewayDelta
    cases hproperty : delta.property with
    | testModeCommand => exact edits_wishTest engine _
    | learnCommand => exact edits_wishLearn engine _
    | mode => exact edits_wishMode engine _
    | leaveCommand => exact .refl f _
    | deleteAllCommand =>
      rw [hproperty] at hends
      exact engine.discovery.edits_flushAll hends
    | sounderTestCommand => exact (edits_issueTest engine).trans (edits_report _ rfl _)
    | silenceAllCommand | locateCommand =>
      exact (edits_transmit engine _).trans (edits_report _ rfl _)
    | _ => exact .refl f _
  · next hdevice =>
    rw [if_neg hdevice] at hends
    unfold applyDeviceDelta
    cases hproperty : delta.property with
    | mute =>
      dsimp only
      split
      · exact (edits_transmit engine _).trans (Site.edits_report _ (.inl rfl) _)
      · exact .refl f _
    | identifyCommand =>
      exact (edits_identify engine _).trans (Site.edits_report _ (.inl rfl) _)
    | flushCommand =>
      rw [hproperty] at hends
      dsimp only at hends ⊢
      split
      · next hwish =>
        rw [if_pos hwish] at hends
        exact engine.discovery.edits_flush hends
      · exact .refl f _
    | _ => exact .refl f _

/-! ### The count of sessions that ended -/

theorem completed_report (property : Property) (value : Value) :
    (engine.report property value).site.completed = engine.site.completed :=
  (Site.silent_report _ _ _ _).completed

theorem completed_transmit (command : Radio.Command) :
    (engine.transmit command).site.completed = engine.site.completed :=
  Site.send_completed engine.site command

theorem completed_issueTest : engine.issueTest.site.completed = engine.site.completed := by
  unfold issueTest
  split
  · rfl
  split
  · exact completed_transmit engine _
  · rfl

theorem completed_identify (id : DeviceId) :
    (engine.identify id).site.completed = engine.site.completed := by
  unfold identify
  split
  · exact completed_transmit engine _
  · rfl

theorem completed_setLearnMode (enabled : Bool) (seconds : Nat) :
    (engine.onNetwork fun d => d.setLearnMode enabled seconds).site.completed =
      engine.site.completed :=
  (engine.discovery.aside_setLearnMode engine.incidents enabled seconds).completed

/-- A request for a test ends no session. -/
theorem completed_beginTest (delete : Bool) :
    (engine.onNetwork fun d => d.setTestMode true delete).site.completed =
      engine.site.completed := by
  refine (engine.discovery.completed_setTestMode true delete).trans ?_
  simp [Discovery.testModeEnds, discovery]

theorem completed_control {operation : Control} (hsingle : (Move.control operation).Single) :
    (engine.control operation).site.completed =
      engine.site.completed + (engine.endings (.control operation)).length := by
  cases operation with
  | beginScan delete => exact completed_beginTest engine delete
  | stopScan => exact engine.discovery.completed_setTestMode false false
  | issueTest => exact completed_issueTest engine
  | learn enabled seconds => exact completed_setLearnMode engine enabled seconds
  | leave => rfl
  | flushAll => exact engine.discovery.completed_flushAll
  | flush id => exact engine.discovery.completed_flush id
  | identify id => exact completed_identify engine id
  | silenceAll | locate | sounder => exact completed_transmit engine _
  | deltas changes => exact absurd hsingle id

theorem completed_wishTest (wish : Value) :
    (engine.wishTest wish).site.completed = engine.site.completed := by
  unfold wishTest
  split
  · rfl
  · dsimp only
    rw [completed_report, completed_report, completed_beginTest, completed_report]

theorem completed_wishLearn (wish : Value) :
    (engine.wishLearn wish).site.completed = engine.site.completed := by
  unfold wishLearn
  dsimp only
  split
  · rw [completed_report, completed_report, completed_setLearnMode]
  · rw [completed_setLearnMode, completed_report]

theorem completed_wishMode (wish : Value) : (engine.wishMode wish).site.completed =
    engine.site.completed + (if Mode.ofValue? wish = some .running ∧
      (engine.site.reported .gateway .mode).bind Mode.ofValue? = some .testMode then
        engine.discovery.testModeEnds false false else []).length := by
  unfold wishMode
  by_cases hwish : Mode.ofValue? wish = some .running
  · rw [if_pos hwish]
    split
    · next hmode =>
      rw [if_neg (by simp [hmode])]
      exact completed_setLearnMode engine false 0
    · next hmode =>
      rw [if_pos ⟨hwish, hmode⟩]
      exact engine.discovery.completed_setTestMode false false
    · next htest =>
      rw [if_neg fun hboth => htest hboth.2]
      rfl
  · rw [if_neg hwish, if_neg fun hboth => hwish hboth.1]
    rfl

theorem completed_applyDelta (delta : Delta) : (engine.applyDelta delta).site.completed =
    engine.site.completed + (engine.wishEnds delta).length := by
  unfold applyDelta wishEnds
  split
  · unfold applyGatewayDelta
    cases delta.property with
    | testModeCommand => exact completed_wishTest engine _
    | learnCommand => exact completed_wishLearn engine _
    | mode => exact completed_wishMode engine _
    | leaveCommand => rfl
    | deleteAllCommand => exact engine.discovery.completed_flushAll
    | sounderTestCommand => exact (completed_report _ _ _).trans (completed_issueTest engine)
    | silenceAllCommand | locateCommand =>
      exact (completed_report _ _ _).trans (completed_transmit engine _)
    | _ => rfl
  · unfold applyDeviceDelta
    cases delta.property with
    | mute =>
      dsimp only
      split
      · exact (Site.silent_report _ _ _ _).completed.trans (completed_transmit engine _)
      · rfl
    | identifyCommand =>
      exact (Site.silent_report _ _ _ _).completed.trans (completed_identify engine _)
    | flushCommand =>
      dsimp only
      split
      · exact engine.discovery.completed_flush _
      · rfl
    | _ => rfl

theorem completed_receive (frame : List UInt8) : (engine.receive frame).site.completed =
    engine.site.completed + (engine.endings (.receive frame)).length := by
  by_cases h : ∃ map, Report.decode frame = .ok (.missingNodes map)
  · obtain ⟨map, hmap⟩ := h
    rw [receive_missingNodes engine hmap, endings_receive_of_missing engine hmap,
      ← (beside_counted engine frame).completed]
    exact (engine.counted frame).discovery.completed_receiveMissing map
  · have hother (map : SidMap) : Report.decode frame ≠ .ok (.missingNodes map) :=
      fun hmap => h ⟨map, hmap⟩
    rw [endings_receive_of_other engine hother, (beside_receive engine hother).completed]
    rfl

theorem completed_expire :
    engine.expire.site.completed = engine.site.completed + engine.expireEnds.length := by
  rcases expireEnds_cases engine with ⟨hends, hbeside, -⟩ | ⟨kind, d, hfires, hends, hexpire⟩
  · rw [hends, hbeside.completed]
    rfl
  · rw [hends, hexpire, ← hfires.completed]
    exact d.completed_fireTest kind

/-- Every session that a move ends is counted, and nothing else is. -/
theorem completed_move {move : Move} (h : move.Single) : (engine.move move).site.completed =
    engine.site.completed + (engine.endings move).length := by
  cases move with
  | receive frame => exact completed_receive engine frame
  | control operation => exact completed_control engine h
  | wish delta => exact completed_applyDelta engine delta
  | expire => exact completed_expire engine
  | fireDue => exact absurd h id
  | desire => exact (Site.silent_after _ _).completed
  | advance | outages | share | contend => rfl

/-! ### Moves -/

/-- What a move may change in the shadow. -/
def footprint (move : Move) : Footprint where
  admits id :=
    match move with
    | .receive _ => engine.site.platform.isRegistered id = false
    | _ => False
  removes id := ∃ d ∈ engine.endings move, d.deletesAtEnd ∧ id.isGateway = false ∧
    d.site.isOffline id
  writes id property :=
    match move with
    | .receive frame =>
        (∃ report, Report.decode frame = .ok report ∧ reportNotes report id property) ∨
        ∃ report, engine.accepted? frame = some report ∧ reportWrites report id property
    | .expire => ∃ kind, engine.popDue.1 = some kind ∧ timerWrites kind id property
    | _ => False

/-- A device that is registered is not registered anew. -/
theorem not_admits_of_registered {move : Move} {id : DeviceId}
    (h : engine.site.platform.isRegistered id) : ¬ (engine.footprint move).admits id := by
  cases move with
  | receive frame => exact ne_false_of_eq_true h
  | _ => exact not_false

theorem covers_footprint (move : Move) : Covers (engine.footprint move) (engine.endings move) :=
  fun d hd hdeletes _ hmesh hoffline => ⟨d, hd, hdeletes, hmesh, hoffline⟩

theorem edits_receive (frame : List UInt8) :
    engine.site.Edits (engine.footprint (.receive frame)) (engine.receive frame).site := by
  have hcovers := covers_footprint engine (.receive frame)
  cases haccepted : engine.accepted? frame with
  | none =>
    obtain ⟨site, hreceive, hedits⟩ := receive_of_ignored engine haccepted
    rw [hreceive]
    exact hedits _ fun report hdecode id property hnotes => .inl ⟨report, hdecode, hnotes⟩
  | some report =>
    have hdecode := decode_of_accepted engine haccepted
    have hnoted := edits_noted engine (f := engine.footprint (.receive frame)) frame report
      fun id property hnotes => .inl ⟨report, hdecode, hnotes⟩
    rw [receive_of_accepted engine haccepted]
    refine hnoted.trans
      (edits_dispatch _ frame ?_ ?_ fun id property hw => .inr ⟨report, haccepted, hw⟩)
    · intro id hnew
      exact (isRegistered_noted engine frame report id).symm.trans hnew
    · rintro map rfl
      rw [endings_receive_of_missing engine hdecode] at hcovers
      exact hcovers

theorem edits_expire : engine.site.Edits (engine.footprint .expire) engine.expire.site := by
  have hcovers := covers_footprint engine .expire
  rcases expireEnds_cases engine with ⟨-, -, hedits⟩ | ⟨kind, d, hfires, hends, hexpire⟩
  · exact hedits _ fun kind hdue id property hw => ⟨kind, hdue, hw⟩
  · have hpopped : engine.site.Edits (engine.footprint .expire) d.site := by
      obtain ⟨rest, rfl⟩ := hfires.eq
      exact Site.edits_of_platform rfl
    rw [show engine.endings .expire = engine.expireEnds from rfl, hends] at hcovers
    rw [hexpire]
    exact hpopped.trans (d.edits_fireTest hcovers)

/-- A move that deals with one thing changes the shadow within its footprint. -/
theorem edits_move {move : Move} (h : move.Single) :
    engine.site.platform.store.Edits (engine.footprint move)
      (engine.move move).site.platform.store := by
  cases move with
  | receive frame => exact (edits_receive engine frame).store
  | control operation =>
    exact (edits_control engine h (covers_footprint engine (.control operation))).store
  | wish delta => exact (edits_applyDelta engine (covers_footprint engine (.wish delta))).store
  | expire => exact (edits_expire engine).store
  | fireDue => exact absurd h id
  | desire id property value => exact (Site.edits_desire engine.site id property value).store
  | advance | outages | share | contend => exact .refl

end Engine

end AlarmMesh.Gateway
