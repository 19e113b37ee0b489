import AlarmMesh.Proofs.Gateway.Verdict
import AlarmMesh.Proofs.Gateway.View

/-!
# Repetitions

A report that repeats the sequence number of its device is ignored.  What it is compared with is
the number of the report before, of whatever kind that was and whether or not it was ignored itself.

* `Move.sequence?`, `lastSequence?` — the sequence number of a device that a move brings, and the
  last one of several moves;
* `Site.remembered` — the one that the shadow has;
* `remembered_move`, `remembered_moves` — what the shadow has after a move and after a run;
* `ignored_iff_repeats` — which reports are ignored in a run, and what becomes of them.
-/

namespace AlarmMesh.Gateway

open Radio (DeviceId Report)
open Shadow (Call Footprint Property Value)

/-! ### Sequence numbers -/

/-- The sequence number of the device that a move brings, if it brings a report of it that has
one. -/
def Move.sequence? (id : DeviceId) : Move → Option UInt8
  | .receive frame =>
    match Report.decode frame with
    | .ok report => report.sequence.bind fun (sender, seq) => if sender = id then some seq else none
    | .error _ => none
  | _ => none

/-- The last sequence number of the device that moves bring. -/
def lastSequence? (id : DeviceId) (moves : List Move) : Option UInt8 :=
  (moves.filterMap (Move.sequence? id)).getLast?

/-- The sequence number that the shadow has of a device. -/
def Site.remembered (site : Site) (id : DeviceId) : Option UInt8 :=
  (site.stored id .lastSequence).bind Value.asByte

/-- Sequence numbers can be remembered. -/
def Site.Remembers (site : Site) : Prop :=
  site.platform.isDown .setReported (some .lastSequence) = false

/-- The sequence numbers that are remembered can be read. -/
def Site.Recalls (site : Site) : Prop :=
  site.platform.isDown .getReported (some .lastSequence) = false

instance : DecidablePred Site.Remembers := fun site => by unfold Site.Remembers; infer_instance

instance : DecidablePred Site.Recalls := fun site => by unfold Site.Recalls; infer_instance

variable {id : DeviceId} {seq : UInt8} {frame : List UInt8} {report : Report} {move : Move}
  {moves : List Move}

theorem sequence?_eq_some (h : Move.sequence? id (.receive frame) = some seq) :
    ∃ report, Report.decode frame = .ok report ∧ report.sequence = some (id, seq) := by
  unfold Move.sequence? at h
  dsimp only at h
  split at h
  · next report hdecode =>
    obtain ⟨⟨sender, number⟩, hsequence, hsender⟩ := Option.bind_eq_some_iff.1 h
    obtain ⟨rfl, hnumber⟩ := Option.ite_none_right_eq_some.1 hsender
    obtain rfl := Option.some.inj hnumber
    exact ⟨report, hdecode, hsequence⟩
  · cases h

/-- A report without a sequence number of the device brings none. -/
theorem not_notes_of_sequence? (h : Move.sequence? id (.receive frame) = none)
    (hdecode : Report.decode frame = .ok report) : ¬ reportNotes report id .lastSequence := by
  rintro ⟨-, seq, hsequence⟩
  simp [Move.sequence?, hdecode, hsequence] at h

/-- The last of several sequence numbers is the last of those that come later, if there are any. -/
theorem lastSequence?_cons (id : DeviceId) (move : Move) (moves : List Move) :
    lastSequence? id (move :: moves) = (lastSequence? id moves).or (move.sequence? id) := by
  unfold lastSequence?
  cases hmove : move.sequence? id with
  | none => rw [List.filterMap_cons_none hmove, Option.or_none]
  | some seq =>
    rw [List.filterMap_cons_some hmove, List.getLast?_cons]
    cases (moves.filterMap (Move.sequence? id)).getLast? <;> rfl

/-! ### What is remembered -/

/-- A sequence number is read as it was written. -/
theorem asByte_ofNat (seq : UInt8) : (Value.ofNat seq.toNat).asByte = some seq := by
  unfold Value.asByte
  have hbelow : (Value.ofNat seq.toNat).below 256 = some seq.toNat := if_pos seq.toNat_lt
  rw [hbelow]
  exact congrArg some (UInt8.ofNat_toNat)

/-- A sequence number is not written as a part of an event. -/
theorem not_isEvent_lastSequence :
    ¬ (Property.lastSequence.isFault ∨ Property.lastSequence.isAlarm) := by
  simp [Property.isFault, Property.isAlarm]

/-- What dealing with a report may change: events are written, but no sequence number.  Which
devices are removed is left open. -/
def dealing (engine : Engine) : Footprint where
  admits id := engine.site.platform.isRegistered id = false
  removes _ := True
  writes _ property := property.isFault ∨ property.isAlarm

namespace Engine

variable {engine : Engine}

theorem edits_dealing (engine : Engine) (report : Report) (frame : List UInt8) :
    engine.site.Edits (dealing engine) (engine.dispatch report frame).site :=
  edits_dispatch engine frame (fun _ hnew => hnew) (fun _ _ _ _ _ _ _ _ => trivial)
    fun _ _ hwrites => isEvent_of_reportWrites hwrites

/-- What is noted of a report with a sequence number. -/
theorem noted_of_sequence (hdevice : engine.site.platform.isRegistered id) (frame : List UInt8)
    (hsequence : report.sequence = some (id, seq)) : engine.noted frame report =
      (engine.counted frame).onSite fun site =>
        site.report id .lastSequence (.ofNat seq.toNat) := by
  have hcounted : (engine.counted frame).site.platform.isRegistered id := hdevice
  unfold noted checkRepetition checkSequence
  rw [hsequence]
  exact if_pos hcounted

/-- The sequence number of a report is remembered before the report is dealt with. -/
theorem stored_noted (hdevice : engine.site.platform.isRegistered id)
    (hup : engine.site.Remembers) (frame : List UInt8)
    (hsequence : report.sequence = some (id, seq)) :
    (engine.noted frame report).site.stored id .lastSequence = some (.ofNat seq.toNat) := by
  have htracks : (engine.counted frame).site.Tracks id [(.setReported, .lastSequence)] :=
    ⟨hdevice, fun _ hcall => List.mem_singleton.1 hcall ▸ hup⟩
  rw [noted_of_sequence hdevice frame hsequence]
  exact Site.stored_report htracks _

/-- After a report with a sequence number that is remembered, whether the report is ignored or
not. -/
theorem remembered_receive (hdevice : engine.site.platform.isRegistered id)
    (hup : engine.site.Remembers) (hdecode : Report.decode frame = .ok report)
    (hsequence : report.sequence = some (id, seq))
    (hafter : (engine.receive frame).site.platform.isRegistered id) :
    (engine.receive frame).site.remembered id = some seq := by
  have hnoted := stored_noted hdevice hup frame hsequence
  have hstored : (engine.receive frame).site.stored id .lastSequence =
      (engine.noted frame report).site.stored id .lastSequence := by
    have hreceive := receive_of_decode engine hdecode
    by_cases hrepeated : ((engine.counted frame).checkRepetition report).1
    · rw [hreceive, if_pos hrepeated]
      rfl
    · rw [if_neg hrepeated] at hreceive
      rw [hreceive] at hafter ⊢
      refine Site.stored_of_edits (edits_dealing _ report frame) ?_ not_isEvent_lastSequence rfl
        hafter
      exact ne_false_of_eq_true ((isRegistered_noted engine frame report id).trans hdevice)
  unfold Site.remembered
  rw [hstored, hnoted]
  exact asByte_ofNat seq

/-- What is remembered after a move that deals with one thing. -/
theorem remembered_single (hsingle : move.Single) (hbefore : engine.site.platform.isRegistered id)
    (hup : (move.sequence? id).isSome → engine.site.Remembers)
    (hafter : (engine.move move).site.platform.isRegistered id) :
    (engine.move move).site.remembered id =
      (move.sequence? id).or (engine.site.remembered id) := by
  cases hseq : move.sequence? id with
  | some seq =>
    cases move with
    | receive frame =>
      obtain ⟨report, hdecode, hsequence⟩ := sequence?_eq_some hseq
      exact remembered_receive hbefore (hup (by rw [hseq]; rfl)) hdecode hsequence hafter
    | _ => cases hseq
  | none =>
    have hspared : ¬ (engine.footprint move).writes id .lastSequence := by
      intro hwrites
      cases move with
      | receive frame =>
        obtain ⟨report, hdecode, hnotes⟩ | ⟨report, -, hevent⟩ := hwrites
        · exact not_notes_of_sequence? hseq hdecode hnotes
        · exact not_isEvent_lastSequence (isEvent_of_reportWrites hevent)
      | expire =>
        obtain ⟨kind, -, hevent⟩ := hwrites
        exact not_isEvent_lastSequence (isEvent_of_timerWrites hevent)
      | _ => exact hwrites
    unfold Site.remembered
    rw [stored_move move hsingle hbefore hafter hspared rfl, Option.none_or]

/-! ### Runs -/

/-- Nothing but a frame registers a device. -/
theorem isRegistered_of_after (hsingle : move.Single) (hother : ∀ frame, move ≠ .receive frame)
    (hafter : (engine.move move).site.platform.isRegistered id) :
    engine.site.platform.isRegistered id := by
  have hadmits : ¬ (engine.footprint move).admits id := by
    cases move with
    | receive frame => exact absurd rfl (hother frame)
    | _ => exact not_false
  exact Shadow.Store.isRegistered_iff.2 ((edits_move engine hsingle).mem_of_not_admits hadmits
    (Shadow.Store.isRegistered_iff.1 hafter))

/-- A move that brings no frame is not made of frames. -/
theorem eq_receive_of_mem_singles (h : .receive frame ∈ engine.singles move) :
    move = .receive frame := by
  cases move with
  | receive other => exact (List.mem_singleton.1 h).symm
  | fireDue => cases List.eq_of_mem_replicate h
  | control operation =>
    cases operation with
    | deltas changes =>
      obtain ⟨delta, -, hwish⟩ := List.mem_map.1 h
      cases hwish
    | _ => cases List.mem_singleton.1 h
  | _ => cases List.mem_singleton.1 h

theorem sequence?_eq_none (hother : ∀ frame, move ≠ .receive frame) : move.sequence? id = none := by
  cases move with
  | receive frame => exact absurd rfl (hother frame)
  | _ => rfl

/-- Without frames nothing else is remembered, of a device that is registered in the end. -/
theorem remembered_without_frames (hsingles : ∀ single ∈ moves, single.Single)
    (hother : ∀ frame, .receive frame ∉ moves)
    (hafter : (engine.moves moves).site.platform.isRegistered id) :
    engine.site.platform.isRegistered id ∧
      (engine.moves moves).site.remembered id = engine.site.remembered id := by
  induction moves generalizing engine with
  | nil => exact ⟨hafter, rfl⟩
  | cons single moves ih =>
    obtain ⟨hsingle, hrest⟩ := List.forall_mem_cons.1 hsingles
    have hfirst : ∀ frame, single ≠ .receive frame := fun frame heq =>
      hother frame (heq ▸ List.mem_cons_self)
    obtain ⟨hmid, hlater⟩ :=
      ih hrest (fun frame h => hother frame (List.mem_cons_of_mem _ h)) hafter
    have hbefore := isRegistered_of_after hsingle hfirst hmid
    have hnone : single.sequence? id = none := sequence?_eq_none hfirst
    refine ⟨hbefore, hlater.trans ?_⟩
    rw [remembered_single hsingle hbefore (by rw [hnone]; exact fun h => absurd h (by simp)) hmid,
      hnone, Option.none_or]

/-- What is remembered after a move. -/
theorem remembered_move (hbefore : engine.site.platform.isRegistered id)
    (hup : (move.sequence? id).isSome → engine.site.Remembers)
    (hafter : (engine.move move).site.platform.isRegistered id) :
    (engine.move move).site.remembered id =
      (move.sequence? id).or (engine.site.remembered id) := by
  by_cases hframe : ∃ frame, move = .receive frame
  · obtain ⟨frame, rfl⟩ := hframe
    exact remembered_single trivial hbefore hup hafter
  · have hother : ∀ frame, move ≠ .receive frame := fun frame heq => hframe ⟨frame, heq⟩
    rw [← moves_singles engine move] at hafter ⊢
    rw [(remembered_without_frames (fun _ => engine.single_of_mem_singles)
      (fun frame hmem => hother frame (eq_receive_of_mem_singles hmem)) hafter).2,
      sequence?_eq_none hother, Option.none_or]

/-- What is remembered after a run: the last sequence number that it brings. -/
theorem remembered_moves
    (h : engine.Along (fun engine => engine.site.platform.isRegistered id)
      (fun engine move => (move.sequence? id).isSome → engine.site.Remembers) moves) :
    (engine.moves moves).site.remembered id =
      (lastSequence? id moves).or (engine.site.remembered id) := by
  induction moves generalizing engine with
  | nil => rfl
  | cons move moves ih =>
    obtain ⟨hbefore, hup, hrest⟩ := h
    rw [moves_cons, ih hrest, remembered_move hbefore hup hrest.head, lastSequence?_cons,
      Option.or_assoc]

/-! ### Repetitions -/

/-- A report of the device is ignored if its sequence number is the one that is remembered. -/
theorem accepted?_eq_none_iff (hseq : Move.sequence? id (.receive frame) = some seq)
    (hup : engine.site.Recalls) :
    engine.accepted? frame = none ↔ engine.site.remembered id = some seq := by
  obtain ⟨report, hdecode, hsequence⟩ := sequence?_eq_some hseq
  have hread : engine.site.reported id .lastSequence = engine.site.stored id .lastSequence :=
    Site.reported_eq_stored hup id
  have hchecked : (engine.checkRepetition report).1 =
      decide (engine.site.remembered id = some seq) := by
    unfold checkRepetition checkSequence Site.remembered
    rw [hsequence, ← hread]
  unfold accepted?
  rw [hdecode]
  dsimp only
  rw [hchecked]
  simp

/-- A report that was received is ignored from then on, whether or not it was ignored itself, until
the device tells something under another number. -/
theorem accepted?_of_received (hseq : Move.sequence? id (.receive frame) = some seq)
    (hbefore : engine.site.platform.isRegistered id) (hup : engine.site.Remembers)
    (halong : (engine.receive frame).Along (fun engine => engine.site.platform.isRegistered id)
      (fun engine move => (move.sequence? id).isSome → engine.site.Remembers) moves)
    (hlast : (lastSequence? id moves).getD seq = seq)
    (hrecalls : ((engine.receive frame).moves moves).site.Recalls) :
    ((engine.receive frame).moves moves).accepted? frame = none := by
  obtain ⟨report, hdecode, hsequence⟩ := sequence?_eq_some hseq
  have hfirst := remembered_receive hbefore hup hdecode hsequence halong.head
  rw [accepted?_eq_none_iff hseq hrecalls, remembered_moves halong, hfirst]
  cases hmoves : lastSequence? id moves with
  | none => rfl
  | some last => simpa [hmoves] using hlast

/-- What becomes of a report that is ignored. -/
theorem receive_of_repeated (hseq : Move.sequence? id (.receive frame) = some seq)
    (hdevice : engine.site.platform.isRegistered id) (hnone : engine.accepted? frame = none) :
    engine.receive frame = (engine.counted frame).onSite fun site =>
      (site.report id .lastSequence (.ofNat seq.toNat)).count .duplicate := by
  obtain ⟨report, hdecode, hsequence⟩ := sequence?_eq_some hseq
  have hrepeated : ((engine.counted frame).checkRepetition report).1 := by
    rw [checkRepetition_counted]
    simpa [accepted?, hdecode] using hnone
  rw [receive_of_decode engine hdecode, if_pos hrepeated,
    noted_of_sequence hdevice frame hsequence]
  rfl

end Engine

/-- In a run throughout which a device is registered and its sequence numbers can be remembered, a
report of the device is ignored if and only if its sequence number is the one of the report before,
or for the first report the one that is stored.  Then nothing happens but that the number is
remembered and the frame is counted as handled and as a repetition. -/
theorem ignored_iff_repeats {engine : Engine} {id : DeviceId} {frame : List UInt8} {seq : UInt8}
    (hseq : Move.sequence? id (.receive frame) = some seq) (moves : List Move)
    (halong : Engine.Along (fun engine => engine.site.platform.isRegistered id)
      (fun engine move => (move.sequence? id).isSome → engine.site.Remembers) engine moves)
    (hup : (engine.moves moves).site.Recalls) :
    ((engine.moves moves).accepted? frame = none ↔
      (lastSequence? id moves).or (engine.site.remembered id) = some seq) ∧
    ((engine.moves moves).accepted? frame = none → (engine.moves moves).receive frame =
      (engine.moves moves).onSite fun site => (((site.count (.frameHandled (frame.headD 0))).report
        id .lastSequence (.ofNat seq.toNat)).count .duplicate)) ∧
    ∀ report, (engine.moves moves).accepted? frame = some report →
      (engine.moves moves).receive frame =
        ((engine.moves moves).noted frame report).dispatch report frame := by
  have hremembered := Engine.remembered_moves halong
  refine ⟨?_, Engine.receive_of_repeated hseq halong.last, fun report haccepted =>
    Engine.receive_of_accepted _ haccepted⟩
  rw [Engine.accepted?_eq_none_iff hseq hup, hremembered]

/-- The device at slot 6 reports an alarm, which is number 9 of its reports. -/
def ninthReport : List UInt8 := [0x50, 6, 0, 0, 1, 0, 6, 9]

/-- The alarm of the device at slot 6 stops, under the same number. -/
def ninthAgain : List UInt8 := [0x51, 6, 0, 0, 1, 6, 9]

/-- The device at slot 7 reports a fault. -/
def otherReport : List UInt8 := [0x71, 7, 0, 0, 0, 0, 5, 7, 4]

/-- A fault of the device at slot 6 is ignored: its number is that of a report which was ignored
itself, with a fault of another device and a scan between the two. -/
theorem ignored_iff_repeats_joined :
    Move.sequence? (.ofNat 6) (.receive [0x71, 6, 0, 0, 0, 0, 5, 6, 9]) = some 9 ∧
    (joined.moves [.receive ninthReport]).accepted? ninthAgain = none ∧
    (joined.moves [.receive ninthReport, .receive ninthAgain, .receive otherReport,
      .control (.beginScan true)]).accepted? [0x71, 6, 0, 0, 0, 0, 5, 6, 9] = none := by
  have hagain : Move.sequence? (.ofNat 6) (.receive ninthAgain) = some 9 := by decide +kernel
  have hfault : Move.sequence? (.ofNat 6) (.receive [0x71, 6, 0, 0, 0, 0, 5, 6, 9]) = some 9 := by
    decide +kernel
  have hfirst := @ignored_iff_repeats joined _ _ _ hagain [.receive ninthReport]
    (by decide +kernel) (by decide +kernel)
  have hlater := @ignored_iff_repeats joined _ _ _ hfault
    [.receive ninthReport, .receive ninthAgain, .receive otherReport, .control (.beginScan true)]
    (by decide +kernel) (by decide +kernel)
  exact ⟨hfault, hfirst.1.2 (by decide +kernel), hlater.1.2 (by decide +kernel)⟩

/-- The calls that remember a sequence number and read it again. -/
def sequenceCalls : List (Call × Property) :=
  [(.setReported, .lastSequence), (.getReported, .lastSequence)]

/-- Neither call can be spared: if one of them fails, the same frame of a device that is registered
throughout is dealt with twice. -/
theorem not_ignored_of_outage :
    Move.sequence? (.ofNat 6) (.receive ninthReport) = some 9 ∧
    lastSequence? (.ofNat 6) [.receive ninthReport] = some 9 ∧
    ∀ call ∈ sequenceCalls,
      Reachable {} (joined.without (call.1, some call.2)) ∧
      Engine.Along (fun engine => engine.site.platform.isRegistered (.ofNat 6))
        (fun _ _ => True) (joined.without (call.1, some call.2)) [.receive ninthReport] ∧
      ((joined.without (call.1, some call.2)).moves [.receive ninthReport]).accepted? ninthReport ≠
        none := by
  have hcalls : ∀ call ∈ sequenceCalls,
      Engine.Along (fun engine => engine.site.platform.isRegistered (.ofNat 6))
        (fun _ _ => True) (joined.without (call.1, some call.2)) [.receive ninthReport] ∧
      ((joined.without (call.1, some call.2)).moves [.receive ninthReport]).accepted?
        ninthReport ≠ none := by
    decide +kernel
  refine ⟨by decide +kernel, by decide +kernel, fun call hcall => ?_⟩
  obtain ⟨halong, haccepted⟩ := hcalls call hcall
  exact ⟨reachable_joined.move _, halong, haccepted⟩

end AlarmMesh.Gateway
