import AlarmMesh.Gateway.Engine
import AlarmMesh.Proofs.Radio.Layout

/-!
# Frames that are read

The first bytes of a frame and its length decide whether it is read.  Four formats have any length
and carry nothing; the others are the layouts.  Everything else is refused, for a reason that
depends on the first bytes and the length alone, and a refused frame leaves the gateway as it is.

* `Accepted`, `Refused` — the frames that are read and those that are not;
* `accepted_or_refused` — there are no others;
* `Layout.decode_fixed`, `Layout.decode_eq_report_iff` — a frame of a layout carries values and is
  what they are laid out as;
* `readsFormats` — all of this for every frame.
-/

namespace AlarmMesh.Radio

/-! ### What is read and what is refused -/

/-- The first bytes that are known. -/
def commands : List UInt8 :=
  [0x41, 0x46, 0x47, 0x50, 0x51, 0x52, 0x53, 0x70, 0x71, 0x72, 0xc2, 0xc4, 0xd2, 0xd4, 0xd5]

/-- The second bytes that are known behind a first byte `0xd4`. -/
def topics : List UInt8 := [0x01, 0x03, 0x04, 0x06, 0x09, 0x1a]

/-- The frames that are read: those of any length, and those that are as long as their layout. -/
inductive Accepted : List UInt8 → Prop where
  | statusRequest (rest : List UInt8) : Accepted (0x41 :: rest)
  | ack (rest : List UInt8) : Accepted (0x46 :: rest)
  | nack (rest : List UInt8) : Accepted (0x47 :: rest)
  | remoteIdNotice (rest : List UInt8) : Accepted (0xd4 :: 0x09 :: rest)
  | fixed {frame : List UInt8} (layout : Layout) (starts : layout.start <+: frame)
      (length : frame.length = layout.length) : Accepted frame

/-- The frames that are refused, and why: their first bytes are not known, or they are not as long
as these bytes say. -/
inductive Refused : List UInt8 → FrameError → Prop where
  | empty : Refused [] .empty
  | unknownCommand {command : UInt8} (rest : List UInt8) (unknown : command ∉ commands) :
      Refused (command :: rest) (.unknownCommand command)
  | noTopic : Refused [0xd4] (.length 0xd4 2 1)
  | unknownTopic {topic : UInt8} (rest : List UInt8) (unknown : topic ∉ topics) :
      Refused (0xd4 :: topic :: rest) (.unknownTopic topic)
  | length {frame : List UInt8} (layout : Layout) (starts : layout.start <+: frame)
      (length : frame.length ≠ layout.length) :
      Refused frame (.length (layout.start.headD 0) layout.length frame.length)

variable {frame : List UInt8} {error : FrameError}

theorem Accepted.decode (h : Accepted frame) : ∃ report, Report.decode frame = .ok report := by
  cases h with
  | statusRequest rest => exact ⟨.statusRequest, rfl⟩
  | ack rest => exact ⟨.ack, rfl⟩
  | nack rest => exact ⟨.nack, rfl⟩
  | remoteIdNotice rest => exact ⟨.remoteIdNotice, rfl⟩
  | fixed layout starts length =>
    obtain ⟨body, rfl⟩ := starts
    obtain ⟨values, -, hdecode⟩ :=
      layout.decode_of_length body ((layout.length_append_start body).1 length)
    exact ⟨_, hdecode⟩

theorem Refused.decode (h : Refused frame error) : Report.decode frame = .error error := by
  cases h with
  | empty => rfl
  | @unknownCommand command rest unknown =>
    unfold Report.decode
    dsimp only
    split
    · next code hcode =>
      -- a code that only the gateway sends
      obtain rfl := Code.byte_of_ofByte? hcode
      cases code <;> first | rfl | exact absurd (by decide) unknown
    · rfl
  | noTopic => rfl
  | @unknownTopic topic rest unknown =>
    have htopic : Topic.ofByte? topic = none := by
      rcases hassigned : Topic.ofByte? topic with _ | assigned
      · rfl
      · obtain rfl := Topic.byte_of_ofByte? hassigned
        cases assigned <;> exact absurd (by decide) unknown
    show Report.ofBody .diagnosticResult (topic :: rest) = _
    unfold Report.ofBody
    dsimp only
    rw [htopic]
  | length layout starts length =>
    obtain ⟨body, rfl⟩ := starts
    exact layout.decode_of_length_ne body fun h => length ((layout.length_append_start body).2 h)

theorem Layout.accepted_or_wrongLength (layout : Layout) (starts : layout.start <+: frame) :
    Accepted frame ∨ ∃ error, Refused frame error := by
  by_cases hlength : frame.length = layout.length
  · exact .inl (.fixed layout starts hlength)
  · exact .inr ⟨_, .length layout starts hlength⟩

theorem accepted_or_refused (frame : List UInt8) :
    Accepted frame ∨ ∃ error, Refused frame error := by
  rcases frame with _ | ⟨command, rest⟩
  · exact .inr ⟨_, .empty⟩
  by_cases hcommand : command ∈ commands
  · simp only [commands, List.mem_cons, List.not_mem_nil, or_false] at hcommand
    rcases hcommand with rfl | rfl | rfl | rfl | rfl | rfl | rfl | rfl | rfl | rfl | rfl | rfl |
      rfl | rfl | rfl
    · exact .inl (.statusRequest rest)
    · exact .inl (.ack rest)
    · exact .inl (.nack rest)
    · exact Layout.alarm.accepted_or_wrongLength ⟨rest, rfl⟩
    · exact Layout.alarmStop.accepted_or_wrongLength ⟨rest, rfl⟩
    · exact Layout.hush.accepted_or_wrongLength ⟨rest, rfl⟩
    · exact Layout.locate.accepted_or_wrongLength ⟨rest, rfl⟩
    · exact Layout.deviceTested.accepted_or_wrongLength ⟨rest, rfl⟩
    · exact Layout.fault.accepted_or_wrongLength ⟨rest, rfl⟩
    · exact Layout.faultDetails.accepted_or_wrongLength ⟨rest, rfl⟩
    · exact Layout.slotValue.accepted_or_wrongLength ⟨rest, rfl⟩
    · exact Layout.remoteId.accepted_or_wrongLength ⟨rest, rfl⟩
    · exact Layout.radioDiagnostic.accepted_or_wrongLength ⟨rest, rfl⟩
    · rcases rest with _ | ⟨topic, rest⟩
      · exact .inr ⟨_, .noTopic⟩
      by_cases htopic : topic ∈ topics
      · simp only [topics, List.mem_cons, List.not_mem_nil, or_false] at htopic
        rcases htopic with rfl | rfl | rfl | rfl | rfl | rfl
        · exact Layout.missingNodes.accepted_or_wrongLength ⟨rest, rfl⟩
        · exact Layout.sidMap.accepted_or_wrongLength ⟨rest, rfl⟩
        · exact Layout.sidMapUpdate.accepted_or_wrongLength ⟨rest, rfl⟩
        · exact Layout.remoteStatus.accepted_or_wrongLength ⟨rest, rfl⟩
        · exact .inl (.remoteIdNotice rest)
        · exact Layout.rumourTarget.accepted_or_wrongLength ⟨rest, rfl⟩
      · exact .inr ⟨_, .unknownTopic rest htopic⟩
    · exact Layout.detectorFault.accepted_or_wrongLength ⟨rest, rfl⟩
  · exact .inr ⟨_, .unknownCommand rest hcommand⟩

/-! ### Values and their frames -/

namespace Layout

/-- A frame of a layout carries values, which the cursor finds, and which are laid out as the
frame. -/
theorem decode_fixed (layout : Layout) (starts : layout.start <+: frame)
    (length : frame.length = layout.length) :
    ∃ values, Report.decode frame = .ok (layout.report values) ∧
      readAll layout.fields (frame.drop layout.start.length) = some (values, []) ∧
      Matches (layout.places values) frame := by
  obtain ⟨body, rfl⟩ := starts
  obtain ⟨values, hread, hdecode⟩ :=
    layout.decode_of_length body ((layout.length_append_start body).1 length)
  obtain ⟨front, hbody, hvalues⟩ := readAll_eq_some_iff.1 hread
  rw [List.append_nil] at hbody
  subst hbody
  refine ⟨values, hdecode, ?_, ?_⟩
  · rw [List.drop_left]
    exact hread
  · exact matches_append.2 ⟨layout.start, body, rfl, matches_map_some.2 rfl, hvalues⟩

/-- Values are read from the frames as which they are laid out. -/
theorem decode_eq_report_iff (layout : Layout) (values : Values layout.fields) :
    Report.decode frame = .ok (layout.report values) ↔ Matches (layout.places values) frame := by
  constructor
  · intro hdecode
    rcases accepted_or_refused frame with haccepted | ⟨error, hrefused⟩
    · cases haccepted with
      | fixed layout' starts length =>
        obtain ⟨values', hdecode', -, hmatches⟩ := layout'.decode_fixed starts length
        -- the report tells its layout and its values
        have hreport := Except.ok.inj (hdecode.symm.trans hdecode')
        have hcontent := congrArg Report.content? hreport
        rw [Report.content?_report, Report.content?_report, Option.some_inj] at hcontent
        cases hcontent
        exact hmatches
      | statusRequest rest | ack rest | nack rest | remoteIdNotice rest =>
        have hcontent := congrArg Report.content? (Except.ok.inj hdecode)
        rw [Report.content?_report] at hcontent
        cases hcontent
    · cases hdecode.symm.trans hrefused.decode
  · intro hmatches
    obtain ⟨start, body, rfl, hstart, hbody⟩ := matches_append.1 hmatches
    obtain rfl := matches_map_some.1 hstart
    have hlength : body.length = widthOf layout.fields := by
      rw [← hbody.length_eq, length_placesOf]
    obtain ⟨values', hread, hdecode⟩ := layout.decode_of_length body hlength
    have hvalues : readAll layout.fields body = some (values, []) :=
      readAll_eq_some_iff.2 ⟨body, (List.append_nil body).symm, hbody⟩
    rw [hread] at hvalues
    obtain rfl := (Prod.mk.inj (Option.some.inj hvalues)).1
    exact hdecode

/-- Except at the gaps a frame of a layout is what its values give. -/
theorem getElem?_places (layout : Layout) {values : Values layout.fields}
    (hmatches : Matches (layout.places values) frame) {place : Nat} (hplace : place < frame.length)
    (hgap : place ∉ layout.gaps) : (layout.places values)[place]? = some (some frame[place]) := by
  have hlength : place < (layout.places values).length := hmatches.length_eq ▸ hplace
  have hknown : (layout.places values)[place].isNone = false := by
    have hgaps := congrArg (·[place]?) (layout.map_isNone_places values)
    have hrange : place < layout.length := by
      have hlengths := congrArg List.length (layout.map_isNone_places values)
      rw [List.length_map, List.length_map, List.length_range] at hlengths
      exact hlengths ▸ hlength
    simpa [hlength, hrange, hgap] using hgaps
  obtain ⟨known, hsome⟩ := Option.isSome_iff_exists.1 (Option.isNone_eq_false_iff.1 hknown)
  have heq : known = frame[place] := List.Forall₂.get hmatches hlength hplace known hsome
  rw [List.getElem?_eq_getElem hlength, hsome, heq]

end Layout

/-! ### All frames -/

open Gateway (Engine)

/-- What is read of which frames. -/
structure ReadsFormats : Prop where
  /-- A frame is read if its first bytes are known and it is as long as they say. -/
  accepted : ∀ frame, (∃ report, Report.decode frame = .ok report) ↔ Accepted frame
  /-- Otherwise it is refused, for the reason that its first bytes and its length give. -/
  refused : ∀ frame error, Report.decode frame = .error error ↔ Refused frame error
  /-- In a frame of a layout the cursor reads one field after the other and ends where the frame
  does.  Laid out again, the values give every byte that is not in a gap. -/
  fixed : ∀ (layout : Layout) (frame : List UInt8), layout.start <+: frame →
    frame.length = layout.length →
    ∃ values, Report.decode frame = .ok (layout.report values) ∧
      readAll layout.fields (frame.drop layout.start.length) = some (values, []) ∧
      ∀ (place : Nat) (_ : place < frame.length), place ∉ layout.gaps →
        (layout.places values)[place]? = some (some frame[place])
  /-- Whatever the values of a layout are, a frame carries them exactly if it is what they are laid
  out as, and whatever is in the gaps there is such a frame. -/
  laid : ∀ (layout : Layout) (values : Values layout.fields),
    (∀ frame, Report.decode frame = .ok (layout.report values) ↔
      Matches (layout.places values) frame) ∧
    ∀ filler, Report.decode ((layout.places values).map fun place => place.getD filler) =
      .ok (layout.report values)
  /-- A frame that is refused is counted by its reason, and nothing else comes of it. -/
  dropped : ∀ (engine : Engine) (frame : List UInt8) (error : FrameError), Refused frame error →
    engine.receive frame = { engine with
      site := { engine.site with tally := .frameDropped error.reason :: engine.site.tally } }

theorem readsFormats : ReadsFormats where
  accepted frame := by
    refine ⟨fun ⟨report, hdecode⟩ => ?_, Accepted.decode⟩
    rcases accepted_or_refused frame with haccepted | ⟨error, hrefused⟩
    · exact haccepted
    · cases hdecode.symm.trans hrefused.decode
  refused frame error := by
    refine ⟨fun hdecode => ?_, Refused.decode⟩
    rcases accepted_or_refused frame with haccepted | ⟨error', hrefused⟩
    · obtain ⟨report, hreport⟩ := haccepted.decode
      cases hdecode.symm.trans hreport
    · obtain rfl := Except.error.inj (hdecode.symm.trans hrefused.decode)
      exact hrefused
  fixed layout frame starts length := by
    obtain ⟨values, hdecode, hread, hmatches⟩ := layout.decode_fixed starts length
    exact ⟨values, hdecode, hread, fun place hplace hgap =>
      layout.getElem?_places hmatches hplace hgap⟩
  laid layout values :=
    ⟨fun _ => layout.decode_eq_report_iff values,
      fun filler => (layout.decode_eq_report_iff values).2 (matches_fill _ filler)⟩
  dropped engine frame error hrefused := by
    unfold Engine.receive
    rw [hrefused.decode]
    rfl

/-- The last byte of a frame about the local radio module carries nothing, so that there is no way
to get the frame back from its report. -/
theorem radioDiagnostic_not_reproduced :
    ¬ ∃ laidOut : Report → List UInt8, ∀ frame report, frame.head? = some 0xd2 →
      Report.decode frame = .ok report → laidOut report = frame := by
  rintro ⟨laidOut, hlaidOut⟩
  let report : Report :=
    .radioDiagnostic ⟨12, 30, 29, 28, 0xc0, 7, .ofBytes 1 2 3, 0, 2⟩
  have hzero : laidOut report = [0xd2, 30, 29, 28, 0xc0, 7, 1, 2, 3, 0, 2, 12, 0] :=
    hlaidOut _ report rfl rfl
  have hone : laidOut report = [0xd2, 30, 29, 28, 0xc0, 7, 1, 2, 3, 0, 2, 12, 1] :=
    hlaidOut _ report rfl rfl
  exact absurd (hzero.symm.trans hone) (by decide)

end AlarmMesh.Radio
