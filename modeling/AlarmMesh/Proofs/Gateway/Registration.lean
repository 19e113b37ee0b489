import AlarmMesh.Proofs.Gateway.Identified

/-!
# The frame that has a device registered

The sequence number of a report is remembered in the record of its device, before the report is
dealt with.  For the report that has the device registered this is too early: there is no record
yet, and so the number of that report is not remembered.  If the same frame arrives again it is
dealt with once more, and only then are its repetitions ignored.

* `receive_of_new`, `exists_enrolled_receive` — the frame that has a device registered;
* `Engine.Enrolled`, `enrolled_receive` — what it leaves;
* `receive_of_enrolled`, `Enrolled.stored_again` — what comes of the same frame then;
* `Engine.Refreshes`, `refreshes_of_registering` — so it is dealt with once more, and then ignored.
-/

namespace AlarmMesh.Gateway

open Radio (DeviceId Identity Report)
open Shadow (Platform Presence Property Store Table Value)

namespace Site

variable {site before : Site} {identity : Identity} {presence : Presence} {property : Property}

/-- A device without a record reports nothing. -/
theorem reported_eq_none {id : DeviceId} (h : site.platform.isRegistered id = false)
    (property : Property) : site.reported id property = none := by
  unfold reported Platform.getReported Platform.guarded
  split
  · rfl
  · rw [Store.getReported_eq, record?_eq_none h]
    rfl

theorem get?_takeWhile_concat (values : List (Property × Value)) {entry : Property × Value}
    (hne : entry.1 ≠ property) (q : Property × Value → Bool) :
    Table.get? ((values ++ [entry]).takeWhile q) property =
      Table.get? (values.takeWhile q) property := by
  induction values with
  | nil =>
    rw [List.nil_append, List.takeWhile_cons]
    split
    · exact if_neg hne
    · rfl
  | cons first values ih =>
    rw [List.cons_append, List.takeWhile_cons, List.takeWhile_cons]
    split
    · unfold Table.get?
      rw [ih]
    · rfl

/-- What is written again is what the store has, but for the time. -/
theorem stored_writeIdentity_again (hbefore : before.platform.isRegistered identity.id)
    (h : site.platform.isRegistered identity.id)
    (houtages : site.platform.outages = before.platform.outages) (hne : property ≠ .tested)
    (hsame : site.stored identity.id property =
      (before.writeIdentity identity presence).stored identity.id property) :
    (site.writeIdentity identity presence).stored identity.id property =
      site.stored identity.id property := by
  have hlasting (site : Site) :
      Table.get? (site.reaching (site.identityValues identity presence)) property =
        Table.get? (site.reaching (lastingValues identity presence)) property :=
    get?_takeWhile_concat _ hne.symm _
  rw [stored_writeIdentity h, hlasting, reaching_congr houtages, hsame,
    stored_writeIdentity hbefore, hlasting]
  cases Table.get? (before.reaching (lastingValues identity presence)) property <;> rfl

end Site

/-- What is registered only by what was told was put into the shadow then. -/
theorem Discovery.enrolled_of_isRegistered (d : Discovery) {telling : Telling}
    (hnew : d.site.platform.isRegistered telling.identity.id = false)
    (h : (d.hear telling).site.platform.isRegistered telling.identity.id) :
    d.current.contains telling.identity.sid ∧ ∃ platform,
      d.countKnown.site.platform.register telling.identity.id
        (Device.typeFor telling.identity.model telling.identity.priority) = .ok platform ∧
      d.hear telling = { d.countKnown with
        site := d.countKnown.site.enrolled telling.identity telling.presence platform } := by
  have hcounted := d.within_countKnown.isRegistered telling.identity.id
  cases hoccupied : d.current.contains telling.identity.sid with
  | false =>
    rw [d.hear_of_absent hoccupied, hnew] at h
    cases h
  | true =>
    by_cases hrejects : d.site.Rejects telling.identity
    · rw [d.hear_of_rejects hrejects, if_pos hoccupied, hcounted, hnew] at h
      cases h
    · exact ⟨rfl, d.hear_of_new hoccupied hnew hrejects⟩

namespace Engine

variable {engine : Engine} {frame : List UInt8} {identity : Identity}

/-- Without a sequence number to compare with, what a device tells is dealt with. -/
theorem accepted_of_unnumbered (hframe : Report.decode frame = .ok (.deviceTested identity))
    (h : engine.site.reported identity.id .lastSequence = none) :
    engine.accepted? frame = some (.deviceTested identity) := by
  unfold accepted? checkRepetition checkSequence
  rw [hframe]
  simp [Report.sequence, h]

/-- What a new device tells by itself is dealt with, and its sequence number is not remembered. -/
theorem receive_of_new (hframe : Report.decode frame = .ok (.deviceTested identity))
    (hnew : engine.site.platform.isRegistered identity.id = false) :
    engine.receive frame =
      (engine.counted frame).onNetwork fun d => d.hear (.tested identity) := by
  have haccepted := accepted_of_unnumbered hframe (Site.reported_eq_none hnew _)
  have hnoted : engine.noted frame (.deviceTested identity) = engine.counted frame := by
    unfold noted checkRepetition checkSequence
    exact if_neg (ne_true_of_eq_false hnew)
  rw [receive_of_accepted engine haccepted, hnoted]
  rfl

/-- A frame with an identity is dealt with that has its device registered already, and after that
its repetitions are ignored. -/
structure Refreshes (engine : Engine) (frame : List UInt8) (identity : Identity) : Prop where
  /-- The frame is dealt with. -/
  accepted : engine.accepted? frame = some (.deviceTested identity)
  /-- It makes no difference to discovery, to the events and to the timers. -/
  network : (engine.receive frame).network = engine.network
  incidents : (engine.receive frame).incidents = engine.incidents
  timers : (engine.receive frame).site.timers = engine.site.timers
  /-- Nothing is sent, and at most the record of the device is another one. -/
  within : engine.site.Within identity.id (engine.receive frame).site
  /-- In this record nothing is new but the time and the sequence number. -/
  stored : ∀ property, property ≠ .tested → property ≠ .lastSequence →
    (engine.receive frame).site.stored identity.id property =
      engine.site.stored identity.id property
  /-- The time is that of this frame, and not of the one that had the device registered. -/
  tested : (∀ call ∈ Site.identityCalls, engine.site.platform.isDown call.1 (some call.2) = false) →
    (engine.receive frame).site.stored identity.id .tested =
      some (.integer engine.site.clock.unix)
  /-- The frame is ignored from now on, until the device tells something under another number. -/
  ignored : engine.site.Remembers → ∀ moves,
    Along (fun e => e.site.platform.isRegistered identity.id)
      (fun e move => (move.sequence? identity.id).isSome → e.site.Remembers)
      (engine.receive frame) moves →
    (lastSequence? identity.id moves).getD identity.seq = identity.seq →
    ((engine.receive frame).moves moves).site.Recalls →
      ((engine.receive frame).moves moves).accepted? frame = none

/-- The device was put into the shadow as it told who it is, and told nothing else so far. -/
structure Enrolled (engine : Engine) (identity : Identity) : Prop where
  occupied : engine.network.current.contains identity.sid
  registered : engine.site.platform.isRegistered identity.id
  unnumbered : engine.site.stored identity.id .lastSequence = none
  written : ∃ before : Site, before.platform.isRegistered identity.id ∧
    engine.site.platform = (before.writeIdentity identity .unknown).platform

theorem Enrolled.congr {engine' : Engine} (h : engine.Enrolled identity)
    (hnetwork : engine'.network = engine.network)
    (hplatform : engine'.site.platform = engine.site.platform) : engine'.Enrolled identity where
  occupied := hnetwork ▸ h.occupied
  registered := hplatform ▸ h.registered
  unnumbered := by
    unfold Site.stored
    rw [hplatform]
    exact h.unnumbered
  written := hplatform ▸ h.written

section Registering

variable (hframe : Report.decode frame = .ok (.deviceTested identity))
  (hnew : engine.site.platform.isRegistered identity.id = false)
  (h : (engine.receive frame).site.platform.isRegistered identity.id)
include hframe hnew h

/-- The frame had its device put into the shadow, and it is written last who the device is. -/
theorem exists_enrolled_receive : ∃ (d : Discovery) (platform : Platform),
    engine.site.Within .gateway d.site ∧ d.current.contains identity.sid ∧
      d.site.platform.register identity.id (Device.typeFor identity.model identity.priority) =
        .ok platform ∧
      engine.receive frame =
        { d with site := d.site.enrolled identity .unknown platform }.among engine.incidents := by
  let d : Discovery := (engine.counted frame).discovery
  have hreceive : engine.receive frame = (d.hear (.tested identity)).among engine.incidents :=
    receive_of_new hframe hnew
  have hunknown : d.site.platform.isRegistered (Telling.tested identity).identity.id = false := hnew
  have hafter : (d.hear (.tested identity)).site.platform.isRegistered identity.id := by
    rw [hreceive] at h
    exact h
  obtain ⟨hoccupied, platform, hregister, hhear⟩ := d.enrolled_of_isRegistered hunknown hafter
  have hcounted : engine.site.Within .gateway d.site := ⟨.same, rfl, rfl, rfl, rfl, rfl⟩
  exact ⟨d.countKnown, platform, hcounted.trans d.within_countKnown,
    d.current_countKnown.symm ▸ hoccupied, hregister, hreceive.trans (hhear ▸ rfl)⟩

theorem enrolled_receive : (engine.receive frame).Enrolled identity ∧
    ∃ before : Site, before.platform.isRegistered identity.id ∧
      before.platform.outages = engine.site.platform.outages ∧
      before.clock = engine.site.clock ∧
      (engine.receive frame).site = before.writeIdentity identity .unknown := by
  obtain ⟨d, platform, hwithin, hoccupied, hregister, hreceive⟩ :=
    exists_enrolled_receive hframe hnew h
  have hnewer := (hwithin.isRegistered identity.id).trans hnew
  have hadmitted := Site.within_admitted d.site identity.id platform
  have hregistered := Site.isRegistered_admitted hregister hnewer
  have houtages := (Site.about_register hregister).outages
  rw [hreceive]
  refine ⟨⟨hoccupied, ?_, ?_, _, hregistered, rfl⟩, _, hregistered, ?_, ?_, rfl⟩
  · exact Site.isRegistered_enrolled hregister .unknown hnewer
  · exact Site.lastSequence_enrolled hregister .unknown hnewer
  · exact (hadmitted.outages.trans houtages).trans hwithin.outages
  · exact hadmitted.clock.trans hwithin.clock

end Registering

/-- The engine once such a frame was dealt with. -/
theorem receive_of_enrolled (hframe : Report.decode frame = .ok (.deviceTested identity))
    (h : engine.Enrolled identity) : engine.accepted? frame = some (.deviceTested identity) ∧
      engine.receive frame = (engine.counted frame).onSite fun site =>
        (site.report identity.id .lastSequence (.ofNat identity.seq.toNat)).writeIdentity identity
          .unknown := by
  have hread : engine.site.reported identity.id .lastSequence = none := by
    unfold Site.reported Platform.getReported Platform.guarded
    split
    · rfl
    · exact h.unnumbered
  have haccepted := accepted_of_unnumbered hframe hread
  refine ⟨haccepted, ?_⟩
  have hsequence : (Report.deviceTested identity).sequence = some (identity.id, identity.seq) := rfl
  rw [receive_of_accepted engine haccepted, noted_of_sequence h.registered frame hsequence]
  let noted : Engine := (engine.counted frame).onSite fun site =>
    site.report identity.id .lastSequence (.ofNat identity.seq.toNat)
  have hknown : noted.site.platform.isRegistered identity.id :=
    ((Site.within_report _ _ _ _).isRegistered identity.id).trans h.registered
  have hhear : noted.discovery.hear (.tested identity) = _ :=
    noted.discovery.hear_of_known h.occupied hknown
  show (noted.discovery.hear (.tested identity)).among noted.incidents = _
  rw [hhear]
  rfl

/-- What is written again of a device that told nothing else is what the store has of it. -/
theorem Enrolled.stored_again (h : engine.Enrolled identity) {noted : Site}
    (hnoted : engine.site.Within identity.id noted) {property : Property}
    (hkept : noted.stored identity.id property = engine.site.stored identity.id property)
    (htested : property ≠ .tested) :
    (noted.writeIdentity identity .unknown).stored identity.id property =
      engine.site.stored identity.id property := by
  obtain ⟨before, hbefore, hwritten⟩ := h.written
  have hregistered := (hnoted.isRegistered identity.id).trans h.registered
  have houtages : noted.platform.outages = before.platform.outages := by
    rw [hnoted.outages, hwritten, (Site.within_writeIdentity before identity .unknown).outages]
  have hsame : noted.stored identity.id property =
      (before.writeIdentity identity .unknown).stored identity.id property := by
    rw [hkept]
    unfold Site.stored
    rw [hwritten]
  rw [Site.stored_writeIdentity_again hbefore hregistered houtages htested hsame, hkept]

theorem refreshes_of_enrolled (hframe : Report.decode frame = .ok (.deviceTested identity))
    (h : engine.Enrolled identity) : engine.Refreshes frame identity := by
  obtain ⟨haccepted, hreceive⟩ := receive_of_enrolled hframe h
  let counted : Site := (engine.counted frame).site
  let noted : Site := counted.report identity.id .lastSequence (.ofNat identity.seq.toNat)
  have hcounted : engine.site.Within identity.id counted := ⟨.same, rfl, rfl, rfl, rfl, rfl⟩
  have hnoted : engine.site.Within identity.id noted :=
    hcounted.trans (Site.within_report _ _ _ _)
  have hwithin := hnoted.trans (Site.within_writeIdentity noted identity .unknown)
  have hsite : (engine.receive frame).site = noted.writeIdentity identity .unknown :=
    congrArg Engine.site hreceive
  refine ⟨haccepted, hreceive ▸ rfl, hreceive ▸ rfl, ?_, hsite ▸ hwithin, ?_, ?_, ?_⟩
  · rw [hsite]
    exact ((Site.silent_report counted _ _ _).trans (Site.silent_writeIdentity _ _ _)).timers
  · intro property htested hsequence
    rw [hsite]
    exact h.stored_again hnoted (Site.stored_report_of_ne hsequence.symm) htested
  · intro hup
    have htracks : noted.Tracks identity.id Site.identityCalls :=
      Site.Tracks.within ⟨h.registered, hup⟩ hnoted
    rw [hsite, Site.stored_writeIdentity_of_up htracks]
    show some (Value.integer noted.clock.unix) = _
    rw [hnoted.clock]
  · intro hremembers moves halong hlast hrecalls
    have hseq : Move.sequence? identity.id (.receive frame) = some identity.seq := by
      simp [Move.sequence?, hframe, Report.sequence]
    exact accepted?_of_received hseq h.registered hremembers halong hlast hrecalls

end Engine

/-- A frame that has its device registered is dealt with once more if it arrives again, however much
later.  Nothing is new then but the sequence number and the time, which is the same exactly within a
second; and from then on the frame is ignored. -/
theorem refreshes_of_registering {engine : Engine} {frame : List UInt8} {identity : Identity}
    (hframe : Report.decode frame = .ok (.deviceTested identity))
    (hnew : engine.site.platform.isRegistered identity.id = false)
    (hregistered : (engine.receive frame).site.platform.isRegistered identity.id)
    (step : Duration) :
    ((engine.receive frame).move (.advance step)).Refreshes frame identity ∧
    ((∀ call ∈ Site.identityCalls, engine.site.platform.isDown call.1 (some call.2) = false) →
      ((((engine.receive frame).move (.advance step)).receive frame).site.stored identity.id
          .tested = (engine.receive frame).site.stored identity.id .tested ↔
        step.seconds = 0)) := by
  obtain ⟨henrolled, before, hbefore, houtages, hclock, hsite⟩ :=
    Engine.enrolled_receive hframe hnew hregistered
  let later : Engine := (engine.receive frame).move (.advance step)
  have hwithin := Site.within_writeIdentity before identity .unknown
  have hlater : later.Enrolled identity := henrolled.congr rfl rfl
  have hrefreshes := Engine.refreshes_of_enrolled hframe hlater
  refine ⟨hrefreshes, fun hup => ?_⟩
  have hupBefore (call) (hcall : call ∈ Site.identityCalls) :
      before.platform.isDown call.1 (some call.2) = false :=
    (Site.isDown_congr houtages _ _).trans (hup call hcall)
  have hfirst : (engine.receive frame).site.stored identity.id .tested =
      some (.integer engine.site.clock.unix) := by
    rw [hsite, Site.stored_writeIdentity_of_up ⟨hbefore, hupBefore⟩, ← hclock]
    rfl
  have hsecond : (later.receive frame).site.stored identity.id .tested =
      some (.integer (engine.site.clock.unix + step.seconds)) := by
    have houtagesLater : later.site.platform.outages = before.platform.outages :=
      (congrArg (fun site : Site => site.platform.outages) hsite).trans hwithin.outages
    have hclockLater : later.site.clock = engine.site.clock.advance step := by
      show (engine.receive frame).site.clock.advance step = _
      rw [hsite, hwithin.clock, hclock]
    rw [hrefreshes.tested fun call hcall =>
      (Site.isDown_congr houtagesLater _ _).trans (hupBefore call hcall)]
    show some (Value.integer later.site.clock.unix) = _
    rw [hclockLater]
    rfl
  rw [hfirst, hsecond, Option.some_inj, Value.integer.injEq]
  omega

/-- The frame in which the new device tells who it is. -/
def newcomerFrame : List UInt8 := [0x70, 9, 0, 0, 0x81, 0, 0, 0, 4, 1]

/-- Five seconds later the same frame makes it five seconds later that the device was tested. -/
theorem refreshes_of_registering_newcomer :
    let once := oneUnknown.receive newcomerFrame
    let later := once.move (.advance (.ofSeconds 5))
    later.Refreshes newcomerFrame (newcomerAt 4).identity ∧
      (later.receive newcomerFrame).site.stored (.ofNat 9) .tested ≠
        once.site.stored (.ofNat 9) .tested := by
  have hframe : Report.decode newcomerFrame = .ok (.deviceTested (newcomerAt 4).identity) := by
    decide +kernel
  have hnew : oneUnknown.site.platform.isRegistered (newcomerAt 4).identity.id = false := by
    decide +kernel
  obtain ⟨hrefreshes, htested⟩ :=
    refreshes_of_registering hframe hnew (by decide +kernel) (.ofSeconds 5)
  refine ⟨hrefreshes, fun hsame => ?_⟩
  have hnone := (htested (by decide +kernel)).1 hsame
  exact absurd hnone (by decide)

end AlarmMesh.Gateway
