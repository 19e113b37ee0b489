import AlarmMesh.Proofs.Gateway.Session

/-!
# Late reports

A report of missing slots may arrive when the session that it answers is over.  Whether it is
acted upon is not decided by whether a session is running, but by the probes that are outstanding
and by the maps that were sent, and the end of a session forgets only the latter.

* `Unmoved engine engine'` — what a report that means nothing leaves as it was;
* `unmoved_iff_settled` — which engines no report moves.
-/

namespace AlarmMesh.Gateway

open Radio (Report SidMap)

/-- Nothing was sent, and the shadow, the test, the timers and the count of sessions that ended
are as they were. -/
structure Unmoved (engine engine' : Engine) : Prop where
  sent : engine'.site.sent = engine.site.sent
  platform : engine'.site.platform = engine.site.platform
  scan : engine'.network.scan = engine.network.scan
  timers : engine'.site.timers = engine.site.timers
  completed : engine'.site.completed = engine.site.completed

theorem unmoved_counted (engine : Engine) (frame : List UInt8) :
    Unmoved engine (engine.counted frame) where
  sent := rfl
  platform := rfl
  scan := rfl
  timers := rfl
  completed := (Site.silent_count _ (by simp)).completed

namespace Discovery

variable (d : Discovery)

/-! ### Reports that count -/

theorem finishSession_replies : d.finishSession.scan.replies = d.scan.replies := by
  rw [finishSession_scan]
  rfl

/-- The second phase does not count reports. -/
theorem updateMap_replies : d.updateMap.scan.replies = d.scan.replies := by
  by_cases hover : d.isOver
  · rw [updateMap_of_over d hover, finishSession_replies]
    rfl
  by_cases hn : d.scan.updateCount = 0
  · by_cases hs : d.someMissing
    · rw [updateMap_of_some d hover hn hs, pushMap_scan]
      rfl
    · rw [updateMap_of_none d hover hn hs]
      split
      · rw [show ∀ d : Discovery, d.completeFlushAll.scan.replies = d.scan.replies from fun d =>
          congrArg (fun network => network.scan.replies) (completeFlushAll_toNetwork d)]
        exact finishSession_replies _
      · exact finishSession_replies _
  · rw [updateMap_of_sent d hover hn, pushMap_scan]
    rfl

/-- An empty report leaves no slot missing. -/
theorem isDecided_countReport_empty : (d.countReport .empty).isDecided := by
  simp [isDecided, countReport, SidMap.intersection, SidMap.empty, SidMap.isEmpty]

/-- An empty report that answers a probe is counted, or it ends a session that is overdue. -/
theorem receiveMissing_empty_of_outstanding (h : 0 < d.scan.outstanding) :
    (d.receiveMissing .empty).scan.replies = d.scan.replies + 1 ∨
      (d.receiveMissing .empty).site.completed = d.site.completed + 1 := by
  by_cases hdue : d.isOverdue
  · rw [receiveMissing_of_overdue d h hdue]
    exact .inr (ended_runOut d).completed
  · rw [receiveMissing_of_counted d .empty h hdue, if_pos (isDecided_countReport_empty d)]
    exact .inl (updateMap_replies _)

end Discovery

/-! ### Which reports move the engine -/

/-- The report that no slot is missing. -/
def emptyReport : List UInt8 := [0xd4, 1, 0, 0, 0, 0, 0, 0, 0, 0, 0]

theorem decode_emptyReport : Report.decode emptyReport = .ok (.missingNodes .empty) := rfl

/-- An empty report tells whether a probe is outstanding or a map was sent. -/
theorem settled_of_unmoved {engine : Engine} (h : Unmoved engine (engine.receive emptyReport)) :
    engine.network.scan.outstanding = 0 ∧ engine.network.scan.updateCount = 0 := by
  let d := (engine.counted emptyReport).discovery
  rw [engine.receive_missingNodes decode_emptyReport] at h
  have hscan : (d.receiveMissing .empty).scan = engine.network.scan := h.scan
  have hcompleted : (d.receiveMissing .empty).site.completed = d.site.completed :=
    h.completed.trans (unmoved_counted engine emptyReport).completed.symm
  have ho : engine.network.scan.outstanding = 0 := by
    by_contra ho
    rcases d.receiveMissing_empty_of_outstanding (Nat.pos_of_ne_zero ho) with hr | hc
    · rw [hscan] at hr
      exact Nat.succ_ne_self _ hr.symm
    · rw [hcompleted] at hc
      exact Nat.succ_ne_self _ hc.symm
  refine ⟨ho, ?_⟩
  by_contra hn
  have hsent : 0 < d.scan.updateCount := Nat.pos_of_ne_zero hn
  have hconfirmed : d.isConfirmedBy .empty := by
    simp [Discovery.isConfirmedBy, SidMap.isEmpty, SidMap.empty, hsent]
  have hc := (d.ended_receiveMissing_of_confirmed ho hconfirmed).completed
  rw [hcompleted] at hc
  exact Nat.succ_ne_self _ hc.symm

/-- Without an outstanding probe and without a map that was sent a report means nothing. -/
theorem unmoved_of_settled {engine : Engine} (ho : engine.network.scan.outstanding = 0)
    (hn : engine.network.scan.updateCount = 0) {frame : List UInt8} {map : SidMap}
    (hframe : Report.decode frame = .ok (.missingNodes map)) :
    Unmoved engine (engine.receive frame) := by
  have hunsent : ¬ (engine.counted frame).discovery.isConfirmedBy map := by
    simp [Discovery.isConfirmedBy,
      show (engine.counted frame).discovery.scan.updateCount = 0 from hn]
  have hsettled : (engine.counted frame).onNetwork (fun d => d.receiveMissing map) =
      engine.counted frame := by
    show (((engine.counted frame).discovery).receiveMissing map).among engine.incidents = _
    rw [Discovery.receiveMissing_of_ignored _ ho hunsent]
    rfl
  rw [engine.receive_missingNodes hframe, hsettled]
  exact unmoved_counted engine frame

/-- A report of missing slots, whatever it names, moves the engine unless no probe is outstanding
and no map was sent. -/
theorem unmoved_iff_settled (engine : Engine) :
    (∀ frame map, Report.decode frame = .ok (.missingNodes map) →
      Unmoved engine (engine.receive frame)) ↔
      engine.network.scan.outstanding = 0 ∧ engine.network.scan.updateCount = 0 := by
  constructor
  · intro h
    exact settled_of_unmoved (h emptyReport .empty decode_emptyReport)
  · rintro ⟨ho, hn⟩ frame map hframe
    exact unmoved_of_settled ho hn hframe

end AlarmMesh.Gateway
