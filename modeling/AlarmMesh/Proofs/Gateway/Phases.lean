import AlarmMesh.Proofs.Gateway.MapUpdate

/-!
# The order of the two phases

While a probe is outstanding no reduced map was sent: the second phase begins by forgetting the
probes, and as long as it sends maps the test goes on with nothing but the next attempt.

* `Discovery.Orderly` — this order;
* `orderly_updateMap`, `orderly_receiveMissing`, `orderly_fireTest`, … — every step keeps it;
* `orderly_turn`, `Reachable.orderly` — it holds in every reachable engine.
-/

namespace AlarmMesh.Gateway

open Radio (DeviceId SidMap)

namespace Discovery

variable (d : Discovery) {incidents : Incidents} {kind : TimerKind}

/-- The probes that are outstanding belong to the first phase, and in the second one the test goes
on with the next attempt to send the map. -/
def Orderly : Prop :=
  0 < d.scan.updateCount → d.scan.outstanding = 0 ∧ d.Awaits .testMissingUpdateMap

theorem orderly_of_unsent (h : d.scan.updateCount = 0) : d.Orderly := fun hn => by omega

/-- A session that is over has sent no map. -/
theorem updateCount_updateMap (h : d.isOver ∨ d.scan.updateCount = 0 ∧ ¬ d.someMissing) :
    d.updateMap.scan.updateCount = 0 := by
  have hfinish (d : Discovery) : d.finishSession.scan.updateCount = 0 := by
    rw [finishSession_scan]
    rfl
  by_cases hover : d.isOver
  · rw [updateMap_of_over d hover]
    exact hfinish _
  · obtain ⟨hn, hs⟩ := h.resolve_left hover
    rw [updateMap_of_none d hover hn hs]
    split
    · rw [show ∀ d : Discovery, d.completeFlushAll.scan.updateCount = d.scan.updateCount from
        fun d => congrArg (fun network => network.scan.updateCount) (completeFlushAll_toNetwork d)]
      exact hfinish _
    · exact hfinish _

theorem updateCount_runOut : d.runOut.scan.updateCount = 0 := by
  exact updateCount_updateMap { d with scan := _ } (.inl (by simp [isOver]))

theorem orderly_updateMap (ht : (d.among incidents).Tied)
    (h : 0 < d.scan.updateCount → d.scan.outstanding = 0) : d.updateMap.Orderly := by
  by_cases hover : d.isOver
  · exact orderly_of_unsent _ (updateCount_updateMap d (.inl hover))
  by_cases hmissing : d.scan.updateCount = 0 → d.someMissing
  · have hgoes := goesOn_updateMap hover hmissing
    refine fun _ => ⟨?_, hgoes.awaits incidents ht⟩
    rw [hgoes.scan]
    show d.unanswered = 0
    unfold unanswered
    split
    · rfl
    · exact h (by omega)
  · rw [Classical.not_imp] at hmissing
    exact orderly_of_unsent _ (updateCount_updateMap d (.inr hmissing))

/-- A probe does not send the map of the second phase. -/
theorem updateCount_probe (h : d.scan.updateCount = 0) : d.probe.scan.updateCount = 0 := by
  by_cases hdue : d.isOverdue
  · rw [probe_of_overdue d hdue]
    exact updateCount_runOut d
  rw [probe_of_due d hdue]
  split
  · exact h
  · exact h

theorem orderly_receiveMissing (map : SidMap) (ht : (d.among incidents).Tied) (h : d.Orderly) :
    (d.receiveMissing map).Orderly := by
  rcases Nat.eq_zero_or_pos d.scan.outstanding with ho | ho
  · by_cases hconfirmed : d.isConfirmedBy map
    · rw [receiveMissing_of_confirmed d ho hconfirmed]
      exact orderly_updateMap { d with scan := _ } ht fun _ => ho
    · rw [receiveMissing_of_ignored d ho hconfirmed]
      exact h
  by_cases hdue : d.isOverdue
  · rw [receiveMissing_of_overdue d ho hdue]
    exact orderly_of_unsent _ (updateCount_runOut d)
  have hn : d.scan.updateCount = 0 := by
    by_contra hn
    exact absurd (h (Nat.pos_of_ne_zero hn)).1 (by omega)
  have hcount := testStep_countReport d map
  rw [receiveMissing_of_counted d map ho hdue]
  split
  · exact orderly_updateMap _ ((hcount.trans (testStep_markDevices _)).tied _ ht)
      fun hsent => absurd hsent (by simp [markDevices, onSite, countReport, cancelMissing, hn])
  unfold probeWhenDue
  split
  · exact orderly_of_unsent _ (updateCount_probe _ hn)
  · exact orderly_of_unsent _ hn

/-- A session that begins has sent no map without missing slots. -/
theorem updateCount_beginSession (h : ¬ d.scan.active) : d.beginSession.scan.updateCount = 0 := by
  obtain ⟨d', left, -, hscan, hbegin | hbegin⟩ := beginSession_cases d h
  · rw [hbegin]
    show d'.scan.updateCount = 0
    rw [hscan]
  · rw [hbegin]
    show d'.scan.updateCount = 0
    rw [hscan]

theorem orderly_beginSession (h : ¬ d.scan.active) : d.beginSession.Orderly :=
  orderly_of_unsent _ (updateCount_beginSession d h)

theorem orderly_cancelSession (h : d.Orderly) : d.cancelSession.Orderly := by
  by_cases hactive : d.scan.active
  · rw [cancelSession_of_active d hactive]
    exact orderly_of_unsent _ (updateCount_runOut d)
  · rw [cancelSession_of_idle d hactive]
    exact h

theorem orderly_flush (id : DeviceId) (ht : (d.among incidents).Tied) (h : d.Orderly) :
    (d.flush id).Orderly := by
  unfold flush
  split
  · exact h
  · exact orderly_updateMap _ ((testStep_beginFlush d id _).tied _ ht)
      fun hsent => absurd hsent (Nat.lt_irrefl 0)

theorem orderly_flushAll (ht : (d.among incidents).Tied) (h : d.Orderly) :
    d.flushAll.Orderly := by
  unfold flushAll
  split
  · exact h
  · exact orderly_updateMap _ ((testStep_beginFlushAll d).tied _ ht)
      fun hsent => absurd hsent (Nat.lt_irrefl 0)

theorem orderly_fireTest (ht : (d.among incidents).Tied)
    (h : 0 < d.scan.updateCount → d.scan.outstanding = 0 ∧ kind = .testMissingUpdateMap) :
    (d.fireTest kind).Orderly := by
  by_cases hkind : kind = .testMissingUpdateMap
  · rw [hkind]
    exact orderly_updateMap d ht fun hn => (h hn).1
  have hn : d.scan.updateCount = 0 := by
    by_contra hn
    exact hkind (h (Nat.pos_of_ne_zero hn)).2
  unfold fireTest
  split
  · let chosen : Discovery := { d with scan := { d.scan with delete := true } }
    show chosen.beginSession.Orderly
    by_cases hactive : chosen.scan.active
    · rw [beginSession_of_active chosen hactive]
      exact orderly_of_unsent chosen hn
    · exact orderly_beginSession chosen hactive
  · exact absurd rfl hkind
  · exact orderly_of_unsent _ (updateCount_probe d hn)

end Discovery

/-- What happens beside the test leaves alone what it waits for. -/
theorem Discovery.Awaits.aside {engine engine' : Engine} {kind : TimerKind}
    (h : engine.discovery.Awaits kind) (haside : Aside engine engine') :
    engine'.discovery.Awaits kind where
  isSome := haside.handle ▸ h.isSome
  kind_eq timer ht hp := h.kind_eq timer (haside.missing timer ht hp) hp

/-- A turn keeps the phases in order. -/
theorem orderly_turn {engine engine' : Engine} (htended : engine.Tended)
    (h : engine.discovery.Orderly) (hturn : Turn engine engine') : engine'.discovery.Orderly := by
  cases hturn with
  | aside haside =>
    intro hn
    rw [show engine'.discovery.scan = engine.network.scan from haside.scan] at hn ⊢
    exact ⟨(h hn).1, (h hn).2.aside haside⟩
  | report map => exact Discovery.orderly_receiveMissing _ map htended.tied h
  | choose =>
    exact fun hn => ⟨(h hn).1, ⟨(h hn).2.isSome, (h hn).2.kind_eq⟩⟩
  | begin hidle => exact Discovery.orderly_beginSession _ (ne_true_of_eq_false hidle)
  | stop => exact Discovery.orderly_cancelSession _ h
  | flush id => exact Discovery.orderly_flush _ id htended.tied h
  | flushAll => exact Discovery.orderly_flushAll _ htended.tied h
  | @fire kind d hfires =>
    refine Discovery.orderly_fireTest d (hfires.tied htended.tied) fun hn => ?_
    rw [hfires.scan] at hn ⊢
    exact ⟨(h hn).1, hfires.kind_eq (h hn).2⟩

theorem Reachable.orderly {settings : Config.Settings} {engine : Engine}
    (h : Reachable settings engine) : engine.discovery.Orderly := by
  induction h with
  | start platform pool clock contention =>
    refine Discovery.orderly_of_unsent _ ?_
    unfold Engine.started
    rw [start_eq]
    rfl
  | @move engine move hreachable ih =>
    have hboth := Turn.induct (P := fun engine => engine.Tended ∧ engine.discovery.Orderly)
      (fun hboth hturn => ⟨tended_turn hboth.1 hturn, orderly_turn hboth.1 hboth.2 hturn⟩)
      (engine.turns_move move) ⟨hreachable.tended, ih⟩
    exact hboth.2

end AlarmMesh.Gateway
