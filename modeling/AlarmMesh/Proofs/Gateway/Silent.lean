import AlarmMesh.Gateway.Engine

/-!
# What happens at a site beside timers and sessions

Of what happens at a site, a session of the missing-node test shows in the SID maps that are sent
and in the count of sessions that ended.

* `Site.maps`, `Site.completed` — these two;
* `Site.Silent site site'` — the clock, the timers and these two are the same;
* `silent_report`, `silent_transmit`, … — what is silent;
* `send_fst`, `maps_send` — a command is sent when there is a buffer for it;
* `Site.Parks`, `parks_of_park` — what happens when a report is parked, `Parks.follow` what that
  leaves of the site.
-/

namespace AlarmMesh.Gateway

open Radio (Command DeviceId SidMap)
open Shadow (Property Value)

/-- The map of a command that replaces the map of the network. -/
def mapOf? : Command → Option SidMap
  | .updateSidMap map => some map
  | _ => none

namespace Site

/-- The SID maps sent to the network, latest first. -/
def maps (site : Site) : List SidMap := site.sent.filterMap mapOf?

/-- The number of sessions that ended. -/
def completed (site : Site) : Nat := site.tally.count .scanCompleted

/-- The clock, the timers, the maps sent and the sessions that ended are the same. -/
structure Silent (site site' : Site) : Prop where
  clock : site'.clock = site.clock
  timers : site'.timers = site.timers
  maps : site'.maps = site.maps
  completed : site'.completed = site.completed

theorem Silent.refl (site : Site) : site.Silent site := ⟨rfl, rfl, rfl, rfl⟩

theorem Silent.trans {a b c : Site} (h : a.Silent b) (h' : b.Silent c) : a.Silent c :=
  ⟨h'.clock.trans h.clock, h'.timers.trans h.timers, h'.maps.trans h.maps,
    h'.completed.trans h.completed⟩

theorem Silent.foldl {α : Type} {f : Site → α → Site}
    (h : ∀ (site : Site) (a : α), site.Silent (f site a)) (as : List α) (site : Site) :
    site.Silent (as.foldl f site) := by
  induction as generalizing site with
  | nil => exact .refl site
  | cons a as ih => exact (h site a).trans (ih (f site a))

/-! ### The shadow -/

theorem silent_after (site : Site) (outcome : Except Shadow.StoreError Shadow.Platform) :
    site.Silent (site.after outcome) := by
  cases outcome <;> exact ⟨rfl, rfl, rfl, rfl⟩

theorem silent_report (site : Site) (id : DeviceId) (property : Property) (value : Value) :
    site.Silent (site.report id property value) := silent_after site _

theorem silent_reportGroup (site : Site) (id : DeviceId) (values : List (Property × Value)) :
    site.Silent (site.reportGroup id values) := ⟨rfl, rfl, rfl, rfl⟩

theorem silent_subscribe (site : Site) (id : DeviceId) (property : Property) :
    site.Silent (site.subscribe id property) := silent_after site _

theorem silent_count (site : Site) {counter : Metric.Counter} (h : counter ≠ .scanCompleted) :
    site.Silent (site.count counter) := by
  refine ⟨rfl, rfl, rfl, ?_⟩
  simp [completed, Site.count, h]

theorem completed_count (site : Site) :
    (site.count .scanCompleted).completed = site.completed + 1 := by
  simp [completed, Site.count]

/-! ### Buffers and commands -/

theorem silent_release (site : Site) (buffer : Link.Buffer) :
    site.Silent (site.release buffer) := ⟨rfl, rfl, rfl, rfl⟩

theorem silent_takeBuffer (site : Site)
    (take : Link.Pool → Option Link.Buffer × Link.Pool) :
    site.Silent (site.takeBuffer take).2 := by
  unfold takeBuffer
  split <;> exact ⟨rfl, rfl, rfl, rfl⟩

theorem acquireFor_isSome (pool : Link.Pool) (command : Command) :
    (pool.acquireFor command).1.isSome = !pool.free.isEmpty := by
  have hroom : ¬ Link.bufferCapacity < command.encodedLength := by
    cases command <;> simp [Command.encodedLength, Link.bufferCapacity]
  unfold Link.Pool.acquireFor Link.Pool.acquire
  cases pool.free with
  | nil => rfl
  | cons slot free =>
    have hlength : (Link.Buffer.fresh slot).storage.length = Link.bufferCapacity := by
      simp [Link.Buffer.fresh]
    simp [Command.writeInto, hlength, hroom]

/-- No call to the shadow takes a buffer. -/
@[simp]
theorem after_hasBuffer (site : Site) (outcome : Except Shadow.StoreError Shadow.Platform) :
    (site.after outcome).hasBuffer = site.hasBuffer := by
  cases outcome <;> rfl

theorem foldl_hasBuffer {α : Type} {f : Site → α → Site}
    (h : ∀ site a, (f site a).hasBuffer = site.hasBuffer) (as : List α) (site : Site) :
    (as.foldl f site).hasBuffer = site.hasBuffer := by
  induction as generalizing site with
  | nil => rfl
  | cons a as ih => exact (ih (f site a)).trans (h site a)

/-- A command is sent exactly when there is a buffer for it. -/
theorem send_fst (site : Site) (command : Command) : (site.send command).1 = site.hasBuffer := by
  have htaken : (site.takeBuffer fun pool => pool.acquireFor command).1.isSome =
      site.hasBuffer := by
    unfold takeBuffer hasBuffer
    split
    · next h => rw [acquireFor_isSome, h]; rfl
    · next h => rw [acquireFor_isSome, eq_false_of_ne_true h]; rfl
  unfold Site.send
  rw [← htaken]
  split <;> simp_all

theorem send_timers (site : Site) (command : Command) :
    (site.send command).2.timers = site.timers := by
  have h := (site.silent_takeBuffer fun pool => pool.acquireFor command).timers
  unfold Site.send
  split <;> simp_all [Site.count]

theorem send_clock (site : Site) (command : Command) :
    (site.send command).2.clock = site.clock := by
  have h := (site.silent_takeBuffer fun pool => pool.acquireFor command).clock
  unfold Site.send
  split <;> simp_all [Site.count]

theorem takeBuffer_platform (site : Site) (take : Link.Pool → Option Link.Buffer × Link.Pool) :
    (site.takeBuffer take).2.platform = site.platform := by
  unfold takeBuffer
  split <;> rfl

theorem send_platform (site : Site) (command : Command) :
    (site.send command).2.platform = site.platform := by
  have h := site.takeBuffer_platform fun pool => pool.acquireFor command
  unfold Site.send
  split <;> simp_all [Site.count]

theorem send_completed (site : Site) (command : Command) :
    (site.send command).2.completed = site.completed := by
  have h := (site.silent_takeBuffer fun pool => pool.acquireFor command).completed
  unfold Site.send
  split
  · simp_all [completed]
  · next heq =>
    rw [(silent_count _ (by decide)).completed]
    simp_all

/-- What a command adds to the maps sent. -/
theorem maps_send (site : Site) (command : Command) :
    (site.send command).2.maps =
      (if site.hasBuffer then (mapOf? command).toList else []) ++ site.maps := by
  have h := (site.silent_takeBuffer fun pool => pool.acquireFor command).maps
  rw [← send_fst site command]
  unfold Site.send
  split
  · cases hm : mapOf? command <;> simp_all [maps]
  · rw [(silent_count _ (by decide)).maps]
    simp_all

theorem silent_send (site : Site) {command : Command} (h : mapOf? command = none) :
    site.Silent (site.send command).2 :=
  ⟨send_clock site command, send_timers site command, by simp [maps_send, h],
    send_completed site command⟩

theorem silent_transmit (site : Site) {command : Command} (h : mapOf? command = none) :
    site.Silent (site.transmit command) := silent_send site h

/-! ### Parking a report -/

/-- A report is parked at a site: there is no buffer for it, or none for the question, or one for
each of them. -/
inductive Parks (site : Site) (report : List UInt8) (use : Link.SlotUse) (question : Command) :
    Option Link.Buffer → Site → Prop
  | refused {after : Site}
      (take : (site.takeBuffer fun pool => pool.acquireWith report) = (none, after)) :
      Parks site report use question none after
  | unasked {buffer : Link.Buffer} {taken after : Site}
      (take : (site.takeBuffer fun pool => pool.acquireWith report) = (some buffer, taken))
      (send : ({ taken with pool := (taken.pool.retag buffer use).2 } : Site).send question =
        (false, after)) :
      Parks site report use question none (after.release (taken.pool.retag buffer use).1)
  | asked {buffer : Link.Buffer} {taken after : Site}
      (take : (site.takeBuffer fun pool => pool.acquireWith report) = (some buffer, taken))
      (send : ({ taken with pool := (taken.pool.retag buffer use).2 } : Site).send question =
        (true, after)) :
      Parks site report use question (some (taken.pool.retag buffer use).1) after

section Parking

variable {site site' : Site} {report : List UInt8} {use : Link.SlotUse} {question : Command}
  {parked : Option Link.Buffer}

theorem parks_of_park (h : site.park report use question = (parked, site')) :
    site.Parks report use question parked site' := by
  unfold Site.park at h
  split at h
  · next htake =>
    obtain ⟨rfl, rfl⟩ := Prod.mk.inj h
    exact .refused htake
  · next buffer taken htake =>
    dsimp only at h
    split at h
    · next hsend =>
      obtain ⟨rfl, rfl⟩ := Prod.mk.inj h
      exact .asked htake hsend
    · next hsend =>
      obtain ⟨rfl, rfl⟩ := Prod.mk.inj h
      exact .unasked htake hsend

/-- What taking a buffer, a change of the pool and sending the question leave of a site, parking a
report leaves of it. -/
theorem Parks.follow {R : Site → Site → Prop} (h : site.Parks report use question parked site')
    (htrans : ∀ {a b c : Site}, R a b → R b c → R a c)
    (htake : R site (site.takeBuffer fun pool => pool.acquireWith report).2)
    (hpool : ∀ (site : Site) (pool : Link.Pool), R site { site with pool := pool })
    (hsend : ∀ site : Site, R site (site.send question).2) : R site site' := by
  cases h with
  | refused take =>
    rw [take] at htake
    exact htake
  | @unasked buffer taken after take send =>
    have hsent := hsend { taken with pool := (taken.pool.retag buffer use).2 }
    rw [take] at htake
    rw [send] at hsent
    exact htrans (htrans (htrans htake (hpool _ _)) hsent) (hpool _ _)
  | @asked buffer taken after take send =>
    have hsent := hsend { taken with pool := (taken.pool.retag buffer use).2 }
    rw [take] at htake
    rw [send] at hsent
    exact htrans (htrans htake (hpool _ _)) hsent

end Parking

theorem silent_park (site : Site) (report : List UInt8) (use : Link.SlotUse) {question : Command}
    (h : mapOf? question = none) : site.Silent (site.park report use question).2 :=
  (parks_of_park rfl).follow .trans (silent_takeBuffer _ _) (fun _ _ => ⟨rfl, rfl, rfl, rfl⟩)
    fun site => silent_send site h

/-! ### Devices and events -/

theorem silent_initDevice (site : Site) (id : DeviceId) : site.Silent (site.initDevice id) := by
  unfold initDevice
  refine .trans ?_ (.foldl (fun site property => silent_subscribe site id property) _ _)
  refine .trans (.trans ?_ (silent_report _ _ _ _)) (silent_report _ _ _ _)
  split
  · exact (silent_report _ _ _ _).trans (silent_report _ _ _ _)
  · exact silent_report _ _ _ _

theorem silent_writeIdentity (site : Site) (identity : Radio.Identity)
    (presence : Shadow.Presence) : site.Silent (site.writeIdentity identity presence) :=
  silent_reportGroup _ _ _

theorem silent_markUnlessIn (map : SidMap) (site : Site) (id : DeviceId) :
    site.Silent (site.markUnlessIn map id) := by
  unfold markUnlessIn
  split
  · split
    · exact .refl _
    · exact (silent_report _ _ _ _).trans (silent_report _ _ _ _)
  · exact .refl _

theorem silent_markDevice (missing : SidMap) (site : Site) (id : DeviceId) :
    site.Silent (site.markDevice missing id) := by
  unfold markDevice
  split
  · exact silent_report _ _ _ _
  · exact .refl _

theorem silent_deleteIfOffline (site : Site) (id : DeviceId) :
    site.Silent (site.deleteIfOffline id) := by
  unfold deleteIfOffline
  split
  · split
    · next platform _ =>
      have hset : site.Silent { site with platform := platform } := ⟨rfl, rfl, rfl, rfl⟩
      exact hset.trans (silent_count _ (by decide))
    · exact .refl _
  · exact .refl _

theorem silent_writeFault (site : Site) (id : DeviceId) (active : Bool) (code : UInt8)
    (millivolts : Option UInt16) : site.Silent (site.writeFault id active code millivolts) := by
  unfold writeFault
  split
  · exact .refl _
  · split
    · exact .refl _
    · refine .trans ?_ (.trans (silent_reportGroup _ _ _) (silent_count _ (by decide)))
      cases millivolts with
      | none => exact .refl _
      | some _ => exact silent_report _ _ _ _

theorem silent_writeDetails (site : Site) (id : DeviceId) (table : UInt8) (faults : UInt16) :
    site.Silent (site.writeDetails id table faults) :=
  .foldl (fun _ _ => silent_writeFault _ _ _ _ _) _ _

theorem silent_writeAlarm (site : Site) (id : DeviceId) (state : Nat)
    (temperature : Option UInt16) : site.Silent (site.writeAlarm id state temperature) := by
  unfold writeAlarm
  refine .trans ?_ (.trans (silent_reportGroup _ _ _) (silent_count _ (by decide)))
  cases temperature with
  | none => exact .refl _
  | some _ => exact silent_report _ _ _ _

theorem silent_silence (site : Site) (id : DeviceId) : site.Silent (site.silence id) := by
  unfold silence
  split
  · exact silent_writeAlarm _ _ _ _
  · exact .refl _

end Site

end AlarmMesh.Gateway
