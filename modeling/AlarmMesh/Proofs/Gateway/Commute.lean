import AlarmMesh.Proofs.Gateway.Locality
import AlarmMesh.Proofs.Gateway.Parking
import AlarmMesh.Proofs.Gateway.SlotAccount

/-!
# Reports of different devices commute

A report about a fault or an alarm reads and writes the record and the pending records of its device
and nothing of any other.  All that two such reports share is the pool, of which each needs two
buffers and keeps at most one.  So with three buffers free it does not matter which report comes
first.

* `Incidents.faultOf`, `alarmOf` — the pending records, without their buffers and timers;
* `deviceOf?` — the device that a report about faults and alarms is from;
* `Correlator.InStep id asked a b a' b'` — the same is done about a device in two runs;
* `inStep_receiveFault`, `inStep_receiveAlarm`, … — the functions that deal with reports;
* `inStep_receive` — a frame;
* `Engine.Agrees`, `agrees_receive`, `Shares.receive_comm` — the result.
-/

namespace AlarmMesh.Gateway

open Radio (AlarmReport Command DeviceId FaultFlag FaultReport RadioStatus Report)
open Shadow (Store Table)

/-! ### Pending records -/

namespace Incidents

/-- What the pending fault of a device waits for, and its report. -/
def faultOf (incidents : Incidents) (id : DeviceId) : Option (FollowUp × List UInt8) :=
  (incidents.faults.get? id).map fun pending => (pending.awaiting, pending.frame.content)

/-- The report of the pending alarm of a device. -/
def alarmOf (incidents : Incidents) (id : DeviceId) : Option (List UInt8) :=
  (incidents.alarms.get? id).map fun pending => pending.frame.content

variable {incidents incidents' : Incidents} {id other : DeviceId}

theorem faultOf_congr (h : incidents'.faults.get? id = incidents.faults.get? id) :
    incidents'.faultOf id = incidents.faultOf id := by
  unfold faultOf
  rw [h]

theorem alarmOf_congr (h : incidents'.alarms.get? id = incidents.alarms.get? id) :
    incidents'.alarmOf id = incidents.alarmOf id := by
  unfold alarmOf
  rw [h]

theorem faultOf_eq_none : incidents.faultOf id = none ↔ incidents.faults.get? id = none :=
  Option.map_eq_none_iff

theorem alarmOf_eq_none : incidents.alarmOf id = none ↔ incidents.alarms.get? id = none :=
  Option.map_eq_none_iff

end Incidents

namespace Correlator

variable {a b c c' a' b' a'' b'' : Correlator} {id other : DeviceId} {asked asked' : List Command}

/-! ### Two runs -/

/-- What a device can tell of the pending records and of the site is the same in both. -/
structure Alike (id : DeviceId) (a b : Correlator) : Prop where
  site : a.site.Alike id b.site
  fault : a.faultOf id = b.faultOf id
  alarm : a.alarmOf id = b.alarmOf id

/-- Something was done about a device, and these questions were sent for it, latest first. -/
structure Within (id : DeviceId) (asked : List Command) (c c' : Correlator) : Prop where
  store : c.site.platform.store.Rewrites id c'.site.platform.store
  outages : c'.site.platform.outages = c.site.platform.outages
  clock : c'.site.clock = c.site.clock
  sent : c'.site.sent = asked ++ c.site.sent
  faults : ∀ other, other ≠ id → c'.faultOf other = c.faultOf other
  alarms : ∀ other, other ≠ id → c'.alarmOf other = c.alarmOf other
  /-- A question takes a buffer for the report that it is about. -/
  room : ∀ n, c.site.Roomy (n + asked.length + 1) → c'.site.Roomy (n + 1)

/-- Where the pending records and the site look alike the same was done about a device. -/
structure InStep (id : DeviceId) (asked : List Command) (a b a' b' : Correlator) : Prop where
  left : a.Within id asked a'
  right : b.Within id asked b'
  alike : a'.Alike id b'

theorem Alike.refl (id : DeviceId) (c : Correlator) : c.Alike id c := ⟨.refl id _, rfl, rfl⟩

theorem Within.trans (h : a.Within id asked b) (h' : b.Within id asked' c) :
    a.Within id (asked' ++ asked) c where
  store := h.store.trans h'.store
  outages := h'.outages.trans h.outages
  clock := h'.clock.trans h.clock
  sent := by rw [h'.sent, h.sent, List.append_assoc]
  faults other hne := (h'.faults other hne).trans (h.faults other hne)
  alarms other hne := (h'.alarms other hne).trans (h.alarms other hne)
  room n hroom := by
    rw [List.length_append, ← Nat.add_assoc] at hroom
    exact h'.room n (h.room (n + asked'.length) hroom)

/-- What happens to one device does not show to the others. -/
theorem Within.alike (h : c.Within id asked c') (hne : other ≠ id) : c.Alike other c' where
  site := ⟨(h.store.record?_of_ne hne).symm, h.outages.symm, h.clock.symm⟩
  fault := (h.faults other hne).symm
  alarm := (h.alarms other hne).symm

theorem InStep.trans (h : InStep id asked a b a' b') (h' : InStep id asked' a' b' a'' b'') :
    InStep id (asked' ++ asked) a b a'' b'' :=
  ⟨h.left.trans h'.left, h.right.trans h'.right, h'.alike⟩

theorem InStep.refl (h : a.Alike id b) : InStep id [] a b a b := by
  have hsame (c : Correlator) : c.Within id [] c :=
    ⟨.same, rfl, rfl, rfl, fun _ _ => rfl, fun _ _ => rfl, fun _ hroom => hroom⟩
  exact ⟨hsame a, hsame b, h⟩

/-- Something is done at the site. -/
theorem inStep_site (h : a.Alike id b) {left right : Site}
    (hsite : Site.InStep id a.site b.site left right) :
    InStep id [] a b { a with site := left } { b with site := right } := by
  have hwithin (c : Correlator) {site : Site} (hw : c.site.Within id site) :
      c.Within id [] { c with site := site } :=
    ⟨hw.store, hw.outages, hw.clock, hw.sent, fun _ _ => rfl, fun _ _ => rfl,
      fun _ hroom => hroom.congr hw.pool hw.contention⟩
  exact ⟨hwithin a hsite.left, hwithin b hsite.right, ⟨hsite.alike, h.fault, h.alarm⟩⟩

/-- What a pending record that begins or ends does, seen from its device. -/
structure Records (id : DeviceId) (asked : List Command) (c c' : Correlator) : Prop where
  sends : c.site.Sends asked c'.site
  faults : ∀ other, other ≠ id → c'.faultOf other = c.faultOf other
  alarms : ∀ other, other ≠ id → c'.alarmOf other = c.alarmOf other
  room : ∀ n, c.site.Roomy (n + asked.length + 1) → c'.site.Roomy (n + 1)

theorem Records.within (h : c.Records id asked c') : c.Within id asked c' where
  store := by
    rw [h.sends.platform]
    exact .same
  outages := congrArg Shadow.Platform.outages h.sends.platform
  clock := h.sends.clock
  sent := h.sends.sent
  faults := h.faults
  alarms := h.alarms
  room := h.room

/-- A record begins or ends in both runs. -/
theorem inStep_records (h : a.Alike id b) (ha : a.Records id asked a') (hb : b.Records id asked b')
    (hfault : a'.faultOf id = b'.faultOf id) (halarm : a'.alarmOf id = b'.alarmOf id) :
    InStep id asked a b a' b' := by
  refine ⟨ha.within, hb.within, ⟨⟨?_, ?_, ?_⟩, hfault, halarm⟩⟩
  · rw [ha.sends.platform, hb.sends.platform, h.site.record]
  · rw [ha.sends.platform, hb.sends.platform, h.site.outages]
  · rw [ha.sends.clock, hb.sends.clock, h.site.clock]

/-! ### Faults -/

theorem inStep_writeFault (h : a.Alike id b) (active : Bool) (fault : FlagFault) :
    InStep id [] a b (a.writeFault id active fault) (b.writeFault id active fault) :=
  inStep_site h (Site.inStep_writeFault h.site _ _ _)

theorem inStep_clearDetails (h : a.Alike id b) (table : UInt8) :
    InStep id [] a b (a.clearDetails id table) (b.clearDetails id table) := by
  have hcleared := inStep_site h (Site.inStep_writeDetails h.site table 0)
  exact hcleared.trans (inStep_writeFault hcleared.alike false .general)

/-- With two free buffers a fault begins to wait if none of its device waits already. -/
theorem beginFault_of_roomy (hnone : c.faultOf id = none) (hroom : c.site.Roomy 2)
    {report : List UInt8} (hfit : report.length ≤ Link.bufferCapacity) (awaiting : FollowUp)
    (question : Command) :
    ∃ c', c.beginFault id report awaiting question = (true, c') ∧ c.Records id [question] c' ∧
      c'.faultOf id = some (awaiting, report) ∧ c'.alarmOf id = c.alarmOf id := by
  obtain ⟨buffer, site, hpark, hcontent, hsends, -⟩ :=
    Site.park_of_roomy (n := 0) hroom hfit .pendingFault question
  have hget := Incidents.faultOf_eq_none.1 hnone
  have hnew : ¬ c.faults.has id := by simp [Table.has, hget]
  unfold beginFault
  rw [if_neg hnew, hpark]
  refine ⟨_, rfl, ⟨⟨hsends.platform, hsends.clock, hsends.sent⟩, ?_, fun _ _ => rfl, ?_⟩, ?_, rfl⟩
  · intro other hne
    exact Incidents.faultOf_congr ((Table.get?_put _ _ _ _).trans (if_neg hne.symm))
  · intro n hroom
    exact (Site.roomy_of_park (n := n) hroom hfit hpark).congr rfl rfl
  · simp [Incidents.faultOf, Table.get?_put, hcontent]

theorem beginFault_of_waiting (h : c.faultOf id ≠ none) (report : List UInt8)
    (awaiting : FollowUp) (question : Command) :
    c.beginFault id report awaiting question = (false, c) := by
  unfold beginFault
  refine if_pos ?_
  rw [Table.has, Option.isSome_iff_ne_none]
  exact fun hnone => h (Incidents.faultOf_eq_none.2 hnone)

/-- If no fault of the device waits there are two free buffers. -/
def Ready (id : DeviceId) (c : Correlator) : Prop := c.faultOf id = none → c.site.Roomy 2

/-- A question is asked only if no fault waits, and then one does. -/
def AsksOnce (before after : Option (FollowUp × List UInt8)) (asked : List Command) : Prop :=
  asked = [] ∧ after = before ∨ asked.length = 1 ∧ before = none ∧ after ≠ none

/-- A flag of a fault report is dealt with in both runs. -/
structure Flagged (id : DeviceId) (asked : List Command) (a b a' b' : Correlator) : Prop
    extends InStep id asked a b a' b' where
  once : AsksOnce (a.faultOf id) (a'.faultOf id) asked

theorem Flagged.of_inStep (h : InStep id [] a b a' b') (hfault : a'.faultOf id = a.faultOf id) :
    Flagged id [] a b a' b' :=
  ⟨h, .inl ⟨rfl, hfault⟩⟩

/-- The flag of a report that begins to wait, or of one that is written instead. -/
theorem flagged_beginFault_else (h : a.Alike id b) (ha : a.Ready id) (hb : b.Ready id)
    {report : List UInt8} (hfit : report.length ≤ Link.bufferCapacity) (awaiting : FollowUp)
    (question : Command) (fault : FlagFault) :
    ∃ asked, Flagged id asked a b
      (match a.beginFault id report awaiting question with
        | (true, c) => c
        | (false, c) => c.writeFault id true fault)
      (match b.beginFault id report awaiting question with
        | (true, c) => c
        | (false, c) => c.writeFault id true fault) := by
  by_cases hnone : a.faultOf id = none
  · have hnone' : b.faultOf id = none := h.fault.symm.trans hnone
    obtain ⟨a', hbegun, hrecords, hfault, halarm⟩ :=
      beginFault_of_roomy hnone (ha hnone) hfit awaiting question
    obtain ⟨b', hbegun', hrecords', hfault', halarm'⟩ :=
      beginFault_of_roomy hnone' (hb hnone') hfit awaiting question
    rw [hbegun, hbegun']
    refine ⟨[question], inStep_records h hrecords hrecords' (hfault.trans hfault'.symm) ?_, ?_⟩
    · rw [halarm, halarm', h.alarm]
    · exact .inr ⟨rfl, hnone, by simp [hfault]⟩
  · rw [beginFault_of_waiting hnone, beginFault_of_waiting fun hb => hnone (h.fault.trans hb)]
    exact ⟨[], .of_inStep (inStep_writeFault h true fault) rfl⟩

theorem flagged_applyFlag (profile : Option Device.Profile) {report : FaultReport}
    {frame : List UInt8} (hfit : frame.length ≤ Link.bufferCapacity)
    (h : a.Alike report.id b) (ha : a.Ready report.id) (hb : b.Ready report.id)
    (flag : FaultFlag) : ∃ asked, Flagged report.id asked a b
      (applyFlag profile report frame a flag) (applyFlag profile report frame b flag) := by
  have hwritten (active : Bool) (fault : FlagFault) : ∃ asked, Flagged report.id asked a b
      (a.writeFault report.id active fault) (b.writeFault report.id active fault) :=
    ⟨[], .of_inStep (inStep_writeFault h active fault) rfl⟩
  unfold applyFlag
  cases flag with
  | faulty =>
    dsimp only [applyGeneral]
    split
    · exact hwritten _ _
    split
    · exact flagged_beginFault_else h ha hb hfit _ _ _
    · exact ⟨[], .of_inStep (inStep_clearDetails h _) rfl⟩
  | detectorBattery =>
    dsimp only [applyBattery]
    split
    · exact flagged_beginFault_else h ha hb hfit _ _ _
    · exact hwritten _ _
  | unassigned6 => exact ⟨[], .of_inStep (.refl h) rfl⟩
  | unassigned7 => exact ⟨[], .of_inStep (.refl h) rfl⟩
  | _ => exact hwritten _ _

/-- If no question was asked there are as many free buffers, and otherwise a fault waits. -/
theorem Within.ready (h : c.Within id asked c') (hready : c.Ready id)
    (honce : AsksOnce (c.faultOf id) (c'.faultOf id) asked) : c'.Ready id := by
  intro hnone
  obtain ⟨rfl, hsame⟩ | ⟨-, -, hwaits⟩ := honce
  · exact h.room 1 (hready (hsame.symm.trans hnone))
  · exact absurd hnone hwaits

theorem AsksOnce.trans {before between after : Option (FollowUp × List UInt8)}
    (h : AsksOnce before between asked) (h' : AsksOnce between after asked') :
    AsksOnce before after (asked' ++ asked) := by
  obtain ⟨rfl, rfl⟩ | ⟨hone, hnone, hwaits⟩ := h
  · rwa [List.append_nil]
  · obtain ⟨rfl, rfl⟩ | ⟨-, hnone', -⟩ := h'
    · exact .inr ⟨hone, hnone, hwaits⟩
    · exact absurd hnone' hwaits

theorem flagged_receiveFault {report : FaultReport} {frame : List UInt8}
    (hfit : frame.length ≤ Link.bufferCapacity) (h : a.Alike report.id b)
    (ha : a.Ready report.id) (hb : b.Ready report.id) : ∃ asked, Flagged report.id asked a b
      (a.receiveFault report frame) (b.receiveFault report frame) := by
  unfold receiveFault
  rw [h.site.profileOf]
  generalize b.site.profileOf report.id = profile
  induction FaultFlag.all generalizing a b with
  | nil => exact ⟨[], .of_inStep (.refl h) rfl⟩
  | cons flag flags ih =>
    obtain ⟨asked, hflag⟩ := flagged_applyFlag profile hfit h ha hb flag
    have honce : AsksOnce (b.faultOf report.id) _ asked :=
      h.fault ▸ hflag.alike.fault ▸ hflag.once
    obtain ⟨asked', hflags⟩ :=
      ih hflag.alike (hflag.left.ready ha hflag.once) (hflag.right.ready hb honce)
    exact ⟨asked' ++ asked, hflag.toInStep.trans hflags.toInStep, hflag.once.trans hflags.once⟩

/-! ### Answers to faults -/

/-- Buffers and timers do not show to a device. -/
theorem inStep_sends (h : a.Alike id b) {left right : Site} (hleft : a.site.Sends [] left)
    (hright : b.site.Sends [] right) (hroom : ∀ n, a.site.Roomy n → left.Roomy n)
    (hroom' : ∀ n, b.site.Roomy n → right.Roomy n) :
    InStep id [] a b { a with site := left } { b with site := right } :=
  inStep_records h ⟨hleft, fun _ _ => rfl, fun _ _ => rfl, fun _ hroomy => hroom _ hroomy⟩
    ⟨hright, fun _ _ => rfl, fun _ _ => rfl, fun _ hroomy => hroom' _ hroomy⟩ h.fault h.alarm

theorem inStep_release (h : a.Alike id b) (buffer buffer' : Link.Buffer) :
    InStep id [] a b (a.onSite fun site => site.release buffer)
      (b.onSite fun site => site.release buffer') :=
  inStep_sends h ⟨rfl, rfl, rfl⟩ ⟨rfl, rfl, rfl⟩ (fun _ hroom => hroom.release _)
    fun _ hroom => hroom.release _

theorem inStep_cancel (h : a.Alike id b) (handle handle' : TimerHandle) :
    InStep id [] a b (a.onSite fun site => site.cancel (some handle))
      (b.onSite fun site => site.cancel (some handle')) :=
  inStep_sends h ⟨rfl, rfl, rfl⟩ ⟨rfl, rfl, rfl⟩ (fun _ hroom => hroom.congr rfl rfl)
    fun _ hroom => hroom.congr rfl rfl

/-- Two runs have the same pending fault, up to its buffer and its timer. -/
theorem Alike.fault_cases (h : a.Alike id b) :
    a.faults.get? id = none ∧ b.faults.get? id = none ∨
    ∃ p q, a.faults.get? id = some p ∧ b.faults.get? id = some q ∧ p.awaiting = q.awaiting := by
  have hfault := h.fault
  unfold Incidents.faultOf at hfault
  cases ha : a.faults.get? id with
  | none =>
    rw [ha, Option.map_none, eq_comm, Option.map_eq_none_iff] at hfault
    exact .inl ⟨rfl, hfault⟩
  | some p =>
    rw [ha, Option.map_some, eq_comm, Option.map_eq_some_iff] at hfault
    obtain ⟨q, hb, heq⟩ := hfault
    exact .inr ⟨p, q, rfl, hb, (Prod.mk.inj heq).1.symm⟩

theorem Alike.alarm_cases (h : a.Alike id b) :
    a.alarms.get? id = none ∧ b.alarms.get? id = none ∨
    ∃ p q, a.alarms.get? id = some p ∧ b.alarms.get? id = some q ∧
      p.frame.content = q.frame.content := by
  have halarm := h.alarm
  unfold Incidents.alarmOf at halarm
  cases ha : a.alarms.get? id with
  | none =>
    rw [ha, Option.map_none, eq_comm, Option.map_eq_none_iff] at halarm
    exact .inl ⟨rfl, halarm⟩
  | some p =>
    rw [ha, Option.map_some, eq_comm, Option.map_eq_some_iff] at halarm
    obtain ⟨q, hb, heq⟩ := halarm
    exact .inr ⟨p, q, rfl, hb, heq.symm⟩

theorem inStep_takeFault (h : a.Alike id b) (p q : PendingFault) :
    InStep id [] a b (a.takeFault id p) (b.takeFault id q) := by
  have hrecords (c : Correlator) (pending : PendingFault) :
      c.Records id [] (c.takeFault id pending) := by
    refine ⟨⟨rfl, rfl, rfl⟩, fun other hne => ?_, fun _ _ => rfl, fun _ hroom => ?_⟩
    · exact Incidents.faultOf_congr ((Table.get?_erase _ _ _).trans (if_neg hne.symm))
    · exact hroom.congr rfl rfl
  have herased (c : Correlator) (pending : PendingFault) :
      (c.takeFault id pending).faultOf id = none :=
    Incidents.faultOf_eq_none.2 ((Table.get?_erase _ _ _).trans (if_pos rfl))
  exact inStep_records h (hrecords a p) (hrecords b q) ((herased a p).trans (herased b q).symm)
    h.alarm

theorem inStep_receiveFaultDetails (h : a.Alike id b) (faults : UInt16) :
    InStep id [] a b (a.receiveFaultDetails id faults) (b.receiveFaultDetails id faults) := by
  unfold receiveFaultDetails
  obtain ⟨ha, hb⟩ | ⟨p, q, ha, hb, hawaiting⟩ := h.fault_cases
  · rw [ha, hb]
    exact .refl h
  · rw [ha, hb]
    dsimp only
    rw [hawaiting]
    split
    · have htaken := inStep_takeFault h p q
      have hreleased := htaken.trans (inStep_release htaken.alike p.frame q.frame)
      rw [hreleased.alike.site.faultTableOf]
      split
      · exact hreleased
      · exact hreleased.trans (inStep_site hreleased.alike
          (Site.inStep_writeDetails hreleased.alike.site _ _))
    · exact .refl h

/-! ### Alarms -/

theorem inStep_writeAlarm (h : a.Alike id b) (state : Nat) (temperature : Option UInt16) :
    InStep id [] a b (a.onSite fun site => site.writeAlarm id state temperature)
      (b.onSite fun site => site.writeAlarm id state temperature) :=
  inStep_site h (Site.inStep_writeAlarm h.site _ _)

/-- With two free buffers an alarm begins to wait if none of its device waits already. -/
theorem beginAlarm_of_roomy (hnone : c.alarmOf id = none) (hroom : c.site.Roomy 2)
    {report : List UInt8} (hfit : report.length ≤ Link.bufferCapacity) :
    ∃ c', c.beginAlarm id report = (true, c') ∧
      c.Records id [.readTemperature id (c.site.modelOf id)] c' ∧
      c'.faultOf id = c.faultOf id ∧ c'.alarmOf id = some report := by
  obtain ⟨buffer, site, hpark, hcontent, hsends, -⟩ :=
    Site.park_of_roomy (n := 0) hroom hfit .pendingAlarm (.readTemperature id (c.site.modelOf id))
  have hget := Incidents.alarmOf_eq_none.1 hnone
  have hnew : ¬ c.alarms.has id := by simp [Table.has, hget]
  unfold beginAlarm
  rw [if_neg hnew, hpark]
  refine ⟨_, rfl, ⟨⟨hsends.platform, hsends.clock, hsends.sent⟩, fun _ _ => rfl, ?_, ?_⟩, rfl, ?_⟩
  · intro other hne
    exact Incidents.alarmOf_congr ((Table.get?_put _ _ _ _).trans (if_neg hne.symm))
  · intro n hroom
    exact (Site.roomy_of_park (n := n) hroom hfit hpark).congr rfl rfl
  · simp [Incidents.alarmOf, Table.get?_put, hcontent]

theorem beginAlarm_of_waiting (h : c.alarmOf id ≠ none) (report : List UInt8) :
    c.beginAlarm id report = (false, c) := by
  unfold beginAlarm
  refine if_pos ?_
  rw [Table.has, Option.isSome_iff_ne_none]
  exact fun hnone => h (Incidents.alarmOf_eq_none.2 hnone)

theorem inStep_receiveAlarm {report : AlarmReport} {frame : List UInt8}
    (hfit : frame.length ≤ Link.bufferCapacity) (h : a.Alike report.id b)
    (ha : a.site.Roomy 2) (hb : b.site.Roomy 2) :
    ∃ asked, asked.length ≤ 1 ∧ InStep report.id asked a b
      (a.receiveAlarm report frame) (b.receiveAlarm report frame) := by
  have hwritten := inStep_writeAlarm h (Device.alarmState report.status) none
  unfold receiveAlarm
  rw [h.site.profileOf]
  dsimp only
  generalize ((b.site.profileOf report.id).map Device.Profile.readsTemperature).getD false = wanted
  cases wanted with
  | true =>
    rw [if_pos rfl, if_pos rfl]
    by_cases hnone : a.alarmOf report.id = none
    · have hnone' : b.alarmOf report.id = none := h.alarm.symm.trans hnone
      obtain ⟨a', hbegun, hrecords, hfault, halarm⟩ := beginAlarm_of_roomy hnone ha hfit
      obtain ⟨b', hbegun', hrecords', hfault', halarm'⟩ := beginAlarm_of_roomy hnone' hb hfit
      rw [h.site.modelOf] at hrecords
      have hparked := inStep_records h hrecords hrecords'
        (hfault.trans (h.fault.trans hfault'.symm)) (halarm.trans halarm'.symm)
      rw [hbegun, hbegun']
      exact ⟨[.readTemperature report.id _], Nat.le_refl 1, hparked⟩
    · rw [beginAlarm_of_waiting hnone, beginAlarm_of_waiting fun hb => hnone (h.alarm.trans hb)]
      exact ⟨[], Nat.zero_le 1, hwritten⟩
  | false => exact ⟨[], Nat.zero_le 1, hwritten⟩

/-- The record of an alarm ends, and its buffer is free again. -/
theorem inStep_endAlarm (h : a.Alike id b) (p q : PendingAlarm) : InStep id [] a b
    { a with alarms := a.alarms.erase id, site := a.site.release p.frame }
    { b with alarms := b.alarms.erase id, site := b.site.release q.frame } := by
  have hrecords (c : Correlator) (pending : PendingAlarm) : c.Records id []
      { c with alarms := c.alarms.erase id, site := c.site.release pending.frame } := by
    refine ⟨⟨rfl, rfl, rfl⟩, fun _ _ => rfl, fun other hne => ?_, fun _ hroom => hroom.release _⟩
    exact Incidents.alarmOf_congr ((Table.get?_erase _ _ _).trans (if_neg hne.symm))
  have herased (c : Correlator) (site : Site) :
      ({ c with alarms := c.alarms.erase id, site := site } : Correlator).alarmOf id = none :=
    Incidents.alarmOf_eq_none.2 ((Table.get?_erase _ _ _).trans (if_pos rfl))
  exact inStep_records h (hrecords a p) (hrecords b q) h.fault
    ((herased a _).trans (herased b _).symm)

theorem inStep_resolveAlarm (h : a.Alike id b) {p q : PendingAlarm}
    (hcontent : p.frame.content = q.frame.content) (temperature : Option UInt16) :
    InStep id [] a b (a.resolveAlarm id p temperature) (b.resolveAlarm id q temperature) := by
  have hparked : parkedAlarm? p.frame = parkedAlarm? q.frame := by
    unfold parkedAlarm?
    rw [hcontent]
  unfold resolveAlarm
  rw [hparked]
  cases parkedAlarm? q.frame with
  | none => exact inStep_endAlarm h p q
  | some report =>
    have hwritten := inStep_writeAlarm h (Device.alarmState report.status) temperature
    exact hwritten.trans (inStep_endAlarm hwritten.alike p q)

theorem inStep_receiveTemperature (h : a.Alike id b) (value : UInt16) :
    InStep id [] a b (a.receiveTemperature id value) (b.receiveTemperature id value) := by
  unfold receiveTemperature
  obtain ⟨ha, hb⟩ | ⟨p, q, ha, hb, hcontent⟩ := h.alarm_cases
  · rw [ha, hb]
    exact .refl h
  · rw [ha, hb]
    have hstopped := inStep_cancel h p.timer q.timer
    exact hstopped.trans (inStep_resolveAlarm hstopped.alike hcontent _)

theorem inStep_receiveSlotValue (h : a.Alike id b) (value : UInt16) :
    InStep id [] a b (a.receiveSlotValue id value) (b.receiveSlotValue id value) := by
  unfold receiveSlotValue
  obtain ⟨ha, hb⟩ | ⟨p, q, ha, hb, hawaiting⟩ := h.fault_cases
  · rw [ha, hb]
    exact inStep_receiveTemperature h value
  · rw [ha, hb]
    dsimp only
    rw [hawaiting]
    split
    · have htaken := inStep_takeFault h p q
      have hwritten := inStep_site htaken.alike (Site.inStep_writeFault htaken.alike.site true
        FlagFault.detectorBattery.code (some value))
      exact htaken.trans (hwritten.trans (inStep_release hwritten.alike p.frame q.frame))
    · exact inStep_receiveTemperature h value

/-! ### Other reports -/

theorem inStep_receiveLocate (h : a.Alike id b) :
    InStep id [] a b (a.receiveLocate id) (b.receiveLocate id) :=
  inStep_site h (Site.inStep_silence h.site)

theorem inStep_receiveDetectorFault (h : a.Alike id b) :
    InStep id [] a b (a.receiveDetectorFault id) (b.receiveDetectorFault id) :=
  inStep_site h (Site.inStep_increment h.site .detectorFaults)

theorem inStep_receiveRemoteStatus {status : RadioStatus} (h : a.Alike status.id b) :
    InStep status.id [] a b (a.receiveRemoteStatus status) (b.receiveRemoteStatus status) := by
  have hfaults := Site.inStep_report h.site .radioFaults (.ofNat status.radioFaults.toNat)
  have hrssi := Site.inStep_report hfaults.alike .rssi (.ofNat status.rssi.toNat)
  have hfirmware := Site.inStep_report hrssi.alike .firmware
    (.text (toString status.firmware.toNat))
  exact inStep_site h (hfaults.trans (hrssi.trans hfirmware))

end Correlator

/-! ### Frames -/

/-- The device that a report about a fault, an alarm or a radio module is about. -/
def deviceOf? : Report → Option DeviceId
  | .fault report => some report.id
  | .alarm report => some report.id
  | .slotValue report => some report.id
  | .faultDetails report => some report.id
  | .alarmStop report => some report.id
  | .locate report => some report.id
  | .remoteStatus status => some status.id
  | .detectorFault report => some report.id
  | _ => none

/-- What repeats itself is a report of the same device. -/
theorem eq_of_sequence {report : Report} {id other : DeviceId} {seq : UInt8}
    (h : deviceOf? report = some id) (hseq : report.sequence = some (other, seq)) : other = id := by
  cases report <;> simp_all [deviceOf?, Report.sequence]

theorem length_of_body {code : Radio.Code} {body : List UInt8} {report : Report}
    (h : Report.ofBody code body = .ok report) (hdevice : (deviceOf? report).isSome) :
    body.length < Link.bufferCapacity := by
  unfold Report.ofBody at h
  dsimp only at h
  -- a layout that names a device has one length
  repeat' split at h
  all_goals first
    | (simp at h; done)
    | obtain rfl := Except.ok.inj h
  all_goals first
    | (simp [deviceOf?] at hdevice; done)
    | simp [Link.bufferCapacity]

/-- The frame of such a report fits a buffer. -/
theorem length_of_decode {frame : List UInt8} {report : Report}
    (h : Report.decode frame = .ok report) (hdevice : (deviceOf? report).isSome) :
    frame.length ≤ Link.bufferCapacity := by
  unfold Report.decode at h
  split at h
  · simp at h
  · split at h
    · exact length_of_body h hdevice
    · simp at h

namespace Engine

variable {a b : Engine} {id : DeviceId} {report : Report} {frame : List UInt8}

open Correlator (InStep)

theorem inStep_dispatch (hdevice : deviceOf? report = some id)
    (hfit : frame.length ≤ Link.bufferCapacity) (h : a.correlator.Alike id b.correlator)
    (ha : a.site.Roomy 2) (hb : b.site.Roomy 2) :
    ∃ asked, asked.length ≤ 1 ∧ InStep id asked a.correlator b.correlator
      (a.dispatch report frame).correlator (b.dispatch report frame).correlator := by
  cases report with
  | fault report =>
    obtain rfl := Option.some.inj hdevice
    obtain ⟨asked, hflagged⟩ := Correlator.flagged_receiveFault hfit h (fun _ => ha) fun _ => hb
    refine ⟨asked, ?_, hflagged.toInStep⟩
    obtain ⟨rfl, -⟩ | ⟨hone, -, -⟩ := hflagged.once
    · exact Nat.zero_le 1
    · exact Nat.le_of_eq hone
  | alarm report =>
    obtain rfl := Option.some.inj hdevice
    exact Correlator.inStep_receiveAlarm hfit h ha hb
  | slotValue report =>
    obtain rfl := Option.some.inj hdevice
    exact ⟨[], Nat.zero_le 1, Correlator.inStep_receiveSlotValue h report.value⟩
  | faultDetails report =>
    obtain rfl := Option.some.inj hdevice
    exact ⟨[], Nat.zero_le 1, Correlator.inStep_receiveFaultDetails h report.faults⟩
  | alarmStop report =>
    obtain rfl := Option.some.inj hdevice
    exact ⟨[], Nat.zero_le 1, Correlator.inStep_writeAlarm h Device.alarmInactive none⟩
  | locate report =>
    obtain rfl := Option.some.inj hdevice
    exact ⟨[], Nat.zero_le 1, Correlator.inStep_receiveLocate h⟩
  | remoteStatus status =>
    obtain rfl := Option.some.inj hdevice
    exact ⟨[], Nat.zero_le 1, Correlator.inStep_receiveRemoteStatus h⟩
  | detectorFault report =>
    obtain rfl := Option.some.inj hdevice
    exact ⟨[], Nat.zero_le 1, Correlator.inStep_receiveDetectorFault h⟩
  | _ => simp [deviceOf?] at hdevice

/-- Taking note of a frame touches the device that it is about. -/
theorem inStep_noted (hdevice : deviceOf? report = some id) (h : a.site.Alike id b.site)
    (frame : List UInt8) :
    Site.InStep id a.site b.site (a.noted frame report).site (b.noted frame report).site := by
  have hcounted := Site.inStep_count h (.frameHandled (frame.headD 0))
  unfold noted checkRepetition
  split
  · next other seq hseq =>
    obtain rfl := eq_of_sequence hdevice hseq
    have hregistered : (a.counted frame).site.platform.isRegistered other =
        (b.counted frame).site.platform.isRegistered other := hcounted.alike.isRegistered
    unfold checkSequence
    dsimp only
    rw [hregistered]
    split
    · exact hcounted.trans (Site.inStep_report hcounted.alike .lastSequence (.ofNat seq.toNat))
    · exact hcounted
  · exact hcounted

/-- Whether a report repeats the last one of its device shows to that device. -/
theorem checkRepetition_eq (hdevice : deviceOf? report = some id) (h : a.site.Alike id b.site)
    (frame : List UInt8) : ((a.counted frame).checkRepetition report).1 =
      ((b.counted frame).checkRepetition report).1 := by
  rw [checkRepetition_counted, checkRepetition_counted]
  unfold checkRepetition
  split
  · next other seq hseq =>
    obtain rfl := eq_of_sequence hdevice hseq
    unfold checkSequence
    dsimp only
    rw [h.reported]
  · rfl

/-- A frame is dealt with in both runs, and asks at most one question. -/
theorem inStep_receive (hdecode : Report.decode frame = .ok report)
    (hdevice : deviceOf? report = some id) (h : a.correlator.Alike id b.correlator)
    (ha : a.site.Roomy 2) (hb : b.site.Roomy 2) :
    ∃ asked, asked.length ≤ 1 ∧ InStep id asked a.correlator b.correlator
      (a.receive frame).correlator (b.receive frame).correlator := by
  have hnoted := inStep_noted hdevice h.site frame
  have hincidents : InStep id [] a.correlator b.correlator (a.noted frame report).correlator
      (b.noted frame report).correlator := by
    have hsite := Correlator.inStep_site h hnoted
    unfold correlator
    rw [incidents_noted, incidents_noted]
    exact hsite
  rw [receive_of_decode a hdecode, receive_of_decode b hdecode,
    checkRepetition_eq hdevice h.site frame]
  split
  · have hcounted := Site.inStep_count hincidents.alike.site .duplicate
    exact ⟨[], Nat.zero_le 1, hincidents.trans (Correlator.inStep_site hincidents.alike hcounted)⟩
  · have hfit := length_of_decode hdecode (hdevice ▸ rfl)
    obtain ⟨asked, hone, hdispatch⟩ := inStep_dispatch hdevice hfit hincidents.alike
      (ha.congr hnoted.left.pool hnoted.left.contention)
      (hb.congr hnoted.right.pool hnoted.right.contention)
    refine ⟨asked, hone, ?_⟩
    have hboth := hincidents.trans hdispatch
    rwa [List.append_nil] at hboth

/-- A frame takes at most one buffer for good. -/
theorem roomy_receive (hdecode : Report.decode frame = .ok report)
    (hdevice : deviceOf? report = some id) (h : a.site.Roomy 3) :
    (a.receive frame).site.Roomy 2 := by
  have htwo : a.site.Roomy 2 := h.mono (by decide)
  obtain ⟨asked, hone, hstep⟩ := inStep_receive hdecode hdevice (.refl id a.correlator) htwo htwo
  exact hstep.left.room 1 (h.mono (by omega))

/-- To whoever looks at the shadow, at the pending records or at the commands sent, the engines are
one. -/
structure Agrees (a b : Engine) : Prop where
  shadow : a.site.platform = b.site.platform
  faults : ∀ id, a.incidents.faultOf id = b.incidents.faultOf id
  alarms : ∀ id, a.incidents.alarmOf id = b.incidents.alarmOf id
  sent : a.site.sent.Perm b.site.sent

/-- Frames of two devices can be received in either order if three buffers are free. -/
theorem agrees_receive {engine : Engine} {frame₁ frame₂ : List UInt8} {report₁ report₂ : Report}
    {id₁ id₂ : DeviceId} (hroom : engine.site.Roomy 3)
    (hdecode₁ : Report.decode frame₁ = .ok report₁) (hdevice₁ : deviceOf? report₁ = some id₁)
    (hdecode₂ : Report.decode frame₂ = .ok report₂) (hdevice₂ : deviceOf? report₂ = some id₂)
    (hne : id₁ ≠ id₂) : ((engine.receive frame₁).receive frame₂).Agrees
      ((engine.receive frame₂).receive frame₁) := by
  have htwo : engine.site.Roomy 2 := hroom.mono (by decide)
  have hroom₁ := roomy_receive hdecode₁ hdevice₁ hroom
  have hroom₂ := roomy_receive hdecode₂ hdevice₂ hroom
  obtain ⟨_, -, halone₁⟩ :=
    inStep_receive hdecode₁ hdevice₁ (.refl id₁ engine.correlator) htwo htwo
  obtain ⟨_, -, halone₂⟩ :=
    inStep_receive hdecode₂ hdevice₂ (.refl id₂ engine.correlator) htwo htwo
  -- each frame at first and after the other one
  obtain ⟨asked₁, -, hfirst⟩ :=
    inStep_receive hdecode₁ hdevice₁ (halone₂.left.alike hne) htwo hroom₂
  obtain ⟨asked₂, -, hsecond⟩ :=
    inStep_receive hdecode₂ hdevice₂ (halone₁.left.alike hne.symm) htwo hroom₁
  have hrecord₁ := (hsecond.right.store.record?_of_ne hne).trans hfirst.alike.site.record
  have hrecord₂ := hsecond.alike.site.record.symm.trans
    (hfirst.right.store.record?_of_ne hne.symm).symm
  refine ⟨?_, fun id => ?_, fun id => ?_, ?_⟩
  · have hstore := hfirst.left.store.comm hsecond.right.store hsecond.left.store
      hfirst.right.store hne hrecord₁ hrecord₂
    have houtages := (hsecond.right.outages.trans hfirst.left.outages).trans
      (hfirst.right.outages.trans hsecond.left.outages).symm
    exact Shadow.Platform.eq_of_store hstore houtages
  · by_cases h₁ : id = id₁
    · obtain rfl := h₁
      exact (hsecond.right.faults id hne).trans hfirst.alike.fault
    by_cases h₂ : id = id₂
    · obtain rfl := h₂
      exact hsecond.alike.fault.symm.trans (hfirst.right.faults id hne.symm).symm
    · exact ((hsecond.right.faults id h₂).trans (hfirst.left.faults id h₁)).trans
        ((hfirst.right.faults id h₁).trans (hsecond.left.faults id h₂)).symm
  · by_cases h₁ : id = id₁
    · obtain rfl := h₁
      exact (hsecond.right.alarms id hne).trans hfirst.alike.alarm
    by_cases h₂ : id = id₂
    · obtain rfl := h₂
      exact hsecond.alike.alarm.symm.trans (hfirst.right.alarms id hne.symm).symm
    · exact ((hsecond.right.alarms id h₂).trans (hfirst.left.alarms id h₁)).trans
        ((hfirst.right.alarms id h₁).trans (hsecond.left.alarms id h₂)).symm
  · have hsent₁₂ : ((engine.receive frame₁).receive frame₂).site.sent =
        asked₂ ++ (asked₁ ++ engine.site.sent) :=
      hsecond.right.sent.trans (congrArg _ hfirst.left.sent)
    have hsent₂₁ : ((engine.receive frame₂).receive frame₁).site.sent =
        asked₁ ++ (asked₂ ++ engine.site.sent) :=
      hfirst.right.sent.trans (congrArg _ hsecond.left.sent)
    rw [hsent₁₂, hsent₂₁, ← List.append_assoc, ← List.append_assoc]
    exact List.perm_append_comm.append_right _

end Engine

/-- Whenever at least three buffers are free, and the other users of the pool leave them alone,
reports of two devices can be received in either order: the shadow is the same afterwards, the same
reports wait for the same answers, and the same commands were sent, though maybe not in the same
order. -/
theorem Shares.receive_comm {settings : Config.Settings} {slots : Nat} {engine : Engine}
    {held : List Link.Buffer} (h : Shares settings slots engine held)
    (hfree : 3 ≤ engine.site.pool.available)
    (hcalm : ∀ busy ∈ engine.site.contention, busy = false) {frame₁ frame₂ : List UInt8}
    {report₁ report₂ : Report} {id₁ id₂ : DeviceId}
    (hdecode₁ : Report.decode frame₁ = .ok report₁) (hdevice₁ : deviceOf? report₁ = some id₁)
    (hdecode₂ : Report.decode frame₂ = .ok report₂) (hdevice₂ : deviceOf? report₂ = some id₂)
    (hne : id₁ ≠ id₂) : ((engine.receive frame₁).receive frame₂).Agrees
      ((engine.receive frame₂).receive frame₁) :=
  Engine.agrees_receive ⟨h.accounted.ledger.roomy.mono hfree, hcalm⟩ hdecode₁ hdevice₁ hdecode₂
    hdevice₂ hne

/-- An engine of two devices that are asked, with so many slots in its pool. -/
def askingEngine (slots : Nat) : Engine :=
  Engine.started {} askedDevices (.ofSlots slots) { unix := 0 } []

theorem shares_askingEngine (slots : Nat) : Shares {} slots (askingEngine slots) [] :=
  .start .refl _ _ _

/-- The first device tells of an alarm and the second of a low battery.  In either order both
reports wait. -/
theorem receive_comm_asking :
    (((askingEngine 3).receive [0x50, 1, 0, 0, 1, 0, 5, 1]).receive
      [0x71, 2, 0, 0, 0, 0, 0x0d, 6, 1]).Agrees
        (((askingEngine 3).receive [0x71, 2, 0, 0, 0, 0, 0x0d, 6, 1]).receive
          [0x50, 1, 0, 0, 1, 0, 5, 1]) ∧
    (((askingEngine 3).receive [0x50, 1, 0, 0, 1, 0, 5, 1]).receive
      [0x71, 2, 0, 0, 0, 0, 0x0d, 6, 1]).incidents.faultOf (.ofNat 2) =
        some (.volts, [0x71, 2, 0, 0, 0, 0, 0x0d, 6, 1]) ∧
    (((askingEngine 3).receive [0x50, 1, 0, 0, 1, 0, 5, 1]).receive
      [0x71, 2, 0, 0, 0, 0, 0x0d, 6, 1]).incidents.alarmOf (.ofNat 1) =
        some [0x50, 1, 0, 0, 1, 0, 5, 1] := by
  refine ⟨?_, by decide +kernel, by decide +kernel⟩
  refine Shares.receive_comm (shares_askingEngine 3) (by decide +kernel) (by decide +kernel) rfl rfl
    rfl rfl ?_
  decide

/-- With two buffers the report that comes second cannot wait. -/
example : ¬ (((askingEngine 2).receive [0x50, 1, 0, 0, 1, 0, 5, 1]).receive
      [0x71, 2, 0, 0, 0, 0, 0x0d, 6, 1]).Agrees
        (((askingEngine 2).receive [0x71, 2, 0, 0, 0, 0, 0x0d, 6, 1]).receive
          [0x50, 1, 0, 0, 1, 0, 5, 1]) :=
  fun h => absurd (h.faults (.ofNat 2)) (by decide +kernel)

end AlarmMesh.Gateway
