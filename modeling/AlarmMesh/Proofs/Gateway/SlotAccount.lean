import AlarmMesh.Proofs.Gateway.Acts
import AlarmMesh.Proofs.Link.Slots

/-!
# Every slot is accounted for

The slots of the pool are free, in the hands of its other users, or hold the report of a pending
record; a command takes one for the moment only.  An engine that shares its pool keeps that account
through every act, so no slot is lost, however often none is free.

* `Site.ledger_send`, `Site.ledger_park`, `Site.Chore.ledger` — the ledger of a site's pool;
* `Correlator.Accounted`, `accounted_act` — the account, and what an act does to it;
* `Shares` — the runs of an engine whose pool has other users;
* `Shares.countsSlots` — what the pool tells in such a run;
* `Shares.run` — the buffers of the messages that an engine deals with are given back.
-/

namespace AlarmMesh.Gateway

open Link (Buffer Pool SlotUse)
open Radio (Command DeviceId)
open Relation (ReflTransGen)
open Shadow (Table)

namespace Site

variable {site site' : Site} {slots : Nat} {owned : List (Nat × SlotUse)}
  {take : Pool → Option Buffer × Pool} {buffer : Buffer}

/-- An attempt that finds no slot changes the account of none. -/
theorem ledger_of_refused (h : site.pool.Ledger slots owned) (ht : Pool.Takes take)
    (hrefused : site.takeBuffer take = (none, site')) : site'.pool.Ledger slots owned := by
  unfold takeBuffer at hrefused
  dsimp only at hrefused
  split at hrefused
  · obtain ⟨hnone, rfl⟩ := Prod.mk.inj hrefused
    exact h.congr rfl (ht.fails _ hnone).2
  · obtain ⟨hnone, rfl⟩ := Prod.mk.inj hrefused
    obtain ⟨hfree, htags⟩ := ht.fails _ hnone
    exact h.congr hfree htags

theorem ledger_of_taken (h : site.pool.Ledger slots owned) (ht : Pool.Takes take)
    (htaken : site.takeBuffer take = (some buffer, site')) :
    site'.pool.Ledger slots ((buffer.slot, .frame) :: owned) := by
  unfold takeBuffer at htaken
  dsimp only at htaken
  split at htaken
  · -- no slot is free for the moment, and so none was taken
    obtain ⟨hsome, -⟩ := Prod.mk.inj htaken
    have hfree := (ht.succeeds _ _ hsome).1
    simp at hfree
  · obtain ⟨hsome, rfl⟩ := Prod.mk.inj htaken
    obtain ⟨hfree, htags⟩ := ht.succeeds _ _ hsome
    exact h.take hfree htags

/-- A command gives its slot back. -/
theorem ledger_send (h : site.pool.Ledger slots owned) (command : Command) :
    (site.send command).2.pool.Ledger slots owned := by
  unfold send
  split
  · next hsent => exact (ledger_of_taken h (Pool.takes_acquireFor command) hsent).release
  · next refused hrefused =>
    have hsame : refused.pool.Ledger slots owned :=
      ledger_of_refused h (Pool.takes_acquireFor command) hrefused
    exact hsame

/-- A report that is parked has a slot of its own; otherwise everything is as before. -/
theorem ledger_park (h : site.pool.Ledger slots owned) {report : List UInt8} {use : SlotUse}
    {question : Command} {parked : Option Buffer}
    (hpark : site.park report use question = (parked, site')) :
    site'.pool.Ledger slots ((parked.map fun buffer => (buffer.slot, use)).toList ++ owned) := by
  -- the buffer that is taken, with the question asked about it
  have hasked {buffer : Buffer} {taken : Site}
      (htake : (site.takeBuffer fun pool => pool.acquireWith report) = (some buffer, taken)) :
      (({ taken with pool := (taken.pool.retag buffer use).2 } : Site).send question).2.pool.Ledger
        slots ((buffer.slot, use) :: owned) :=
    ledger_send ((ledger_of_taken h (Pool.takes_acquireWith report) htake).retag use) question
  cases parks_of_park hpark with
  | refused htake => exact ledger_of_refused h (Pool.takes_acquireWith report) htake
  | unasked htake hsend =>
    have hledger := hasked htake
    rw [hsend] at hledger
    exact Pool.Ledger.release hledger
  | asked htake hsend =>
    have hledger := hasked htake
    rw [hsend] at hledger
    exact hledger

theorem Chore.ledger (h : site.pool.Ledger slots owned) (hchore : site.Chore site') :
    site'.pool.Ledger slots owned := by
  cases hchore with
  | apart hpool => exact hpool ▸ h
  | send command => exact ledger_send h command
  | cancel handle =>
    cases handle with
    | none => exact h
    | some _ => exact h
  | schedule => exact h

end Site

/-! ### The account -/

/-- The slots that hold the reports of pending records. -/
def Incidents.owned (incidents : Incidents) : List (Nat × SlotUse) :=
  incidents.faults.map (fun entry => (entry.2.frame.slot, .pendingFault)) ++
    incidents.alarms.map fun entry => (entry.2.frame.slot, .pendingAlarm)

/-- The slots that are not free are held by others or belong to a pending record, of which a device
has at most one of each kind. -/
structure Correlator.Accounted (c : Correlator) (slots : Nat) (held : List Buffer) : Prop where
  ledger : c.site.pool.Ledger slots (Pool.lent held ++ c.owned)
  faults : c.faults.keys.Nodup
  alarms : c.alarms.keys.Nodup

namespace Incidents

variable {incidents : Incidents} {id : DeviceId}

theorem owned_putFault (h : incidents.faults.get? id = none) (pending : PendingFault) :
    { incidents with faults := incidents.faults.put id pending }.owned.Perm
      ((pending.frame.slot, .pendingFault) :: incidents.owned) := by
  unfold owned
  rw [Table.put_of_new h, List.map_append, List.append_assoc]
  exact List.perm_middle

theorem owned_putAlarm (h : incidents.alarms.get? id = none) (pending : PendingAlarm) :
    { incidents with alarms := incidents.alarms.put id pending }.owned.Perm
      ((pending.frame.slot, .pendingAlarm) :: incidents.owned) := by
  unfold owned
  rw [Table.put_of_new h, List.map_append, ← List.append_assoc]
  exact List.perm_append_singleton _ _

theorem owned_eraseFault (h : incidents.faults.keys.Nodup) {pending : PendingFault}
    (hget : incidents.faults.get? id = some pending) : incidents.owned.Perm
      ((pending.frame.slot, .pendingFault) ::
        { incidents with faults := incidents.faults.erase id }.owned) := by
  have hmap := (Table.perm_cons_erase h hget).map
    fun entry => (entry.2.frame.slot, SlotUse.pendingFault)
  exact hmap.append_right _

theorem owned_eraseAlarm (h : incidents.alarms.keys.Nodup) {pending : PendingAlarm}
    (hget : incidents.alarms.get? id = some pending) : incidents.owned.Perm
      ((pending.frame.slot, .pendingAlarm) ::
        { incidents with alarms := incidents.alarms.erase id }.owned) := by
  have hmap := (Table.perm_cons_erase h hget).map
    fun entry => (entry.2.frame.slot, SlotUse.pendingAlarm)
  exact (hmap.append_left _).trans List.perm_middle

end Incidents

namespace Correlator

variable {c c' : Correlator} {events : List AlarmEvent} {slots : Nat} {held : List Buffer}

/-- The slot of a new record comes to the account. -/
theorem ledger_of_perm {incidents : Incidents} {site : Site} {entry : Nat × SlotUse}
    (h : site.pool.Ledger slots (entry :: (Pool.lent held ++ c.owned)))
    (hperm : incidents.owned.Perm (entry :: c.owned)) :
    site.pool.Ledger slots (Pool.lent held ++ incidents.owned) :=
  h.perm (List.perm_middle.symm.trans (hperm.symm.append_left _))

/-- The slot of a record that ends is given back. -/
theorem ledger_release {incidents : Incidents} {buffer : Buffer} {use : SlotUse}
    (h : c.site.pool.Ledger slots (Pool.lent held ++ c.owned))
    (hperm : c.owned.Perm ((buffer.slot, use) :: incidents.owned)) :
    (c.site.release buffer).pool.Ledger slots (Pool.lent held ++ incidents.owned) :=
  (h.perm ((hperm.append_left _).trans List.perm_middle)).release

/-- An act keeps the account. -/
theorem accounted_act (hact : c.Act events c') (h : c.Accounted slots held) :
    c'.Accounted slots held := by
  cases hact with
  | chore hchore => exact ⟨hchore.ledger h.ledger, h.faults, h.alarms⟩
  | tell event =>
    rw [Site.told_eq]
    exact ⟨h.ledger, h.faults, h.alarms⟩
  | refuse hpark => exact ⟨Site.ledger_park h.ledger hpark, h.faults, h.alarms⟩
  | beginFault awaiting hnew hpark =>
    have hparked := Site.ledger_park h.ledger hpark
    exact ⟨ledger_of_perm hparked (Incidents.owned_putFault hnew _),
      Table.nodup_keys_put h.faults hnew _, h.alarms⟩
  | beginAlarm hnew hpark =>
    have hparked := Site.ledger_park h.ledger hpark
    exact ⟨ledger_of_perm hparked (Incidents.owned_putAlarm hnew _), h.faults,
      Table.nodup_keys_put h.alarms hnew _⟩
  | endFault hget =>
    exact ⟨ledger_release h.ledger (Incidents.owned_eraseFault h.faults hget),
      Table.nodup_keys_erase h.faults _, h.alarms⟩
  | endAlarm hget =>
    exact ⟨ledger_release h.ledger (Incidents.owned_eraseAlarm h.alarms hget), h.faults,
      Table.nodup_keys_erase h.alarms _⟩

theorem accounted_acts (hacts : c.Acts events c') (h : c.Accounted slots held) :
    c'.Accounted slots held :=
  hacts.induct (P := fun c => c.Accounted slots held) (fun _ _ _ => accounted_act) h

end Correlator

/-! ### Runs -/

/-- The other users of the pool do nothing meanwhile. -/
def Move.Own : Move → Prop
  | .share _ => False
  | _ => True

namespace Engine

variable {engine : Engine} {slots : Nat} {held : List Buffer}

theorem own_of_mem_singles {move single : Move} (hown : move.Own)
    (h : single ∈ engine.singles move) : single.Own := by
  have hself (hmem : single ∈ [move]) : single.Own := List.mem_singleton.1 hmem ▸ hown
  cases move with
  | fireDue =>
    rw [List.eq_of_mem_replicate h]
    exact trivial
  | control operation =>
    cases operation with
    | deltas changes =>
      obtain ⟨delta, -, rfl⟩ := List.mem_map.1 h
      exact trivial
    | _ => exact hself h
  | _ => exact hself h

theorem accounted_expire (h : engine.correlator.Accounted slots held) :
    engine.expire.correlator.Accounted slots held := by
  obtain ⟨hnone, -⟩ | ⟨timer, rest, -, hacts⟩ := acts_expire engine
  · rw [hnone]
    exact h
  · have hpopped : (engine.popped rest).correlator.Accounted slots held :=
      ⟨h.ledger, h.faults, h.alarms⟩
    exact Correlator.accounted_acts hacts hpopped

theorem accounted_single {move : Move} (hsingle : move.Single) (hown : move.Own)
    (h : engine.correlator.Accounted slots held) :
    (engine.move move).correlator.Accounted slots held := by
  cases move with
  | expire => exact accounted_expire h
  | advance step => exact ⟨h.ledger, h.faults, h.alarms⟩
  | fireDue => exact hsingle.elim
  | share => exact hown.elim
  | _ => exact Correlator.accounted_acts (acts_move engine hsingle trivial) h

theorem accounted_moves {moves : List Move} (hmoves : ∀ move ∈ moves, move.Single ∧ move.Own)
    (h : engine.correlator.Accounted slots held) :
    (engine.moves moves).correlator.Accounted slots held := by
  induction moves generalizing engine with
  | nil => exact h
  | cons move moves ih =>
    obtain ⟨⟨hsingle, hown⟩, hrest⟩ := List.forall_mem_cons.1 hmoves
    exact ih hrest (accounted_single hsingle hown h)

/-- A move keeps the account, however many buffers the gateway looks for and does not get. -/
theorem accounted_move {move : Move} (hown : move.Own)
    (h : engine.correlator.Accounted slots held) :
    (engine.move move).correlator.Accounted slots held := by
  rw [← moves_singles]
  refine accounted_moves (fun single hmem => ?_) h
  exact ⟨single_of_mem_singles engine hmem, own_of_mem_singles hown hmem⟩

theorem accounted_release {buffer : Buffer}
    (h : engine.correlator.Accounted slots (buffer :: held)) :
    (engine.onSite fun site => site.release buffer).correlator.Accounted slots held :=
  ⟨h.ledger.release, h.faults, h.alarms⟩

/-- An engine starts with the account of its pool. -/
theorem accounted_started {pool : Pool} (h : pool.Ledger slots (Pool.lent held))
    (settings : Config.Settings) (platform : Shadow.Platform) (clock : Clock)
    (contention : List Bool) :
    (started settings platform pool clock contention).correlator.Accounted slots held := by
  refine Correlator.accounted_acts (acts_start _) ⟨?_, List.nodup_nil, List.nodup_nil⟩
  exact h.perm (.of_eq (List.append_nil _).symm)

end Engine

/-- The runs of an engine whose pool has other users, with the buffers that these hold now.  They
take and give back buffers between two steps, and give a buffer away with the frame in it. -/
inductive Shares (settings : Config.Settings) (slots : Nat) : Engine → List Buffer → Prop
  | start {pool : Pool} {held : List Buffer}
      (taken : ReflTransGen Pool.Lending (.ofSlots slots, []) (pool, held))
      (platform : Shadow.Platform) (clock : Clock) (contention : List Bool) :
      Shares settings slots (Engine.started settings platform pool clock contention) held
  | move {engine : Engine} {held : List Buffer} (move : Move) (own : move.Own)
      (shares : Shares settings slots engine held) : Shares settings slots (engine.move move) held
  | lend {engine : Engine} {held held' : List Buffer} {pool : Pool}
      (lending : Pool.Lending (engine.site.pool, held) (pool, held'))
      (shares : Shares settings slots engine held) :
      Shares settings slots (engine.move (.share pool)) held'
  | handle {engine : Engine} {frame : Buffer} {held : List Buffer}
      (shares : Shares settings slots engine (frame :: held)) :
      Shares settings slots (engine.handle (.received frame)) held

namespace Shares

variable {settings : Config.Settings} {slots : Nat} {engine : Engine} {held : List Buffer}

theorem reachable (h : Shares settings slots engine held) : Reachable settings engine := by
  induction h with
  | start _ platform clock contention => exact .start platform _ clock contention
  | move move _ _ ih => exact ih.move move
  | lend _ _ ih => exact ih.move _
  | @handle engine frame _ _ ih =>
    have hreceived := ih.move (.receive frame.content)
    exact hreceived.move (.share ((engine.receive frame.content).site.pool.release frame))

theorem ledger_of_lending {pool : Pool}
    (h : ReflTransGen Pool.Lending (.ofSlots slots, []) (pool, held)) :
    pool.Ledger slots (Pool.lent held) := by
  suffices ∀ shared, ReflTransGen Pool.Lending (.ofSlots slots, []) shared →
      shared.1.Ledger slots (Pool.lent shared.2 ++ []) by
    simpa using this _ h
  intro shared hshared
  induction hshared with
  | refl => exact Pool.ledger_ofSlots slots
  | tail _ hlending ih => exact ih.lending hlending

theorem accounted (h : Shares settings slots engine held) :
    engine.correlator.Accounted slots held := by
  induction h with
  | start taken platform clock contention =>
    exact Engine.accounted_started (ledger_of_lending taken) settings platform clock contention
  | move move own _ ih => exact Engine.accounted_move own ih
  | lend lending _ ih => exact ⟨ih.ledger.lending lending, ih.faults, ih.alarms⟩
  | @handle _ frame _ _ ih =>
    have own : (Move.receive frame.content).Own := trivial
    exact Engine.accounted_release (Engine.accounted_move own ih)

/-! ### Messages -/

/-- Messages that nobody deals with give their buffers back. -/
theorem discard {messages : List Message}
    (h : Shares settings slots engine (messages.filterMap Message.buffer? ++ held)) :
    Shares settings slots (engine.discard messages) held := by
  unfold Engine.discard
  generalize messages.filterMap Message.buffer? = buffers at h ⊢
  induction buffers generalizing engine with
  | nil => exact h
  | cons buffer buffers ih => exact ih (h.lend .giveBack)

/-- Once its messages are dealt with the engine has given back every buffer among them. -/
theorem run {messages : List Message}
    (h : Shares settings slots engine (messages.filterMap Message.buffer? ++ held)) :
    Shares settings slots (engine.run messages) held := by
  induction messages generalizing engine with
  | nil => exact h.move .fireDue trivial
  | cons message messages ih =>
    cases message with
    | received frame => exact ih (h.move .fireDue trivial).handle
    | control operation => exact ih ((h.move .fireDue trivial).move (.control operation) trivial)
    | shutdown => exact (h.move .fireDue trivial).discard

end Shares

/-! ### What the pool tells -/

/-- The pool counts the buffers that are held and the records that are pending, and the slots
beside them are free. -/
structure Engine.CountsSlots (engine : Engine) (slots : Nat) (held : List Buffer) : Prop where
  capacity : engine.site.pool.capacity = slots
  pendingFaults : engine.site.pool.usedFor .pendingFault = engine.incidents.faults.length
  pendingAlarms : engine.site.pool.usedFor .pendingAlarm = engine.incidents.alarms.length
  frames : engine.site.pool.usedFor .frame = held.length
  /-- There are slots for all of them. -/
  room : engine.incidents.faults.length + engine.incidents.alarms.length + held.length ≤ slots
  available : engine.site.pool.available =
    slots - engine.incidents.faults.length - engine.incidents.alarms.length - held.length
  oneFault : engine.incidents.faults.keys.Nodup
  oneAlarm : engine.incidents.alarms.keys.Nodup

theorem countP_lent (held : List Buffer) (use : SlotUse) :
    (Pool.lent held).countP (fun entry => entry.2 = use) =
      if use = .frame then held.length else 0 := by
  unfold Pool.lent
  rw [List.countP_map]
  split
  · next h =>
    rw [List.countP_eq_length.2 fun _ _ => by simp [h]]
  · next h =>
    rw [List.countP_eq_zero.2 fun _ _ => by simpa using Ne.symm h]

theorem countP_owned (incidents : Incidents) (use : SlotUse) :
    incidents.owned.countP (fun entry => entry.2 = use) =
      (if use = .pendingFault then incidents.faults.length else 0) +
        if use = .pendingAlarm then incidents.alarms.length else 0 := by
  unfold Incidents.owned
  rw [List.countP_append, List.countP_map, List.countP_map]
  cases use <;> simp [Function.comp_def]

/-- In every run the slots that are not free are those held by the other users of the pool and one
for each pending record, of which a device has at most one of a kind. -/
theorem Shares.countsSlots {settings : Config.Settings} {slots : Nat} {engine : Engine}
    {held : List Buffer} (h : Shares settings slots engine held) :
    engine.CountsSlots slots held := by
  obtain ⟨hledger, hfaults, halarms⟩ := h.accounted
  have hlength : (Pool.lent held ++ engine.incidents.owned).length =
      held.length + (engine.incidents.faults.length + engine.incidents.alarms.length) := by
    simp [Pool.lent, Incidents.owned]
  have htotal : engine.site.pool.available +
      (Pool.lent held ++ engine.incidents.owned).length = slots := hledger.available_add
  have hused (use : SlotUse) : engine.site.pool.usedFor use =
      (if use = .frame then held.length else 0) +
        ((if use = .pendingFault then engine.incidents.faults.length else 0) +
          if use = .pendingAlarm then engine.incidents.alarms.length else 0) := by
    have hcount := hledger.usedFor_eq use
    rw [List.countP_append, countP_lent, countP_owned] at hcount
    exact hcount
  refine ⟨hledger.capacity, ?_, ?_, ?_, ?_, ?_, hfaults, halarms⟩
  · simpa using hused .pendingFault
  · simpa using hused .pendingAlarm
  · simpa using hused .frame
  · omega
  · omega

/-- An engine that waits for both, while another user of the pool holds a buffer. -/
def waitingTwice : Engine :=
  (Engine.started {} askedDevices (Pool.ofSlots 10).acquire.2 { unix := 0 } []).moves
    [.receive [0x50, 1, 0, 0, 1, 0, 5, 1], .receive [0x71, 2, 0, 0, 0, 0, 0x0d, 6, 1]]

theorem shares_waitingTwice : Shares {} 10 waitingTwice [.fresh 0] := by
  have hstarted : Shares {} 10
      (Engine.started {} askedDevices (Pool.ofSlots 10).acquire.2 { unix := 0 } []) [.fresh 0] :=
    .start (.single (.take rfl)) _ _ _
  unfold waitingTwice
  rw [Engine.moves_cons, Engine.moves_cons, Engine.moves_nil]
  exact .move _ trivial (.move _ trivial hstarted)

/-- Of ten slots one is held, two hold reports, and seven are free. -/
theorem countsSlots_waitingTwice :
    waitingTwice.incidents.faults.length = 1 ∧ waitingTwice.incidents.alarms.length = 1 ∧
    waitingTwice.site.pool.usedFor .frame = 1 ∧ waitingTwice.site.pool.available = 7 := by
  have hcounts := Shares.countsSlots shares_waitingTwice
  have hfaults : waitingTwice.incidents.faults.length = 1 := by decide +kernel
  have halarms : waitingTwice.incidents.alarms.length = 1 := by decide +kernel
  refine ⟨hfaults, halarms, hcounts.frames, ?_⟩
  rw [hcounts.available, hfaults, halarms]
  rfl

end AlarmMesh.Gateway
