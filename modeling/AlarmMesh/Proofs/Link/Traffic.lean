import AlarmMesh.Proofs.Link.Sending

/-!
# Traffic over a link

While rounds of receiving go on, the peer queues wire frames, the consumer takes the frames it was
given, and whoever holds a buffer writes into it, lets it go or passes it to be sent; any of this at
any time.  A round is described once, by what becomes of the buffer that it takes, and from this
follows what every event leaves as it was: each slot is free or in one buffer, the frames that were
read are accounted for in order, and each buffer that was passed on is counted once.

* `contents`, `oversized` — what the wire frames of a peer amount to;
* `Driver.Round`, `Driver.round_receiveRound` — a round, told by the buffer that it takes;
* `Driver.Sends`, `Driver.sends_transmit` — what becomes of a buffer that is passed on;
* `Traffic`, `Traffic.Event`, `Traffic.step` — the link between its peer and its users;
* `Traffic.Sound`, `Traffic.Sound.step` — what an event keeps;
* `Traffic.Moves`, `Traffic.moves_step` — how the frames move through the link.
-/

namespace AlarmMesh.Link

open MemoryChannel (withoutTerminator)

/-! ### Wire frames -/

/-- A frame that is handed over: neither empty nor too long for a buffer. -/
def carried (frame : List UInt8) : Bool := 0 < frame.length && frame.length ≤ bufferCapacity

/-- A frame that is too long for a buffer. -/
def oversized (frame : List UInt8) : Bool := bufferCapacity < frame.length

/-- The frames that wire frames carry, in their order and without their escapes. -/
def contents (wires : List (List UInt8)) : List (List UInt8) :=
  ((wires.map withoutTerminator).filter carried).map unstuff

/-- How many wire frames are too long. -/
def overlong (wires : List (List UInt8)) : Nat := (wires.map withoutTerminator).countP oversized

theorem contents_append (wires more : List (List UInt8)) :
    contents (wires ++ more) = contents wires ++ contents more := by
  unfold contents
  rw [List.map_append, List.filter_append, List.map_append]

theorem overlong_append (wires more : List (List UInt8)) :
    overlong (wires ++ more) = overlong wires + overlong more := by
  unfold overlong
  rw [List.map_append, List.countP_append]

namespace Driver

variable {driver driver' : Driver}

/-! ### A round -/

/-- The buffer that a round takes, and the pool without it. -/
def Takes (driver : Driver) (buffer : Buffer) (pool : Pool) : Prop :=
  driver.spare = some buffer ∧ pool = driver.pool ∨
    driver.spare = none ∧ driver.pool.acquire = (some buffer, pool)

/-- What a round can do while a consumer is there. -/
inductive Round (driver : Driver) : Driver → Prop
  /-- There is no buffer for it. -/
  | starved (hspare : driver.spare = none) (hfree : driver.pool.free = []) :
      Round driver { driver with pool := driver.pool.acquire.2 }
  /-- There is nothing to read. -/
  | idle {buffer : Buffer} {pool : Pool} (htakes : driver.Takes buffer pool)
      (hinbound : driver.channel.inbound = []) :
      Round driver { driver with pool := pool, spare := some buffer }
  /-- An empty frame is read. -/
  | skipped {buffer : Buffer} {pool : Pool} {wire : List UInt8} {rest : List (List UInt8)}
      (htakes : driver.Takes buffer pool) (hinbound : driver.channel.inbound = wire :: rest)
      (hempty : withoutTerminator wire = []) :
      Round driver { driver with
        channel := { driver.channel with inbound := rest }
        pool := pool, spare := some buffer.clear }
  /-- A frame is read and handed over. -/
  | delivered {buffer received : Buffer} {pool : Pool} {wire : List UInt8}
      {rest : List (List UInt8)} (htakes : driver.Takes buffer pool)
      (hinbound : driver.channel.inbound = wire :: rest)
      (hcarried : carried (withoutTerminator wire)) (hslot : received.slot = buffer.slot)
      (htag : received.tag = buffer.tag) (hfits : received.Fits)
      (hcontent : received.content = unstuff (withoutTerminator wire)) :
      Round driver { driver with
        channel := { driver.channel with inbound := rest }
        pool := pool, spare := none, queue := driver.queue ++ [received]
        tally := .frameReceived :: driver.tally, sizes := driver.sizes ++ [received.length] }
  /-- A frame is too long, and is lost. -/
  | failed {buffer : Buffer} {pool : Pool} {wire : List UInt8} {rest : List (List UInt8)}
      (htakes : driver.Takes buffer pool) (hinbound : driver.channel.inbound = wire :: rest)
      (hlong : oversized (withoutTerminator wire)) :
      Round driver { driver with
        channel := { driver.channel with inbound := rest }
        pool := pool, spare := some buffer.clear, tally := .ioError .receive :: driver.tally }

/-- A round that has its buffer reads into it. -/
theorem round_readInto {buffer : Buffer} {pool : Pool} (hconsumer : driver.consumer = true)
    (htakes : driver.Takes buffer pool) (hfits : buffer.Fits) {wire : List UInt8}
    {rest : List (List UInt8)} (hinbound : driver.channel.inbound = wire :: rest) :
    driver.Round ({ driver with pool := pool, spare := none }.readInto buffer) := by
  have hread : driver.channel.readFrame bufferCapacity =
      (if bufferCapacity < (withoutTerminator wire).length then
          .error (.tooLong (withoutTerminator wire).length bufferCapacity)
        else .ok (withoutTerminator wire),
        { driver.channel with inbound := rest }) := by
    unfold MemoryChannel.readFrame
    rw [hinbound]
  unfold readInto
  dsimp only
  rw [hread]
  by_cases hlong : bufferCapacity < (withoutTerminator wire).length
  · rw [if_pos hlong]
    exact .failed htakes hinbound (decide_eq_true hlong)
  · rw [if_neg hlong]
    rcases hframe : withoutTerminator wire with _ | ⟨b, more⟩
    · exact .skipped htakes hinbound hframe
    · have hroom : (b :: more).length ≤ bufferCapacity := by
        rw [← hframe]
        exact Nat.le_of_not_lt hlong
      obtain ⟨hreceived, hcontent⟩ := hfits.content_read hroom
      have hcarried : carried (withoutTerminator wire) := by
        rw [hframe]
        simpa [carried] using hroom
      have hslot : ((buffer.clear.store 0 (b :: more)).setLength
        (b :: more).length).unescape.slot = buffer.slot := rfl
      have htag : ((buffer.clear.store 0 (b :: more)).setLength
        (b :: more).length).unescape.tag = buffer.tag := rfl
      dsimp only
      generalize ((buffer.clear.store 0 (b :: more)).setLength
        (b :: more).length).unescape = received at hreceived hcontent hslot htag ⊢
      rw [← hframe] at hcontent
      have hdelivered := Round.delivered htakes hinbound hcarried hslot htag hreceived hcontent
      simpa only [deliver, hconsumer, if_true] using hdelivered

/-- What a round does, if a buffer that was left to it is a slot with its bytes. -/
theorem round_receiveRound (hrunning : driver.running = true) (hconsumer : driver.consumer = true)
    (hspare : ∀ buffer ∈ driver.spare, buffer.Fits) : driver.Round driver.receiveRound := by
  -- the round with its buffer, wherever that comes from
  have hround : ∀ buffer pool, driver.Takes buffer pool → buffer.Fits →
      driver.Round (if driver.channel.ready then
          { driver with pool := pool, spare := none }.readInto buffer
        else { driver with pool := pool, spare := some buffer }) := by
    intro buffer pool htakes hfits
    rcases hinbound : driver.channel.inbound with _ | ⟨wire, rest⟩
    · rw [if_neg (by simp [MemoryChannel.ready, hinbound])]
      exact .idle htakes hinbound
    · rw [if_pos (by simp [MemoryChannel.ready, hinbound])]
      exact round_readInto hconsumer htakes hfits hinbound
  unfold receiveRound
  rw [if_pos hrunning]
  rcases hbuffer : driver.spare with _ | buffer
  · rcases hacquire : driver.pool.acquire with ⟨_ | buffer, pool⟩
    · have hfree : driver.pool.free = [] := by
        unfold Pool.acquire at hacquire
        split at hacquire
        · assumption
        · simp at hacquire
      have hstarved := Round.starved hbuffer hfree
      simpa only [takeBuffer, hbuffer, hacquire] using hstarved
    · have hfits : buffer.Fits :=
        (Pool.hands_acquire.handed driver.pool buffer (by rw [hacquire])).1
      have htaken := hround buffer pool (.inr ⟨hbuffer, hacquire⟩) hfits
      simpa only [takeBuffer, hbuffer, hacquire] using htaken
  · have hfits : buffer.Fits := hspare buffer (by simp [hbuffer])
    have htaken := hround buffer driver.pool (.inl ⟨hbuffer, rfl⟩) hfits
    simpa only [takeBuffer, hbuffer] using htaken

/-! ### Sending -/

/-- What can become of a buffer that is passed on, as it is counted. -/
def outcomes : List Metric.Counter := [.frameSent, .sendOverflow, .ioError .transmit]

/-- A buffer that is passed on is counted once, as one of the outcomes, and its slot is free. -/
structure Sends (driver : Driver) (buffer : Buffer) (driver' : Driver) : Prop where
  counted : ∃ outcome ∈ outcomes, driver'.tally = outcome :: driver.tally
  pool : driver'.pool = driver.pool.release buffer
  released : ∀ slots use owned, driver.pool.Ledger slots ((buffer.slot, use) :: owned) →
    driver'.pool.Ledger slots owned ∧ buffer.slot ∈ driver'.pool.free
  /-- The other direction goes on as before. -/
  inbound : driver'.channel.inbound = driver.channel.inbound
  peer : driver'.channel.peer = driver.channel.peer
  spare : driver'.spare = driver.spare
  queue : driver'.queue = driver.queue
  consumer : driver'.consumer = driver.consumer
  running : driver'.running = driver.running
  sizes : driver'.sizes = driver.sizes

theorem sends_of_eq {buffer : Buffer} {channel : MemoryChannel} {outcome : Metric.Counter}
    (houtcome : outcome ∈ outcomes) (hinbound : channel.inbound = driver.channel.inbound)
    (hpeer : channel.peer = driver.channel.peer) :
    driver.Sends buffer { driver with
      channel := channel, pool := driver.pool.release buffer
      tally := outcome :: driver.tally } where
  counted := ⟨outcome, houtcome, rfl⟩
  pool := rfl
  released slots use owned hledger := by
    refine ⟨hledger.release, ?_⟩
    rw [hledger.free_release]
    exact List.mem_cons_self
  inbound := hinbound
  peer := hpeer
  spare := rfl
  queue := rfl
  consumer := rfl
  running := rfl
  sizes := rfl

/-- Whatever becomes of a buffer that is passed on, it is counted and its slot is free. -/
theorem sends_transmit (driver : Driver) (buffer : Buffer) :
    driver.Sends buffer (driver.transmit buffer) := by
  unfold transmit
  rcases hescape : buffer.escape? with _ | stuffed
  · rw [Pool.escape_of_none hescape]
    exact sends_of_eq (by simp [outcomes]) rfl rfl
  · have hstuffed : stuffed.slot = buffer.slot := (Buffer.slot_escape hescape).1
    rw [Pool.escape_of_some hescape]
    dsimp only
    rcases hpush : stuffed.push? flag with _ | wire
    · dsimp only
      rw [Pool.release_congr hstuffed]
      exact sends_of_eq (by simp [outcomes]) rfl rfl
    · have hwire : wire.slot = stuffed.slot := by
        unfold Buffer.push? Buffer.extend? at hpush
        split at hpush
        · simp at hpush
        · obtain rfl := Option.some.inj hpush
          rfl
      dsimp only
      rw [Pool.release_congr (hwire.trans hstuffed)]
      unfold MemoryChannel.writeFrame
      split
      · next channel hwrite =>
        have hsent : channel.inbound = driver.channel.inbound ∧
            channel.peer = driver.channel.peer := by
          split_ifs at hwrite
          obtain rfl := Except.ok.inj hwrite
          exact ⟨rfl, rfl⟩
        exact sends_of_eq (by simp [outcomes]) hsent.1 hsent.2
      · exact sends_of_eq (by simp [outcomes]) rfl rfl

end Driver

/-! ### Buffers outside and inside the link -/

namespace Holding

variable {holding : Holding} {slots : Nat} {pool : Pool} {held held' rest : List Buffer}
  {buffer buffer' : Buffer}

/-- The order of what is held does not matter. -/
theorem Sound.perm (h : (⟨pool, held⟩ : Holding).Sound slots) (hperm : held.Perm held') :
    (⟨pool, held'⟩ : Holding).Sound slots where
  ledger := h.ledger.perm (hperm.map _)
  fits other hother := h.fits other (hperm.mem_iff.2 hother)
  gauge := by
    rcases h.gauge with hgauge | ⟨hgauge, hnone⟩
    · exact .inl (hgauge.trans (congrArg some hperm.length_eq))
    · refine .inr ⟨hgauge, ?_⟩
      obtain rfl : held = [] := hnone
      exact hperm.symm.eq_nil

/-- A buffer is exchanged for another with its slot and its tag. -/
theorem Sound.exchange (h : (⟨pool, buffer :: rest⟩ : Holding).Sound slots)
    (hslot : buffer'.slot = buffer.slot) (htag : buffer'.tag = buffer.tag)
    (hfits : buffer'.Fits) : (⟨pool, buffer' :: rest⟩ : Holding).Sound slots := by
  have hplace : (⟨pool, buffer :: rest⟩ : Holding).held[0]? = some buffer := rfl
  refine (h.changed hplace hfits ?_ rfl).sound
  rw [hslot, htag]
  exact h.ledger_at hplace

/-- A buffer is given back. -/
theorem Sound.giveBack (h : (⟨pool, buffer :: rest⟩ : Holding).Sound slots) :
    (⟨pool.release buffer, rest⟩ : Holding).Sound slots :=
  (@Sound.released ⟨pool, buffer :: rest⟩ slots h 0 buffer rfl).sound

theorem Sound.took_append {take : Pool → Option Buffer × Pool}
    (h : (⟨pool, held ++ rest⟩ : Holding).Sound slots) (htake : Pool.Hands take) :
    (⟨((⟨pool, held⟩ : Holding).took (take pool)).pool,
      ((⟨pool, held⟩ : Holding).took (take pool)).held ++ rest⟩ : Holding).Sound slots := by
  have htook := (h.took htake).sound
  unfold Holding.took at htook ⊢
  rw [← List.append_assoc] at htook
  exact htook

/-- To change a buffer that is held is to change it among all of them. -/
theorem Sound.atPlace_append (h : (⟨pool, held ++ rest⟩ : Holding).Sound slots) (place : Nat)
    {act : Buffer → Option Buffer × Pool} (hact : ∀ buffer, Handles pool buffer (act buffer)) :
    (⟨((⟨pool, held⟩ : Holding).atPlace place act).pool,
      ((⟨pool, held⟩ : Holding).atPlace place act).held ++ rest⟩ : Holding).Sound slots := by
  have hall := (h.atPlace place hact).sound
  unfold Holding.atPlace at hall ⊢
  rcases hplace : held[place]? with _ | buffer
  · exact h
  · obtain ⟨hlt, -⟩ := List.getElem?_eq_some_iff.1 hplace
    simp only [List.getElem?_append_left hlt, hplace] at hall
    dsimp only
    generalize act buffer = acted at hall ⊢
    rcases acted with ⟨_ | changed, after⟩
    · simpa only [List.eraseIdx_append_of_lt_length hlt] using hall
    · simpa only [List.set_append_left _ _ hlt] using hall

/-- What is done with some of the buffers keeps the ledger of all. -/
theorem Sound.deed_append (h : (⟨pool, held ++ rest⟩ : Holding).Sound slots) (deed : Deed) :
    (⟨((⟨pool, held⟩ : Holding).deed deed).pool,
      ((⟨pool, held⟩ : Holding).deed deed).held ++ rest⟩ : Holding).Sound slots := by
  cases deed with
  | acquire => exact h.took_append Pool.hands_acquire
  | acquireWith bytes => exact h.took_append (Pool.hands_acquireWith bytes)
  | acquireFor command => exact h.took_append (Pool.hands_acquireFor command)
  | retag place use => exact h.atPlace_append place fun _ => .retag use
  | write place writing =>
    exact h.atPlace_append place fun buffer => handles_written buffer writing
  | escape place => exact h.atPlace_append place fun buffer => handles_escape buffer
  | release place => exact h.atPlace_append place fun _ => .letGo

end Holding

/-! ### The link between its peer and its users -/

/-- A link, and what happened around it. -/
structure Traffic where
  driver : Driver
  /-- Buffers in the hands of the consumer and of whoever sends. -/
  held : List Buffer := []
  /-- Wire frames that the peer has queued, oldest first. -/
  wires : List (List UInt8) := []
  /-- Frames that the consumer has taken, oldest first. -/
  taken : List (List UInt8) := []
  /-- How many buffers were passed on to be sent. -/
  passed : Nat := 0

namespace Traffic

/-- What happens. -/
inductive Event where
  /-- The peer queues a wire frame. -/
  | arrive (wire : List UInt8)
  /-- The peer goes away. -/
  | leave
  | round
  /-- The consumer takes the oldest frame that it was given. -/
  | take
  /-- Something is done with the pool, or with a buffer that is held. -/
  | deed (deed : Holding.Deed)
  /-- The buffer at a place among those held is passed on to be sent. -/
  | transmit (place : Nat)

/-- The link afterwards. -/
def step (traffic : Traffic) : Event → Traffic
  | .arrive wire =>
    { traffic with
      driver.channel := traffic.driver.channel.send wire
      wires := traffic.wires ++ if traffic.driver.channel.peer then [wire] else [] }
  | .leave => { traffic with driver.channel := traffic.driver.channel.dropPeer }
  | .round => { traffic with driver := traffic.driver.receiveRound }
  | .take =>
    match traffic.driver.queue with
    | [] => traffic
    | buffer :: rest =>
      { traffic with
        driver.queue := rest
        held := traffic.held ++ [buffer], taken := traffic.taken ++ [buffer.content] }
  | .deed deed =>
    let after := (⟨traffic.driver.pool, traffic.held⟩ : Holding).deed deed
    { traffic with driver.pool := after.pool, held := after.held }
  | .transmit place =>
    match traffic.held[place]? with
    | none => traffic
    | some buffer =>
      { traffic with
        driver := traffic.driver.transmit buffer
        held := traffic.held.eraseIdx place, passed := traffic.passed + 1 }

/-- The start: every slot is free and nothing was queued. -/
def start (slots : Nat) : Traffic := { driver := { pool := .ofSlots slots } }

/-- The link after the first events of a schedule. -/
def after (slots : Nat) (schedule : Nat → Event) : Nat → Traffic
  | 0 => start slots
  | n + 1 => (after slots schedule n).step (schedule n)

variable {traffic traffic' traffic'' : Traffic} {slots : Nat}

theorem step_take_nil (h : traffic.driver.queue = []) : traffic.step .take = traffic := by
  unfold step
  simp only [h]

theorem step_take_cons {buffer : Buffer} {rest : List Buffer}
    (h : traffic.driver.queue = buffer :: rest) :
    traffic.step .take = { traffic with
      driver.queue := rest
      held := traffic.held ++ [buffer], taken := traffic.taken ++ [buffer.content] } := by
  unfold step
  simp only [h]

theorem step_transmit_none {place : Nat} (h : traffic.held[place]? = none) :
    traffic.step (.transmit place) = traffic := by
  unfold step
  simp only [h]

theorem step_transmit_some {place : Nat} {buffer : Buffer}
    (h : traffic.held[place]? = some buffer) :
    traffic.step (.transmit place) = { traffic with
      driver := traffic.driver.transmit buffer
      held := traffic.held.eraseIdx place, passed := traffic.passed + 1 } := by
  unfold step
  simp only [h]

/-- The buffers that the consumer has not released, and those of the senders. -/
def out (traffic : Traffic) : List Buffer := traffic.held ++ traffic.driver.queue

/-- The pool with every buffer that is not free. -/
def holding (traffic : Traffic) : Holding :=
  ⟨traffic.driver.pool, traffic.out ++ traffic.driver.spare.toList⟩

/-! ### Each slot is free or in one buffer -/

/-- The link receives, and each slot is free or in one buffer. -/
structure Sound (traffic : Traffic) (slots : Nat) : Prop where
  running : traffic.driver.running = true
  consumer : traffic.driver.consumer = true
  holding : traffic.holding.Sound slots

theorem Sound.start (slots : Nat) : (start slots).Sound slots :=
  ⟨rfl, rfl, Holding.Sound.ofSlots slots⟩

/-- A round takes the buffer that was left to it, or takes one from the pool. -/
theorem Sound.takes (h : traffic.Sound slots) {buffer : Buffer} {pool : Pool}
    (htakes : traffic.driver.Takes buffer pool) :
    (⟨pool, buffer :: traffic.out⟩ : Holding).Sound slots := by
  have hholding : (⟨traffic.driver.pool, traffic.out ++ traffic.driver.spare.toList⟩ :
    Holding).Sound slots := h.holding
  rcases htakes with ⟨hspare, rfl⟩ | ⟨hspare, hacquire⟩
  · rw [hspare] at hholding
    exact hholding.perm List.perm_append_comm
  · rw [hspare, Option.toList_none, List.append_nil] at hholding
    have htook := (hholding.took Pool.hands_acquire).sound
    unfold Holding.took at htook
    dsimp only at htook
    rw [hacquire] at htook
    exact htook

/-- A round, told by the buffer that it takes. -/
theorem Sound.round (h : traffic.Sound slots) :
    traffic.driver.Round traffic.driver.receiveRound := by
  refine Driver.round_receiveRound h.running h.consumer ?_
  intro buffer hbuffer
  apply h.holding.fits
  simp [Traffic.holding, Option.mem_def.1 hbuffer]

theorem Sound.step_round (h : traffic.Sound slots) : (traffic.step .round).Sound slots := by
  have hround := h.round
  -- the buffer of this round, left to the next one
  have hleft : ∀ {buffer : Buffer} {pool : Pool},
      (⟨pool, buffer :: traffic.out⟩ : Holding).Sound slots →
      (⟨pool, traffic.out ++ (some buffer).toList⟩ : Holding).Sound slots := by
    intro buffer pool hholding
    exact hholding.perm (List.perm_append_singleton buffer traffic.out).symm
  show ({ traffic with driver := traffic.driver.receiveRound } : Traffic).Sound slots
  generalize traffic.driver.receiveRound = driver at hround ⊢
  cases hround with
  | starved hspare hfree =>
    refine ⟨h.running, h.consumer, ?_⟩
    have hnone : traffic.driver.pool.acquire.1 = none := by simp [Pool.acquire, hfree]
    have htook := (h.holding.took Pool.hands_acquire).sound
    unfold Holding.took Traffic.holding at htook
    dsimp only at htook
    rw [hnone] at htook
    exact htook
  | idle htakes => exact ⟨h.running, h.consumer, hleft (h.takes htakes)⟩
  | skipped htakes | failed htakes =>
    have hbuffer := h.takes htakes
    have hfits := hbuffer.fits _ List.mem_cons_self
    exact ⟨h.running, h.consumer,
      hleft (hbuffer.exchange rfl rfl ⟨hfits.storage, Nat.zero_le _⟩)⟩
  | delivered htakes _ _ hslot htag hreceived =>
    have hqueued := hleft ((h.takes htakes).exchange hslot htag hreceived)
    refine ⟨h.running, h.consumer, ?_⟩
    simpa [Traffic.holding, out] using hqueued

/-- What any event leaves. -/
theorem Sound.step (h : traffic.Sound slots) (event : Event) :
    (traffic.step event).Sound slots := by
  cases event with
  | arrive wire => exact ⟨h.running, h.consumer, h.holding⟩
  | leave => exact ⟨h.running, h.consumer, h.holding⟩
  | round => exact h.step_round
  | take =>
    rcases hqueue : traffic.driver.queue with _ | ⟨buffer, rest⟩
    · rw [step_take_nil hqueue]
      exact h
    · rw [step_take_cons hqueue]
      refine ⟨h.running, h.consumer, ?_⟩
      have hholding := h.holding
      unfold Traffic.holding out at hholding ⊢
      rw [hqueue] at hholding
      simpa using hholding
  | deed deed =>
    refine ⟨h.running, h.consumer, ?_⟩
    have hholding := h.holding
    unfold Traffic.holding out at hholding ⊢
    rw [List.append_assoc] at hholding ⊢
    exact hholding.deed_append deed
  | transmit place =>
    rcases hplace : traffic.held[place]? with _ | buffer
    · rw [step_transmit_none hplace]
      exact h
    · rw [step_transmit_some hplace]
      have hsends := traffic.driver.sends_transmit buffer
      obtain ⟨hlt, hbuffer⟩ := List.getElem?_eq_some_iff.1 hplace
      refine ⟨hsends.running.trans h.running, hsends.consumer.trans h.consumer, ?_⟩
      have hholding := h.holding
      unfold Traffic.holding out at hholding ⊢
      dsimp only
      rw [hsends.pool, hsends.spare, hsends.queue]
      rw [List.append_assoc] at hholding ⊢
      refine (hholding.perm ?_).giveBack
      have hperm := (List.getElem_cons_eraseIdx_perm hlt).symm
      rw [hbuffer] at hperm
      exact hperm.append_right _

theorem Sound.after (slots : Nat) (schedule : Nat → Event) (n : Nat) :
    (after slots schedule n).Sound slots := by
  induction n with
  | zero => exact .start slots
  | succ n ih => exact ih.step (schedule n)

/-! ### How frames move through the link -/

/-- How often a buffer that was passed on has been counted. -/
def counted (tally : Metric.Tally) : Nat :=
  tally.value .frameSent + tally.value .sendOverflow + tally.value (.ioError .transmit)

/-- The wire frames `queued` came in and the wire frames `read` were read meanwhile, of what was
there; what was read is in the queue or taken, and counted. -/
structure Moved (traffic traffic' : Traffic) (queued read : List (List UInt8)) : Prop where
  wires : traffic'.wires = traffic.wires ++ queued
  inbound : traffic.driver.channel.inbound ++ queued = read ++ traffic'.driver.channel.inbound
  /-- The frames that were taken come from the front of the queue, those that were read go to its
  end. -/
  queue : ∃ taken added, traffic.driver.queue ++ added = taken ++ traffic'.driver.queue ∧
    traffic'.taken = traffic.taken ++ taken.map Buffer.content ∧
      added.map Buffer.content = contents read
  received : traffic'.driver.tally.value .frameReceived =
    traffic.driver.tally.value .frameReceived + (contents read).length
  failed : traffic'.driver.tally.value (.ioError .receive) =
    traffic.driver.tally.value (.ioError .receive) + overlong read
  sizes : traffic'.driver.sizes = traffic.driver.sizes ++ (contents read).map List.length
  sent : counted traffic'.driver.tally + traffic.passed =
    counted traffic.driver.tally + traffic'.passed

/-- The frames move through the link. -/
def Moves (traffic traffic' : Traffic) : Prop := ∃ queued read, traffic.Moved traffic' queued read

theorem Moved.trans {queued queued' read read' : List (List UInt8)}
    (h : traffic.Moved traffic' queued read) (h' : traffic'.Moved traffic'' queued' read') :
    traffic.Moved traffic'' (queued ++ queued') (read ++ read') where
  wires := by rw [h'.wires, h.wires, List.append_assoc]
  inbound := by
    rw [← List.append_assoc, h.inbound, List.append_assoc, h'.inbound, List.append_assoc]
  queue := by
    obtain ⟨taken, added, hqueue, htaken, hadded⟩ := h.queue
    obtain ⟨taken', added', hqueue', htaken', hadded'⟩ := h'.queue
    refine ⟨taken ++ taken', added ++ added', ?_, ?_, ?_⟩
    · rw [← List.append_assoc, hqueue, List.append_assoc, hqueue', List.append_assoc]
    · rw [htaken', htaken, List.map_append, List.append_assoc]
    · rw [List.map_append, contents_append, hadded, hadded']
  received := by
    rw [h'.received, h.received, contents_append, List.length_append, Nat.add_assoc]
  failed := by rw [h'.failed, h.failed, overlong_append, Nat.add_assoc]
  sizes := by rw [h'.sizes, h.sizes, contents_append, List.map_append, List.append_assoc]
  sent := by
    have hsent := h.sent
    have hsent' := h'.sent
    omega

/-- Nothing moves where only the pool, or what is done outside the link, is another. -/
theorem moved_of_eq (hwires : traffic'.wires = traffic.wires)
    (hinbound : traffic'.driver.channel.inbound = traffic.driver.channel.inbound)
    (hqueue : traffic'.driver.queue = traffic.driver.queue)
    (htaken : traffic'.taken = traffic.taken)
    (hreceived : traffic'.driver.tally.value .frameReceived =
      traffic.driver.tally.value .frameReceived)
    (hfailed : traffic'.driver.tally.value (.ioError .receive) =
      traffic.driver.tally.value (.ioError .receive))
    (hsizes : traffic'.driver.sizes = traffic.driver.sizes)
    (hsent : counted traffic'.driver.tally + traffic.passed =
      counted traffic.driver.tally + traffic'.passed) :
    traffic.Moved traffic' [] [] where
  wires := by rw [hwires, List.append_nil]
  inbound := by rw [hinbound, List.append_nil, List.nil_append]
  queue := ⟨[], [], by rw [hqueue, List.append_nil, List.nil_append], by simp [htaken], rfl⟩
  received := hreceived
  failed := hfailed
  sizes := by simp [hsizes, contents]
  sent := hsent

/-- A round reads a wire frame, and gives what it carries to the consumer. -/
theorem moved_read {driver : Driver} {wire : List UInt8} {added : List Buffer}
    (hinbound : traffic.driver.channel.inbound = wire :: driver.channel.inbound)
    (hqueue : driver.queue = traffic.driver.queue ++ added)
    (hadded : added.map Buffer.content = contents [wire])
    (hreceived : driver.tally.value .frameReceived =
      traffic.driver.tally.value .frameReceived + added.length)
    (hfailed : driver.tally.value (.ioError .receive) =
      traffic.driver.tally.value (.ioError .receive) + overlong [wire])
    (hsizes : driver.sizes = traffic.driver.sizes ++ (added.map Buffer.content).map List.length)
    (hsent : counted driver.tally = counted traffic.driver.tally) :
    traffic.Moved { traffic with driver := driver } [] [wire] where
  wires := (List.append_nil _).symm
  inbound := by rw [hinbound, List.append_nil, List.singleton_append]
  queue := ⟨[], added, hqueue.symm, (List.append_nil _).symm, hadded⟩
  received := by rw [← hadded, List.length_map, hreceived]
  failed := hfailed
  sizes := by rw [← hadded, hsizes]
  sent := congrArg (· + traffic.passed) hsent

/-- A round moves the next wire frame, if there is one and a buffer for it. -/
theorem Sound.moves_round (h : traffic.Sound slots) : traffic.Moves (traffic.step .round) := by
  have hround := h.round
  show traffic.Moves { traffic with driver := traffic.driver.receiveRound }
  generalize traffic.driver.receiveRound = driver at hround ⊢
  cases hround with
  | starved => exact ⟨[], [], moved_of_eq rfl rfl rfl rfl rfl rfl rfl rfl⟩
  | idle => exact ⟨[], [], moved_of_eq rfl rfl rfl rfl rfl rfl rfl rfl⟩
  | @skipped _ _ wire _ _ hinbound hempty =>
    have hcontents : contents [wire] = [] := by simp [contents, hempty, carried]
    have hoverlong : overlong [wire] = 0 := by simp [overlong, hempty, oversized]
    refine ⟨[], [wire], moved_read hinbound (List.append_nil _).symm hcontents.symm rfl ?_
      (List.append_nil _).symm rfl⟩
    rw [hoverlong]
    rfl
  | @delivered _ received _ wire _ _ hinbound hcarried _ _ hfits hcontent =>
    have hframe : 0 < (withoutTerminator wire).length ∧
        (withoutTerminator wire).length ≤ bufferCapacity := by simpa [carried] using hcarried
    have hcontents : contents [wire] = [received.content] := by
      simp [contents, hcarried, hcontent]
    have hoverlong : overlong [wire] = 0 := by simp [overlong, oversized, hframe.2]
    refine ⟨[], [wire], moved_read hinbound rfl hcontents.symm ?_ ?_ ?_ ?_⟩
    · exact List.count_cons_self
    · rw [hoverlong]
      exact List.count_cons_of_ne (by decide)
    · rw [List.map_singleton, List.map_singleton, hfits.length_content]
    · simp [counted, Metric.Tally.value]
  | @failed _ _ wire _ _ hinbound hlong =>
    have hframe : bufferCapacity < (withoutTerminator wire).length := by
      simpa [oversized] using hlong
    have hcontents : contents [wire] = [] := by simp [contents, carried, hframe]
    have hoverlong : overlong [wire] = 1 := by simp [overlong, hlong]
    refine ⟨[], [wire], moved_read hinbound (List.append_nil _).symm hcontents.symm ?_ ?_
      (List.append_nil _).symm ?_⟩
    · exact List.count_cons_of_ne (by decide)
    · rw [hoverlong]
      exact List.count_cons_self
    · simp [counted, Metric.Tally.value]

/-- Each buffer that is passed on is counted once. -/
theorem moved_transmit {place : Nat} {buffer : Buffer} (h : traffic.held[place]? = some buffer) :
    traffic.Moved (traffic.step (.transmit place)) [] [] := by
  rw [step_transmit_some h]
  have hsends := traffic.driver.sends_transmit buffer
  obtain ⟨outcome, houtcome, htally⟩ := hsends.counted
  have hother : ∀ counter, counter ∉ Driver.outcomes →
      (traffic.driver.transmit buffer).tally.value counter =
        traffic.driver.tally.value counter := by
    intro counter hcounter
    rw [htally]
    refine List.count_cons_of_ne ?_
    rintro rfl
    exact hcounter houtcome
  refine moved_of_eq rfl hsends.inbound hsends.queue rfl ?_ ?_ hsends.sizes ?_
  · exact hother .frameReceived (by simp [Driver.outcomes])
  · exact hother (.ioError .receive) (by simp [Driver.outcomes])
  · show counted (traffic.driver.transmit buffer).tally + traffic.passed =
      counted traffic.driver.tally + (traffic.passed + 1)
    rw [htally]
    simp only [Driver.outcomes, List.mem_cons, List.not_mem_nil, or_false] at houtcome
    rcases houtcome with rfl | rfl | rfl <;>
      simp [counted, Metric.Tally.value] <;> omega

/-- What any event moves. -/
theorem Sound.moves_step (h : traffic.Sound slots) (event : Event) :
    traffic.Moves (traffic.step event) := by
  have hstays : traffic.Moves traffic := ⟨[], [], moved_of_eq rfl rfl rfl rfl rfl rfl rfl rfl⟩
  cases event with
  | arrive wire =>
    by_cases hpeer : traffic.driver.channel.peer
    · have hchannel : (traffic.driver.channel.send wire).inbound =
          traffic.driver.channel.inbound ++ [wire] := by
        unfold MemoryChannel.send
        rw [if_pos hpeer]
      refine ⟨[wire], [], ?_, ?_, ⟨[], [], ?_, ?_, ?_⟩, rfl, rfl, ?_, rfl⟩
      · simp [Traffic.step, hpeer]
      · exact hchannel.symm
      · exact List.append_nil _
      · exact (List.append_nil _).symm
      · rfl
      · exact (List.append_nil _).symm
    · have hchannel : traffic.driver.channel.send wire = traffic.driver.channel := by
        unfold MemoryChannel.send
        rw [if_neg hpeer]
      refine ⟨[], [], moved_of_eq ?_ ?_ rfl rfl rfl rfl rfl rfl⟩
      · simp [Traffic.step, hpeer]
      · exact congrArg MemoryChannel.inbound hchannel
  | leave => exact ⟨[], [], moved_of_eq rfl rfl rfl rfl rfl rfl rfl rfl⟩
  | round => exact h.moves_round
  | take =>
    rcases hqueue : traffic.driver.queue with _ | ⟨buffer, rest⟩
    · rw [step_take_nil hqueue]
      exact hstays
    · rw [step_take_cons hqueue]
      refine ⟨[], [], (List.append_nil _).symm, ?_, ⟨[buffer], [], ?_, ?_, ?_⟩, rfl, rfl, ?_, rfl⟩
      · rw [List.append_nil, List.nil_append]
      · rw [hqueue, List.append_nil, List.singleton_append]
      · rfl
      · rfl
      · exact (List.append_nil _).symm
  | deed deed => exact ⟨[], [], moved_of_eq rfl rfl rfl rfl rfl rfl rfl rfl⟩
  | transmit place =>
    rcases hplace : traffic.held[place]? with _ | buffer
    · rw [step_transmit_none hplace]
      exact hstays
    · exact ⟨[], [], moved_transmit hplace⟩

/-- What moves in a run. -/
theorem moves_after (slots : Nat) (schedule : Nat → Event) {n m : Nat} (h : n ≤ m) :
    (after slots schedule n).Moves (after slots schedule m) := by
  induction h with
  | refl => exact ⟨[], [], moved_of_eq rfl rfl rfl rfl rfl rfl rfl rfl⟩
  | @step m _ ih =>
    obtain ⟨queued, read, hmoved⟩ := ih
    obtain ⟨queued', read', hstep⟩ := (Sound.after slots schedule m).moves_step (schedule m)
    exact ⟨_, _, hmoved.trans hstep⟩

end Traffic

end AlarmMesh.Link
