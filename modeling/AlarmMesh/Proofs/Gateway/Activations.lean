import AlarmMesh.Proofs.Gateway.FaultReport
import AlarmMesh.Proofs.Gateway.Verdict
import AlarmMesh.Proofs.Gateway.View
import AlarmMesh.Proofs.Shadow.Names

/-!
# How often a fault began

The sequence number of a fault counts how often it became active, from zero.  Events of many faults
of many devices are written in any order, so what is kept of one fault has to depend on its own
events alone.  It is an account that only an event of that fault moves: nothing as long as the fault
was never active, and then the number and the last state.

* `FaultCall`, `Site.writeCall` — a call that writes an event, made at its time;
* `FaultAccount.next`, `foldl_next_none` — the account, and what it comes to along a list of states;
* `Site.records_writeFault` — an event moves the account in the store;
* `Site.stored_writeCall_of_other` — that of another fault, or of another device, leaves it;
* `counts_activations` — what is stored after any calls;
* `not_counted_of_outage` — the calls to the shadow that have to succeed for that.
-/

namespace AlarmMesh.Gateway

open Radio (DeviceId)
open Shadow (Call FaultField Footprint Property Value faultName)

/-! ### Calls -/

/-- A call that writes an event of a fault, and the time at which it is made. -/
structure FaultCall where
  id : DeviceId
  active : Bool
  code : UInt8
  millivolts : Option UInt16 := none
  clock : Clock

/-- The call is about this fault of this device. -/
def FaultCall.isAbout (call : FaultCall) (id : DeviceId) (code : UInt8) : Bool :=
  call.id = id && call.code = code

/-- Make a call at its time. -/
def Site.writeCall (site : Site) (call : FaultCall) : Site :=
  { site with clock := call.clock }.writeFault call.id call.active call.code call.millivolts

/-- The states that calls give a fault of a device, one after the other. -/
def statesOf (id : DeviceId) (code : UInt8) (calls : List FaultCall) : List Bool :=
  (calls.filter fun call => call.isAbout id code).map FaultCall.active

/-- How often a fault that was active or not becomes active along a list of states. -/
def activations (was : Bool) : List Bool → Nat
  | [] => 0
  | active :: rest => (if active && !was then 1 else 0) + activations active rest

/-! ### The account of a fault -/

/-- What is kept of a fault that was active once. -/
structure FaultAccount where
  /-- How often it became active after the first time. -/
  seq : Int
  active : Bool

namespace FaultAccount

/-- The account after one more event; there is none before the fault was active. -/
def next (account : Option FaultAccount) (active : Bool) : Option FaultAccount :=
  match account with
  | some account =>
    some ⟨if active && !account.active then account.seq + 1 else account.seq, active⟩
  | none => if active then some ⟨0, true⟩ else none

theorem foldl_next_some (account : FaultAccount) (states : List Bool) :
    states.foldl next (some account) =
      some ⟨account.seq + activations account.active states,
        states.getLast?.getD account.active⟩ := by
  induction states generalizing account with
  | nil => simp [activations]
  | cons active rest ih =>
    rw [List.foldl_cons, next, ih, List.getLast?_cons]
    congr 2
    simp only [activations]
    split <;> push_cast <;> omega

/-- The first activation is not counted. -/
theorem foldl_next_none (states : List Bool) :
    states.foldl next none =
      if true ∈ states then
        some ⟨(activations false states : Int) - 1, states.getLast?.getD false⟩
      else none := by
  induction states with
  | nil => rfl
  | cons active rest ih =>
    cases active with
    | true =>
      rw [List.foldl_cons, next, if_pos rfl, foldl_next_some, if_pos List.mem_cons_self,
        List.getLast?_cons]
      have hcount : (activations false (true :: rest) : Int) - 1 = 0 + activations true rest := by
        rw [show activations false (true :: rest) = 1 + activations true rest from rfl]
        omega
      rw [hcount]
      rfl
    | false =>
      rw [List.foldl_cons, next, if_neg (by decide), ih]
      have hmem : true ∈ false :: rest ↔ true ∈ rest := by simp
      rw [if_congr hmem rfl rfl]
      split
      · next htrue =>
        have hlast : (false :: rest).getLast?.getD false = rest.getLast?.getD false := by
          rw [List.getLast?_cons]
          cases rest.getLast? <;> rfl
        rw [hlast]
        simp [activations]
      · rfl

end FaultAccount

namespace Site

variable {site site' : Site} {id : DeviceId} {code : UInt8} {property : Property} {value : Value}
  {account : Option FaultAccount} {call : FaultCall}

/-- The store has the state and the number of a fault as in the account. -/
structure Records (site : Site) (id : DeviceId) (code : UInt8) (account : Option FaultAccount) :
    Prop where
  state : site.stored id (.fault code .state) = account.map fun account => .bool account.active
  seq : site.stored id (.fault code .seq) = account.map fun account => .integer account.seq

theorem Records.congr (h : site.Records id code account)
    (hplatform : site'.platform = site.platform) : site'.Records id code account :=
  ⟨(stored_congr hplatform id _).trans h.state, (stored_congr hplatform id _).trans h.seq⟩

/-- The calls to the shadow that the account of a fault depends on. -/
def accountCalls (code : UInt8) : List (Call × Property) :=
  [(.getReported, .fault code .state), (.setReported, .fault code .state),
    (.getReported, .fault code .seq), (.setReported, .fault code .seq)]

/-! ### What an event writes -/

/-- An event writes the state, and the number behind it. -/
theorem records_reportGroup (h : site.Tracks id (accountCalls code)) (active : Bool)
    (seq time : Int) :
    (site.reportGroup id [(.fault code .state, .bool active), (.fault code .seq, .integer seq),
      (.fault code .time, .integer time)]).Records id code (some ⟨seq, active⟩) := by
  have hstate : site.Tracks id [(.setReported, .fault code .state)] :=
    ⟨h.1, fun call hcall => h.2 call (by simp_all [accountCalls])⟩
  have hseq : site.Tracks id [(.setReported, .fault code .seq)] :=
    ⟨h.1, fun call hcall => h.2 call (by simp_all [accountCalls])⟩
  refine ⟨stored_reportGroup hstate rfl (by simp), ?_⟩
  rw [reportGroup_cons hstate _ _]
  have hedits : site.Edits (sparing (.fault code .seq))
      (site.report id (.fault code .state) (.bool active)) :=
    edits_report _ (.inr (by simp [sparing])) _
  exact stored_reportGroup (hseq.edits hedits not_false) rfl (by simp)

theorem faultActive_of_records (h : site.Tracks id (accountCalls code))
    (hrecords : site.Records id code account) :
    site.faultActive id code = (account.map FaultAccount.active).getD false := by
  unfold faultActive
  rw [reported_eq_stored (h.2 (.getReported, .fault code .state) (by simp [accountCalls])),
    hrecords.state]
  cases account <;> rfl

theorem nextFaultSeq_of_records (h : site.Tracks id (accountCalls code))
    (hrecords : site.Records id code account) (begins : Bool) :
    site.nextFaultSeq id code begins =
      account.elim 0 fun account => if begins then account.seq + 1 else account.seq := by
  unfold nextFaultSeq
  rw [reported_eq_stored (h.2 (.getReported, .fault code .seq) (by simp [accountCalls])),
    hrecords.seq]
  cases account <;> rfl

/-- An event of a fault moves its account. -/
theorem records_writeFault (h : site.Tracks id (accountCalls code)) (hcode : isFaultCode code)
    (hrecords : site.Records id code account) (active : Bool) (millivolts : Option UInt16) :
    (site.writeFault id active code millivolts).Records id code
      (FaultAccount.next account active) := by
  unfold writeFault
  rw [if_neg (by simp [hcode]), faultActive_of_records h hrecords,
    nextFaultSeq_of_records h hrecords]
  split
  · next hnothing =>
    -- the fault was not active and is not, so that there is nothing to write
    obtain ⟨hwas, rfl⟩ : (account.map FaultAccount.active).getD false = false ∧ active = false := by
      simpa using hnothing
    cases account with
    | none => exact hrecords
    | some account =>
      obtain ⟨seq, was⟩ := account
      obtain rfl : was = false := hwas
      exact hrecords
  · next hevent =>
    have hnext : FaultAccount.next account active =
        some ⟨account.elim 0 fun account' =>
          if !(account.map FaultAccount.active).getD false then account'.seq + 1
          else account'.seq, active⟩ := by
      cases account with
      | none => cases active <;> simp [FaultAccount.next] at hevent ⊢
      | some account => cases active <;> simp_all [FaultAccount.next]
    rw [hnext]
    cases millivolts with
    | none => exact (records_reportGroup h active _ _).congr rfl
    | some raw =>
      have hmeasured : site.Edits (sparing (.fault code .state))
          (site.report id (.fault code .volts) (.ofNat (Device.centivolts raw))) :=
        edits_report _ (.inr (by simp [sparing])) _
      exact (records_reportGroup (h.edits hmeasured not_false) active _ _).congr rfl

/-! ### Calls -/

theorem tracks_writeCall {calls : List (Call × Property)} (h : site.Tracks id calls)
    (call : FaultCall) : (site.writeCall call).Tracks id calls := by
  let clocked : Site := { site with clock := call.clock }
  have hclocked : clocked.Tracks id calls := h.congr rfl
  exact hclocked.edits (f := reporting)
    (edits_writeFault clocked (fun _ => trivial) call.active call.millivolts) not_false

theorem records_writeCall (h : site.Tracks id (accountCalls code)) (hcode : isFaultCode code)
    (hrecords : site.Records id code account) (habout : call.isAbout id code) :
    (site.writeCall call).Records id code (FaultAccount.next account call.active) := by
  obtain ⟨rfl, rfl⟩ : call.id = id ∧ call.code = code := by
    simpa [FaultCall.isAbout] using habout
  let clocked : Site := { site with clock := call.clock }
  have hclocked : clocked.Tracks call.id (accountCalls call.code) := h.congr rfl
  exact records_writeFault hclocked hcode (hrecords.congr rfl) call.active call.millivolts

/-- A call that is about another fault, or about another device, leaves all that is kept of this
one. -/
theorem stored_writeCall_of_other (hother : ¬ call.isAbout id code) (field : FaultField) :
    (site.writeCall call).stored id (.fault code field) = site.stored id (.fault code field) := by
  let clocked : Site := { site with clock := call.clock }
  have hedits : clocked.Edits (sparingFault id code) (site.writeCall call) := by
    refine edits_writeFault clocked (fun field => ?_) call.active call.millivolts
    rintro ⟨hid, field', hfault⟩
    obtain ⟨hcode, -⟩ := Property.fault.inj hfault
    exact hother (by simp [FaultCall.isAbout, hid, hcode])
  exact stored_of_sparingFault hedits field

theorem records_writeCall_of_other (hrecords : site.Records id code account)
    (hother : ¬ call.isAbout id code) : (site.writeCall call).Records id code account :=
  ⟨(stored_writeCall_of_other hother .state).trans hrecords.state,
    (stored_writeCall_of_other hother .seq).trans hrecords.seq⟩

/-- After calls of any kind the store has the account of the states among them. -/
theorem records_foldl_writeCall (h : site.Tracks id (accountCalls code)) (hcode : isFaultCode code)
    (hrecords : site.Records id code account) (calls : List FaultCall) :
    (calls.foldl writeCall site).Records id code
      ((statesOf id code calls).foldl FaultAccount.next account) := by
  induction calls generalizing site account with
  | nil => exact hrecords
  | cons call calls ih =>
    have htracks := tracks_writeCall h call
    rw [List.foldl_cons]
    by_cases habout : call.isAbout id code
    · have hstates : statesOf id code (call :: calls) = call.active :: statesOf id code calls := by
        simp [statesOf, habout]
      rw [hstates, List.foldl_cons]
      exact ih htracks (records_writeCall h hcode hrecords habout)
    · have hstates : statesOf id code (call :: calls) = statesOf id code calls := by
        simp [statesOf, habout]
      rw [hstates]
      exact ih htracks (records_writeCall_of_other hrecords habout)

/-- What the store has under a name. -/
def named (site : Site) (id : DeviceId) (name : String) : Option Value :=
  site.stored id (.ofName name)

theorem named_faultName (site : Site) (id : DeviceId) (code : UInt8)
    (field : FaultField) :
    site.named id (faultName code field.suffix) = site.stored id (.fault code field) := by
  rw [named, Property.ofName_faultName]

end Site

open Site (accountCalls)

/-- Sequence numbers count activations.  Where nothing was kept of a fault before, there is nothing
after calls of which none says that it is active; otherwise the number is that of the times that it
became active, less the first, and the state is the last one.  What is kept of the fault moves with
its own calls only, whatever the others are about. -/
theorem counts_activations {site : Site} {id : DeviceId} {code : UInt8}
    (h : site.Tracks id (accountCalls code)) (hcode : Site.isFaultCode code)
    (hstate : site.named id (faultName code "state") = none)
    (hseq : site.named id (faultName code "seq") = none) (calls : List FaultCall) :
    let after := calls.foldl Site.writeCall site
    let states := statesOf id code calls
    after.named id (faultName code "seq") =
      (if true ∈ states then some (.integer (activations false states - 1)) else none) ∧
    after.named id (faultName code "state") =
      (if true ∈ states then states.getLast?.map .bool else none) ∧
    ∀ before call rest, calls = before ++ call :: rest → ¬ call.isAbout id code →
      ∀ field : FaultField,
        ((before ++ [call]).foldl Site.writeCall site).named id (faultName code field.suffix) =
          (before.foldl Site.writeCall site).named id (faultName code field.suffix) := by
  have hnone : site.Records id code none :=
    ⟨(site.named_faultName id code .state).symm.trans hstate,
      (site.named_faultName id code .seq).symm.trans hseq⟩
  have hrecords := Site.records_foldl_writeCall h hcode hnone calls
  rw [FaultAccount.foldl_next_none] at hrecords
  dsimp only
  refine ⟨?_, ?_, fun before call rest _ hother field => ?_⟩
  · refine (Site.named_faultName _ id code .seq).trans (hrecords.seq.trans ?_)
    split <;> rfl
  · refine (Site.named_faultName _ id code .state).trans (hrecords.state.trans ?_)
    split
    · next hactive =>
      have hlast := List.getLast?_eq_some_getLast (List.ne_nil_of_mem hactive)
      rw [hlast]
      rfl
    · rfl
  · rw [List.foldl_append, Site.named_faultName, Site.named_faultName]
    exact Site.stored_writeCall_of_other hother field

/-- A call for the mains of a device. -/
def mainsCall (id : Nat) (active : Bool) (unix : Int) : FaultCall :=
  { id := .ofNat id, active := active, code := FlagFault.mains.code, clock := { unix := unix } }

/-- The mains of the device at slot 6 fail, come back and fail again, and meanwhile those of its
neighbour do, and its own battery is low. -/
def mainsCalls : List FaultCall :=
  [mainsCall 6 true 1, mainsCall 7 true 2, mainsCall 6 true 3,
    { mainsCall 6 true 4 with code := FlagFault.detectorBattery.code, millivolts := some 2870 },
    mainsCall 6 false 5, mainsCall 7 false 6, mainsCall 6 true 7]

/-- They failed twice, which the number one stands for. -/
theorem counts_activations_mains :
    activations false (statesOf (.ofNat 6) FlagFault.mains.code mainsCalls) = 2 ∧
    (mainsCalls.foldl Site.writeCall joined.site).named (.ofNat 6) "flt94_seq" =
      some (.integer 1) := by
  have htracks : joined.site.Tracks (.ofNat 6) (accountCalls FlagFault.mains.code) := by
    decide +kernel
  have hcounts := counts_activations htracks (by decide) (by decide +kernel) (by decide +kernel)
    mainsCalls
  refine ⟨by decide, ?_⟩
  exact hcounts.1

/-- None of the four calls to the shadow can be spared: if one of them fails, the number is not that
of the activations. -/
theorem not_counted_of_outage :
    activations false (statesOf (.ofNat 6) FlagFault.mains.code mainsCalls) = 2 ∧
    ∀ call ∈ accountCalls FlagFault.mains.code,
      let site := (joined.without (call.1, some call.2)).site
      site.platform.isRegistered (.ofNat 6) ∧
      site.named (.ofNat 6) "flt94_state" = none ∧ site.named (.ofNat 6) "flt94_seq" = none ∧
      (mainsCalls.foldl Site.writeCall site).named (.ofNat 6) "flt94_seq" ≠ some (.integer 1) := by
  decide +kernel

end AlarmMesh.Gateway
