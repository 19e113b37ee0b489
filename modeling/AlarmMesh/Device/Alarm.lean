/-!
# Alarm readings

What the bytes of an alarm report and of a temperature reading mean.
-/

namespace AlarmMesh.Device

/-- The device is not in alarm. -/
def alarmInactive : Nat := 0

/-- The alarm sounds. -/
def alarmActive : Nat := 1

/-- The alarm was silenced. -/
def alarmSilenced : Nat := 2

/-- The alarm states of the status bytes that have one, from status 0 on. -/
def alarmStates : List Nat :=
  [1, 2, 3, 1, 4, 5, 1, 1, 6, 7, 1, 1, 8, 9, 1, 1, 10, 11, 1, 1, 12, 13]

/-- The alarm state of a status byte.  Every other status is an alarm that sounds. -/
def alarmState (status : UInt8) : Nat := alarmStates.getD status.toNat alarmActive

/-- The temperature of a raw reading in hundredths of a degree, toward zero.  The sensor has
79.9 degrees at zero and falls by 0.096 degrees a step. -/
def temperature (raw : UInt16) : Int :=
  ((79.9 - 0.096 * raw.toFloat) * 100.0).toInt32.toInt

/-- The voltage in hundredths of a volt. -/
def centivolts (millivolts : UInt16) : Nat := millivolts.toNat / 10

end AlarmMesh.Device
