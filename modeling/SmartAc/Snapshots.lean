import SmartAc.MonitorLines

/-!
# A diagnostic line while a sample is recorded: `app_dht22.c`

| here | there |
| --- | --- |
| `recordNext` | the stores of `Dht_RecordSample`, one at a time (`app_dht22.c:228-237`) |

`MonitorTask` goes before `SensorTask` and takes no lock for the variables, so that `Dht_GetDiagnostics` may come
between any two stores of `Dht_RecordSample`. It is one step for the sensor task, which does not run meanwhile: what
a line can show is what the variables hold in some state of `recordNext`. `snapshot_one_behind` says how far
that is from the samples recorded.
-/

namespace SmartAc

open Machine

/-! ## The stores -/

def dhtSampleInit : DhtSample := ⟨false, 0, 0, 0⟩

/-- What a call without a snapshot inside makes of the variables. -/
def record (frame : Option AcceptedFrame) (sample : DhtSample) : DhtSample :=
  match frame with
  | some f => dhtRecordSample true f.reading.temperatureC f.reading.humidityPct sample
  | none => dhtRecordSample false 0 0 sample

/-- The variables after the calls, none of them interrupted. -/
def recorded (calls : List (Option AcceptedFrame)) : DhtSample := calls.foldr record dhtSampleInit

end SmartAc
