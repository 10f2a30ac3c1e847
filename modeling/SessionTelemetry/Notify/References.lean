import SessionTelemetry.Record
import SessionTelemetry.Table
import SessionTelemetry.Value.Basic

/-!
# References that a signal needs

A signal about an object is of use only if the object and the objects above it are there. The first
one that is not is named in a record, and the signal is dropped.
-/

namespace SessionTelemetry

abbrev References := List (String × Value)

namespace References

def logger : String := "mediatel.services"

def firstMissing? (refs : References) : Option String :=
  (refs.find? fun r => r.2.isNull).map Prod.fst

def words (name : String) : String := name.map fun c => if c = '_' then ' ' else c

def missingRecord (signal name : String) : Record :=
  .debug logger s!"Could not log {signal} event because the {words name} is null."

def skip? (signal : String) (refs : References) : Option Record :=
  refs.firstMissing?.map (missingRecord signal)

end References

end SessionTelemetry
