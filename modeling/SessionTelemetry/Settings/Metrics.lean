import SessionTelemetry.Settings.Properties

/-!
# Settings of the metric service

The publishers are listed by properties that share the start of their names, in the order of their
full names.
-/

namespace SessionTelemetry

namespace SettingName

def metricsEnabled : String := "MEDIATEL_METRICS_ENABLED"
def publisherStem : String := "MEDIATEL_METRIC_PUBLISHER_"

end SettingName

structure MetricSettings where
  enabled : Value := .bool false
  publishers : Value := .tuple []

namespace MetricSettings

def publisherNames (props : Properties) : List String :=
  ((props.map Prod.fst).filter fun name =>
    SettingName.publisherStem.toList.isPrefixOf name.toList).mergeSort fun a b => a ≤ b

def ofProperties (props : Properties) : MetricSettings where
  enabled := .bool (props.flag SettingName.metricsEnabled)
  publishers := .tuple (((publisherNames props).filterMap props.text?).map .text)

end MetricSettings

end SessionTelemetry
