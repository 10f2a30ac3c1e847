import SessionTelemetry.Notify.Service

/-!
# Setting up the service

The service of an application is put together from settings, which are taken from the environment
unless they are given. A time-series sink that is switched off, or whose settings are wrong, is left
out, so that there is always a service to notify.
-/

namespace SessionTelemetry

namespace Bootstrap

def logger : String := "mediatel.bootstrap"

def series (connect : ClientMaker) (environment : Properties) (given : Option SeriesSettings) :
    Except Fault (Option (SeriesSink × List Record)) := do
  let settings ← match given with
    | some settings => pure settings
    | none => SeriesSettings.ofProperties environment
  if settings.enabled.truthy then
    return some (← SeriesSink.ofSettings (connect environment) settings)
  else return none

/-- The time-series part of the service with its records. A fault of the settings is recorded, any
other is passed on. -/
def seriesPart (connect : ClientMaker) (environment : Properties) (given : Option SeriesSettings) :
    Except Fault (List LoggingService × List Record) :=
  match series connect environment given with
  | .ok none => .ok ([], [])
  | .ok (some (sink, records)) => .ok ([.series sink], records)
  | .error fault =>
    if fault.isSetting then
      let reason := fault.message?.getD ""
      .ok ([], [.error logger s!"Time-series logging disabled: {reason}" none])
    else .error fault

def metricPart (catalogue : Catalogue PublisherFactory) (hashOf : HashReader)
    (settings : MetricSettings) : Except Fault (List LoggingService × List Record) := do
  if settings.enabled.truthy then
    let (service, records) ← MetricService.ofSettings catalogue hashOf settings .null
    return ([.metrics service], records)
  else return ([], [])

/-- The service of some parts: a composite only where there are several. -/
def combine : List LoggingService → ServiceTree LoggingService
  | [] => .leaf .silent
  | [only] => .leaf only
  | parts => .composite (parts.map .leaf)

def create (connect : ClientMaker) (catalogue : Catalogue PublisherFactory) (hashOf : HashReader)
    (environment : Properties) (seriesSettings : Option SeriesSettings)
    (metricSettings : Option MetricSettings) :
    Except Fault (ServiceTree LoggingService × List Record) := do
  let metrics := metricSettings.getD (MetricSettings.ofProperties environment)
  let (seriesServices, seriesRecords) ← seriesPart connect environment seriesSettings
  let (metricServices, metricRecords) ← metricPart catalogue hashOf metrics
  return (combine (seriesServices ++ metricServices), seriesRecords ++ metricRecords)

end Bootstrap

end SessionTelemetry
