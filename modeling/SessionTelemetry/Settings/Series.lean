import SessionTelemetry.Settings.Pool

/-!
# Settings of the time-series backend

The connection needs an address, a database, a user and a password. Together they make the address
to which payloads are posted.
-/

namespace SessionTelemetry

namespace SettingName

def seriesEnabled : String := "MEDIATEL_INFLUX_ENABLED"
def urlBase : String := "MEDIATEL_INFLUX_URL_BASE"
def database : String := "MEDIATEL_INFLUX_DATABASE"
def user : String := "MEDIATEL_INFLUX_USER"
def password : String := "MEDIATEL_INFLUX_PASS"
def timeout : String := "MEDIATEL_HTTP_TIMEOUT_S"

end SettingName

structure SeriesSettings where
  enabled : Value := .bool false
  urlBase : Value := .null
  database : Value := .null
  user : Value := .null
  password : Value := .null
  timeout : Value := .float (.ofInt 5)
  pool : PoolSettings := {}

namespace SeriesSettings

/-- The settings that properties ask for. The timeout is read before the settings of the pool. -/
def ofProperties (props : Properties) : Except Fault SeriesSettings := do
  let toFloat := fun (v : Value) => v.toFloat.map Value.float
  let timeout ← props.number SettingName.timeout (.float (.ofInt 5)) toFloat
  let pool ← PoolSettings.ofProperties props
  return {
    enabled := .bool (props.flag SettingName.seriesEnabled)
    urlBase := props.textOrNull SettingName.urlBase
    database := props.textOrNull SettingName.database
    user := props.textOrNull SettingName.user
    password := props.textOrNull SettingName.password
    timeout, pool }

/-- The connection settings, in the order in which they are missed. -/
def required (s : SeriesSettings) : List (String × Value) :=
  [(SettingName.urlBase, s.urlBase), (SettingName.database, s.database),
   (SettingName.user, s.user), (SettingName.password, s.password)]

/-- The address to which payloads are posted, with the user and the password in its query. -/
def requireUrl (s : SeriesSettings) : Except Fault String :=
  match s.required.find? fun r => r.2.isNull with
  | some r => .error (.missingSetting r.1)
  | none =>
    let base := String.ofList (Text.trimEndWhile (· == '/') s.urlBase.display.toList)
    .ok (base ++ "/db/" ++ s.database.display ++ "/series?u=" ++ s.user.display ++
      "&p=" ++ s.password.display)

end SeriesSettings

end SessionTelemetry
