import SearchTables.Settings.Field

/-! # Connections

How to reach a cluster, as whom, and how hard to try. -/

namespace SearchTables

/-- The settings of a connection. -/
structure Connection where
  host : String := "localhost"
  port : Int := 9200
  username : Option String := none
  password : Option String := none
  useSsl : Bool := false
  verifySsl : Bool := true
  /-- How long an attempt may take, in milliseconds. -/
  timeout : Int := 30000
  maxRetries : Int := 3
  /-- The wait before the first retry, in milliseconds. -/
  retryInterval : Int := 100
  /-- The factor by which the wait grows after each retry. -/
  backoffFactor : Float := 2.0
  httpLogging : Bool := false
deriving Inhabited

namespace Connection

/-- The connection that given settings describe. All faults are reported, in the order of the fields. -/
def ofSettings (values : List (String × Json)) : Except Error Connection :=
  let (host, faults) := Setting.read values "host" "localhost" Setting.text []
  let (port, faults) := Setting.read values "port" 9200 (Setting.intBetween 1 65535) faults
  let (username, faults) := Setting.read values "username" none Setting.optionalText faults
  let (password, faults) := Setting.read values "password" none Setting.optionalText faults
  let (useSsl, faults) := Setting.read values "use_ssl" false Setting.bool faults
  let (verifySsl, faults) := Setting.read values "verify_ssl" true Setting.bool faults
  let (timeout, faults) := Setting.read values "timeout" 30000 Setting.positiveInt faults
  let (maxRetries, faults) := Setting.read values "max_retries" 3 (Setting.intFrom 0) faults
  let (retryInterval, faults) := Setting.read values "retry_interval" 100 (Setting.intFrom 0) faults
  let (backoffFactor, faults) :=
    Setting.read values "retry_backoff_factor" 2.0 (Setting.floatFrom 1.0) faults
  let (httpLogging, faults) := Setting.read values "http_logging" false Setting.bool faults
  if faults.isEmpty then
    .ok { host, port, username, password, useSsl, verifySsl, timeout, maxRetries, retryInterval,
          backoffFactor, httpLogging }
  else .error (.badSettings faults)

/-- The scheme of the addresses. -/
def scheme (c : Connection) : String := if c.useSsl then "https" else "http"

/-- The address of the cluster. -/
def baseUrl (c : Connection) : String := c.scheme ++ "://" ++ c.host ++ ":" ++ toString c.port

/-- Whether the connection can be used: there is a host, and a user has a password and the other way
round. -/
def check (c : Connection) : Except Error Unit :=
  if Text.isBlankText c.host then .error .missingHost
  else if c.username.isSome = c.password.isSome then .ok ()
  else .error (.lonelyCredential c.username.isSome c.password.isSome)

/-- User and password, when there are both. -/
def credentials? (c : Connection) : Option (String × String) :=
  match c.username, c.password with
  | some user, some password => some (user, password)
  | _, _ => none

end Connection

end SearchTables
