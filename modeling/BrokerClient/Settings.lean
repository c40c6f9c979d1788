import BrokerClient.Duration
import BrokerClient.Topic
import BrokerClient.Text.Blank
import BrokerClient.Text.Decimal
/-!
Client settings and how they are read from environment variables. Each variable is optional and
overrides a default; they are read in a fixed order and the first one that is refused is the
error, naming the variable and its raw value.
-/

namespace BrokerClient

/-- What a client is configured with. -/
structure Settings where
  /-- The broker urls, in order. -/
  serverUrls : List String := ["folkmq://127.0.0.1:18602"]
  /-- The client name, also the default consumer group. -/
  name : Option String := none
  /-- The namespace that qualifies topics. -/
  space : Option String := none
  /-- How long a request waits for its answer. -/
  requestTimeout : Duration := ⟨10000⟩
  /-- How long a subscribe or unsubscribe waits for its answer. -/
  subscribeTimeout : Duration := ⟨30000⟩
  /-- The heartbeat interval of sessions. -/
  heartbeat : Duration := ⟨6000⟩
  /-- Whether deliveries are acknowledged after their handler runs. -/
  autoAck : Bool := true
  deriving DecidableEq, Repr

/-- A variable whose value is refused. -/
structure SettingError where
  /-- The name of the variable. -/
  key : String
  /-- Its raw value. -/
  value : String
  deriving DecidableEq, Repr

/-- The text of a refused variable. -/
def SettingError.message (e : SettingError) : String :=
  "invalid " ++ e.key ++ ": " ++ e.value

namespace Settings

/-- A positive count of milliseconds, after trimming blanks, as a duration. -/
def parseMillis (raw : String) : Option Duration :=
  match Text.parseUnsigned? 64 (Text.trimBlank raw) with
  | some n => if n > 0 then some ⟨n⟩ else none
  | none => none

/-- A flag after trimming blanks and lowering ASCII letters: `true`, `1`, `yes` or `false`,
`0`, `no`. -/
def parseFlag (raw : String) : Option Bool :=
  let s := (Text.trimBlank raw).map Char.toLower
  if s == "true" || s == "1" || s == "yes" then some true
  else if s == "false" || s == "0" || s == "no" then some false
  else none

/-- The urls of a comma-separated list, each trimmed, the empty ones dropped. -/
def splitUrls (raw : String) : List String :=
  ((raw.splitOn ",").map Text.trimBlank).filter (!·.isEmpty)

/-- Reads a duration variable over the current value. -/
def readMillis (lookup : String → Option String) (key : String) (current : Duration) :
    Except SettingError Duration :=
  match lookup key with
  | none => .ok current
  | some raw => match parseMillis raw with
    | some d => .ok d
    | none => .error ⟨key, raw⟩

/-- Settings from a lookup of variables, over the defaults: the server urls, the name and the
namespace (each ignored when empty; a namespace must pass the parameter check), the request,
subscribe and heartbeat milliseconds, and the auto-acknowledge flag. -/
def ofLookup (lookup : String → Option String) : Except SettingError Settings := do
  let s : Settings := {}
  let s := match lookup "FOLKMQ_SERVER_URLS" with
    | some raw => { s with serverUrls := splitUrls raw }
    | none => s
  let s := match lookup "FOLKMQ_NAME" with
    | some n => if n.isEmpty then s else { s with name := some n }
    | none => s
  let s ← match lookup "FOLKMQ_NAMESPACE" with
    | some ns =>
      if ns.isEmpty then pure s
      else match Topic.checkParam ns "namespace" with
        | .ok () => pure { s with space := some ns }
        | .error _ => throw ⟨"FOLKMQ_NAMESPACE", ns⟩
    | none => pure s
  let request ← readMillis lookup "FOLKMQ_REQUEST_TIMEOUT_MS" s.requestTimeout
  let subscribe ← readMillis lookup "FOLKMQ_SUBSCRIBE_TIMEOUT_MS" s.subscribeTimeout
  let heartbeat ← readMillis lookup "FOLKMQ_HEARTBEAT_MS" s.heartbeat
  let autoAck ← match lookup "FOLKMQ_AUTO_ACK" with
    | some raw => match parseFlag raw with
      | some b => pure b
      | none => throw ⟨"FOLKMQ_AUTO_ACK", raw⟩
    | none => pure s.autoAck
  return { s with requestTimeout := request, subscribeTimeout := subscribe,
                  heartbeat := heartbeat, autoAck := autoAck }

end Settings

end BrokerClient
