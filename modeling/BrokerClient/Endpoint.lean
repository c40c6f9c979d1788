import BrokerClient.Endpoint.Url
/-!
Broker endpoints. A broker url is the broker scheme followed by `://host:port`, read as a plain
TCP address, or by `:` and a transport url of scheme `tcp`, `ws` or `wss`. The endpoint handed
to the transport is `sd:` followed by that address as written, once it is known to be a url
with a host. The url parser that reads the transport url is a parameter of `resolveWith`; the
client resolves with its own, `Url.parse`.
-/

namespace BrokerClient.Endpoint

/-- Why a broker url is refused. -/
inductive EndpointError where
  /-- The url does not start with the broker scheme. -/
  | notBroker
  /-- The transport url does not parse. -/
  | malformed (e : UrlError)
  /-- The transport scheme is not one the client speaks. -/
  | scheme (name : String)
  /-- The transport url has no host. -/
  | missingHost
  deriving DecidableEq, Repr

/-- The text of a refused broker url, which names the url. -/
def EndpointError.message (url : String) : EndpointError → String
  | .notBroker => url ++ ": unsupported scheme"
  | .malformed e => url ++ ": " ++ e.message
  | .scheme name => url ++ ": unsupported scheme '" ++ name ++ "'"
  | .missingHost => url ++ ": missing host"

/-- The scheme of broker urls. -/
def brokerScheme : String := "folkmq"

/-- The transport url inside a broker url, as written: after the scheme and its colon, two
slashes stand for a TCP address. -/
def transportUrl (url : String) : Option String :=
  let tag := (brokerScheme ++ ":").toList
  let cs := url.toList
  if tag.isPrefixOf cs then
    match cs.drop tag.length with
    | '/' :: '/' :: rest => some ("tcp://" ++ String.ofList rest)
    | rest => some (String.ofList rest)
  else none

/-- The transport endpoint of a broker url, whose transport url `parse` reads. -/
def resolveWith (parse : String → Except UrlError Url) (url : String) :
    Except EndpointError String := do
  let some inner := transportUrl url | throw .notBroker
  let parsed ← match parse inner with
    | .ok u => pure u
    | .error e => throw (.malformed e)
  if !(["tcp", "ws", "wss"].contains parsed.scheme) then throw (.scheme parsed.scheme)
  match parsed.host with
  | some h => if h.isEmpty then throw .missingHost else pure ("sd:" ++ inner)
  | none => throw .missingHost

/-- The transport endpoint of a broker url, its transport url read by the url parser. -/
def resolve (url : String) : Except EndpointError String := resolveWith Url.parse url

end BrokerClient.Endpoint
