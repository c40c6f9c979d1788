import BrokerClient.Duration
/-!
Errors of the client, as causes, each with one text. A transport error comes from a session; a
payload error from writing or reading a body; the client adds the states it refuses to act in
and the answers it refuses to accept. An error is about connectivity when trying again on a
connected session may help.
-/

namespace BrokerClient

/-- Why a session did not carry a frame. -/
inductive TransportError where
  /-- No answer came within the time. -/
  | timeout (after : Duration)
  /-- The session is closed. -/
  | closed
  /-- The connection failed. -/
  | connection (text : String)
  /-- The peer answered with an alarm. -/
  | alarm (text : String)
  deriving DecidableEq, Repr

/-- The text of a transport error. -/
def TransportError.message : TransportError → String
  | .timeout d => "request timed out after " ++ d.text
  | .closed => "session closed"
  | .connection text => "connection error: " ++ text
  | .alarm text => "alarm from peer: " ++ text

/-- Why a body could not be written or read. -/
inductive PayloadError where
  | serialize (text : String)
  | deserialize (text : String)
  deriving DecidableEq, Repr

/-- The text of a payload error. -/
def PayloadError.message : PayloadError → String
  | .serialize text => "serialization failed: " ++ text
  | .deserialize text => "deserialization failed: " ++ text

/-- Why an operation of the client failed. -/
inductive ClientError where
  /-- The client has no session group. -/
  | notConnected
  /-- No session of the group is valid. -/
  | noSession
  /-- The broker or the addressee refused an operation; the text is its answer's body. -/
  | confirmFailed (operation text : String)
  /-- A parameter or a setting is refused. -/
  | invalid (text : String)
  | transport (e : TransportError)
  | payload (e : PayloadError)
  deriving DecidableEq, Repr

namespace ClientError

/-- The text of a client error; transport and payload errors keep their own. -/
def message : ClientError → String
  | .notConnected => "not connected"
  | .noSession => "no session is available"
  | .confirmFailed op text => "client message " ++ op ++ " confirm failed: " ++ text
  | .invalid text => "invalid parameter: " ++ text
  | .transport e => e.message
  | .payload e => e.message

/-- Whether the error is about connectivity: no group, no valid session, or a session that
timed out, closed or lost its connection. -/
def isConnectivity : ClientError → Bool
  | .notConnected | .noSession => true
  | .transport (.timeout _) | .transport .closed | .transport (.connection _) => true
  | _ => false

end ClientError

end BrokerClient
