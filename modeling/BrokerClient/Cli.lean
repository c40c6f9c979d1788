import BrokerClient.Script
/-!
The command line, as a function from arguments, environment variables and a fresh message id to
an exit code and the texts written to standard output and standard error. It qualifies and
strips topics, names queues, resolves broker urls, prints the settings read from the
environment, and runs a loopback: a client over a one-session in-memory broker subscribes,
connects, publishes a message, receives it back, and prints what its session sent.
-/

namespace BrokerClient.Cli

/-- What a run of the command line leaves: exit code, standard output, standard error. -/
structure Outcome where
  code : Nat
  stdout : String
  stderr : String := ""
  deriving DecidableEq, Repr

/-- The help text. -/
def help : String :=
  "FolkMQ CLI\n\nUSAGE:\n    folkmq <COMMAND> [OPTIONS]\n\nCOMMANDS:\n" ++
  "    full-topic [ns] <topic>        Qualify a topic with a namespace\n" ++
  "    bare-topic <full-topic>        Strip the namespace from a topic\n" ++
  "    queue-name <topic> <group>     Queue name of a subscription\n" ++
  "    rewrite-url <url>              Show the transport url of a folkmq url\n" ++
  "    settings                       Print settings loaded from FOLKMQ_* variables\n" ++
  "    loopback                       Run a subscribe/publish/deliver round trip in memory\n" ++
  "    version                        Show client and protocol versions\n" ++
  "    help                           Show this help message\n\nEXAMPLES:\n" ++
  "    folkmq full-topic prod orders\n" ++
  "    folkmq rewrite-url folkmq:ws://127.0.0.1:18602/ws\n" ++
  "    FOLKMQ_NAME=billing folkmq loopback\n\n"

/-- A usage error. -/
def usage (text : String) : Outcome := ⟨1, "", "Usage: " ++ text ++ "\n"⟩

/-- A failure with its context and cause; every line of the cause is indented by four spaces,
empty lines included. -/
def failure (context cause : String) : Outcome :=
  ⟨1, "", "Error: " ++ context ++ "\n\nCaused by:\n    " ++ "\n    ".intercalate (cause.splitOn "\n") ++
    "\n"⟩

/-- The lines of the settings report, each label padded to nineteen columns. -/
def settingsReport (s : Settings) : String :=
  "server_urls:       " ++ ",".intercalate s.serverUrls ++ "\n" ++
  "name:              " ++ s.name.getD "-" ++ "\n" ++
  "namespace:         " ++ s.space.getD "-" ++ "\n" ++
  "request_timeout:   " ++ s.requestTimeout.text ++ "\n" ++
  "subscribe_timeout: " ++ s.subscribeTimeout.text ++ "\n" ++
  "heartbeat:         " ++ s.heartbeat.text ++ "\n" ++
  "auto_ack:          " ++ toString s.autoAck ++ "\n"

/-- An entity in one line: its metas as `name=value` in order, in brackets, then the body. -/
def describe (e : Entity) : String :=
  "[" ++ " ".intercalate (e.metas.entries.map fun (k, v) => k ++ "=" ++ v) ++ "] " ++ e.text

/-- A sent frame in one line. -/
def outboundLine : Outbound → String
  | .send e x => "send     " ++ e.wireName ++ " " ++ describe x
  | .request e x => "request  " ++ e.wireName ++ " " ++ describe x
  | .ack sid x => "ack      " ++ sid ++ " " ++ describe x
  | .alarm sid t => "alarm    " ++ sid ++ " " ++ t

/-- Runs an operation, or fails with a context. -/
def attempt {α : Type} (c : Client) (context : String) (op : Op α) :
    Except Outcome (Client × α) :=
  match (op.run).run c with
  | (.ok a, c') => .ok (c', a)
  | (.error e, _) => .error (failure context e.message)

/-- The loopback round trip with settings and a message id. -/
def loopback (s : Settings) (tid : String) : Except Outcome Outcome := do
  let c := Client.ofSettings s { width := 1 }
  let c := if c.name.isNone then c.withName "folkmq-cli" else c
  let handler : Handler := ⟨"loopback", [.finish]⟩
  let (c, _) ← attempt c "Failed to subscribe" (Op.subscribe "loopback" none none handler)
  let (c, _) ← attempt c "Failed to connect" Op.connect
  let m := (Message.create tid (Text.Utf8.encode "hello from folkmq")).withKey "loopback-1"
  let delivery := m.publishEntity (Topic.full (c.space.getD "") "loopback")
  let (c, _) ← attempt c "Failed to publish" (Op.publish "loopback" m)
  let g := c.hub.groups.length - 1
  let frame : Frame := ⟨"loopback-sid", Event.distribute.wireName,
    delivery.put Meta.group (c.name.getD "")⟩
  let (runs, c) := (Dispatch.deliver g 0 frame).run c
  let received := runs.map fun r =>
    "received: topic=" ++ r.message.topic ++ " key=" ++ r.message.key ++ " body=" ++
      r.message.bodyText ++ "\n"
  let sent := ((c.hub.session? g 0).map (·.sent)).getD []
  pure ⟨0, String.join received ++ String.join (sent.map (outboundLine · ++ "\n")), ""⟩

/-- Runs the command line. -/
def run (args : List String) (lookup : String → Option String) (tid : String) : Outcome :=
  match args with
  | [] => ⟨0, help, ""⟩
  | cmd :: rest =>
    match cmd with
    | "full-topic" =>
      match rest with
      | [t] => ⟨0, Topic.full "" t ++ "\n", ""⟩
      | [ns, t] => ⟨0, Topic.full ns t ++ "\n", ""⟩
      | _ => usage "folkmq full-topic [namespace] <topic>"
    | "bare-topic" =>
      match rest with
      | t :: _ => ⟨0, Topic.bare t ++ "\n", ""⟩
      | [] => usage "folkmq bare-topic <full-topic>"
    | "queue-name" =>
      match rest with
      | t :: g :: _ => ⟨0, Topic.queueName t g ++ "\n", ""⟩
      | _ => usage "folkmq queue-name <full-topic> <consumer-group>"
    | "rewrite-url" =>
      match rest with
      | u :: _ =>
        match Endpoint.resolve u with
        | .ok v => ⟨0, v ++ "\n", ""⟩
        | .error e => failure "Failed to rewrite url" (ClientError.invalid (e.message u)).message
      | [] => usage "folkmq rewrite-url <url>"
    | "settings" =>
      match Settings.ofLookup lookup with
      | .ok s => ⟨0, settingsReport s, ""⟩
      | .error e => failure "Invalid FOLKMQ_* environment" e.message
    | "loopback" =>
      match Settings.ofLookup lookup with
      | .ok s => match loopback s tid with
        | .ok o => o
        | .error o => o
      | .error e => failure "Invalid FOLKMQ_* environment" e.message
    | "version" =>
      ⟨0, "folkmq " ++ Meta.clientVersion ++ " (protocol " ++ toString Meta.protocolVersion ++ ")\n", ""⟩
    | "help" | "--help" | "-h" => ⟨0, help, ""⟩
    | _ => ⟨1, help, "Unknown command: " ++ cmd ++ "\n"⟩

end BrokerClient.Cli
