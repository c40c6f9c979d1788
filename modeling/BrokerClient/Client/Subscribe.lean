import BrokerClient.Client.Basic
/-!
Subscribing. A subscription names a topic and a consumer group, by default the client name. The
topic, the group and the namespace must pass the parameter check, in that order. The registry
changes first, whatever the broker answers; then every open session of the attached group is
asked in order to subscribe or unsubscribe, and the first that fails or refuses ends the
operation.
-/

namespace BrokerClient

namespace Op

/-- The consumer group: the one given, or the client name. -/
def resolveGroup (group? : Option String) : Op String := do
  match group? with
  | some g => pure g
  | none =>
    match (← get).name with
    | some n => pure n
    | none => throw (.invalid "consumerGroup or client name is required")

/-- Asks sessions in order to subscribe or unsubscribe a group to a topic. -/
def broadcast (targets : List (Nat × Nat)) (event : Event) (topic group : String) : Op Unit := do
  for (g, i) in targets do
    let entity := ({} : Entity).put Meta.topic topic |>.put Meta.group group
      |>.addressTo Meta.serverAll
    let answer ← request g i event entity (← get).subscribeTimeout
    confirmed event.wireName answer

/-- Subscribes a consumer group to a topic with a handler. -/
def subscribe (topic : String) (group? : Option String) (autoAck? : Option Bool)
    (handler : Handler) : Op Unit := do
  let group ← resolveGroup group?
  check topic "topic"
  check group "consumerGroup"
  let full ← qualify topic
  let c ← get
  let sub : Subscription := ⟨full, group, autoAck?.getD c.autoAck, handler⟩
  set { c with registry := c.registry.add sub }
  broadcast (← openSessions) .subscribe full group

/-- Unsubscribes a consumer group from a topic. -/
def unsubscribe (topic : String) (group? : Option String) : Op Unit := do
  let group ← resolveGroup group?
  check topic "topic"
  check group "consumerGroup"
  let full ← qualify topic
  modify fun c => { c with registry := c.registry.remove full group }
  broadcast (← openSessions) .unsubscribe full group

end Op

end BrokerClient
