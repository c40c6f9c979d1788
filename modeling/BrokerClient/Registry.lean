import BrokerClient.Handler
import BrokerClient.QueueMap
import BrokerClient.Topic
import BrokerClient.Text.Escaped
/-!
The subscription registry: the subscriptions of a client, keyed by queue name, so that adding a
subscription with the queue name of another replaces it and removing a missing one does
nothing. The registry lists its subscriptions in order of queue names, and groups their queue
names by topic into the queue map that a session is sent when it opens.
-/

namespace BrokerClient

/-- A consumer group's subscription to a qualified topic. -/
structure Subscription where
  /-- The qualified topic. -/
  topic : String
  /-- The consumer group. -/
  group : String
  /-- Whether deliveries are acknowledged after the handler runs. -/
  autoAck : Bool
  /-- What runs on each delivery. -/
  handler : Handler
  deriving DecidableEq, Repr

/-- The queue name of a subscription. -/
def Subscription.queueName (s : Subscription) : String := Topic.queueName s.topic s.group

/-- The diagnostic text of a subscription. -/
def Subscription.describe (s : Subscription) : String :=
  "Subscription \x7b topic: " ++ Text.quoted s.topic ++ ", consumer_group: " ++
    Text.quoted s.group ++ ", auto_ack: " ++ toString s.autoAck ++ ", .. \x7d"

/-- Subscriptions in order of queue names, one per queue name. -/
structure Registry where
  /-- The subscriptions, in order of queue names. -/
  entries : List Subscription := []
  deriving DecidableEq, Repr, Inhabited

namespace Registry

/-- Puts a subscription into a list sorted by queue name, replacing one of the same name. -/
def insertSub (s : Subscription) : List Subscription → List Subscription
  | [] => [s]
  | t :: rest =>
    if s.queueName < t.queueName then s :: t :: rest
    else if s.queueName = t.queueName then s :: rest
    else t :: insertSub s rest

/-- The registry with a subscription added, replacing one of the same queue name. -/
def add (r : Registry) (s : Subscription) : Registry := ⟨insertSub s r.entries⟩

/-- The subscription with a queue name. -/
def find? (r : Registry) (queue : String) : Option Subscription :=
  r.entries.find? (·.queueName == queue)

/-- The subscription of a consumer group to a qualified topic. -/
def lookup (r : Registry) (topic group : String) : Option Subscription :=
  r.find? (Topic.queueName topic group)

/-- The registry without the subscription of a consumer group to a qualified topic. -/
def remove (r : Registry) (topic group : String) : Registry :=
  ⟨r.entries.filter (·.queueName != Topic.queueName topic group)⟩

/-- The number of subscriptions. -/
def size (r : Registry) : Nat := r.entries.length

/-- Whether there is no subscription. -/
def isEmpty (r : Registry) : Bool := r.entries.isEmpty

/-- The queue names of the subscriptions, grouped by topic. -/
def queues (r : Registry) : QueueMap :=
  r.entries.foldl (fun m s => m.add s.topic s.queueName) .empty

end Registry

end BrokerClient
