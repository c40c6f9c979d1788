/-!
The names of the metas that the protocol puts on frames, and the addresses of the broker. A
meta whose name starts with `!` is an attribute chosen by the application.
-/

namespace BrokerClient.Meta

/-- The message id. -/
def tid : String := "t0"
/-- The qualified topic. -/
def topic : String := "t1"
/-- The consumer group, or the addressee of a direct request. -/
def group : String := "c1"
/-- When the message is due, in epoch milliseconds. -/
def scheduled : String := "s1"
/-- When the message expires, in epoch milliseconds. -/
def expiration : String := "e1"
/-- Set to `1` on ordered messages. -/
def sequence : String := "s2"
/-- The key that orders messages within a topic. -/
def sharding : String := "p1"
/-- How often the broker has delivered the message. -/
def times : String := "t2"
/-- The quality of service, `0` or `1`. -/
def qos : String := "q1"
/-- The transaction id. -/
def transaction : String := "t4"
/-- The business key. -/
def key : String := "k1"
/-- The name of the sending client. -/
def sender : String := "s3"
/-- The broker's confirmation of a request. -/
def confirm : String := "mq.confirm"
/-- The consumer's acknowledgement of a delivery. -/
def ack : String := "mq.ack"
/-- Set to `1` when a transaction is rolled back. -/
def rollback : String := "mq.rollback"
/-- Marks the batched subscribe sent when a session opens. -/
def batch : String := "mq.batch"
/-- The protocol version of the client. -/
def version : String := "folkmq.version"
/-- The namespace of the client. -/
def space : String := "folkmq.namespace"
/-- The addressee of a frame. -/
def target : String := "@"
/-- The prefix of attribute metas. -/
def attrPrefix : String := "!"

/-- The broker, as the addressee of a publish. -/
def server : String := "folkmq-server"
/-- The broker and every copy of it, for subscriptions and unpublish. -/
def serverAll : String := "folkmq-server*"
/-- The copy of the broker that holds a transaction, found by hashing. -/
def serverHash : String := "folkmq-server!"

/-- The protocol version that the client speaks. -/
def protocolVersion : Nat := 2

/-- The version of the client. -/
def clientVersion : String := "0.1.0"

end BrokerClient.Meta
