import BrokerClient.Entity
import BrokerClient.Error
import BrokerClient.Text.Blank
import BrokerClient.Text.Decimal
/-!
Confirmations. A confirmed request is answered with the meta `mq.confirm`; the answer confirms
only when that meta, trimmed, reads as the signed 64-bit number 1. A missing meta counts as `0`.
An answer that does not confirm fails the operation with the answer's body as the reason.
-/

namespace BrokerClient

/-- Whether an answer confirms its request. -/
def isConfirmed (answer : Entity) : Bool :=
  Text.parseSigned? 64 (Text.trimBlank (answer.metaOr Meta.confirm "0")) == some 1

/-- Fails an operation whose answer does not confirm it. -/
def ensureConfirmed (operation : String) (answer : Entity) : Except ClientError Unit :=
  if isConfirmed answer then .ok () else .error (.confirmFailed operation answer.text)

end BrokerClient
