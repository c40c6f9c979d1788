import BrokerClient.Entity
/-!
Handlers: what the application does with a message it receives. A handler is a script of
reactions run in order. It may finish, fail with a text, crash, or acknowledge the message,
plainly, with a reply entity, with an alarm, or by voting on the message's key; a failed
acknowledgement ends the script with its error. A handler carries a label by which runs of it
are reported.
-/

namespace BrokerClient

/-- What a crashing handler leaves behind: a message, a static text, or nothing readable. -/
inductive CrashNote where
  | text (s : String)
  | static
  | unreadable
  deriving DecidableEq, Repr

/-- The error a crash turns into. -/
def CrashNote.message : CrashNote → String
  | .text s => "handler panicked: " ++ s
  | .static => "handler panicked: static handler panic"
  | .unreadable => "handler panicked"

/-- One step of a handler. -/
inductive Reaction where
  /-- Finish successfully. -/
  | finish
  /-- Fail with a text. -/
  | fail (text : String)
  /-- Crash. -/
  | crash (note : CrashNote)
  /-- Acknowledge the message, accepting or rejecting it. -/
  | ack (ok : Bool)
  /-- Acknowledge the message with a reply entity. -/
  | ackWith (ok : Bool) (reply : Entity)
  /-- Answer the message with an alarm. -/
  | alarm (ok : Bool) (text : String)
  /-- Accept the message unless its key is one of the rejected keys. -/
  | vote (rejected : List String)
  deriving DecidableEq, Repr

/-- A labelled script of reactions; the empty script finishes at once. -/
structure Handler where
  label : String
  script : List Reaction
  deriving DecidableEq, Repr

end BrokerClient
