import Playhouse.Fault

/-!
Text services and the people they write for. A service has a key or none, may fail to start, and
answers each request with the next of its replies. Every request is recorded before its answer.
-/
namespace Playhouse

/-- What a service does with one request: it sends a content, fails, or sends an empty answer. -/
inductive Reply where
  | content (value : Value)
  | failure
  | nothing

structure Service where
  key : Option String := none
  starts : Bool := true
  replies : List Reply := []

inductive Request where
  | chat (system user : String) (temperature : Float)
  | completion (prompt : String)

def Request.arguments : Request → Fields
  | chat system user temperature =>
    [("model", .text "gpt-3.5-turbo"),
      ("messages", .list [
        .record [("role", .text "system"), ("content", .text system)],
        .record [("role", .text "user"), ("content", .text user)]]),
      ("max_tokens", .int 1000), ("temperature", .float temperature)]
  | completion prompt =>
    [("prompt", .text prompt), ("max_length", .int 1000), ("num_return_sequences", .int 1)]

/-- The two services and the requests made so far, in order. -/
structure Muses where
  chat : Service := {}
  author : Service := {}
  requests : List Request := []

namespace Service

/-- A service can be used with a non-empty key if it starts. -/
def available (service : Service) : Bool :=
  (match service.key with
    | some key => key != ""
    | none => false) && service.starts

/-- The content of the next reply, or nothing; and what is left. -/
def answer (service : Service) : Option Value × Service :=
  let left := { service with replies := service.replies.tail }
  match service.replies.head? with
  | some (.content value) => (some value, left)
  | _ => (none, left)

end Service

namespace Muses

/-- Asks the chat service. Nothing without a usable service, and nothing after a failure. -/
def askChat (system user : String) (temperature : Float) (muses : Muses) : Option Value × Muses :=
  if muses.chat.available then
    let (content, left) := muses.chat.answer
    (content, { muses with
      chat := left
      requests := muses.requests ++ [.chat system user temperature] })
  else (none, muses)

def askAuthor (prompt : String) (muses : Muses) : Option Value × Muses :=
  if muses.author.available then
    let (content, left) := muses.author.answer
    (content, { muses with
      author := left
      requests := muses.requests ++ [.completion prompt] })
  else (none, muses)

end Muses

/-- Who a text is written for: an anonymous visitor, or a member with the content level of the
account, if the account has one. -/
inductive Visitor where
  | anonymous
  | member (level : Option Value)

/-- The content level to write for: family-friendly unless a member has another. -/
def Visitor.level : Visitor → Value
  | anonymous => .int 1
  | member level => level.getD (.int 1)

end Playhouse
