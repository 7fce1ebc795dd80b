import Playhouse.Data.Access
import Playhouse.Json.Writer

/-!
The gateway to a text model on the web. Requests stay within a rate limit, a sliding window of one minute, and are tried
three times; a reply that asks for patience is waited for. Every interaction can be logged, one line for each.
-/
namespace Playhouse.Gateway

/-- The length of the window in seconds. -/
def windowLength : Number := .int 60

/-- The times that still count; a time so large that it has no distance from now is a fault. -/
def inWindow (now : Number) (times : List Number) : Except Fault (List Number) :=
  times.filterM fun time =>
    match now.sub? time with
    | some age => .ok (age.less windowLength)
    | none => .error .hugeNumber

def admits (limit : Value) (times : List Number) : Except Fault Bool :=
  (Value.int times.length).less limit

/-- What the other side answers to a request; a response may say after how many seconds to try again. -/
inductive Answer where
  | failure (reason : String)
  | response (status : Int) (retryAfter : Option Value) (body : Value)

/-- How waiting works: which waits are possible, and how far the clock goes in one. A wait that is over before it
begins takes no time, and one too long for a float is not possible. -/
structure Timer where
  takes : Int → Bool := fun seconds => seconds ≤ 0 || ((Number.float 0).add? (.int seconds)).isSome
  passes : Number → Number := fun seconds => if seconds.less (.int 0) then .int 0 else seconds

structure Sent where
  method : String
  url : String
  payload : Value

/-- The configuration used when there is no file. -/
def standardConfig : Value := .record [
  ("base_url", .text "https://api.openai.com/v1"),
  ("rate_limit", .int 60),
  ("endpoints", .record [("completion", .text "/completions"), ("chat", .text "/chat/completions")]),
  ("models", .record [("default", .text "gpt-3.5-turbo"), ("advanced", .text "gpt-4")])]

end Gateway

structure Gateway where
  config : Value
  baseUrl : Value
  apiKey : Value
  rateLimit : Value
  history : List Number := []
  headers : Option Fields := none
  isOpen : Bool := false
  answers : List Gateway.Answer := []
  sent : List Gateway.Sent := []
  sleeps : List Number := []
  /-- Seconds on the clock of the rate limit. -/
  time : Number := .int 1000000
  now : Moment
  timer : Gateway.Timer := {}
  log : String := ""
  /-- How a document is written in one line, if it can be. -/
  dump : Value → Except Fault String := fun document => .ok (Json.plain document)

namespace Gateway

/-- A gateway over its configuration; settings of the environment come first. -/
def start (now : Moment) (file : Option Value) (url? key? : Option String) (answers : List Answer) :
    Except Fault Gateway := do
  let config := file.getD standardConfig
  let url ← config.lookup "base_url" .null
  let key ← config.lookup "api_key" .null
  let limit ← config.lookup "rate_limit" (.int 60)
  return { config, baseUrl := (url?.map Value.text).getD url, apiKey := (key?.map Value.text).getD key,
           rateLimit := limit, answers, now }

def connect : Act Gateway Unit := do
  if !(← get).isOpen then
    modify fun g => { g with
      isOpen := true
      headers := some [("Authorization", .text ("Bearer " ++ g.apiKey.asText)),
        ("Content-Type", .text "application/json")] }

def close : Act Gateway Unit := modify fun g => { g with isOpen := false }

def pass (seconds : Number) : Act Gateway Unit :=
  modify fun g => { g with time := (g.time.add? seconds).getD g.time, now := g.now.plusMicros (Moment.microsOf seconds) }

/-- Notes that a request is going to wait. -/
def pause (seconds : Number) : Act Gateway Unit := modify fun g => { g with sleeps := g.sleeps ++ [seconds] }

def sleep (seconds : Number) : Act Gateway Unit := do
  pause seconds
  pass ((← get).timer.passes seconds)

/-- Whether another request is within the limit; times that no longer count are forgotten. -/
def withinLimit : Act Gateway Bool := do
  let counted ← liftM (inWindow (← get).time (← get).history)
  modify fun g => { g with history := counted }
  liftM (admits (← get).rateLimit counted)

/-- Sends a request and takes the next answer. -/
def send (method : String) (url : String) (payload : Value) : Act Gateway Answer := do
  let next := (← get).answers.headD (.failure "no response")
  modify fun g => { g with sent := g.sent ++ [⟨method, url, payload⟩], answers := g.answers.tail }
  return next

def wholeNumber (value : Value) : Except Fault Int :=
  match value with
  | .text s =>
    (readInteger s).mapError .integer
  | other =>
    match other.number? with
    | some x =>
      match x.truncate? with
      | some n => .ok n
      | none => .error (.notFinite (other.number?.any fun x => !x.toFloat.isNaN))
    | none => .error (.mismatch (.notInteger other.kind))

/-- What an attempt comes to: a body, or a request to wait. -/
inductive Attempt where
  | body (value : Value)
  | wait (seconds : Int)

def tooManyRequests : Int := 429

/-- Sends a request, or refuses to when the limit is reached. -/
def launch (method url : String) (payload : Value) : Act Gateway Answer := do
  if !(← withinLimit) then throw .rateLimited
  modify fun g => { g with history := g.history ++ [g.time] }
  send method url payload

/-- What an answer comes to. A request to wait that is not possible is one more failure. -/
def landed (timer : Timer) : Answer → Except Fault Attempt
  | .failure reason => .error (.remote reason)
  | .response status retryAfter body =>
    if status == tooManyRequests then do
      let seconds ← wholeNumber (retryAfter.getD (.int 1))
      if timer.takes seconds then return .wait seconds else throw .hugeNumber
    else if 400 ≤ status then .error (.httpStatus status)
    else .ok (.body body)

/-- One attempt: a request and what its answer comes to. -/
def attempt (method url : String) (payload : Value) : Act Gateway Attempt := do
  let answer ← launch method url payload
  liftM (landed (← get).timer answer)

/-- What follows an attempt: an answer, or a pause before the next one. -/
inductive Turn where
  | answered (value : Value)
  | paused (seconds : Number)

/-- What follows an attempt when `left` more may be made and `number` were made before. After a failure
that is not the last the pause is one second longer each time. -/
def following (left number : Nat) : Except Fault Attempt → Except Fault Turn
  | .ok (.body value) => .ok (.answered value)
  | .ok (.wait seconds) => .ok (.paused (.int seconds))
  | .error fault => if left == 0 then .error fault else .ok (.paused (.int (number + 1)))

/-- Tries up to `left` more times, with pauses between; `number` attempts have been made. -/
def tryFrom (method url : String) (payload : Value) : Nat → Nat → Act Gateway Value
  | 0, _ => throw .retriesExceeded
  | left + 1, number => do
    match ← liftM (following left number (← (attempt method url payload).outcome)) with
    | .answered value => return value
    | .paused seconds =>
      sleep seconds
      tryFrom method url payload left (number + 1)

def maxAttempts : Nat := 3

/-- Opens the connection and gives the address of an endpoint. -/
def address (endpoint : Value) : Act Gateway String := do
  connect
  return (← get).baseUrl.asText ++ endpoint.asText

/-- Makes a request, with retries. -/
def request (method : String) (endpoint payload : Value) : Act Gateway Value := do
  tryFrom method (← address endpoint) payload maxAttempts 0

def message (role content : Value) : Value := .record [("role", role), ("content", content)]

def defaultModel : Act Gateway Value := do
  let models ← liftM ((← get).config.entry "models")
  liftM (models.entry "default")

def chatAddress : Act Gateway String := do
  let endpoints ← liftM ((← get).config.entry "endpoints")
  address (← liftM (endpoints.entry "chat"))

def chat (payload : Value) : Act Gateway Value := do
  tryFrom "POST" (← chatAddress) payload maxAttempts 0

def firstText (reply : Value) : Except Fault Value := do
  (← (← (← reply.entry "choices").nth 0).entry "message").entry "content"

def tokensOf (reply : Value) : Except Fault Value := do (← reply.entry "usage").entry "total_tokens"

/-- What the model is asked, how its reply is read, and the field that is empty when there is none. -/
structure Question where
  payload : Value → Value
  read : Value → Except Fault Fields
  missing : Key

/-- Puts a question to the model; what goes wrong after it was put together is told in the answer. -/
def ask (question : Question) : Act Gateway Fields := do
  let model ← defaultModel
  let result ← (do liftM (question.read (← chat (question.payload model))) : Act Gateway Fields).outcome
  match result with
  | .ok fields => return fields
  | .error fault => return [("error", .text fault.message), (question.missing, .null)]

/-- For a story, with what it cost. -/
def storyQuestion (prompt context : Value) : Question where
  payload model :=
    let earlier := if context.truthy then
      [message (.text "system") (.text ("Previous context: " ++ Json.plain context))] else []
    .record [("model", model),
      ("messages", .list ([message (.text "system") (.text "You are a creative storyteller.")] ++ earlier
        ++ [message (.text "user") prompt])),
      ("temperature", .float 0.7), ("max_tokens", .int 500)]
  read reply := do
    return [("content", ← firstText reply), ("tokens_used", ← tokensOf reply), ("model", ← reply.entry "model")]
  missing := "content"

/-- For what the model makes of a player's input. -/
def analysisQuestion (input : Value) : Question where
  payload model := .record [("model", model),
    ("messages", .list [
      message (.text "system") (.text "Analyze the following user input for sentiment and intent."),
      message (.text "user") input])]
  read reply := do return [("analysis", ← firstText reply), ("tokens_used", ← tokensOf reply)]
  missing := "analysis"

def story (prompt context : Value) : Act Gateway Fields := ask (storyQuestion prompt context)

def analyze (input : Value) : Act Gateway Fields := ask (analysisQuestion input)

def logEntry (now : Moment) (endpoint success details : Value) : Value :=
  .record [("timestamp", .text now.iso), ("endpoint", endpoint), ("success", success), ("details", details)]

/-- Logs an interaction at the end of the log. -/
def note (endpoint success details : Value) : Act Gateway Unit := do
  let g ← get
  let line ← liftM (g.dump (logEntry g.now endpoint success details))
  modify fun g => { g with log := g.log ++ (line ++ "\n") }

end Gateway
end Playhouse
