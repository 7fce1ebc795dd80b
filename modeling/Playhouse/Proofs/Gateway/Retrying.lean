import Playhouse.Proofs.Gateway.Window

/-!
The course of a request. Each attempt has one of four outcomes, which the gateway decides at that moment from the
times it has noted and the next answer; what the request comes to, how long it waits and what it notes follow from
the outcomes alone.
-/
namespace Playhouse.Gateway
open List Act

/-! ### Outcomes -/

/-- What an attempt comes to: nothing is sent, the other side asks to wait, something else goes wrong, or there is a
body. -/
inductive Outcome where
  | refused (fault : Fault)
  | busy (seconds : Int)
  | failed (fault : Fault)
  | success (body : Value)

namespace Outcome

/-- What an answer comes to. -/
def ofAnswer (timer : Timer) : Answer → Outcome
  | .failure reason => .failed (.remote reason)
  | .response status retryAfter body =>
    if status = tooManyRequests then
      match wholeNumber (retryAfter.getD (.int 1)) with
      | .ok seconds => if timer.takes seconds then .busy seconds else .failed .hugeNumber
      | .error fault => .failed fault
    else if 400 ≤ status then .failed (.httpStatus status)
    else .success body

def sends : Outcome → Bool
  | refused _ => false
  | busy _ | failed _ | success _ => true

def succeeds : Outcome → Bool
  | success _ => true
  | refused _ | busy _ | failed _ => false

/-- How long is waited after the attempt of a number, the first being one. -/
def wait? (number : Nat) : Outcome → Option Number
  | success _ => none
  | busy seconds => some (.int seconds)
  | refused _ | failed _ => if number < maxAttempts then some (.int number) else none

/-- What a request comes to if its last attempt has the outcome. -/
def verdict : Outcome → Except Fault Value
  | success body => .ok body
  | busy _ => .error .retriesExceeded
  | refused fault | failed fault => .error fault

/-- What the attempt gives to those who go on from it. -/
def result : Outcome → Except Fault Attempt
  | success body => .ok (.body body)
  | busy seconds => .ok (.wait seconds)
  | refused fault | failed fault => .error fault

end Outcome

/-- The outcome of an attempt that is made now. A check of the limit that fails refuses as the limit does. -/
def outcome (g : Gateway) : Outcome :=
  match inWindow g.time g.history with
  | .error fault => .refused fault
  | .ok counted =>
    match admits g.rateLimit counted with
    | .error fault => .refused fault
    | .ok false => .refused .rateLimited
    | .ok true => .ofAnswer g.timer (g.answers.headD (.failure "no response"))

/-! ### What attempts leave -/

/-- The times that an attempt made now leaves noted. A check that fails leaves them all. -/
def kept (g : Gateway) : List Number := (inWindow g.time g.history).toOption.getD g.history

/-- The times that an attempt made now finds a minute old or older, and forgets. -/
def lapsed (g : Gateway) : List Number :=
  match inWindow g.time g.history with
  | .ok _ => g.history.filter fun time => !counts g.time time
  | .error _ => []

/-- The gateway after an attempt: the times that no longer count are forgotten, and a request that is sent is noted. -/
def met (request : Sent) (outcome : Outcome) (g : Gateway) : Gateway :=
  if outcome.sends then
    { g with history := g.kept ++ [g.time], sent := g.sent ++ [request], answers := g.answers.tail }
  else { g with history := g.kept }

/-- The gateway after a wait. -/
def rested (wait? : Option Number) (g : Gateway) : Gateway :=
  match wait? with
  | none => g
  | some seconds =>
    { g with
      sleeps := g.sleeps ++ [seconds]
      time := (g.time.add? (g.timer.passes seconds)).getD g.time
      now := g.now.plusMicros (Moment.microsOf (g.timer.passes seconds)) }

/-- The gateway after the attempt of a number with some outcome, and after the wait that follows it. -/
def attempted (request : Sent) (number : Nat) (outcome : Outcome) (g : Gateway) : Gateway :=
  rested (outcome.wait? number) (met request outcome g)

/-- The gateway after attempts with some outcomes, the first of a number, and after the waits that follow them. -/
def through (request : Sent) : Nat → Gateway → List Outcome → Gateway
  | _, g, [] => g
  | number, g, outcome :: outcomes => through request (number + 1) (attempted request number outcome g) outcomes

/-- The waits after attempts with some outcomes. -/
def waits : Nat → List Outcome → List Number
  | _, [] => []
  | number, outcome :: outcomes => (outcome.wait? number).toList ++ waits (number + 1) outcomes

/-- The readings of the clock at which the attempts with some outcomes send. -/
def readings (request : Sent) : Nat → Gateway → List Outcome → List Number
  | _, _, [] => []
  | number, g, outcome :: outcomes =>
    (if outcome.sends then [g.time] else []) ++
      readings request (number + 1) (attempted request number outcome g) outcomes

/-- The times that the attempts with some outcomes forget. -/
def lapses (request : Sent) : Nat → Gateway → List Outcome → List Number
  | _, _, [] => []
  | number, g, outcome :: outcomes =>
    g.lapsed ++ lapses request (number + 1) (attempted request number outcome g) outcomes

theorem inWindow_ok {now : Number} {times counted : List Number} (ok : inWindow now times = .ok counted) :
    counted = times.filter (counts now) := by
  rw [filter_of_filterM ok]
  refine filter_congr fun time _ => ?_
  cases distance : now.sub? time <;> simp [counts, distance]

/-- An attempt forgets what it finds too old, and nothing else. -/
theorem kept_append_lapsed (g : Gateway) : (g.kept ++ g.lapsed).Perm g.history := by
  unfold kept lapsed
  cases checked : inWindow g.time g.history with
  | error fault => simp
  | ok counted =>
    rw [Except.toOption, Option.getD_some, inWindow_ok checked]
    exact filter_append_perm (counts g.time) g.history

section
variable {request : Sent} (number : Nat) (g : Gateway) (outcomes : List Outcome)

/-- An attempt with its wait adds its wait, and its request and the time of it if it sends. -/
theorem attempted_adds (outcome : Outcome) :
    (attempted request number outcome g).sleeps = g.sleeps ++ (outcome.wait? number).toList ∧
      (attempted request number outcome g).sent =
        g.sent ++ replicate (if outcome.sends then 1 else 0) request ∧
      (attempted request number outcome g).history = g.kept ++ if outcome.sends then [g.time] else [] := by
  unfold attempted met
  cases outcome.wait? number <;> split <;> simp [rested]

theorem through_sleeps : (through request number g outcomes).sleeps = g.sleeps ++ waits number outcomes := by
  induction outcomes generalizing number g with
  | nil => simp [through, waits]
  | cons outcome outcomes ih => rw [through, ih, (attempted_adds number g outcome).1, waits, append_assoc]

theorem through_sent :
    (through request number g outcomes).sent = g.sent ++ replicate (outcomes.countP Outcome.sends) request := by
  induction outcomes generalizing number g with
  | nil => simp [through]
  | cons outcome outcomes ih =>
    rw [through, ih, (attempted_adds number g outcome).2.1, append_assoc, replicate_append_replicate,
      countP_cons, Nat.add_comm]

theorem length_readings : (readings request number g outcomes).length = outcomes.countP Outcome.sends := by
  induction outcomes generalizing number g with
  | nil => rfl
  | cons outcome outcomes ih =>
    rw [readings, length_append, ih, countP_cons, Nat.add_comm]
    cases outcome.sends <;> rfl

/-- The times noted in the end and those forgotten on the way are the old ones and the readings. -/
theorem through_history : ((through request number g outcomes).history ++ lapses request number g outcomes).Perm
      (g.history ++ readings request number g outcomes) := by
  induction outcomes generalizing number g with
  | nil => simp [through, lapses, readings]
  | cons outcome outcomes ih =>
    have rest := ih (number + 1) (attempted request number outcome g)
    have first := kept_append_lapsed g
    rw [through, lapses, readings]
    generalize after : attempted request number outcome g = next at rest ⊢
    have noted : next.history = g.kept ++ if outcome.sends then [g.time] else [] :=
      after ▸ (attempted_adds number g outcome).2.2
    rw [noted] at rest
    -- the order in which times are kept and forgotten does not matter, so that the two facts add up
    rw [← Multiset.coe_eq_coe] at rest first ⊢
    simp only [← Multiset.coe_add] at rest first ⊢
    rw [add_left_comm, rest, ← first]
    abel

end

/-! ### One attempt -/

theorem landed_eq (timer : Timer) (answer : Answer) : landed timer answer = (Outcome.ofAnswer timer answer).result := by
  cases answer with
  | failure reason => rfl
  | response status retryAfter body =>
    by_cases busy : status = tooManyRequests
    · cases wait : wholeNumber (retryAfter.getD (.int 1)) with
      | error fault => simp [landed, Outcome.ofAnswer, busy, wait, Outcome.result]
      | ok seconds => cases takes : timer.takes seconds <;> simp [landed, Outcome.ofAnswer, busy, wait, takes] <;> rfl
    · by_cases wrong : 400 ≤ status <;> simp [landed, Outcome.ofAnswer, busy, wrong, Outcome.result]

theorem sends_ofAnswer (timer : Timer) (answer : Answer) : (Outcome.ofAnswer timer answer).sends = true := by
  unfold Outcome.ofAnswer
  repeat' split
  all_goals rfl

/-- An attempt comes to its outcome, and notes what it sends. -/
theorem attempt_eq (g : Gateway) (method url : String) (payload : Value) :
    (attempt method url payload).runFrom g = (g.outcome.result, met ⟨method, url, payload⟩ g.outcome g) := by
  simp only [attempt, launch, withinLimit, runFrom_bind, runFrom_get, runFrom_liftM, runFrom_modify]
  unfold outcome
  cases checked : inWindow g.time g.history with
  | error fault => simp [met, Gateway.kept, checked, Outcome.result, Outcome.sends]
  | ok counted =>
    cases admitted : admits g.rateLimit counted with
    | error fault => simp [met, Gateway.kept, checked, admitted, Outcome.result, Outcome.sends]
    | ok answer =>
      cases answer with
      | false => simp [met, Gateway.kept, checked, admitted, Outcome.result, Outcome.sends]
      | true =>
        simp [met, Gateway.kept, checked, admitted, send, landed_eq, sends_ofAnswer]

/-! ### All attempts -/

/-- The outcomes are those of a request that has made some attempts before: each is what its attempt finds when it is
made, none follows a success, and only a success comes before the attempts are used up. The last one decides. -/
structure Course (request : Sent) (made : Nat) (g : Gateway) (outcomes : List Outcome)
    (run : Except Fault Value × Gateway) : Prop where
  few : made + outcomes.length ≤ maxAttempts
  found : ∀ before outcome, before ++ [outcome] <+: outcomes → outcome = (through request (made + 1) g before).outcome
  stops : ∀ outcome ∈ outcomes.dropLast, outcome.succeeds = false
  ends : ∃ last, outcomes.getLast? = some last ∧ run.1 = last.verdict ∧
    (made + outcomes.length < maxAttempts → last.succeeds = true)
  leaves : run.2 = through request (made + 1) g outcomes

section
variable {method url : String} {payload : Value} {g : Gateway}

theorem sleep_eq (seconds : Number) (g : Gateway) : (sleep seconds).runFrom g = (.ok (), rested (some seconds) g) := by
  simp [sleep, pause, pass, rested]

/-- A success, or the last attempt, is the end of the request; after any other attempt the request goes on. -/
theorem tryFrom_succ_run {left made : Nat} (all : made + (left + 1) = maxAttempts) :
    (tryFrom method url payload (left + 1) made).runFrom g =
      if g.outcome.succeeds = true ∨ left = 0 then
        (g.outcome.verdict, attempted ⟨method, url, payload⟩ (made + 1) g.outcome g)
      else (tryFrom method url payload left (made + 1)).runFrom
        (attempted ⟨method, url, payload⟩ (made + 1) g.outcome g) := by
  rw [tryFrom, runFrom_bind, runFrom_outcome, attempt_eq, attempted]
  cases g.outcome with
  | success body =>
    simp [following, Outcome.result, Outcome.verdict, Outcome.wait?, rested, Outcome.succeeds]
  | busy seconds =>
    cases left <;> simp [following, Outcome.result, Outcome.verdict, Outcome.wait?, sleep_eq, tryFrom,
      Outcome.succeeds]
  | refused fault | failed fault =>
    cases left with
    | zero =>
      have last : ¬made + 1 < maxAttempts := by omega
      simp [following, Outcome.result, Outcome.verdict, Outcome.wait?, last, rested]
    | succ left =>
      have more : made + 1 < maxAttempts := by omega
      simp [following, Outcome.result, Outcome.wait?, more, sleep_eq, Outcome.succeeds]

theorem Course.single {request : Sent} {made : Nat} (few : made < maxAttempts)
    (done : g.outcome.succeeds = true ∨ made + 1 = maxAttempts) :
    Course request made g [g.outcome] (g.outcome.verdict, attempted request (made + 1) g.outcome g) where
  few := few
  found before outcome leads := by
    cases before with
    | nil => exact (cons_prefix_cons.1 leads).1
    | cons first before => simp at leads
  stops := by simp
  ends := ⟨g.outcome, rfl, rfl, fun early => done.resolve_right (by simp at early; omega)⟩
  leaves := rfl

theorem Course.cons {request : Sent} {made : Nat} {outcomes : List Outcome} {run : Except Fault Value × Gateway}
    (course : Course request (made + 1) (attempted request (made + 1) g.outcome g) outcomes run)
    (again : g.outcome.succeeds = false) :
    Course request made g (g.outcome :: outcomes) run := by
  obtain ⟨last, final, verdict, early⟩ := course.ends
  refine ⟨?_, ?_, ?_, ⟨last, ?_, verdict, ?_⟩, course.leaves⟩
  · have few := course.few
    rw [length_cons]
    omega
  · intro before outcome leads
    cases before with
    | nil => exact (cons_prefix_cons.1 leads).1
    | cons first before =>
      obtain ⟨rfl, rest⟩ := cons_prefix_cons.1 leads
      exact course.found before outcome rest
  · have some_ : outcomes ≠ [] := by
      rintro rfl
      cases final
    rw [dropLast_cons_of_ne_nil some_]
    exact forall_mem_cons.2 ⟨again, course.stops⟩
  · rw [getLast?_cons, final, Option.getD_some]
  · intro fewer
    rw [length_cons] at fewer
    exact early (by omega)

/-- The attempts that are left run their course. -/
theorem tryFrom_course (method url : String) (payload : Value) (left made : Nat) (g : Gateway)
    (all : made + (left + 1) = maxAttempts) :
    ∃ outcomes, Course ⟨method, url, payload⟩ made g outcomes
      ((tryFrom method url payload (left + 1) made).runFrom g) := by
  induction left generalizing made g with
  | zero =>
    rw [tryFrom_succ_run all, if_pos (.inr rfl)]
    exact ⟨_, .single (by omega) (.inr all)⟩
  | succ left ih =>
    cases found : g.outcome.succeeds with
    | true =>
      rw [tryFrom_succ_run all, if_pos (.inl found)]
      exact ⟨_, .single (by omega) (.inl found)⟩
    | false =>
      rw [tryFrom_succ_run all, if_neg (by simp [found])]
      obtain ⟨outcomes, course⟩ := ih (made + 1) (attempted ⟨method, url, payload⟩ (made + 1) g.outcome g) (by omega)
      exact ⟨_, course.cons found⟩

end

/-! ### Requests -/

/-- The gateway when the connection is open. -/
def connected (g : Gateway) : Gateway := (connect.runFrom g).2

/-- What a request through the gateway sends. -/
def sending (g : Gateway) (method : String) (endpoint payload : Value) : Sent :=
  ⟨method, g.baseUrl.asText ++ endpoint.asText, payload⟩

theorem connect_eq (g : Gateway) : connect.runFrom g = (.ok (), g.connected) := by
  cases shut : g.isOpen <;> simp [connected, connect, shut]

theorem connected_frame (g : Gateway) :
    g.connected.baseUrl = g.baseUrl ∧ g.connected.history = g.history ∧ g.connected.sent = g.sent ∧
      g.connected.sleeps = g.sleeps := by
  cases shut : g.isOpen <;> simp [connected, connect, shut]

theorem request_course (method : String) (endpoint payload : Value) (g : Gateway) :
    ∃ outcomes, Course (g.sending method endpoint payload) 0 g.connected outcomes
      ((request method endpoint payload).runFrom g) := by
  have run : (request method endpoint payload).runFrom g =
      (tryFrom method (g.sending method endpoint payload).url payload maxAttempts 0).runFrom g.connected := by
    simp [request, address, connect_eq, sending, (connected_frame g).1]
  rw [run]
  exact tryFrom_course method (g.sending method endpoint payload).url payload 2 0 g.connected rfl

/-- A request makes at most three attempts, up to the first that succeeds, and gives its body; if none succeeds, it
fails as the third does, or as a request that was told to wait too often. What it sleeps, sends and notes are what
each of its attempts asks for. -/
theorem request_runs_course (method : String) (endpoint payload : Value) (g : Gateway) :
    ∃ outcomes,
      Course (g.sending method endpoint payload) 0 g.connected outcomes ((request method endpoint payload).runFrom g) ∧
      ((request method endpoint payload).runFrom g).2.sleeps = g.sleeps ++ waits 1 outcomes ∧
      ((request method endpoint payload).runFrom g).2.sent =
        g.sent ++ List.replicate (outcomes.countP Outcome.sends) (g.sending method endpoint payload) ∧
      (((request method endpoint payload).runFrom g).2.history ++
          lapses (g.sending method endpoint payload) 1 g.connected outcomes).Perm
        (g.history ++ readings (g.sending method endpoint payload) 1 g.connected outcomes) ∧
      (readings (g.sending method endpoint payload) 1 g.connected outcomes).length =
        outcomes.countP Outcome.sends ∧
      Fault.message .retriesExceeded = "Max retries exceeded" := by
  obtain ⟨-, history, sent, sleeps⟩ := connected_frame g
  obtain ⟨outcomes, course⟩ := request_course method endpoint payload g
  refine ⟨outcomes, course, ?_, ?_, ?_, length_readings .., rfl⟩
  · rw [course.leaves, ← sleeps]
    exact through_sleeps ..
  · rw [course.leaves, ← sent]
    exact through_sent ..
  · rw [course.leaves, ← history]
    exact through_history ..

/-- Two requests are sent, but a wait of a minute between them leaves only the second one noted. -/
theorem long_wait_forgets_request :
    let g : Gateway :=
      { config := standardConfig, baseUrl := .text "", apiKey := .null, rateLimit := .int 60, now := ⟨0⟩,
        answers := [.response 429 (some (.text "60")) .null, .response 200 none .null] }
    let after := ((request "POST" (.text "/chat") .null).runFrom g).2
    g.history = [] ∧ after.sent.length = 2 ∧ after.history.length = 1 := by
  decide +kernel

end Playhouse.Gateway
