import Playhouse.Proofs.Gateway.Window

/-!
The rate limit of a gateway that is asked many questions at a time. Each request goes on from one wait to the next,
and in between any others may; whatever is answered and however long the waits are, no window of a minute has
more requests than the limit. What carries this is that the times that a check forgets are too old for
every window that a later request can be in.
-/
namespace Playhouse.Gateway
open Number Act List Decimal

/-! ### Requests side by side -/

/-- A request in the course of its attempts: it is about to make one, with some left and a number made, it
waits for an answer, or it is over. -/
inductive Task where
  | trying (url : String) (payload : Value) (left number : Nat)
  | awaiting (url : String) (payload : Value) (left number : Nat) (answer : Answer)
  | finished

/-- Puts a question together, up to its first attempt. -/
def begin (question : Question) : Act Gateway Task := do
  let model ← defaultModel
  return .trying (← chatAddress) (question.payload model) maxAttempts 0

namespace Task

/-- A request after an attempt: it pauses before the next one, or is over. -/
def settle (url : String) (payload : Value) (left number : Nat) (result : Except Fault Attempt) : Act Gateway Task := do
  match following left number result with
  | .ok (.paused seconds) =>
    pause seconds
    return .trying url payload left (number + 1)
  | _ => return .finished

/-- What a request does until it waits again: it sends and waits for the answer, or takes the answer and
pauses. -/
def proceed : Task → Act Gateway Task
  | .trying url payload (left + 1) number => do
    match ← (launch "POST" url payload).outcome with
    | .ok answer => return .awaiting url payload left number answer
    | .error fault => settle url payload left number (.error fault)
  | .awaiting url payload left number answer => do settle url payload left number (landed (← get).timer answer)
  | .trying _ _ 0 _ => return .finished
  | .finished => return .finished

end Task

/-- A gateway, the requests that are under way, and the readings of the clock at which one was sent. -/
structure World where
  gateway : Gateway
  tasks : List Task := []
  sends : List Number := []

/-- A question is put, a request goes on, or time does. -/
inductive Event where
  | asked (question : Question)
  | proceeds (place : Nat)
  | clock (reading : Number) (now : Moment)

namespace World

/-- What is done leads to a task, and if a request is sent, this is noted. -/
def does (w : World) (act : Act Gateway Task) (place : Task → List Task) : World :=
  { gateway := (act.runFrom w.gateway).2
    tasks := place ((act.runFrom w.gateway).1.toOption.getD .finished)
    sends := w.sends ++ replicate ((act.runFrom w.gateway).2.sent.length - w.gateway.sent.length) w.gateway.time }

def step (w : World) : Event → World
  | .asked question => w.does (begin question) fun task => w.tasks ++ [task]
  | .proceeds place =>
    match w.tasks[place]? with
    | some task => w.does task.proceed fun next => w.tasks.set place next
    | none => w
  | .clock reading now => { w with gateway := { w.gateway with time := reading, now } }

def after (w : World) (events : List Event) : World := events.foldl step w

end World

open World

/-- The time lies in the minute up to another, which is in it itself. -/
def inMinute (stop : ℚ) (time : Number) : Bool := decide (stop - 60 < time.toRat ∧ time.toRat ≤ stop)

/-- A clock that does not go back and shows times that floats hold. -/
def Ticks : Number → List Event → Prop
  | _, [] => True
  | now, .clock reading _ :: events => reading.IsExact ∧ now.toRat ≤ reading.toRat ∧ Ticks reading events
  | now, _ :: events => Ticks now events

/-! ### One question alone -/

section
variable {url : String} {payload : Value}

/-- A request that is alone goes on. -/
theorem World.step_proceeds {w : World} {task : Task} (alone : w.tasks = [task]) {outcome : Except Fault Task × Gateway}
    (run : task.proceed.runFrom w.gateway = outcome) :
    (w.step (.proceeds 0)).gateway = outcome.2 ∧ (w.step (.proceeds 0)).tasks = [outcome.1.toOption.getD .finished] := by
  simp [step, does, alone, run]

variable (g : Gateway)

theorem attempt_run (method url : String) (payload : Value) :
    (attempt method url payload).runFrom g =
      (((launch method url payload).runFrom g).1.bind (landed ((launch method url payload).runFrom g).2.timer),
        ((launch method url payload).runFrom g).2) := by
  rw [attempt, runFrom_bind]
  rcases (launch method url payload).runFrom g with ⟨fault | answer, h⟩
  · rfl
  · exact runFrom_liftM ..

/-- Goes on after an attempt, as the attempts of a request that is alone do. -/
def conclude (url : String) (payload : Value) (left number : Nat) (result : Except Fault Attempt) : Act Gateway Value := do
  match ← liftM (following left number result) with
  | .answered value => return value
  | .paused seconds =>
    sleep seconds
    tryFrom "POST" url payload left (number + 1)

theorem tryFrom_succ (left number : Nat) :
    (tryFrom "POST" url payload (left + 1) number).runFrom g =
      (conclude url payload left number (((launch "POST" url payload).runFrom g).1.bind
        (landed ((launch "POST" url payload).runFrom g).2.timer))).runFrom ((launch "POST" url payload).runFrom g).2 := by
  have run : (tryFrom "POST" url payload (left + 1) number).runFrom g =
      ((attempt "POST" url payload).outcome >>= conclude url payload left number).runFrom g := rfl
  rw [run, runFrom_bind, runFrom_outcome, attempt_run]

/-- A request that has settled after an attempt goes on when its pause is over. -/
theorem conclude_scheduled {left number : Nat} (result : Except Fault Attempt) {w : World} {g : Gateway}
    (gateway : w.gateway = ((Task.settle url payload left number result).runFrom g).2)
    (alone : w.tasks = [((Task.settle url payload left number result).runFrom g).1.toOption.getD .finished])
    (rest : ∀ w : World, w.tasks = [.trying url payload left (number + 1)] →
      ∃ events, (w.after events).gateway = ((tryFrom "POST" url payload left (number + 1)).runFrom w.gateway).2) :
    ∃ events, (w.after events).gateway = ((conclude url payload left number result).runFrom g).2 := by
  unfold Task.settle at gateway alone
  rw [conclude, runFrom_bind, runFrom_liftM]
  generalize following left number result = next at gateway alone ⊢
  rcases next with fault | value | seconds
  iterate 2 · exact ⟨[], gateway⟩
  · obtain ⟨events, reached⟩ := rest
      (w.step (.clock ((g.time.add? (g.timer.passes seconds)).getD g.time)
        (g.now.plusMicros (Moment.microsOf (g.timer.passes seconds))))) alone
    refine ⟨.clock _ _ :: events, reached.trans ?_⟩
    rw [step, gateway]
    rfl

/-- The attempts of a request that is alone are a way in which requests can take turns. -/
theorem tryFrom_scheduled (left number : Nat) (w : World) (alone : w.tasks = [.trying url payload left number]) :
    ∃ events, (w.after events).gateway = ((tryFrom "POST" url payload left number).runFrom w.gateway).2 := by
  induction left generalizing number w with
  | zero => exact ⟨[], rfl⟩
  | succ left ih =>
    have run : (Task.trying url payload (left + 1) number).proceed.runFrom w.gateway =
        match (launch "POST" url payload).runFrom w.gateway with
        | (.ok answer, g) => (.ok (.awaiting url payload left number answer), g)
        | (.error fault, g) => (Task.settle url payload left number (.error fault)).runFrom g := by
      rw [Task.proceed, runFrom_bind, runFrom_outcome]
      rcases (launch "POST" url payload).runFrom w.gateway with ⟨fault | answer, g⟩ <;> rfl
    rw [tryFrom_succ]
    generalize (launch "POST" url payload).runFrom w.gateway = launched at run ⊢
    obtain ⟨fault | answer, g⟩ := launched
    · obtain ⟨gateway, settled⟩ := step_proceeds alone run
      obtain ⟨events, reached⟩ := conclude_scheduled (.error fault) gateway settled (ih (number + 1))
      exact ⟨.proceeds 0 :: events, reached⟩
    · obtain ⟨gateway, awaits⟩ := step_proceeds alone run
      obtain ⟨gateway_again, settled⟩ := step_proceeds awaits (congrArg _ gateway)
      obtain ⟨events, reached⟩ := conclude_scheduled (landed g.timer answer) gateway_again settled (ih (number + 1))
      exact ⟨.proceeds 0 :: .proceeds 0 :: events, reached⟩

/-- What a question does to the gateway, its request does. -/
theorem ask_run (question : Question) : ((ask question).runFrom g).2 = (((begin question).outcome >>= fun
      | .ok (.trying url payload left number) => discard (tryFrom "POST" url payload left number)
      | _ => pure ⟨⟩).runFrom g).2 := by
  simp only [ask, begin, chat, runFrom_bind, runFrom_outcome]
  rcases (defaultModel).runFrom g with ⟨fault | model, g⟩
  · rfl
  · dsimp only
    rcases (chatAddress).runFrom g with ⟨fault | url, h⟩
    · rfl
    · simp only [runFrom_pure, runFrom_discard]
      rcases (tryFrom "POST" url (question.payload model) maxAttempts 0).runFrom h with ⟨fault | reply, h⟩
      · rfl
      · simp only [runFrom_liftM]
        cases question.read reply <;> rfl

/-- Asking a question alone is a way in which questions can take turns. -/
theorem ask_scheduled (question : Question) :
    ∃ events, ((World.mk g [] []).after events).gateway = ((ask question).runFrom g).2 := by
  rw [ask_run, runFrom_bind, runFrom_outcome]
  have asked : ((World.mk g [] []).step (.asked question)).gateway = ((begin question).runFrom g).2 := rfl
  have tasks : ((World.mk g [] []).step (.asked question)).tasks =
      [((begin question).runFrom g).1.toOption.getD .finished] := rfl
  generalize (begin question).runFrom g = begun at asked tasks
  obtain ⟨fault | task, h⟩ := begun
  · exact ⟨[.asked question], asked⟩
  · cases task with
    | trying url payload left number =>
      obtain ⟨events, reached⟩ := tryFrom_scheduled left number _ tasks
      refine ⟨.asked question :: events, reached.trans ?_⟩
      rw [asked]
      simp only [runFrom_discard]
    | awaiting url payload left number answer | finished => exact ⟨[.asked question], asked⟩

end

/-! ### What a stretch does -/

/-- What sending a request can do to the gateway. -/
inductive Launched (g : Gateway) : Gateway → Prop where
  | stuck {fault : Fault} (faulty : inWindow g.time g.history = .error fault) : Launched g g
  | refused {counted : List Number} (kept : inWindow g.time g.history = .ok counted) :
      Launched g { g with history := counted }
  | sent {counted : List Number} (kept : inWindow g.time g.history = .ok counted)
      (admitted : admits g.rateLimit counted = .ok true) (request : Sent) :
      Launched g { g with history := counted ++ [g.time], sent := g.sent ++ [request], answers := g.answers.tail }

variable (g : Gateway)

theorem launch_launched (method url : String) (payload : Value) :
    Launched g ((launch method url payload).runFrom g).2 := by
  simp only [launch, withinLimit, runFrom_bind, runFrom_get, runFrom_liftM, runFrom_modify]
  cases kept : inWindow g.time g.history with
  | error fault => exact .stuck kept
  | ok counted =>
    cases admitted : admits g.rateLimit counted with
    | error fault => simpa [admitted] using Launched.refused kept
    | ok answer =>
      cases answer with
      | false => simpa [admitted] using Launched.refused kept
      | true => simpa [admitted, send] using Launched.sent kept admitted ⟨method, url, payload⟩

theorem Launched.time {g h : Gateway} (launched : Launched g h) : h.time = g.time := by
  cases launched <;> rfl

/-- Nothing that the limit is about has changed. -/
structure Quiet (g h : Gateway) : Prop where
  history : h.history = g.history
  sent : h.sent = g.sent
  time : h.time = g.time
  rateLimit : h.rateLimit = g.rateLimit

theorem quiet_refl : Quiet g g := ⟨rfl, rfl, rfl, rfl⟩

theorem keeps_connect : Keeps (Quiet g) connect := by
  intro h same
  cases opened : h.isOpen with
  | true => simpa [connect, opened] using same
  | false =>
    simp only [connect, runFrom_bind, runFrom_get, opened, Bool.not_false, if_true, runFrom_modify]
    exact ⟨same.history, same.sent, same.time, same.rateLimit⟩

theorem begin_quiet (question : Question) : Quiet g ((begin question).runFrom g).2 := by
  have keeps : Keeps (Quiet g) (begin question) := by
    refine Keeps.bind ?_ fun model => Keeps.bind ?_ fun url => keeps_pure _
    · exact keeps_get.bind fun _ => (keeps_liftM _).bind fun _ => keeps_liftM _
    · refine keeps_get.bind fun _ => (keeps_liftM _).bind fun _ => (keeps_liftM _).bind fun _ => ?_
      exact (keeps_connect g).bind fun _ => keeps_get.bind fun _ => keeps_pure _
  exact keeps g (quiet_refl g)

theorem settle_quiet (url : String) (payload : Value) (left number : Nat) (result : Except Fault Attempt) :
    Quiet g ((Task.settle url payload left number result).runFrom g).2 := by
  unfold Task.settle
  split
  · exact ⟨rfl, rfl, rfl, rfl⟩
  · exact quiet_refl g

/-- A request that goes on sends at most once. -/
theorem proceed_cases (task : Task) : ∃ h, (h = g ∨ Launched g h) ∧ Quiet h (task.proceed.runFrom g).2 := by
  cases task with
  | trying url payload left number =>
    cases left with
    | zero => exact ⟨g, .inl rfl, quiet_refl g⟩
    | succ left =>
      refine ⟨_, .inr (launch_launched g "POST" url payload), ?_⟩
      simp only [Task.proceed, runFrom_bind, runFrom_outcome]
      cases ((launch "POST" url payload).runFrom g).1 with
      | ok answer => exact quiet_refl _
      | error fault => exact settle_quiet ..
  | awaiting url payload left number answer => exact ⟨g, .inl rfl, settle_quiet ..⟩
  | finished => exact ⟨g, .inl rfl, quiet_refl g⟩

/-! ### The limit -/

/-- The limit has been kept so far, and the times of the requests of the last minute are known. -/
structure Bounded (n : Int) (g : Gateway) (sends : List Number) : Prop where
  limit : g.rateLimit = .int n
  exact_time : g.time.IsExact
  far : 32 ≤ g.time.toRat
  past : ∀ time ∈ sends, time.IsExact ∧ 32 ≤ time.toRat ∧ time.toRat ≤ g.time.toRat
  known : ∀ time ∈ g.history, time.IsExact
  recent : (sends.filter fun time => g.time.toRat - 60 < time.toRat).Sublist g.history
  noted : sends.length = g.sent.length
  few : ∀ stop, sends.countP (inMinute stop) ≤ n.toNat

section
variable {n : Int} {g h : Gateway} {sends : List Number}

section
variable (bounded : Bounded n g sends)
include bounded

theorem Bounded.quiet (same : Quiet g h) : Bounded n h sends := by
  obtain ⟨limit, exact_time, far, past, known, recent, noted, few⟩ := bounded
  obtain ⟨history, sent, time, rateLimit⟩ := same
  rw [← time] at exact_time far past recent
  rw [← history] at known recent
  exact ⟨rateLimit.trans limit, exact_time, far, past, known, recent, sent ▸ noted, few⟩

/-- The clock goes on: fewer requests are of the last minute. -/
theorem Bounded.clock {reading : Number} (exact_reading : reading.IsExact) (later : g.time.toRat ≤ reading.toRat)
    (now : Moment) : Bounded n { g with time := reading, now } sends := by
  refine ⟨bounded.limit, exact_reading, bounded.far.trans later, fun time member => ?_, bounded.known, ?_,
    bounded.noted, bounded.few⟩
  · obtain ⟨exact_time, far, before⟩ := bounded.past time member
    exact ⟨exact_time, far, before.trans later⟩
  · refine Sublist.trans (monotone_filter_right sends fun time near => ?_) bounded.recent
    rw [decide_eq_true_iff] at near ⊢
    linarith

/-- A check forgets no request of the last minute. -/
theorem Bounded.check {counted : List Number} (kept : inWindow g.time g.history = .ok counted) :
    Bounded n { g with history := counted } sends := by
  rw [inWindow_eq bounded.exact_time bounded.known] at kept
  cases kept
  refine ⟨bounded.limit, bounded.exact_time, bounded.far, bounded.past,
    fun time member => bounded.known time (mem_of_mem_filter member), ?_, bounded.noted, bounded.few⟩
  have counted_all : (sends.filter fun time => g.time.toRat - 60 < time.toRat).filter (counts g.time) =
      sends.filter fun time => g.time.toRat - 60 < time.toRat := by
    refine filter_eq_self.2 fun time member => ?_
    obtain ⟨sent, near⟩ := mem_filter.1 member
    obtain ⟨exact_time, far, before⟩ := bounded.past time sent
    exact counts_of_near bounded.exact_time exact_time far before (of_decide_eq_true near)
  rw [← counted_all]
  exact bounded.recent.filter _

/-- A request within the limit keeps it: all others of its minute are known. -/
theorem Bounded.send (room : (g.history.length : Int) < n) (request : Sent) (answers : List Answer) :
    Bounded n { g with history := g.history ++ [g.time], sent := g.sent ++ [request], answers }
      (sends ++ [g.time]) := by
  refine ⟨bounded.limit, bounded.exact_time, bounded.far, ?_, ?_, ?_, ?_, fun stop => ?_⟩
  · exact forall_mem_append.2
      ⟨bounded.past, forall_mem_singleton.2 ⟨bounded.exact_time, bounded.far, le_refl _⟩⟩
  · exact forall_mem_append.2 ⟨bounded.known, forall_mem_singleton.2 bounded.exact_time⟩
  · rw [filter_append]
    exact bounded.recent.append filter_sublist
  · simp [bounded.noted]
  · rw [countP_append, countP_singleton]
    by_cases inside : inMinute stop g.time = true
    · have of_minute : sends.countP (inMinute stop) ≤ g.history.length := by
        refine le_trans ?_ bounded.recent.length_le
        rw [← countP_eq_length_filter]
        refine countP_mono_left fun time _ within => ?_
        simp only [inMinute, decide_eq_true_iff] at inside within ⊢
        linarith
      rw [if_pos inside]
      omega
    · rw [if_neg inside]
      exact bounded.few stop

theorem Bounded.launched (launched : Launched g h) :
    Bounded n h (sends ++ replicate (h.sent.length - g.sent.length) g.time) := by
  cases launched with
  | stuck faulty => simpa using bounded
  | refused kept => simpa using bounded.check kept
  | sent kept admitted request =>
    have checked := bounded.check kept
    rw [bounded.limit, admits_iff] at admitted
    simpa using checked.send admitted request g.answers.tail

end

variable {w : World}

section
variable (bounded : Bounded n w.gateway w.sends)
include bounded

/-- What is done keeps the limit and takes no time. -/
theorem Bounded.does {act : Act Gateway Task} (place : Task → List Task)
    (acts : ∃ h, (h = w.gateway ∨ Launched w.gateway h) ∧ Quiet h (act.runFrom w.gateway).2) :
    Bounded n (w.does act place).gateway (w.does act place).sends ∧
      (w.does act place).gateway.time = w.gateway.time := by
  obtain ⟨h, launched, same⟩ := acts
  rw [World.does, same.sent]
  rcases launched with rfl | launched
  · rw [Nat.sub_self, replicate_zero, append_nil]
    exact ⟨bounded.quiet same, same.time⟩
  · exact ⟨(bounded.launched launched).quiet same, same.time.trans launched.time⟩

theorem Bounded.step {event : Event} {events : List Event}
    (ticks : Ticks w.gateway.time (event :: events)) :
    Bounded n (w.step event).gateway (w.step event).sends ∧ Ticks (w.step event).gateway.time events := by
  cases event with
  | asked question =>
    obtain ⟨kept, time⟩ := bounded.does (fun task => w.tasks ++ [task]) ⟨_, .inl rfl, begin_quiet w.gateway question⟩
    exact ⟨kept, time ▸ ticks⟩
  | proceeds place =>
    rw [World.step]
    split
    · rename_i task found
      obtain ⟨kept, time⟩ := bounded.does (fun next => w.tasks.set place next) (proceed_cases w.gateway task)
      exact ⟨kept, time ▸ ticks⟩
    · exact ⟨bounded, ticks⟩
  | clock reading now =>
    obtain ⟨exact_reading, later, rest⟩ := ticks
    exact ⟨bounded.clock exact_reading later now, rest⟩

theorem Bounded.after {events : List Event} (ticks : Ticks w.gateway.time events) :
    Bounded n (w.after events).gateway (w.after events).sends := by
  induction events generalizing w with
  | nil => exact bounded
  | cons event events ih =>
    obtain ⟨kept, rest⟩ := bounded.step ticks
    exact ih kept rest

end

end

/-! ### From the start -/

theorem isExact_int {n : Int} {value : Binary} (class_ : classify (Float.ofInt n).toBits = (false, .finite value))
    (same : value.toRat = n) : (Number.int n).IsExact := by
  rw [IsExact, toFloat, valueOf?, class_]
  exact congrArg some same

variable {now : Moment} {file : Option Value} {url? key? : Option String} {answers : List Answer} {g : Gateway}

theorem start_fresh (started : start now file url? key? answers = .ok g) :
    g.history = [] ∧ g.sent = [] ∧ g.time = .int 1000000 := by
  simp only [start, bind, Except.bind] at started
  split at started
  · cases started
  split at started
  · cases started
  split at started
  · cases started
  cases started
  exact ⟨rfl, rfl, rfl⟩

theorem bounded_start {n : Int} (started : start now file url? key? answers = .ok g) (limit : g.rateLimit = .int n) :
    Bounded n g [] := by
  obtain ⟨history, sent, time⟩ := start_fresh started
  have class_ : classify (Float.ofInt 1000000).toBits = (false, .finite ⟨8589934592000000, -33⟩) := by decide
  refine ⟨limit, ?_, ?_, by simp, by simp [history], by simp, by simp [sent], by simp⟩
  · rw [time]
    exact isExact_int class_ (by norm_num [Binary.toRat])
  · rw [time]
    norm_num [toRat]

/-- However the questions that are put to a gateway take turns, whatever is answered and however long the waits are, on
a clock that does not go back every request that is sent is noted, and no window of a minute, with its end and
without its beginning, has more of them than the limit. To ask a question alone is one way of taking turns. -/
theorem sends_keep_limit {n : Int} (started : start now file url? key? answers = .ok g) (limit : g.rateLimit = .int n)
    (events : List Event) (ticks : Ticks g.time events) :
    ((World.mk g [] []).after events).sends.length = ((World.mk g [] []).after events).gateway.sent.length ∧
      (∀ stop, ((World.mk g [] []).after events).sends.countP (inMinute stop) ≤ n.toNat) ∧
      ∀ question (h : Gateway), ∃ turns, ((World.mk h [] []).after turns).gateway = ((ask question).runFrom h).2 := by
  have bounded := (bounded_start started limit).after (w := World.mk g [] []) ticks
  exact ⟨bounded.noted, bounded.few, fun question h => ask_scheduled h question⟩

/-- Two questions take turns where one request a minute may be sent. -/
theorem sends_keep_limit_of_one : ∃ g, start ⟨0⟩ (some (.record [("rate_limit", .int 1),
      ("models", .record [("default", .text "small")]), ("endpoints", .record [("chat", .text "/chat")])]))
      none none [] = .ok g ∧ g.rateLimit = .int 1 ∧
    ∀ stop, ((World.mk g [] []).after [.asked (analysisQuestion (.text "hello")), .asked (storyQuestion (.text "sea") .null),
      .proceeds 1, .clock (.int 1000030) ⟨30000000⟩, .proceeds 0]).sends.countP (inMinute stop) ≤ 1 := by
  have class_ : Decimal.classify (Float.ofInt 1000030).toBits = (false, .finite ⟨8590192290037760, -33⟩) := by decide
  have exact_reading : (Number.int 1000030).IsExact := isExact_int class_ (by norm_num [Decimal.Binary.toRat])
  obtain ⟨g, started, limit⟩ : ∃ g, start ⟨0⟩ (some (.record [("rate_limit", .int 1),
      ("models", .record [("default", .text "small")]), ("endpoints", .record [("chat", .text "/chat")])]))
      none none [] = .ok g ∧ g.rateLimit = .int 1 := ⟨_, rfl, rfl⟩
  have time : g.time = .int 1000000 := (start_fresh started).2.2
  refine ⟨g, started, limit, (sends_keep_limit started limit _ ?_).2.1⟩
  rw [time]
  exact ⟨exact_reading, by norm_num [toRat], trivial⟩

end Playhouse.Gateway
