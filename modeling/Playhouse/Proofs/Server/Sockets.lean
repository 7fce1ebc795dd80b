import Mathlib.Data.List.Nodup
import Playhouse.Server.Launch

/-!
Who is ended when a socket is freed. It should be every process that can be looked at and uses the socket, in whatever
order the processes come. But an address that is not bound yet ends the whole search: whoever comes after it is left
alone, and so is the process that has it, unless a connection on the socket came before.
-/
namespace Playhouse.Server
open List

/-- The process that an event is meant for. -/
def Event.recipient? : Event → Option Value
  | terminate pid | wait pid | kill pid => some pid
  | signal _ | atExit | sleep | run _ => none

namespace Local

def isBound : Local → Bool
  | unbound => false
  | socket _ | absent => true

def isOn (wanted : Value) : Local → Bool
  | socket number => number.equal wanted
  | absent | unbound => false

/-- How many connections on the socket come before any that is unbound. -/
def hits (wanted : Value) (connections : List Local) : Nat := (connections.takeWhile isBound).countP (isOn wanted)

variable (wanted number : Value) (rest : List Local)

@[simp] theorem hits_nil : hits wanted [] = 0 := rfl
@[simp] theorem hits_unbound : hits wanted (unbound :: rest) = 0 := rfl
@[simp] theorem hits_absent : hits wanted (absent :: rest) = hits wanted rest := rfl
@[simp] theorem hits_socket :
    hits wanted (socket number :: rest) = hits wanted rest + if number.equal wanted then 1 else 0 :=
  countP_cons ..

end Local

namespace Program

/-- Whatever the process refuses at any time, it does because it is gone or denies access. -/
def Ordinary (program : Program) : Prop :=
  some .other ∉ [program.refusesOpening, program.refusesListing] ∧ ∀ before, some .other ∉
    [program.refusesEnding before, program.refusesWaiting before, program.refusesKilling before]

/-- The process can be opened, and its connections can be listed. -/
def Accessible (program : Program) : Prop := program.refusesOpening = none ∧ program.refusesListing = none

def Uses (program : Program) (socket : Value) : Prop := program.connections.any (Local.isOn socket)

/-- The process comes to be asked once more: it has a further connection on the socket, and has not refused to be
ended before. -/
def IsAsked (program : Program) (socket : Value) (before : Nat) : Prop :=
  before < Local.hits socket program.connections ∧ ∀ earlier < before, (ending program earlier).2 = none

/-- The process is told to end, and killed whenever it is waited for in vain. -/
structure Served (program : Program) (socket : Value) (events : List Event) : Prop where
  terminated : .terminate program.pid ∈ events
  killed : ∀ before, program.IsAsked socket before → program.refusesEnding before = none →
    program.refusesWaiting before = none → program.stubborn before = true → .kill program.pid ∈ events

/-- Whether an unbound connection of the process ends the search: it is met, unless the process has refused to be
ended before. -/
def trips (socket : Value) (program : Program) : Bool :=
  program.refusesOpening.isNone && program.refusesListing.isNone && program.connections.any (!·.isBound) &&
    (List.range (Local.hits socket program.connections)).all fun before => (ending program before).2.isNone

/-- The processes up to the first that ends the search. -/
def reached (socket : Value) : List Program → List Program
  | [] => []
  | program :: rest => program :: if program.trips socket then [] else reached socket rest

end Program

open Program Local

variable {socket : Value} {program : Program} {event : Event} {connections : List Local} {table : List Program}
  {before : Nat}

/-! ### One process -/

theorem terminate_mem_ending : .terminate program.pid ∈ (ending program before).1 := by
  unfold ending
  split <;> (try split) <;> simp

theorem recipient?_of_mem_ending : ∀ event ∈ (ending program before).1, event.recipient? = some program.pid := by
  unfold ending
  split <;> (try split) <;> simp [Event.recipient?]

theorem Program.Ordinary.ending_verdict (ordinary : program.Ordinary) {refusal : Refusal}
    (refused : (ending program before).2 = some refusal) : refusal.verdict = .next := by
  cases refusal with
  | gone | denied => rfl
  | other =>
    have usual := ordinary.2 before
    unfold ending at refused
    split at refused <;> (try split at refused) <;> simp_all

/-- What a process is told while its connections are gone through: what ending it once takes, for every connection
on the socket that is met, as long as it does not refuse. -/
theorem mem_freeFrom : event ∈ (freeFrom socket program before connections).1 ↔
    ∃ turn < hits socket connections, (∀ earlier < turn, (ending program (before + earlier)).2 = none) ∧
      event ∈ (ending program (before + turn)).1 := by
  fun_induction freeFrom socket program before connections with
  | case1 => simp
  | case2 before rest ih => exact ih
  | case3 before rest => simp
  | case4 before number rest same events refusal ends =>
    -- the process has refused, and is not asked again
    rw [hits_socket, if_pos same]
    constructor
    · exact fun told => ⟨0, by omega, nofun, by rwa [Nat.add_zero, ends]⟩
    · rintro ⟨turn, -, willing, told⟩
      cases turn with
      | zero => rwa [Nat.add_zero, ends] at told
      | succ turn => simpa [ends] using willing 0 (by omega)
  | case5 before number rest same events ends more verdict found ih =>
    rw [found] at ih
    have shift (turn : Nat) : before + 1 + turn = before + (turn + 1) := by omega
    simp only [shift] at ih
    rw [mem_append, ih, hits_socket, if_pos same]
    constructor
    · rintro (first | ⟨turn, bound, willing, told⟩)
      · exact ⟨0, by omega, nofun, by rwa [Nat.add_zero, ends]⟩
      · refine ⟨turn + 1, by omega, fun earlier less => ?_, told⟩
        cases earlier with
        | zero => rw [Nat.add_zero, ends]
        | succ earlier => exact willing earlier (by omega)
    · rintro ⟨turn, bound, willing, told⟩
      cases turn with
      | zero => exact .inl (by rwa [Nat.add_zero, ends] at told)
      | succ turn => exact .inr ⟨turn, by omega, fun earlier less => willing (earlier + 1) (by omega), told⟩
  | case6 before number rest other ih => simpa [other] using ih

theorem freeFrom_over_iff (ordinary : program.Ordinary) : (freeFrom socket program before connections).2 = .over ↔
    connections.any (!·.isBound) ∧ ∀ turn < hits socket connections, (ending program (before + turn)).2 = none := by
  fun_induction freeFrom socket program before connections with
  | case1 => simp
  | case2 before rest ih => exact ih
  | case3 before rest => simp [isBound]
  | case4 before number rest same events refusal ends =>
    rw [ordinary.ending_verdict (congrArg Prod.snd ends), hits_socket, if_pos same]
    refine ⟨nofun, fun ⟨_, willing⟩ => ?_⟩
    simpa [ends] using willing 0 (by omega)
  | case5 before number rest same events ends more verdict found ih =>
    rw [found] at ih
    have shift (turn : Nat) : before + 1 + turn = before + (turn + 1) := by omega
    simp only [shift] at ih
    rw [ih, any_cons, hits_socket, if_pos same]
    simp only [isBound, Bool.not_true, Bool.false_or]
    refine and_congr_right fun _ => ⟨fun willing turn less => ?_, fun willing turn less => willing _ (by omega)⟩
    cases turn with
    | zero => rw [Nat.add_zero, ends]
    | succ turn => exact willing turn (by omega)
  | case6 before number rest other ih => simpa [isBound, other] using ih

theorem mem_freeProgram : event ∈ (freeProgram socket program).1 ↔
    program.Accessible ∧ ∃ before, program.IsAsked socket before ∧ event ∈ (ending program before).1 := by
  unfold freeProgram
  split <;> simp_all [Accessible, mem_freeFrom, IsAsked, and_assoc]

theorem freeProgram_over_iff (ordinary : program.Ordinary) :
    (freeProgram socket program).2 = .over ↔ program.trips socket = true := by
  unfold freeProgram
  split
  case h_1 refusal refused => cases refusal <;> simp_all [Ordinary, trips, Refusal.verdict]
  case h_2 refusal opened refused => cases refusal <;> simp_all [Ordinary, trips, Refusal.verdict]
  case h_3 opened listed => simp [trips, opened, listed, freeFrom_over_iff ordinary]

/-! ### The whole table -/

theorem mem_freeSocket (ordinary : ∀ program ∈ table, program.Ordinary) : event ∈ freeSocket socket table ↔
    ∃ program ∈ reached socket table, event ∈ (freeProgram socket program).1 := by
  induction table with
  | nil => simp [freeSocket, reached]
  | cons first rest ih =>
    obtain ⟨ordinary_first, ordinary⟩ := forall_mem_cons.1 ordinary
    have stops := @freeProgram_over_iff socket _ ordinary_first
    rw [freeSocket, reached]
    rcases told : freeProgram socket first with ⟨events, _ | _⟩ <;> rw [told] at stops
    · simp_all
    · simp_all

theorem reached_subset : reached socket table ⊆ table := by
  induction table with
  | nil => exact nil_subset _
  | cons first rest ih =>
    rw [reached]
    split
    · simp
    · exact cons_subset_cons _ ih

/-- In a table of ordinary processes, each under its own number, all that can be looked at and use the socket are ended
exactly if each is reached before the search is over and has a connection on the socket before its unbound ones; and
nobody is told anything who does not use the socket. -/
theorem freeSocket_complete_iff (socket : Value) (table : List Program) (apart : (table.map Program.pid).Nodup)
    (ordinary : ∀ program ∈ table, program.Ordinary) :
    ((∀ program ∈ table, program.Accessible → program.Uses socket →
        program.Served socket (freeSocket socket table)) ↔
      ∀ program ∈ table, program.Accessible → program.Uses socket →
        program ∈ Program.reached socket table ∧ 0 < Local.hits socket program.connections) ∧
    ∀ program ∈ table, ¬ program.Uses socket →
      ∀ event ∈ freeSocket socket table, event.recipient? ≠ some program.pid := by
  -- what is meant for a process comes from it, since no other has its number
  have own {program : Program} {event : Event} (member : program ∈ table) (told : event ∈ freeSocket socket table)
      (named : event.recipient? = some program.pid) :
      program ∈ reached socket table ∧ 0 < hits socket program.connections := by
    obtain ⟨source, among, told⟩ := (mem_freeSocket ordinary).1 told
    obtain ⟨-, before, ⟨less, -⟩, ends⟩ := mem_freeProgram.1 told
    have same : source.pid = program.pid := Option.some.inj ((recipient?_of_mem_ending _ ends).symm.trans named)
    obtain rfl := inj_on_of_nodup_map apart (reached_subset among) member same
    exact ⟨among, by omega⟩
  refine ⟨⟨fun complete program member accessible uses => ?_, fun each program member accessible uses => ?_⟩,
    fun program member unused event told named => ?_⟩
  · exact own member (complete program member accessible uses).terminated rfl
  · obtain ⟨among, met⟩ := each program member accessible uses
    have all (before : Nat) (asked : program.IsAsked socket before) :
        (ending program before).1 ⊆ freeSocket socket table := fun event ends =>
      (mem_freeSocket ordinary).2 ⟨program, among, mem_freeProgram.2 ⟨accessible, before, asked, ends⟩⟩
    refine ⟨all 0 ⟨met, nofun⟩ terminate_mem_ending, fun before asked ends waits stubborn => ?_⟩
    exact all before asked (by simp [ending, ends, waits, stubborn])
  · obtain ⟨connection, before, on⟩ := countP_pos_iff.1 (own member told named).2
    exact unused (any_eq_true.2 ⟨connection, takeWhile_subset _ before, on⟩)

/-- A process whose only address is unbound keeps the one behind it from being ended. -/
theorem second_process_left_alone :
    let table : List Program := [{ pid := .int 1, connections := [.unbound] },
      { pid := .int 2, connections := [.socket (.int 5000)] }]
    freeSocket (.int 5000) table = [] ∧ ¬ ∀ program ∈ table, program.Accessible → program.Uses (.int 5000) →
      program.Served (.int 5000) (freeSocket (.int 5000) table) := by
  refine ⟨rfl, fun complete => ?_⟩
  have each := (freeSocket_complete_iff (.int 5000) _ (by simp) (by simp [Ordinary])).1.1 complete
  have among := (each _ (mem_cons_of_mem _ mem_cons_self) ⟨rfl, rfl⟩ rfl).1
  simp [reached, trips, isBound] at among

/-- A process with two connections on the socket that is gone once it was ended does not end the search. -/
example :
    let vanishing : Program :=
      { pid := .int 1, connections := [.socket (.int 5000), .socket (.int 5000), .unbound]
        refusesEnding := fun before => if before = 0 then none else some .gone }
    let other : Program := { pid := .int 2, connections := [.socket (.int 5000)] }
    freeSocket (.int 5000) [vanishing, other] =
    [.terminate (.int 1), .wait (.int 1), .terminate (.int 1), .terminate (.int 2), .wait (.int 2)] := rfl

end Playhouse.Server
