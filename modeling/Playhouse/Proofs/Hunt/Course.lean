import Playhouse.Proofs.Hunt.Calls

/-!
The course of the hunt. Players call in any order; a call changes the session of the player who makes it
and no other, and it keeps every session a quest that is played in order. A call that fails changes no
session, although an accepted photo is noted before its reply is put together.
-/
namespace Playhouse
open List Value

theorem GameSession.Proper.unfinished {session : GameSession} (proper : session.Proper) {item : String}
    (wanted : session.quest.items[session.place]? = some item) : session.completed = false := by
  have inside := (List.getElem?_eq_some_iff.1 wanted).1
  rw [Bool.eq_false_iff, ne_eq, proper.completed_iff]
  omega

namespace Game

/-! ### Setting a session -/

section
variable {sessions : List GameSession} {session : GameSession}

theorem mem_putSession {member : GameSession} (inside : member ∈ putSession session sessions) :
    member ∈ sessions ∨ ∃ player, member = { session with player } := by
  induction sessions with
  | nil => exact .inr ⟨session.player, mem_singleton.1 inside⟩
  | cons first rest ih =>
    unfold putSession at inside
    split at inside
    · rcases mem_cons.1 inside with rfl | inside
      · exact .inr ⟨first.player, rfl⟩
      · exact .inl (mem_cons_of_mem _ inside)
    · rcases mem_cons.1 inside with rfl | inside
      · exact .inl mem_cons_self
      · exact (ih inside).imp_left (mem_cons_of_mem _)

/-- Whoever is told apart from the player of a new session finds what they found before. -/
theorem find?_putSession {other : Value} (key : session.player.isKey = true)
    (apart : session.player.equal other = false) :
    (putSession session sessions).find? (fun s => s.player.equal other) =
      sessions.find? fun s => s.player.equal other := by
  induction sessions with
  | nil => simp [putSession, apart]
  | cons first rest ih =>
    unfold putSession
    split
    · rename_i same
      simp [equal_left_congr key same, apart]
    · simp only [find?_cons, ih]

end

/-! ### One call -/

variable {player : Value} {game : Game}

theorem proper_first {quest : Quest} (listed : quest.Listed) : GameSession.Proper { player, quest } := by
  obtain ⟨item, rest, items⟩ := listed.exists_first
  exact ⟨listed, Nat.zero_le _, rfl, by simp [items]⟩

section
variable {session : GameSession} {item : String} (proper : session.Proper)
  (wanted : session.quest.items[session.place]? = some item)
include proper wanted

theorem found_finds : (session.finds item).found = session.quest.items.take (session.place + 1) := by
  simp [GameSession.finds, proper.found_eq, take_add_one, wanted]

/-- A session in which an item but the last is found. -/
theorem proper_finds (left : session.place + 1 < session.quest.items.length) : (session.finds item).Proper := by
  refine ⟨proper.listed, left.le, found_finds proper wanted, ?_⟩
  change session.completed = true ↔ session.place + 1 = session.quest.items.length
  rw [proper.completed_iff]
  omega

theorem proper_completed (last : session.place + 1 = session.quest.items.length) :
    GameSession.Proper { session.finds item with completed := true } :=
  ⟨proper.listed, last.le, found_finds proper wanted, by simp [GameSession.finds, last]⟩

end

/-- What a call can do to the sessions: it leaves them, or it sets one that is told from others as the
player is. -/
inductive Changes (game : Game) (player : Value) : List GameSession → Prop
  | same : Changes game player game.sessions
  | sets (session : GameSession) (proper : session.Proper) (key : session.player.isKey = true)
      (own : ∀ other, session.player.equal other = player.equal other) :
      Changes game player (putSession session game.sessions)

/-- All sessions are played in order. -/
def Proper (game : Game) : Prop := ∀ session ∈ game.sessions, session.Proper

/-- The session that a player finds is told from others as the player is. -/
theorem Seeks.own {session : GameSession} {item : String} (seeks : game.Seeks player session item) :
    session.player.isKey = true ∧ ∀ other, session.player.equal other = player.equal other := by
  have found := seeks.found
  unfold Game.session? at found
  have same : session.player.equal player = true := by simpa using find?_some found
  have key : session.player.isKey = true :=
    isKey_of_equal seeks.key (equal_comm seeks.key ▸ same)
  exact ⟨key, equal_left_congr seeks.key same⟩

section
variable {game : Game} (proper : game.Proper)
include proper

theorem Proper.session? {player : Value} {session : GameSession} (found : game.session? player = some session) :
    session.Proper :=
  proper session (mem_of_find?_eq_some found)

theorem Proper.submitted (player : Value) : Submitted game player ((submit player).runFrom game) :=
  submit_submitted fun _ found => proper.session? found

/-- A call changes sessions in this way only, and the game keeps its verifier. -/
theorem Proper.changes (call : Call) :
    Changes game call.player (call.act.runFrom game).2.sessions ∧
      (call.act.runFrom game).2.verifier.isSome = game.verifier.isSome := by
  cases call with
  | start player preferences =>
    have started := start_started game player preferences
    dsimp only [Call.player, Call.act]
    generalize (start player preferences).runFrom game = outcome at started
    cases started with
    | refused cause chance => exact ⟨.same, rfl⟩
    | begins quest item first chance listed key next clue =>
      exact ⟨.sets _ (proper_first listed) key fun _ => rfl, rfl⟩
  | submit player =>
    have submitted := proper.submitted player
    dsimp only [Call.player, Call.act]
    generalize (submit player).runFrom game = outcome at submitted
    cases submitted with
    | unkeyed | absent | finished | unverified => exact ⟨.same, rfl⟩
    | unmatched seeks asked => exact ⟨.same, by simp [asked]⟩
    | completes seeks asked agrees last =>
      obtain ⟨key, own⟩ := seeks.own
      exact ⟨.sets _ (proper_completed (proper.session? seeks.found) seeks.wanted last) key own, by simp [put, asked]⟩
    | advances seeks asked agrees following next progress chance left clue reported =>
      obtain ⟨key, own⟩ := seeks.own
      have more := (List.getElem?_eq_some_iff.1 left).1
      exact ⟨.sets _ (proper_finds (proper.session? seeks.found) seeks.wanted more) key own, by simp [put, asked]⟩

theorem Proper.call (call : Call) : (call.act.runFrom game).2.Proper := by
  have changes := (proper.changes call).1
  intro member inside
  generalize (call.act.runFrom game).2.sessions = sessions at changes inside
  cases changes with
  | same => exact proper member inside
  | sets session played key own =>
    rcases mem_putSession inside with before | ⟨player, rfl⟩
    · exact proper member before
    · exact ⟨played.listed, played.place_le, played.found_eq, played.completed_iff⟩

theorem Proper.after (calls : List Call) : (game.after calls).Proper := by
  induction calls generalizing game with
  | nil => exact proper
  | cons call rest ih => exact ih (proper.call call)

theorem Proper.session?_other {call : Call} {other : Value} (apart : call.player.equal other = false) :
    (call.act.runFrom game).2.session? other = game.session? other := by
  have changes := (proper.changes call).1
  unfold Game.session?
  generalize (call.act.runFrom game).2.sessions = sessions at changes
  cases changes with
  | same => rfl
  | sets session played key own => exact find?_putSession key ((own other).trans apart)

end

/-! ### Runs -/

theorem proper_fresh (verifier : Option (List Value)) (chance : Chance) : Game.Proper { verifier, chance } :=
  forall_mem_nil _

theorem start_refused {preferences reply : Value} (replied : ((start player preferences).runFrom game).1 = .ok reply)
    (error : reply.field? "status" = some (.text "error")) :
    ((start player preferences).runFrom game).2.sessions = game.sessions := by
  have started := start_started game player preferences
  generalize (start player preferences).runFrom game = outcome at started replied
  cases started with
  | refused cause chance => rfl
  | begins quest item first =>
    obtain rfl : welcome quest first = reply := Except.ok.inj replied
    rw [status_welcome] at error
    simp at error

theorem Proper.submit_failed (proper : game.Proper)
    (failed : (∃ fault, ((submit player).runFrom game).1 = .error fault) ∨ game.verifier.map accepts = some false) :
    ((submit player).runFrom game).2.sessions = game.sessions := by
  have submitted := proper.submitted player
  generalize (submit player).runFrom game = outcome at submitted failed
  cases submitted with
  | unkeyed | absent | finished | unverified | unmatched => rfl
  | completes seeks asked agrees | advances seeks asked agrees => simp [asked, agrees] at failed

/-- **Sessions in every run**, with or without a verifier, whatever it answers and chance brings: each is of a
listed quest, and as many of its items are found as its place says, the first ones in their order; it is
completed exactly when all are. A start that is refused changes no session, nor does a submission that
fails or that the verifier turns down, and no call changes the session of another player. -/
theorem sessions_proper_and_apart (verifier : Option (List Value)) (chance : Chance) (calls : List Call) :
    let game : Game := after { verifier, chance } calls
    (∀ session ∈ game.sessions, session.Proper) ∧
      (∀ player preferences reply, ((start player preferences).runFrom game).1 = .ok reply →
        reply.field? "status" = some (.text "error") →
        ((start player preferences).runFrom game).2.sessions = game.sessions) ∧
      (∀ player, (∃ fault, ((submit player).runFrom game).1 = .error fault) ∨
          game.verifier.map accepts = some false →
        ((submit player).runFrom game).2.sessions = game.sessions) ∧
      ∀ (call : Call) (other : Value), call.player.equal other = false →
        (call.act.runFrom game).2.session? other = game.session? other := by
  have proper := (proper_fresh verifier chance).after calls
  exact ⟨proper, fun _ _ _ replied error => start_refused replied error, fun _ failed => proper.submit_failed failed,
    fun _ _ apart => proper.session?_other apart⟩

/-- Two players whose first photo is accepted and whose second is not: each of the cases occurs, and the
second player's session stays as it is. -/
theorem sessions_proper_and_apart_of_two :
    let game : Game := after { verifier := some [.bool true, .bool false] }
      [.start (.text "u") (.record []), .start (.text "v") (.record []), .submit (.text "u")]
    game.sessions.map (fun session => (session.found, session.place)) = [(["tree"], 1), ([], 0)] ∧
      (∀ session ∈ game.sessions, session.Proper) ∧
      ((start (.text "v") .null).runFrom game).2.sessions = game.sessions ∧
      ((submit (.text "u")).runFrom game).2.sessions = game.sessions ∧
      ((Call.submit (.text "u")).act.runFrom game).2.session? (.text "v") = game.session? (.text "v") := by
  obtain ⟨proper, refused, failed, apart⟩ := sessions_proper_and_apart (some [.bool true, .bool false]) {}
    [.start (.text "u") (.record []), .start (.text "v") (.record []), .submit (.text "u")]
  refine ⟨by decide +kernel, proper, refused _ _ _ rfl rfl, failed _ (.inr (by decide +kernel)), apart _ _ (by decide)⟩

/-! ### Answers -/

theorem verifier_after (proper : game.Proper) (calls : List Call) :
    (game.after calls).verifier.isSome = game.verifier.isSome := by
  induction calls generalizing game with
  | nil => rfl
  | cons call rest ih => exact (ih (proper.call call)).trans (proper.changes call).2

/-- A reply that says what became of a request. -/
def Answered (outcome : Except Fault Value) : Prop :=
  ∃ reply status, outcome = .ok reply ∧ reply.field? "status" = some status

/-- **When a submission is answered**, in every run with a verifier, whatever it answers: exactly if the player
can have a session at all, and the one they have is not completed and not completed by this photo. The last
item is answered with nothing, and a photo for a completed quest with a fault. -/
theorem submit_answered_iff_unfinished (answers : List Value) (chance : Chance) (calls : List Call) (player : Value) :
    let game : Game := after { verifier := some answers, chance } calls
    ∃ left, game.verifier = some left ∧
      (Answered ((submit player).runFrom game).1 ↔ player.isKey = true ∧
        ∀ session, game.session? player = some session → session.completed = false ∧
          (accepts left = true → session.place + 1 < session.quest.items.length)) ∧
      ∀ session, player.isKey = true → game.session? player = some session →
        (session.completed = true → ((submit player).runFrom game).1 = .error .pastEnd) ∧
        (session.place + 1 = session.quest.items.length → accepts left = true →
          ((submit player).runFrom game).1 = .ok .null) := by
  intro game
  have proper : game.Proper := (proper_fresh (some answers) chance).after calls
  have there : game.verifier.isSome = true := verifier_after (proper_fresh (some answers) chance) calls
  obtain ⟨left, verifier⟩ := Option.isSome_iff_exists.1 there
  refine ⟨left, verifier, ?_⟩
  have submitted := proper.submitted player
  generalize (submit player).runFrom game = outcome at submitted
  cases submitted with
  | unkeyed noKey => simp [Answered, noKey]
  | absent key none_ => simp [Answered, status_refusal, key, none_]
  | finished session key found done =>
    have completed := (proper.session? found).completed_iff.2 done
    simp [Answered, key, found, completed, done]
  | unverified seeks missing => simp [missing] at verifier
  | unmatched seeks asked refuses =>
    obtain rfl := Option.some.inj (verifier.symm.trans asked)
    have unfinished := (proper.session? seeks.found).unfinished seeks.wanted
    simp [Answered, status_refusal, seeks.key, seeks.found, unfinished, refuses]
  | completes seeks asked agrees last =>
    obtain rfl := Option.some.inj (verifier.symm.trans asked)
    have unfinished := (proper.session? seeks.found).unfinished seeks.wanted
    simp [Answered, Value.field?, Value.fields?, seeks.key, seeks.found, unfinished, agrees, last]
  | advances seeks asked agrees following next progress chance more clue reported =>
    obtain rfl := Option.some.inj (verifier.symm.trans asked)
    have unfinished := (proper.session? seeks.found).unfinished seeks.wanted
    have more := (List.getElem?_eq_some_iff.1 more).1
    simp [Answered, status_praise, seeks.key, seeks.found, unfinished, more, more.ne]

/-- Three accepted photos find all items: the third is answered with nothing, and a fourth with a fault. -/
theorem third_item_unanswered :
    let game : Game := after { verifier := some [.bool true, .bool true, .bool true] }
      [.start (.text "u") (.record []), .submit (.text "u"), .submit (.text "u")]
    let finished : Game := after { verifier := some [.bool true, .bool true, .bool true] }
      [.start (.text "u") (.record []), .submit (.text "u"), .submit (.text "u"), .submit (.text "u")]
    (¬ Answered ((submit (.text "u")).runFrom game).1 ∧ ((submit (.text "u")).runFrom game).1 = .ok .null) ∧
      ¬ Answered ((submit (.text "u")).runFrom finished).1 ∧
      ((submit (.text "u")).runFrom finished).1 = .error .pastEnd := by
  intro game finished
  obtain ⟨left, verifier, answered, replies⟩ := submit_answered_iff_unfinished [.bool true, .bool true, .bool true] {}
    [.start (.text "u") (.record []), .submit (.text "u"), .submit (.text "u")] (.text "u")
  obtain ⟨_, _, answered_finished, replies_finished⟩ := submit_answered_iff_unfinished
    [.bool true, .bool true, .bool true] {}
    [.start (.text "u") (.record []), .submit (.text "u"), .submit (.text "u"), .submit (.text "u")] (.text "u")
  have two : (game.session? (.text "u")).map (fun session => (session.place, session.quest.items.length)) =
      some (2, 3) := by
    decide +kernel
  have agrees : game.verifier.map accepts = some true := by decide +kernel
  have three : (finished.session? (.text "u")).map GameSession.completed = some true := by decide +kernel
  obtain ⟨session, found, places⟩ := Option.map_eq_some_iff.1 two
  obtain ⟨session_finished, found_finished, completed⟩ := Option.map_eq_some_iff.1 three
  rw [verifier, Option.map_some, Option.some.injEq] at agrees
  have last : session.place + 1 = session.quest.items.length := by
    rw [Prod.mk.injEq] at places
    omega
  refine ⟨⟨fun answer => ?_, (replies session rfl found).2 last agrees⟩, fun answer => ?_,
    (replies_finished session_finished rfl found_finished).1 completed⟩
  · have more := ((answered.1 answer).2 session found).2 agrees
    omega
  · have unfinished := ((answered_finished.1 answer).2 session_finished found_finished).1
    rw [completed] at unfinished
    cases unfinished

end Game
end Playhouse
