import Playhouse.Hunt.Game
import Playhouse.Proofs.Data.Measure
import Playhouse.Proofs.Act

/-!
Calls of the hunt: what starting a quest and submitting a photo can lead to, each with the reply and the
game that it leaves. Clues and reports never fail on a listed quest, so whoever finds an item that is not
the last one is told so.
-/
namespace Playhouse
open Act List

variable {answers : List Value} {game : Game} {quest : Quest}

namespace Quest

/-- A quest of one of the levels. -/
def Listed (quest : Quest) : Prop := ∃ level : Level, quest ∈ level.quests

theorem items_document (quest : Quest) :
    (do (← quest.document.entry "items").elements : Except Fault (List Value)) = .ok (quest.items.map .text) := rfl

/-- One sentence for each item, in their order. -/
theorem clues_run (quest : Quest) (chance : Chance) :
    ∃ sentences after, (clues quest.document).runFrom chance = (.ok sentences, after) ∧
      Forall₂ (fun item sentence => sentence ∈ clueSentences item) quest.items sentences := by
  rw [clues, runFrom_bind, runFrom_liftM, items_document]
  simp only
  induction quest.items generalizing chance with
  | nil => exact ⟨[], chance, rfl, .nil⟩
  | cons item rest ih =>
    have several : clueSentences item ≠ [] := cons_ne_nil _ _
    obtain ⟨sentence, among, picks⟩ := Chance.pick_run several chance
    obtain ⟨sentences, after, others, each⟩ := ih chance.next.2
    refine ⟨sentence :: sentences, after, ?_, .cons among each⟩
    simp only [map_cons, mapM_cons, runFrom_bind, clue, Value.asText, picks, others, runFrom_pure]

theorem Listed.exists_first (listed : quest.Listed) : ∃ item rest, quest.items = item :: rest := by
  obtain ⟨level, among⟩ := listed
  have filled : ∀ level : Level, ∀ quest ∈ level.quests, quest.items ≠ [] := by
    intro level
    cases level <;> decide
  exact exists_cons_of_ne_nil (filled level quest among)

theorem choose_run (preferences : Value) (chance : Chance) :
    (∃ cause, (choose preferences).runFrom chance = (.error (.storyFailed cause), chance)) ∨
      ∃ quest after, (choose preferences).runFrom chance = (.ok quest, after) ∧ quest.Listed := by
  rw [choose]
  cases levelFor preferences with
  | error cause => exact .inl ⟨cause, rfl⟩
  | ok level =>
    have filled : level.quests ≠ [] := by cases level <;> decide
    obtain ⟨quest, among, picks⟩ := Chance.pick_run filled chance
    exact .inr ⟨quest, _, picks, level, among⟩

theorem exists_report (listed : quest.Listed) {count : Nat} (few : count ≤ quest.items.length) :
    ∃ progress, Progress.report quest.document (.ofTexts (quest.items.take count)) = .ok progress := by
  have each : ∀ level : Level, ∀ quest ∈ level.quests, ∀ count < quest.items.length + 1,
      (Progress.report quest.document (.ofTexts (quest.items.take count))).toOption.isSome = true := by
    intro level
    cases level <;> decide +kernel
  obtain ⟨level, among⟩ := listed
  have reported := each level quest among count (by omega)
  cases report : Progress.report quest.document (.ofTexts (quest.items.take count)) with
  | ok progress => exact ⟨progress, rfl⟩
  | error cause => simp [report] at reported

end Quest

/-- A quest that is played: its items are found in their order, and it is finished once all are found. -/
structure GameSession.Proper (session : GameSession) : Prop where
  listed : session.quest.Listed
  place_le : session.place ≤ session.quest.items.length
  found_eq : session.found = session.quest.items.take session.place
  completed_iff : session.completed = true ↔ session.place = session.quest.items.length

/-- A session in which one more item is found. -/
def GameSession.finds (session : GameSession) (item : String) : GameSession :=
  { session with found := session.found ++ [item], place := session.place + 1 }

namespace Game

/-- A player's request. -/
inductive Call where
  | start (player preferences : Value)
  | submit (player : Value)

namespace Call

def player : Call → Value
  | start player _ | submit player => player

def act : Call → Act Game Value
  | start player preferences => Game.start player preferences
  | submit player => Game.submit player

end Call

/-- The game after some calls, whatever became of each. -/
def after (game : Game) (calls : List Call) : Game :=
  calls.foldl (fun game call => (call.act.runFrom game).2) game

/-! ### Starting -/

/-- What a player who starts is told. -/
def welcome (quest : Quest) (first : String) : Value :=
  .record [("status", .text "success"), ("story_title", .text quest.title), ("first_clue", .text first),
    ("total_items", .int quest.items.length)]

theorem status_welcome (quest : Quest) (first : String) :
    (welcome quest first).field? "status" = some (.text "success") := rfl

/-- Everything that starting can lead to: a refusal that leaves the sessions alone, or a new session. -/
inductive Started (game : Game) (player : Value) : Except Fault Value × Game → Prop
  | refused (cause : Fault) (chance : Chance) :
      Started game player (.ok (refusal cause.message), { game with chance })
  | begins (quest : Quest) (item first : String) (chance : Chance) (listed : quest.Listed) (key : player.isKey = true)
      (next : quest.items[0]? = some item) (clue : first ∈ Quest.clueSentences item) :
      Started game player (.ok (welcome quest first), put { player, quest } { game with chance })

theorem start_started (game : Game) (player preferences : Value) :
    Started game player ((start player preferences).runFrom game) := by
  rcases Quest.choose_run preferences game.chance with ⟨cause, fails⟩ | ⟨quest, chance, picks, listed⟩
  · simpa [start, begin, withChance, fails] using Started.refused (.storyFailed cause) game.chance
  · cases key : player.isKey with
    | false =>
      simpa [start, begin, withChance, picks, checkPlayer, key] using
        Started.refused (.mismatch (.notKey player.kind)) chance
    | true =>
      obtain ⟨item, rest, items⟩ := listed.exists_first
      obtain ⟨sentences, later, tells, each⟩ := quest.clues_run chance
      rw [items] at each
      obtain ⟨first, others, clue, -, rfl⟩ := forall₂_cons_left_iff.1 each
      simpa [start, begin, withChance, picks, checkPlayer, key, put, tells, welcome] using
        Started.begins quest item first later listed key (by rw [items]; rfl) clue

/-! ### Submitting -/

/-- What a player who has found an item is told. -/
def praise (next : String) (progress : Value) : Value :=
  .record [("status", .text "success"), ("message", .text "Item found!"), ("next_clue", .text next),
    ("progress", progress)]

theorem status_praise (next : String) (progress : Value) :
    (praise next progress).field? "status" = some (.text "success") := rfl

theorem status_refusal (message : String) : (refusal message).field? "status" = some (.text "error") := rfl

/-- Whether the next answer of a verifier accepts a photo; one that has run out refuses. -/
def accepts (answers : List Value) : Bool := (answers.headD (.bool false)).truthy

/-- The game once its verifier was asked for an item. -/
def asking (game : Game) (item : String) (answers : List Value) : Game :=
  { game with verifier := some answers.tail, checked := game.checked ++ [item] }

@[simp] theorem asking_verifier (item : String) : (game.asking item answers).verifier = some answers.tail := rfl

@[simp] theorem asking_chance (item : String) : (game.asking item answers).chance = game.chance := rfl

/-- A player with a session looks for an item. -/
structure Seeks (game : Game) (player : Value) (session : GameSession) (item : String) : Prop where
  key : player.isKey = true
  found : game.session? player = some session
  wanted : session.quest.items[session.place]? = some item

/-- Everything that submitting can lead to. Only an accepted photo changes the sessions; the last item
is answered with nothing, and there is no answer once all items are found. -/
inductive Submitted (game : Game) (player : Value) : Except Fault Value × Game → Prop
  | unkeyed (noKey : player.isKey = false) :
      Submitted game player (.error (.mismatch (.notKey player.kind)), game)
  | absent (key : player.isKey = true) (none_ : game.session? player = none) :
      Submitted game player (.ok (refusal "No active game session"), game)
  | finished (session : GameSession) (key : player.isKey = true) (found : game.session? player = some session)
      (done : session.place = session.quest.items.length) : Submitted game player (.error .pastEnd, game)
  | unverified {session : GameSession} {item : String} (seeks : game.Seeks player session item)
      (missing : game.verifier = none) :
      Submitted game player (.error (.missingMember "StoryGenerator" "verify_item"), game)
  | unmatched {session : GameSession} {item : String} {answers : List Value} (seeks : game.Seeks player session item)
      (asked : game.verifier = some answers) (refuses : accepts answers = false) :
      Submitted game player (.ok (refusal "Item not found"), game.asking item answers)
  | completes {session : GameSession} {item : String} {answers : List Value} (seeks : game.Seeks player session item)
      (asked : game.verifier = some answers) (agrees : accepts answers = true)
      (last : session.place + 1 = session.quest.items.length) :
      Submitted game player (.ok .null, put { session.finds item with completed := true } (game.asking item answers))
  | advances {session : GameSession} {item : String} {answers : List Value} (seeks : game.Seeks player session item)
      (asked : game.verifier = some answers) (agrees : accepts answers = true) (following next : String)
      (progress : Value) (chance : Chance) (left : session.quest.items[session.place + 1]? = some following)
      (clue : next ∈ Quest.clueSentences following)
      (reported : Progress.report session.quest.document (.ofTexts (session.found ++ [item])) = .ok progress) :
      Submitted game player
        (.ok (praise next progress), put (session.finds item) { game.asking item answers with chance })

open Submitted

theorem askVerifier_run (asked : game.verifier = some answers) (item : String) :
    (askVerifier item).runFrom game = (.ok (accepts answers), game.asking item answers) := by
  simp only [askVerifier, runFrom_bind, runFrom_get, asked, runFrom_modify, runFrom_pure, accepts, asking]

/-- What becomes of an accepted photo. -/
theorem submit_accepted {player : Value} {session : GameSession} {item : String}
    (proper : session.Proper) (seeks : game.Seeks player session item) (asked : game.verifier = some answers)
    (agrees : accepts answers = true) : Submitted game player ((submit player).runFrom game) := by
  have inside : session.place < session.quest.items.length := (List.getElem?_eq_some_iff.1 seeks.wanted).1
  have found_next : session.found ++ [item] = session.quest.items.take (session.place + 1) := by
    rw [proper.found_eq, take_add_one, seeks.wanted]
    rfl
  rcases Nat.lt_or_ge (session.place + 1) session.quest.items.length with more | last
  · obtain ⟨sentences, chance, tells, each⟩ := session.quest.clues_run game.chance
    obtain ⟨progress, reported⟩ := Quest.exists_report proper.listed more.le
    rw [← found_next] at reported
    have told : session.place + 1 < sentences.length := each.length_eq ▸ more
    have clue := each.get more told
    simpa [submit, checkPlayer, seeks.key, seeks.found, seeks.wanted, askVerifier_run asked, agrees,
      not_le.2 more, told, withChance, put, tells, reported, praise, GameSession.finds] using
      advances seeks asked agrees _ _ progress chance (getElem?_eq_getElem more) clue reported
  · have last : session.place + 1 = session.quest.items.length := by omega
    simpa [submit, checkPlayer, seeks.key, seeks.found, seeks.wanted, askVerifier_run asked, agrees,
      last, put, GameSession.finds] using completes seeks asked agrees last

theorem submit_submitted {player : Value} (proper : ∀ session, game.session? player = some session → session.Proper) :
    Submitted game player ((submit player).runFrom game) := by
  cases key : player.isKey with
  | false => simpa [submit, checkPlayer, key] using unkeyed key
  | true =>
    cases found : game.session? player with
    | none => simpa [submit, checkPlayer, key, found] using absent key found
    | some session =>
      have proper := proper session found
      cases wanted : session.quest.items[session.place]? with
      | none =>
        have done : session.place = session.quest.items.length :=
          le_antisymm proper.place_le (List.getElem?_eq_none_iff.1 wanted)
        simpa [submit, checkPlayer, key, found, wanted] using finished session key found done
      | some item =>
        have seeks : game.Seeks player session item := ⟨key, found, wanted⟩
        cases asked : game.verifier with
        | none =>
          simpa [submit, checkPlayer, askVerifier, key, found, wanted, asked] using unverified seeks asked
        | some answers =>
          cases agreed : accepts answers with
          | false =>
            simpa [submit, checkPlayer, key, found, wanted, askVerifier_run asked, agreed] using
              unmatched seeks asked agreed
          | true => exact submit_accepted proper seeks asked agreed

end Game
end Playhouse
