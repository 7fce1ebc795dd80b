import Playhouse.Proofs.Hunt.Course

/-!
The clues of the hunt. Sentences for all items are drawn anew on every call, and what is left to find is read off the
items already found; still, the last clue that a player got is for the item that their next photo is checked for, and
the progress reported with it is that of their session.
-/
namespace Playhouse
open Value List Progress

variable {result : Except Fault Value × Game} {progress : Value} {quest : Quest}

/-! ### Reports on a quest -/

namespace Quest

theorem Listed.nodup (listed : quest.Listed) : quest.items.Nodup := by
  obtain ⟨level, among⟩ := listed
  have each : ∀ level : Level, ∀ quest ∈ level.quests, quest.items.Nodup := by
    intro level
    cases level <;> decide
  exact each level quest among

theorem text_memberOf (item : String) (found : List String) :
    (text item).memberOf (found.map .text) = decide (item ∈ found) := by
  rw [Bool.eq_iff_iff, memberOf, any_map, any_eq_true, decide_eq_true_iff]
  simp

/-- The items that are not among those found. -/
theorem filterM_not_found (items found : List String) :
    (items.map text).filterM (fun item => do return !(← item.isIn (.ofTexts found))) =
      (.ok ((items.filter (· ∉ found)).map .text) : Except Fault (List Value)) := by
  have decided (item : Value) : (do return !(← item.isIn (.ofTexts found)) : Except Fault Bool) =
    .ok !item.memberOf (found.map .text) := rfl
  rw [filterM_eq_filter fun item _ => decided item, filter_map]
  simp only [Function.comp_def, text_memberOf, decide_not]

/-- What a report on a quest says of its items. -/
theorem report_fields {found : List String} (reported : report quest.document (.ofTexts found) = .ok progress) :
    progress.field? "total_items" = some (.int quest.items.length) ∧
      progress.field? "found_items" = some (.int found.length) ∧
      progress.field? "remaining_items" = some (.ofTexts (quest.items.filter (· ∉ found))) := by
  have items : quest.document.entry "items" = .ok (.ofTexts quest.items) := rfl
  have difficulty : quest.document.entry "difficulty" = .ok (.int quest.difficulty) := rfl
  have elements : (ofTexts quest.items).elements = .ok (quest.items.map .text) := rfl
  have size (texts : List String) : (ofTexts texts).size = .ok texts.length := by
    rw [ofTexts, Value.size, length_map]
  have remaining := filterM_not_found quest.items found
  simp only [bind, Except.bind] at remaining
  simp only [report, items, difficulty, elements, size, bind, Except.bind, remaining] at reported
  -- a quest without items, a status or rewards that cannot be told: then there is no report
  split at reported
  · cases reported
  split at reported
  · cases reported
  split at reported
  · cases reported
  cases reported
  exact ⟨rfl, rfl, rfl⟩

theorem filter_not_taken {items : List String} (once : items.Nodup) (place : Nat) :
    items.filter (· ∉ items.take place) = items.drop place := by
  have cut : items.filter (· ∉ items.take place) =
      (items.take place ++ items.drop place).filter (· ∉ items.take place) := by
    rw [take_append_drop]
  have apart := disjoint_take_drop once (le_refl place)
  rw [cut, filter_append, filter_eq_nil_iff.2, nil_append, filter_eq_self]
  · intro item later
    simpa using fun sooner => apart sooner later
  · intro item sooner
    simpa using sooner

end Quest

/-- Progress that is the one of a session: what is left to find are the items from its place on. -/
structure GameSession.Reports (session : GameSession) (progress : Value) : Prop where
  total : progress.field? "total_items" = some (.int session.quest.items.length)
  found : progress.field? "found_items" = some (.int session.place)
  remaining : progress.field? "remaining_items" = some (.ofTexts (session.quest.items.drop session.place))

theorem GameSession.Proper.reports {session : GameSession} (proper : session.Proper)
    (reported : report session.quest.document (.ofTexts session.found) = .ok progress) :
    session.Reports progress := by
  obtain ⟨total, found, remaining⟩ := Quest.report_fields reported
  rw [proper.found_eq] at found remaining
  refine ⟨total, ?_, ?_⟩
  · rw [found, length_take, min_eq_left proper.place_le]
  · rw [remaining, Quest.filter_not_taken proper.listed.nodup]

namespace Game

/-! ### Clues in replies -/

/-- The clue that a reply gives: the first one or the next one. -/
def clue? (reply : Value) : Option Value := (reply.field? "first_clue").or (reply.field? "next_clue")

/-- The reply of a call, if it succeeds and gives a clue. -/
def guidance? (outcome : Except Fault Value) : Option Value :=
  outcome.toOption.filter fun reply => (clue? reply).isSome

/-- The latest reply that gave a player a clue, in the course of some calls. -/
def lastGuidance? (game : Game) (player : Value) : List Call → Option Value
  | [] => none
  | call :: rest =>
    let (outcome, later) := call.act.runFrom game
    (later.lastGuidance? player rest).or (if call.player.equal player then guidance? outcome else none)

/-- A reply that agrees with a session: it gives a clue for the item that the session has come to, along with the
number of items at its start and with its progress later on. -/
structure Guides (session : GameSession) (item : String) (reply : Value) : Prop where
  wanted : session.quest.items[session.place]? = some item
  clue : ∃ sentence ∈ Quest.clueSentences item, clue? reply = some (.text sentence)
  progress : session.place = 0 ∧ reply.field? "total_items" = some (.int session.quest.items.length) ∨
    ∃ progress, reply.field? "progress" = some progress ∧ session.Reports progress

theorem after_append (game : Game) (calls : List Call) (call : Call) :
    game.after (calls ++ [call]) = (call.act.runFrom (game.after calls)).2 := by
  simp [after]

theorem lastGuidance?_append (game : Game) (player : Value) (calls : List Call) (call : Call) :
    game.lastGuidance? player (calls ++ [call]) =
      (if call.player.equal player then guidance? (call.act.runFrom (game.after calls)).1 else none).or
        (game.lastGuidance? player calls) := by
  induction calls generalizing game with
  | nil => simp [lastGuidance?, after]
  | cons first rest ih => simp only [cons_append, lastGuidance?, ih, Option.or_assoc, after, foldl_cons]

/-! ### One call -/

/-- What is known of a player between calls: they have no session and got no clue, or they have one and the last
clue that they got agrees with it as long as there is something to find. -/
inductive Informed (player : Value) : Option GameSession → Option Value → Prop
  | idle : Informed player none none
  | plays {session : GameSession} {reply : Value} (key : player.isKey = true)
      (agrees : ∀ item, session.quest.items[session.place]? = some item → Guides session item reply) :
      Informed player (some session) (some reply)

/-- Whoever a new session is told to belong to finds it. -/
theorem session?_put {game : Game} {session : GameSession} {other : Value} (key : session.player.isKey = true)
    (same : session.player.equal other = true) :
    ∃ player, (put session game).session? other = some { session with player } := by
  unfold Game.session? put
  induction game.sessions with
  | nil => exact ⟨session.player, by simp [putSession, same]⟩
  | cons first rest ih =>
    unfold putSession
    split
    · rename_i held
      exact ⟨first.player, by simp [equal_left_congr key held, same]⟩
    · rename_i apart
      have passed : first.player.equal other = false := by
        rw [← equal_congr (isKey_of_equal key same) same]
        exact Bool.eq_false_iff.2 apart
      obtain ⟨player, found⟩ := ih
      exact ⟨player, by simpa [passed] using found⟩

theorem session?_congr (game : Game) {player other : Value} (key : player.isKey = true)
    (same : player.equal other = true) : game.session? player = game.session? other := by
  unfold Game.session?
  congr 1
  funext session
  exact equal_congr (isKey_of_equal key same) same session.player

variable {player : Value}

theorem guides_welcome {item first : String} (next : quest.items[0]? = some item)
    (clue : first ∈ Quest.clueSentences item) : Guides { player, quest } item (welcome quest first) :=
  ⟨next, ⟨first, clue, rfl⟩, .inl ⟨rfl, rfl⟩⟩

theorem guides_praise {session : GameSession} {item next : String}
    (wanted : session.quest.items[session.place]? = some item) (clue : next ∈ Quest.clueSentences item)
    (reports : session.Reports progress) : Guides session item (praise next progress) :=
  ⟨wanted, ⟨next, clue, rfl⟩, .inr ⟨progress, rfl, reports⟩⟩

section
variable {game : Game} {player other : Value} {last : Option Value} (same : player.equal other = true)
  (informed : Informed other (game.session? other) last)
include same informed

theorem Informed.started (started : Started game player result) :
    Informed other (result.2.session? other) ((guidance? result.1).or last) := by
  cases started with
  | refused cause chance => exact informed
  | begins quest item first chance listed key next clue =>
    obtain ⟨owner, later⟩ := @session?_put { game with chance } { player, quest } other key same
    rw [later]
    refine .plays (isKey_of_equal key same) fun wanted at_place => ?_
    obtain rfl : item = wanted := Option.some.inj (next.symm.trans at_place)
    exact guides_welcome next clue

theorem Informed.submitted (proper : game.Proper) (submitted : Submitted game player result) :
    Informed other (result.2.session? other) ((guidance? result.1).or last) := by
  cases submitted with
  | unkeyed | absent | finished | unverified | unmatched => exact informed
  | @completes session item answers seeks asked agrees ends =>
    obtain ⟨key, own⟩ := seeks.own
    obtain ⟨owner, later⟩ := @session?_put (game.asking item answers)
      { session.finds item with completed := true } other key ((own other).trans same)
    rw [later]
    -- the last item is answered without a clue, and there is none to give any more
    rw [← session?_congr game seeks.key same, seeks.found] at informed
    cases informed with
    | plays key_other _ =>
      refine .plays key_other fun wanted at_place => ?_
      have inside : session.place + 1 < session.quest.items.length := (List.getElem?_eq_some_iff.1 at_place).1
      omega
  | @advances session item answers seeks asked agrees following next progress chance left clue reported =>
    obtain ⟨key, own⟩ := seeks.own
    obtain ⟨owner, later⟩ := @session?_put { game.asking item answers with chance } (session.finds item) other key
      ((own other).trans same)
    rw [later]
    refine .plays (isKey_of_equal seeks.key same) fun wanted at_place => ?_
    obtain rfl : following = wanted := Option.some.inj (left.symm.trans at_place)
    have more := (List.getElem?_eq_some_iff.1 left).1
    have reports := (proper_finds (proper.session? seeks.found) seeks.wanted more).reports reported
    exact guides_praise at_place clue ⟨reports.total, reports.found, reports.remaining⟩

end

/-- One call keeps every player informed: the one who makes it by its reply, and all others as they were. -/
theorem Informed.call {game : Game} (proper : game.Proper) {other : Value} {last : Option Value}
    (informed : Informed other (game.session? other) last) (call : Call) :
    Informed other ((call.act.runFrom game).2.session? other)
      ((if call.player.equal other then guidance? (call.act.runFrom game).1 else none).or last) := by
  cases same : call.player.equal other with
  | false =>
    rw [proper.session?_other same]
    exact informed
  | true =>
    rw [if_pos rfl]
    cases call with
    | start player preferences => exact informed.started same (start_started game player preferences)
    | submit player => exact informed.submitted same proper (proper.submitted player)

/-! ### Runs -/

theorem informed_after (verifier : Option (List Value)) (chance : Chance) (calls : List Call) (player : Value) :
    Informed player ((after { verifier, chance } calls).session? player)
      (lastGuidance? { verifier, chance } player calls) := by
  induction calls using reverseRecOn with
  | nil => exact .idle
  | append_singleton calls call ih =>
    rw [after_append, lastGuidance?_append]
    exact ih.call ((proper_fresh verifier chance).after calls) call

/-- What a submission asks the verifier for: the item that the session has come to, or nothing. -/
theorem Proper.checked_submit {game : Game} (proper : game.Proper) {answers : List Value}
    (verifier : game.verifier = some answers) (key : player.isKey = true) {session : GameSession}
    (found : game.session? player = some session) :
    (session.completed = true ∧ ((submit player).runFrom game).2.checked = game.checked) ∨
      session.completed = false ∧ ∃ item, session.quest.items[session.place]? = some item ∧
        ((submit player).runFrom game).2.checked = game.checked ++ [item] := by
  have submitted := proper.submitted player
  generalize (submit player).runFrom game = outcome at submitted
  have unfinished {other : GameSession} {item : String} (seeks : game.Seeks player other item) :
      session.completed = false ∧ session.quest.items[session.place]? = some item := by
    obtain rfl : other = session := Option.some.inj (seeks.found.symm.trans found)
    exact ⟨(proper.session? found).unfinished seeks.wanted, seeks.wanted⟩
  cases submitted with
  | unkeyed noKey => simp [key] at noKey
  | absent _ none_ => simp [found] at none_
  | finished other _ held done =>
    obtain rfl : other = session := Option.some.inj (held.symm.trans found)
    exact .inl ⟨(proper.session? found).completed_iff.2 done, rfl⟩
  | unverified seeks missing => simp [verifier] at missing
  | unmatched seeks | completes seeks | advances seeks =>
    exact .inr ⟨(unfinished seeks).1, _, (unfinished seeks).2, rfl⟩

/-- Without a session nothing is checked. -/
theorem Proper.checked_submit_absent {game : Game} (proper : game.Proper)
    (absent : game.session? player = none) : ((submit player).runFrom game).2.checked = game.checked := by
  have submitted := proper.submitted player
  generalize (submit player).runFrom game = outcome at submitted
  cases submitted with
  | unkeyed | absent | finished | unverified => rfl
  | unmatched seeks | completes seeks | advances seeks =>
    have found := seeks.found
    simp [absent] at found

/-- **Clues agree with the sessions**, in every run with a verifier, whatever it answers and chance brings. The reply
that gave a player their last clue has it for the very item that their next photo is checked for, and reports the
progress that their session has made; only once the quest is completed is nothing checked any more. Nor is there
anything to check for a player who never got a clue. -/
theorem last_clue_is_for_next_photo (answers : List Value) (chance : Chance) (calls : List Call) (player : Value) :
    let fresh : Game := { verifier := some answers, chance }
    let game := fresh.after calls
    let checked := ((submit player).runFrom game).2.checked
    (fresh.lastGuidance? player calls = none → checked = game.checked) ∧
      ∀ reply, fresh.lastGuidance? player calls = some reply →
        ∃ session, game.session? player = some session ∧
          (session.completed = true ∧ checked = game.checked ∨
            session.completed = false ∧ ∃ item, checked = game.checked ++ [item] ∧ Guides session item reply) := by
  intro fresh game checked
  have proper : game.Proper := (proper_fresh (some answers) chance).after calls
  have there : game.verifier.isSome = true := verifier_after (proper_fresh (some answers) chance) calls
  obtain ⟨left, verifier⟩ := Option.isSome_iff_exists.1 there
  have informed : Informed player (game.session? player) (fresh.lastGuidance? player calls) :=
    informed_after (some answers) chance calls player
  generalize fresh.lastGuidance? player calls = last at informed
  generalize held : game.session? player = mine at informed
  cases informed with
  | idle =>
    refine ⟨fun _ => proper.checked_submit_absent held, fun reply told => ?_⟩
    cases told
  | @plays session guidance key agrees =>
    refine ⟨fun silent => ?_, fun reply told => ?_⟩
    · cases silent
    · obtain rfl : guidance = reply := Option.some.inj told
      refine ⟨session, rfl, ?_⟩
      rcases proper.checked_submit verifier key held with done | ⟨unfinished, item, wanted, passed⟩
      · exact .inl done
      · exact .inr ⟨unfinished, item, passed, agrees item wanted⟩

/-- Someone finds a tree while another one starts: their clue is for the flower that the next photo is checked for,
and one of three items is reported as found. -/
theorem clue_for_flower_after_tree :
    let fresh : Game := { verifier := some [.bool true, .bool false] }
    let calls : List Call :=
      [.start (.text "u") (.record []), .submit (.text "u"), .start (.text "v") (.record [])]
    ∃ reply, fresh.lastGuidance? (.text "u") calls = some reply ∧
      ((submit (.text "u")).runFrom (fresh.after calls)).2.checked = ["tree", "flower"] ∧
      clue? reply = some (.text "Can you find something that looks like a flower?") ∧
      ∃ progress, reply.field? "progress" = some progress ∧
        progress.field? "total_items" = some (.int 3) ∧ progress.field? "found_items" = some (.int 1) ∧
        progress.field? "remaining_items" = some (.ofTexts ["flower", "bird"]) := by
  intro fresh calls
  have guided : (fresh.lastGuidance? (.text "u") calls).isSome = true := by decide +kernel
  have state : ((fresh.after calls).session? (.text "u")).map (fun session => (session.quest.items, session.place)) =
      some (["tree", "flower", "bird"], 1) := by decide +kernel
  have before : (fresh.after calls).checked = ["tree"] := by decide +kernel
  have both : ((submit (.text "u")).runFrom (fresh.after calls)).2.checked = ["tree", "flower"] := by decide +kernel
  have worded : ((fresh.lastGuidance? (.text "u") calls).bind clue?).map Value.asText =
      some "Can you find something that looks like a flower?" := by decide +kernel
  obtain ⟨reply, last⟩ := Option.isSome_iff_exists.1 guided
  refine ⟨reply, last, both, ?_⟩
  obtain ⟨-, agrees⟩ := last_clue_is_for_next_photo [.bool true, .bool false] {} calls (.text "u")
  obtain ⟨session, held, alternatives⟩ := agrees reply last
  rw [held, Option.map_some, Option.some.injEq, Prod.mk.injEq] at state
  obtain ⟨items, place⟩ := state
  simp only [fresh] at both before
  rw [both, before] at alternatives
  rcases alternatives with ⟨-, same⟩ | ⟨-, item, passed, guides⟩
  · simp at same
  · obtain rfl : "flower" = item := by simpa using passed
    obtain ⟨sentence, -, told⟩ := guides.clue
    rw [last, Option.bind_some, told] at worded
    refine ⟨told.trans (congrArg (some <| Value.text ·) (Option.some.inj worded)), ?_⟩
    rcases guides.progress with ⟨start, -⟩ | ⟨progress, given, total, found, remaining⟩
    · omega
    · rw [items] at total remaining
      rw [place] at found remaining
      exact ⟨progress, given, total, found, remaining⟩

end Game
end Playhouse
