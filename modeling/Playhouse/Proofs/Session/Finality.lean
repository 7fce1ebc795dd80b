import Playhouse.Proofs.Session.Trail

/-!
What becomes of a session that was ended. Its file stays, so whoever asks for the session within the
timeout gets it again; the answers to all calls by its id follow from its last uses.
-/
namespace Playhouse.Sessions
open Value

section
variable {first : Moment} {s t : Sessions} {id : String} {call : Call}

/-! ### Answers -/

/-- How a store answers for an id: whether its session is over, and whether it is in memory. -/
structure Answers (s : Sessions) (id : String) (gone held : Prop) : Prop where
  get : ((get? (.text id)).runFrom s).1 = .ok none ↔ gone
  update : ∀ changes, ((update (.text id) (.record changes)).runFrom s).1 = .error (.noSession (.text id)) ↔ gone
  record : ∀ event, ((record (.text id) event).runFrom s).1 = .ok false ↔ gone
  finish : ((finish (.text id)).runFrom s).1 = .ok false ↔ gone
  active : (∃ session, (.text id, session) ∈ s.active) ↔ held

theorem Answers.congr {gone held gone_too held_too : Prop} (answers : Answers s id gone held)
    (same_gone : gone ↔ gone_too) (same_held : held ↔ held_too) : Answers s id gone_too held_too :=
  ⟨answers.get.trans same_gone, fun changes => (answers.update changes).trans same_gone,
    fun event => (answers.record event).trans same_gone, answers.finish.trans same_gone, answers.active.trans same_held⟩

theorem answers_of_trail (reached : Reached (fileRegime first) s) (short : hasLongName (.text id) = false)
    (on_file : (stored s.tree id).isSome = true) :
    Answers s id ((Trail.of s id).isOver s.now id = true) (((Trail.of s id).held id).isSome = true) := by
  have ⟨sound, timed, _⟩ := reached
  have leads : Leads id id := ⟨.refl _, short⟩
  obtain ⟨session, found⟩ : ∃ session, s.current id = some session := by
    rw [← Option.isSome_iff_exists, current, Option.isSome_or, on_file, Bool.or_true]
  obtain ⟨fields, rfl, -⟩ := sound.current found
  have gone : (if isIdle s.now (.record fields) then none else some (refreshed s.now fields)) = none ↔
      (Trail.of s id).isOver s.now id = true := by
    rw [Trail.isOver_of reached leads short found]
    cases isIdle s.now (.record fields) <;> simp
  have asked : ((get? (.text id)).runFrom s).1 =
      .ok (if isIdle s.now (.record fields) then none else some (refreshed s.now fields)) := by
    rw [get?_answer sound.ordered, found, answer, timed.isExpired_current sound.once found]
    rfl
  refine ⟨?_, fun changes => (update_refuses_iff changes asked).trans gone,
    fun event => (record_refuses_iff event asked).trans gone, ?_, ?_⟩
  · rw [asked, Except.ok.injEq]
    exact gone
  · rw [finish_answer asked, Except.ok.injEq, Option.isSome_eq_false_iff, Option.isNone_iff_eq_none]
    exact gone
  · simp only [← find?_eq_some_iff sound.once, Trail.of, if_pos leads]
    cases held : s.find? (.text id) with
    | none => simp
    | some session =>
      obtain ⟨last, active, -⟩ := timed.held _ ((find?_eq_some_iff sound.once).1 held)
      simp [active]

/-- Only a live session is ended. -/
theorem live_of_finish {regime : Regime} (reached : Reached regime s)
    (ended : ((finish (.text id)).runFrom s).1 = .ok true) :
    ∃ fields, s.current id = some (.record fields) ∧ isExpired s.now (.record fields) = .ok false := by
  obtain ⟨sound, timed, -⟩ := reached
  have asked := get?_answer sound.ordered id
  cases found : s.current id with
  | none =>
    rw [found] at asked
    rw [finish_answer asked] at ended
    cases ended
  | some session =>
    obtain ⟨fields, rfl, -⟩ := sound.current found
    refine ⟨fields, rfl, ?_⟩
    have judged := timed.isExpired_current sound.once found
    rw [found, answer, judged] at asked
    rw [judged]
    cases idle : isIdle s.now (.record fields) with
    | false => rfl
    | true =>
      rw [idle] at asked
      rw [finish_answer asked] at ended
      cases ended

/-- A session that has just been ended was last used now, as its file tells, and is not in memory. -/
theorem trail_of_finish (reached : Reached (fileRegime first) s) (short : hasLongName (.text id) = false)
    (ended : ((finish (.text id)).runFrom s).1 = .ok true) :
    (Trail.of ((Call.finish id).act.runFrom s).2 id).filed = some s.now ∧
      (Trail.of ((Call.finish id).act.runFrom s).2 id).held id = none ∧
      (stored ((Call.finish id).act.runFrom s).2.tree id).isSome = true := by
  obtain ⟨fields, found, live⟩ := live_of_finish reached ended
  obtain ⟨sound, -, dated⟩ := reached
  have archived := finish_archived sound.ordered found live
  generalize ((Call.finish id).act.runFrom s).2 = t at archived ⊢
  have leads : Leads id id := ⟨.refl _, short⟩
  obtain ⟨content, same, made, good, -⟩ := sound.current found
  cases same
  have allowed : (fileRegime first).Allowed (.finish id) := ⟨⟨trivial, trivial⟩, Nat.zero_le _⟩
  have good_ended := (fileRegime first).edited sound.era allowed rfl good
  have reads := stored_filed sound.housed made.inside made.inside.passable short good_ended.1.1.2 good_ended.2 archived.filed
  rw [if_pos leads] at reads
  have gone : t.find? (.text id) = none := by
    rw [find?_of_filter sound.once archived.active]
    simp
  have used := lastActivity_of_get? dated (get?_edited s.now fields (.finish id))
  refine ⟨?_, ?_, ?_⟩
  · rw [Trail.of, reads, Option.bind_some, used]
  · simp only [Trail.of, if_pos leads, gone, Option.bind_none]
  · rw [reads]
    rfl

namespace Trail

/-- Where no call names the file, its last use stays, and memory does not get it. -/
theorem after_unnamed {trail : Trail} {now : Moment} {calls : List Call}
    (unnamed : ∀ call ∈ calls, ∀ name, call.id? = some name → ¬ Leads id name) (unheld : trail.held id = none) :
    (trail.after id now calls).filed = trail.filed ∧ (trail.after id now calls).held id = none := by
  induction calls generalizing trail now with
  | nil => exact ⟨rfl, unheld⟩
  | cons call calls ih =>
    obtain ⟨filed, still⟩ : (trail.step id now call).filed = trail.filed ∧ (trail.step id now call).held id = none := by
      cases names : call.id? with
      | some name =>
        rw [step_of_id? names, if_neg (unnamed call List.mem_cons_self name names)]
        exact ⟨rfl, unheld⟩
      | none =>
        cases call with
        | create user => simp [step, clean, unheld]
        | list user | wait seconds => exact ⟨rfl, unheld⟩
        | _ => cases names
    rw [← filed]
    exact ih (List.forall_mem_cons.1 unnamed).2 still

end Trail

theorem regular_around {calls later : List Call}
    (allowed : ∀ call ∈ calls ++ later, call.IsJson ∧ call.Forward ∧ call.nesting ≤ Json.depthLimit) (id : String) :
    ∀ call ∈ calls ++ .finish id :: later, (fileRegime first).Allowed call := by
  obtain ⟨before, since⟩ := List.forall_mem_append.1 fun call member => and_assoc.2 (allowed call member)
  exact List.forall_mem_append.2 ⟨before, List.forall_mem_cons.2 ⟨⟨⟨trivial, trivial⟩, Nat.zero_le _⟩, since⟩⟩

/-- After a session was ended, every call by its id is answered by the last uses: those that the file and
memory told when it was ended, moved on by every call since. Where no call has named its file since, the
session is gone exactly if the timeout has passed since it was ended, and it is not in memory. -/
theorem ended_session_answers (first : Moment) (calls later : List Call) (id : String)
    (allowed : ∀ call ∈ calls ++ later, call.IsJson ∧ call.Forward ∧ call.nesting ≤ Json.depthLimit)
    (begins : 0 ≤ first.micros)
    (ends : (((start first).after calls).after (.finish id :: later)).now.micros < Moment.calendarEnd)
    (short : hasLongName (.text id) = false)
    (ended : ((finish (.text id)).runFrom ((start first).after calls)).1 = .ok true) :
    let s := (start first).after calls
    let t := s.after (.finish id :: later)
    let trail := Trail.of (s.after [.finish id]) id
    let left := trail.after id s.now later
    trail.filed = some s.now ∧ trail.held id = none ∧
    Answers t id (left.isOver t.now id = true) ((left.held id).isSome = true) ∧
    ((∀ call ∈ later, ∀ name, call.id? = some name → ¬ Leads id name) →
      Answers t id (timeout < t.now.micros - s.now.micros) False) := by
  intro s t trail left
  have regular : ∀ call ∈ calls ++ .finish id :: later, (fileRegime first).Allowed call := regular_around allowed id
  have reached (before : List Call) (leads : before <+: calls ++ .finish id :: later) :
      Reached (fileRegime first) ((start first).after before) := by
    refine reached_after (Int.le_refl _) regular (fun call member => (regular call member).1.2) (fun good => good.1.2)
      begins ?_ leads
    rw [after_append]
    exact ends
  have begun : Reached (fileRegime first) s := reached calls (List.prefix_append _ _)
  have now : (s.after [.finish id]).now = s.now := (act_change begun.sound.ordered (.finish id)).now_eq
  obtain ⟨filed, unheld, on_file⟩ := trail_of_finish begun short ended
  have within (before : List Call) (leads : before <+: later) :
      Reached (fileRegime first) ((s.after [.finish id]).after before) := by
    have whole := reached (calls ++ .finish id :: before) ((List.prefix_append_right_inj calls).2
      (List.cons_prefix_cons.2 ⟨rfl, leads⟩))
    rwa [after_append] at whole
  obtain ⟨moves, still⟩ := trail_after within
    (fun call member => regular call (List.mem_append_right _ (List.mem_cons_of_mem _ member))) short on_file
  have answers := answers_of_trail (within later (List.prefix_refl _)) short still
  rw [moves, now] at answers
  refine ⟨filed, unheld, answers, fun unnamed => ?_⟩
  obtain ⟨filed_still, unheld_still⟩ : left.filed = trail.filed ∧ left.held id = none :=
    Trail.after_unnamed unnamed unheld
  have last : left.last id = some s.now := by
    rw [Trail.last, unheld_still, Option.none_or, filed_still]
    exact filed
  have gone : left.isOver t.now id = true ↔ timeout < t.now.micros - s.now.micros := by
    rw [Trail.isOver, last, Option.all_some, decide_eq_true_iff]
  have absent : (left.held id).isSome = true ↔ False := by
    rw [unheld_still]
    simp
  exact answers.congr gone absent

/-- A session that is asked for just after it was ended can be had, and is in memory again. -/
theorem ended_session_given_back :
    ((get? (.text (idOf 1))).runFrom
      (((start ⟨0⟩).after [.create (.text "ann")]).after [.finish (idOf 1), .get (idOf 1)])).1 ≠ .ok none ∧
    ∃ session, (.text (idOf 1), session) ∈
      (((start ⟨0⟩).after [.create (.text "ann")]).after [.finish (idOf 1), .get (idOf 1)]).active := by
  have json : IsJson (.text "ann") := Text.paired_of_all (by decide)
  have dated : (Moment.mk 0).InCalendar := ⟨Int.le_refl 0, by decide⟩
  have short : hasLongName (.text (idOf 1)) = false := by decide
  have leads : Leads (idOf 1) (idOf 1) := ⟨.refl _, short⟩
  have allowed : ∀ call ∈ [.create (.text "ann")] ++ [.get (idOf 1)],
      Call.IsJson call ∧ call.Forward ∧ call.nesting ≤ Json.depthLimit := by
    simp [Call.IsJson, Call.Forward, Call.nesting, Value.nesting, Json.depthLimit, json]
  have regular : ∀ call ∈ [.create (.text "ann")] ++ [.finish (idOf 1), .get (idOf 1)], (fileRegime ⟨0⟩).Allowed call :=
    regular_around allowed (idOf 1)
  have begins : Sound (fileRegime ⟨0⟩) (start ⟨0⟩) := sound_start (Int.le_refl _)
  obtain ⟨s, after_create, opened, -, found, live⟩ := first_created dated (.text "ann")
  have ordered : Ordered s :=
    after_create ▸ (begins.after fun call member => regular call (List.mem_append_left _ member)).ordered
  have ended : ((finish (.text (idOf 1))).runFrom s).1 = .ok true := finish_live ordered found live
  have ends : (s.after [.finish (idOf 1), .get (idOf 1)]).now = ⟨0⟩ := by
    rw [← after_create, ← after_append]
    exact begins.now_after regular (by simp [Call.later])
  have answered := ended_session_answers ⟨0⟩ [.create (.text "ann")] [.get (idOf 1)] (idOf 1) allowed (Int.le_refl 0)
  rw [after_create] at answered ⊢
  obtain ⟨filed, unheld, answers, -⟩ := answered (ends ▸ dated.2) short ended
  generalize Trail.of (s.after [.finish (idOf 1)]) (idOf 1) = trail at filed unheld answers
  have now : s.now = ⟨0⟩ := opened.now
  have lasting : ¬ timeout < 0 := by decide
  have fresh : trail.isOver s.now (idOf 1) = false := by
    simp [Trail.isOver, Trail.last, unheld, filed, lasting]
  have used : trail.after (idOf 1) s.now [.get (idOf 1)] =
      ⟨some s.now, Function.update trail.held (idOf 1) (some s.now)⟩ := by
    simp [Trail.after, Trail.step, leads, Trail.use, fresh]
  rw [used, ends, now] at answers
  refine ⟨fun gone => ?_, answers.active.2 (by simp)⟩
  have passed := answers.get.1 gone
  simp [Trail.isOver, Trail.last, lasting] at passed

end

end Playhouse.Sessions
