import Playhouse.Proofs.RolePlay.Path

/-!
Refused choices. A choice that is refused leaves the engine as it was, with its sessions, its tale and its
files. Only a session in which nothing was chosen yet gets the start noted, for the engine and the store
alike, and it counts as having made the start anyway.
-/
namespace Playhouse.Engine
open Tale List Sessions Value Act

/-- Everything that refuses a choice, with the fault that tells it and the engine it leaves. -/
inductive Refused (engine : Engine) (user choice : Value) : Fault → Engine → Prop
  | closed (isClosed : engine.isOpen = false) : Refused engine user choice .closed engine
  | unkeyed (isOpen : engine.isOpen = true) (key : user.isKey = false) :
      Refused engine user choice (.mismatch (.notKey user.kind)) engine
  | unknown (isOpen : engine.isOpen = true) (key : user.isKey = true) (absent : engine.find? user = none) :
      Refused engine user choice .noPlayer engine
  | strays {session : Fields} (isOpen : engine.isOpen = true) (found : engine.find? user = some session)
      (may_not : ¬ Follows session choice) :
      Refused engine user choice (.wrongTurn choice ((pathOf session).getLastD .null))
        (changed user (begun session) engine)

/-- A player of an open engine who has a session and has not chosen anything in it. -/
def Unbegun (engine : Engine) (user : Value) (session : Fields) : Prop :=
  engine.isOpen = true ∧ engine.find? user = some session ∧ choicesOf session = []

/-- The engine with the start noted as the first choice of a session, wherever it has that session. -/
def startNoted (session : Fields) (engine : Engine) : Engine :=
  let noted := session.set (.text "user_choices") (.list [.text "start"])
  { engine with
    held := engine.held.map fun entry => if (id entry.2).equal (id session) then (entry.1, noted) else entry
    store := { engine.store with
      active := engine.store.active.map fun entry =>
        if entry.1.equal (id session) then (entry.1, .record noted) else entry } }

/-! ### Paths end in a text -/

theorem Allows.text {last choice : Value} (allows : Allows last choice) : ∃ name, choice = .text name := by
  obtain ⟨-, -, -, -, option, -, rfl⟩ := allows
  exact ⟨option.id, rfl⟩

theorem getLast_text {first : String} {rest : List Value} (chain : (.text first :: rest).IsChain Allows) :
    ∃ name, (text first :: rest).getLastD .null = .text name := by
  induction rest generalizing first with
  | nil => exact ⟨first, rfl⟩
  | cons choice rest ih =>
    obtain ⟨allows, chain_rest⟩ := isChain_cons_cons.1 chain
    obtain ⟨name, rfl⟩ := allows.text
    obtain ⟨last, ends⟩ := ih chain_rest
    exact ⟨last, by simpa using ends⟩

theorem choicesAfter_text (name : String) : choicesAfter (.text name) = .ok ((flow.lookup name).getD []) := rfl

/-! ### What a refusal leaves -/

section
variable {engine next : Engine} {user choice : Value} {session : Fields} {fault : Fault}

theorem choose_refused (ends : ∀ session, engine.find? user = some session →
      ∃ name, (pathOf session).getLastD .null = .text name)
    (refused : (choose user choice).runFrom engine = (.error fault, next)) :
    Refused engine user choice fault next := by
  cases isOpen : engine.isOpen with
  | false =>
    simp only [choose, runFrom_bind, runFrom_get, isOpen, Bool.not_false, if_true, runFrom_throw] at refused
    cases refused
    exact .closed isOpen
  | true =>
    cases key : user.isKey with
    | false =>
      simp [choose, sessionOf, isOpen, key] at refused
      obtain ⟨rfl, rfl⟩ := refused
      exact .unkeyed isOpen key
    | true =>
      cases found : engine.find? user with
      | none =>
        simp [choose, sessionOf, isOpen, key, found] at refused
        obtain ⟨rfl, rfl⟩ := refused
        exact .unknown isOpen key found
      | some session =>
        obtain ⟨name, last⟩ := ends session found
        have after : choicesAfter ((pathOf session).getLastD .null) = .ok ((flow.lookup name).getD []) :=
          last ▸ choicesAfter_text name
        rw [choose_found isOpen key found, after] at refused
        simp only at refused
        split at refused
        · obtain ⟨answer, told⟩ := tell_answers (.record [("choice", choice)]) engine.tale
          simp [told] at refused
        · rename_i invalid
          cases refused
          refine .strays isOpen found fun may => ?_
          obtain ⟨options, follow, member⟩ := may
          cases after.symm.trans follow
          exact invalid ((any_equal_iff _ choice).2 member)

theorem begun_of_unchosen (unchosen : choicesOf session = []) :
    begun session = session.set (.text "user_choices") (.list [.text "start"]) := by
  simp [begun, pathOf, unchosen]

theorem changed_store (user : Value) (session : Fields) (engine : Engine) :
    (changed user session engine).store =
      { engine.store with active := (changed user session engine).store.active } := by
  simp only [changed]
  split <;> rfl

section
variable (shared : Shared engine) (found : engine.find? user = some session) (unchosen : choicesOf session = [])
include shared found unchosen

theorem held_begun : (changed user (begun session) engine).held = (startNoted session engine).held := by
  obtain ⟨before, key, after, held, held_later⟩ := held_changed found
  obtain ⟨n, -, named⟩ := shared.named (key, session) (held ▸ mem_append_right _ mem_cons_self)
  have here : (id session).equal (id session) = true := by rw [named, equal_text]
  -- The ids of held sessions are apart, so the other entries stay.
  have apart := shared.apart
  rw [held, map_append, map_cons, nodup_middle, nodup_cons, ← map_append] at apart
  have stays : ∀ entry ∈ before ++ after, ¬ (id entry.2).equal (id session) = true := by
    intro entry member same
    rw [named, equal_text] at same
    exact apart.1 (mem_map.2 ⟨entry, member, same.trans named.symm⟩)
  have before_stays := fun entry member => stays entry (mem_append_left after member)
  have after_stays := fun entry member => stays entry (mem_append_right before member)
  rw [held_later, startNoted, held, map_append, map_cons, if_pos here,
    map_ite_of_unmet before_stays, map_ite_of_unmet after_stays, begun_of_unchosen unchosen]

theorem active_begun :
    (changed user (begun session) engine).store.active = (startNoted session engine).store.active := by
  obtain ⟨key, n, -, -, named⟩ := shared.of_find? found
  rcases @changed_active engine user _ _ ((id_begun session).trans named) with ⟨active, absent⟩ | ⟨active, old, stored⟩
  · rw [active, startNoted, named]
    refine (map_ite_of_unmet fun entry member => ?_).symm
    rw [equal_text]
    exact find?_eq_none_iff.1 absent entry member
  · have there := mem_map_of_mem (f := Prod.fst) ((find?_eq_some_iff shared.once).1 stored)
    rw [active, putIn_eq_map shared.once there, startNoted, named, begun_of_unchosen unchosen]

/-- Noting the start changes a session for the engine and for the store, and nothing else. -/
theorem changed_begun : changed user (begun session) engine = startNoted session engine := by
  have store := changed_store user (begun session) engine
  rw [active_begun shared found unchosen] at store
  calc changed user (begun session) engine = { engine with
          held := (changed user (begun session) engine).held
          store := (changed user (begun session) engine).store } := rfl
    _ = startNoted session engine := by
      rw [held_begun shared found unchosen, store]
      rfl

end

theorem changed_begun_ne (found : engine.find? user = some session) (unchosen : choicesOf session = []) :
    changed user (begun session) engine ≠ engine := by
  intro same
  have noted := find?_changed found (begun session)
  rw [same, found, Option.some.injEq] at noted
  have choices : choicesOf (begun session) = [.text "start"] := by
    rw [begun_of_unchosen unchosen, choicesOf_set]
  rw [← noted, unchosen] at choices
  cases choices

theorem Refused.leaves (shared : Shared engine) (refused : Refused engine user choice fault next) :
    (next = engine ↔ ∀ session, ¬ Unbegun engine user session) ∧
      ∀ session, Unbegun engine user session → next = startNoted session engine := by
  have quiet (none_ : ∀ session, ¬ Unbegun engine user session) :
      (engine = engine ↔ ∀ session, ¬ Unbegun engine user session) ∧
        ∀ session, Unbegun engine user session → engine = startNoted session engine :=
    ⟨iff_of_true rfl none_, fun session unbegun => absurd unbegun (none_ session)⟩
  cases refused with
  | closed isClosed => exact quiet fun session unbegun => by cases isClosed.symm.trans unbegun.1
  | unkeyed isOpen key => exact quiet fun session unbegun => by cases key.symm.trans (shared.isKey unbegun.2.1)
  | unknown isOpen key absent => exact quiet fun session unbegun => by cases absent.symm.trans unbegun.2.1
  | @strays session isOpen found may_not =>
    by_cases unchosen : choicesOf session = []
    · refine ⟨iff_of_false (changed_begun_ne found unchosen) fun none_ => none_ session ⟨isOpen, found, unchosen⟩, ?_⟩
      rintro other ⟨-, found_other, -⟩
      cases found.symm.trans found_other
      exact changed_begun shared found unchosen
    · rw [begun_of_chosen unchosen, shared.changed_self found]
      refine quiet fun other unbegun => ?_
      obtain ⟨-, found_other, unchosen_other⟩ := unbegun
      cases found.symm.trans found_other
      exact unchosen unchosen_other

end

/-- A refused choice is refused because the engine is closed, the player has no session or the flow does not go
there, and it leaves everything as it was: the sessions of the engine and of its store, the tale, the files and the
clock. The one exception is a session in which nothing was chosen yet: its choices are then the start alone, for the
engine and for the store. -/
theorem refused_choice_leaves_all_but_start {now : Moment} {chance : Chance} {templates : Except Fault (Option Value)}
    {prompts : Except Fault Prompts} {engine : Engine} (started : start now chance templates prompts = .ok engine)
    (calls : List Call) {user choice : Value} {fault : Fault} {next : Engine}
    (refused : (choose user choice).runFrom (engine.after calls) = (.error fault, next)) :
    Refused (engine.after calls) user choice fault next ∧
    (next = engine.after calls ↔ ∀ session, ¬ Unbegun (engine.after calls) user session) ∧
    ∀ session, Unbegun (engine.after calls) user session → next = startNoted session (engine.after calls) := by
  have reason : Refused (engine.after calls) user choice fault next := by
    refine choose_refused (fun session found => ?_) refused
    obtain ⟨key, -, inside⟩ := mem_held_of_find? found
    have traced := (traces_after started calls).held _ inside
    rw [traced.pathOf]
    exact getLast_text traced.chain
  exact ⟨reason, reason.leaves ((shared_start started).after calls)⟩

/-- Nobody may dance: the flow has no such choice. -/
theorem dance_refused (engine : Engine) (user : Value) :
    ∃ fault next, (choose user (.text "dance")).runFrom engine = (.error fault, next) := by
  have undanced : ∀ entry ∈ flow, ∀ option ∈ entry.2, option.id ≠ "dance" := by decide
  rcases ran : (choose user (.text "dance")).runFrom engine with ⟨fault | reply, next⟩
  · exact ⟨fault, next, rfl⟩
  · obtain ⟨-, -, session, -, may⟩ := accepts_iff.1 ⟨reply, by rw [ran]⟩
    obtain ⟨name, options, -, found, option, member, same⟩ := may.allows
    obtain ⟨before, after, split, -⟩ := lookup_eq_some_iff.mp found
    exact absurd (text.inj same).symm (undanced (name, options) (by simp [split]) option member)

/-- Ann has investigated and Bob has just come. Neither may dance: the engine is as it was after Ann's try, and has
Bob's start noted after his. -/
theorem dancing_is_refused : ∃ engine, ∃ calls : List Call,
    calls = [.open_ (.text "ann"), .choose (.text "ann") (.text "investigate"), .open_ (.text "bob")] ∧
    start ⟨0⟩ {} (.ok (some .empty)) (.ok builtIn) = .ok engine ∧
    ((choose (.text "ann") (.text "dance")).runFrom (engine.after calls)).2 = engine.after calls ∧
    ∃ session, (engine.after calls).find? (.text "bob") = some session ∧
      ((choose (.text "bob") (.text "dance")).runFrom (engine.after calls)).2 =
        startNoted session (engine.after calls) := by
  let engine : Engine := { store := Sessions.start ⟨0⟩, tale := { prompts := builtIn, chance := {} } }
  let calls : List Call := [.open_ (.text "ann"), .choose (.text "ann") (.text "investigate"), .open_ (.text "bob")]
  have started : start ⟨0⟩ {} (.ok (some .empty)) (.ok builtIn) = .ok engine := rfl
  have reached : ((engine.after calls).isOpen,
      ((engine.after calls).find? (.text "ann")).map fun session => (choicesOf session).length,
      ((engine.after calls).find? (.text "bob")).map fun session => (choicesOf session).length) =
        (true, some 2, some 0) := by
    decide +kernel
  simp only [Prod.mk.injEq] at reached
  obtain ⟨isOpen, ann, bob⟩ := reached
  obtain ⟨session, found, untouched⟩ := Option.map_eq_some_iff.1 bob
  refine ⟨engine, calls, rfl, started, ?_, session, found, ?_⟩
  · obtain ⟨fault, left, refused⟩ := dance_refused (engine.after calls) (.text "ann")
    rw [refused]
    refine (refused_choice_leaves_all_but_start started calls refused).2.1.2 fun other unbegun => ?_
    obtain ⟨-, found_other, unchosen⟩ := unbegun
    rw [found_other, Option.map_some, unchosen] at ann
    cases ann
  · obtain ⟨fault, left, refused⟩ := dance_refused (engine.after calls) (.text "bob")
    rw [refused]
    exact (refused_choice_leaves_all_but_start started calls refused).2.2 session
      ⟨isOpen, found, List.length_eq_zero_iff.1 untouched⟩

/-- A refused choice does not leave every session as it was: a new player who tries to dance has made a choice. -/
theorem refused_choice_marks_new_session : ∃ engine fault next,
    start ⟨0⟩ {} (.ok (some .empty)) (.ok builtIn) = .ok engine ∧
    (choose (.text "ann") (.text "dance")).runFrom (engine.after [.open_ (.text "ann")]) = (.error fault, next) ∧
    ((engine.after [.open_ (.text "ann")]).find? (.text "ann")).map choicesOf = some [] ∧
    (next.find? (.text "ann")).map choicesOf = some [.text "start"] := by
  let engine : Engine := { store := Sessions.start ⟨0⟩, tale := { prompts := builtIn, chance := {} } }
  obtain ⟨fault, next, refused⟩ := dance_refused (engine.after [.open_ (.text "ann")]) (.text "ann")
  refine ⟨engine, fault, next, rfl, refused, ?_⟩
  have reached : ((engine.after [.open_ (.text "ann")]).isOpen,
      ((engine.after [.open_ (.text "ann")]).find? (.text "ann")).map fun session => (choicesOf session).length) =
        (true, some 0) := by
    decide +kernel
  generalize engine.after [.open_ (.text "ann")] = opened at reached refused ⊢
  simp only [Prod.mk.injEq] at reached
  obtain ⟨session, found, count⟩ := Option.map_eq_some_iff.1 reached.2
  have unchosen : choicesOf session = [] := List.length_eq_zero_iff.1 count
  have ends : ∀ other, opened.find? (.text "ann") = some other → ∃ name, (pathOf other).getLastD .null = .text name := by
    intro other found_other
    cases found.symm.trans found_other
    exact ⟨"start", by simp [pathOf, unchosen]⟩
  cases choose_refused ends refused with
  | closed isClosed => cases isClosed.symm.trans reached.1
  | unkeyed isOpen key => cases key
  | unknown isOpen key absent => cases absent.symm.trans found
  | strays isOpen found_other may_not =>
    cases found.symm.trans found_other
    rw [found, find?_changed found, Option.map_some, Option.map_some, unchosen, begun_of_unchosen unchosen, choicesOf_set]
    exact ⟨rfl, rfl⟩

end Playhouse.Engine
