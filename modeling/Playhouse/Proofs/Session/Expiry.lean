import Playhouse.Proofs.Session.WriteThrough

/-!
The age of sessions. In a run whose clock goes forward every session carries the moment of its last
activity, so whether it has expired is a matter of that moment and of now, and never a fault.
-/
namespace Playhouse.Sessions
open Value List Option

variable {now last : Moment}

/-- When a session was last active, if it says so. -/
def lastActivity (session : Value) : Option Moment :=
  match session.field? "last_activity" with
  | some (.text stamp) =>
    match Moment.read stamp with
    | .ok (last, false) => some last
    | _ => none
  | _ => none

/-- Whether a session has been idle for longer than it may. -/
def isIdle (now : Moment) (session : Value) : Bool :=
  (lastActivity session).any fun last => timeout < now.micros - last.micros

variable {session : Value} {fields : Fields} {first : Moment} {custom : Custom} {id : String}

theorem isExpired_eq (active : lastActivity session = some last) (now : Moment) :
    isExpired now session = .ok (isIdle now session) := by
  rw [isIdle, active, any_some]
  unfold lastActivity at active
  split at active
  · rename_i stamp found
    obtain ⟨fields, inside, held⟩ := bind_eq_some_iff.1 found
    cases session with
    | record content =>
      cases inside
      split at active
      · rename_i moment read
        cases active
        simp [isExpired, Value.entry, Value.need, held, read, Except.mapError]
      · cases active
    | _ => cases inside
  · cases active

/-! ### Dates -/

/-- A session that was last active between two moments. -/
def Dated (first now : Moment) (fields : Fields) : Prop :=
  ∃ last : Moment, fields.get? (.text "last_activity") = some (.text last.iso) ∧ first.micros ≤ last.micros ∧
    last.micros ≤ now.micros

theorem lastActivity_of_get? (dated : last.InCalendar)
    (held : fields.get? (.text "last_activity") = some (.text last.iso)) :
    lastActivity (.record fields) = some last := by
  simp [lastActivity, held, Moment.read_iso dated]

theorem Dated.later {later : Moment} (le : now.micros ≤ later.micros) (dated : Dated first now fields) :
    Dated first later fields := by
  obtain ⟨last, held, begun, past⟩ := dated
  exact ⟨last, held, begun, Int.le_trans past le⟩

theorem get?_edited (now : Moment) (fields : Fields) (call : Call) :
    (call.edited now fields).get? (.text "last_activity") = some (.text now.iso) := by
  have edited := Call.edited_edited now fields call
  generalize call.edited now fields = result at edited
  cases edited <;> simp [refreshed]

theorem get?_opening (now : Moment) (id : String) (user : Value) :
    (opening now id user).get? (.text "last_activity") = some (.text now.iso) := by
  simp [opening]

/-- A store in which every session has been active by now. -/
structure Timed (s : Sessions) : Prop where
  held : ∀ entry ∈ s.active, ∃ last, lastActivity entry.2 = some last ∧ last.micros ≤ s.now.micros
  stored : ∀ id session, stored s.tree id = some session →
    ∃ last, lastActivity session = some last ∧ last.micros ≤ s.now.micros

variable {s t : Sessions}

theorem Sound.timed (sound : Sound custom s) (dates : ∀ {now fields}, custom.Good now fields → Dated first now fields)
    (begins : 0 ≤ first.micros) (ends : s.now.micros < Moment.calendarEnd) : Timed s := by
  have read {fields : Fields} (good : custom.Good s.now fields) :
      ∃ last, lastActivity (.record fields) = some last ∧ last.micros ≤ s.now.micros := by
    obtain ⟨last, held, begun, past⟩ := dates good
    exact ⟨last, lastActivity_of_get? ⟨by omega, by omega⟩ held, past⟩
  refine ⟨fun entry member => ?_, fun id session found => ?_⟩
  · obtain ⟨id, fields, rfl, -, good, -⟩ := sound.held entry member
    exact read good
  · obtain ⟨fields, rfl, -, good, -⟩ := sound.loaded found
    exact read good

theorem Timed.current (timed : Timed s) (once : (s.active.map Prod.fst).Nodup) (found : s.current id = some session) :
    ∃ last, lastActivity session = some last ∧ last.micros ≤ s.now.micros := by
  rcases held_or_stored found with held | ⟨-, filed⟩
  · exact timed.held _ ((find?_eq_some_iff once).1 held)
  · exact timed.stored id session filed

/-- Whether what an id stands for has expired is never a fault. -/
theorem Timed.isExpired_current (timed : Timed s) (once : (s.active.map Prod.fst).Nodup)
    (found : s.current id = some session) : isExpired s.now session = .ok (isIdle s.now session) := by
  obtain ⟨last, active, -⟩ := timed.current once found
  exact isExpired_eq active s.now

/-! ### The clock -/

/-- A call that does not set the clock back. -/
def Call.Forward : Call → Prop
  | wait seconds => 0 ≤ Moment.microsOf seconds
  | _ => True

theorem le_plusMicros {seconds : Number} (forward : (Call.wait seconds).Forward) :
    now.micros ≤ (now.plusMicros (Moment.microsOf seconds)).micros :=
  Int.le_add_of_nonneg_right forward

/-- Calls with JSON arguments on a clock that goes forward from a moment. -/
def datedRegime (first : Moment) : Regime where
  Allowed call := call.IsJson ∧ call.Forward
  Era now := first.micros ≤ now.micros
  Good now fields := (fields ≠ [] ∧ FieldsJson fields) ∧ Dated first now fields
  json good := good.1
  opening n era allowed :=
    ⟨⟨cons_ne_nil _ _, fieldsJson_opening _ n allowed.1⟩, _, get?_opening _ _ _, era, Int.le_refl _⟩
  edited era allowed _ good :=
    ⟨⟨edited_ne_nil _, fieldsJson_edited allowed.1 good.1.2⟩, _, get?_edited _ _ _, era, Int.le_refl _⟩
  later era allowed :=
    ⟨Int.le_trans era (le_plusMicros allowed.2), fun good => ⟨good.1, good.2.later (le_plusMicros allowed.2)⟩⟩

/-- The time after a call. -/
def Call.later (now : Moment) : Call → Moment
  | wait seconds => now.plusMicros (Moment.microsOf seconds)
  | _ => now

variable {call : Call}

theorem Call.later_of_id? (names : call.id? = some id) (now : Moment) : call.later now = now := by
  cases call with
  | wait seconds => cases names
  | _ => rfl

theorem Change.frame (change : Change s call t) : t.now = call.later s.now ∧ t.limit = s.limit ∧ s.made ≤ t.made := by
  have named {id : String} (names : call.id? = some id) (frame : Frame s t) :
      t.now = call.later s.now ∧ t.limit = s.limit ∧ s.made ≤ t.made :=
    ⟨frame.now.trans (Call.later_of_id? names _).symm, frame.limit, Nat.le_of_eq frame.made.symm⟩
  cases change with
  | absent names unknown same => exact named names same.toFrame
  | rests names found stale put => exact named names put.toFrame
  | renews names stays found live kept => exact named names kept.toFrame
  | ends found live archived => exact named rfl archived.toFrame
  | opens few opened => exact ⟨opened.now, opened.limit, opened.made ▸ Nat.le_succ _⟩
  | _ => exact ⟨rfl, rfl, Nat.le_refl _⟩

theorem Change.now_eq (change : Change s call t) : t.now = call.later s.now := change.frame.1

theorem Call.le_later (forward : call.Forward) (now : Moment) : now.micros ≤ (call.later now).micros := by
  cases call with
  | wait seconds => exact le_plusMicros forward
  | _ => exact Int.le_refl _

variable {calls : List Call}

theorem Sound.now_after (sound : Sound custom s) (allowed : ∀ call ∈ calls, custom.Allowed call)
    (still : ∀ call ∈ calls, ∀ now, call.later now = now) : (s.after calls).now = s.now := by
  refine sound.along (P := fun t => t.now = s.now) allowed (fun member _ change now => ?_) rfl
  rw [change.now_eq, still _ member, now]

theorem Sound.now_le (sound : Sound custom s) (allowed : ∀ call ∈ calls, custom.Allowed call)
    (forward : ∀ call ∈ calls, call.Forward) : s.now.micros ≤ (s.after calls).now.micros := by
  refine sound.along (P := fun t => s.now.micros ≤ t.now.micros) allowed (fun member _ change past => ?_)
    (Int.le_refl _)
  rw [change.now_eq]
  exact Int.le_trans past (Call.le_later (forward _ member) _)

theorem isIdle_mono {later : Moment} (le : now.micros ≤ later.micros) (idle : isIdle now session = true) :
    isIdle later session = true := by
  unfold isIdle at idle ⊢
  cases active : lastActivity session with
  | none => simp [active] at idle
  | some last =>
    rw [active, any_some, decide_eq_true_iff] at idle
    rw [any_some, decide_eq_true_iff]
    omega

theorem isIdle_now (dated : now.InCalendar)
    (active : fields.get? (.text "last_activity") = some (.text now.iso)) : isIdle now (.record fields) = false := by
  rw [isIdle, lastActivity_of_get? dated active, any_some, decide_eq_false_iff_not]
  have positive : 0 < timeout := by decide
  omega

/-! ### Runs -/

theorem after_append (s : Sessions) (calls more : List Call) : s.after (calls ++ more) = (s.after calls).after more :=
  foldl_append

theorem after_concat (s : Sessions) (calls : List Call) (call : Call) :
    s.after (calls ++ [call]) = (call.act.runFrom (s.after calls)).2 := after_append s calls [call]

theorem Timed.fewer {entries : List (Value × Value)} (timed : Timed s) (fewer : entries.Sublist s.active) :
    Timed { s with active := entries } :=
  ⟨fun entry member => timed.held entry (fewer.subset member), timed.stored⟩

/-- A store that allowed calls lead to while the calendar lasts. -/
structure Reached (custom : Custom) (s : Sessions) : Prop where
  sound : Sound custom s
  timed : Timed s
  dated : s.now.InCalendar

/-- Every part of a run that ends within the calendar leads to a store within it. -/
theorem reached_after {before : List Call} (era : custom.Era first) (allowed : ∀ call ∈ calls, custom.Allowed call)
    (forward : ∀ call ∈ calls, call.Forward) (dates : ∀ {now fields}, custom.Good now fields → Dated first now fields)
    (begins : 0 ≤ first.micros) (ends : ((start first).after calls).now.micros < Moment.calendarEnd)
    (leads : before <+: calls) : Reached custom ((start first).after before) := by
  obtain ⟨rest, rfl⟩ := leads
  have allowed_before : ∀ call ∈ before, custom.Allowed call :=
    (forall_mem_append.1 allowed).1
  have sound : Sound custom ((start first).after before) := (sound_start era).after allowed_before
  have past : first.micros ≤ ((start first).after before).now.micros :=
    (sound_start era).now_le allowed_before (forall_mem_append.1 forward).1
  have future : ((start first).after before).now.micros ≤ (((start first).after before).after rest).now.micros :=
    sound.now_le (forall_mem_append.1 allowed).2 (forall_mem_append.1 forward).2
  rw [after_append] at ends
  have inside : ((start first).after before).now.micros < Moment.calendarEnd := Int.lt_of_le_of_lt future ends
  exact ⟨sound, sound.timed dates begins inside, Int.le_trans begins past, inside⟩

/-- The first session of a store that has just started is in memory, and is live. -/
theorem first_created (dated : first.InCalendar) (user : Value) :
    ∃ s, (start first).after [.create user] = s ∧ Opened user [] (start first) s ∧
      s.active = [(.text (idOf 1), .record (opening first (idOf 1) user))] ∧
      s.current (idOf 1) = some (.record (opening first (idOf 1) user)) ∧
      isExpired s.now (.record (opening first (idOf 1) user)) = .ok false := by
  obtain ⟨s, created, opened, active, found⟩ := first_opened first user
  have now : s.now = first := opened.now
  refine ⟨s, created, opened, active, found, ?_⟩
  rw [now, isExpired_eq (lastActivity_of_get? dated (get?_opening _ _ _)), isIdle_now dated (get?_opening _ _ _)]

/-- Where every session in memory tells when it was last active, those that have not expired are the ones
that are not idle. -/
theorem liveEntries_eq (dated : ∀ entry ∈ s.active, ∃ last, lastActivity entry.2 = some last) :
    s.liveEntries = .ok (s.active.filter fun entry => !isIdle s.now entry.2) := by
  refine filterM_eq_filter fun entry member => ?_
  obtain ⟨last, active⟩ := dated entry member
  rw [isExpired_eq active]
  rfl

theorem Timed.liveEntries (timed : Timed s) :
    s.liveEntries = .ok (s.active.filter fun entry => !isIdle s.now entry.2) :=
  liveEntries_eq fun entry member => (timed.held entry member).imp fun _ => And.left

end Playhouse.Sessions
