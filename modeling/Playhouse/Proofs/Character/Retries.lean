import Mathlib.Tactic.IntervalCases
import Playhouse.Proofs.Character.Narration

/-!
What a casting drafts and remembers. A casting that replaces a candidate casts anew, and that inner casting remembers
its character; so the character which the loop tests next is one of the remembered ones, and all attempts are used.
A casting therefore drafts and remembers `1 + 5 * k` characters, where `k` counts the candidates that were similar to
a remembered character when they were drafted. One candidate and one entry is the case `k = 0`. A character has nineteen
fields, so it counts as similar to a remembered one exactly if they have six or more in common.
-/
namespace Playhouse.Casting
open History List Value Act Narrative

variable {fields : Fields} {history : History}

/-! ### Likeness -/

/-- How many fields of a character a remembered one has with the same content. -/
def likeness (fields : Fields) (old : Value) : Nat :=
  fields.countP fun field => (old.fields?.bind fun others => others.get? field.1).any fun value => value.equal field.2

theorem shared_eq (fields others : Fields) :
    shared fields (.record others) = .ok (likeness fields (.record others)) := by
  have decided : ∀ field ∈ fields, (do
      if ← field.1.value.isIn (.record others) then
        return (← (record others).item field.1.value).equal field.2
      else return false : Except Fault Bool) = .ok ((others.get? field.1).any fun value => value.equal field.2) := by
    intro field _
    simp only [isIn_record, item, need, key?_value]
    cases others.get? field.1 <;> rfl
  unfold shared
  rw [filterM_eq_filter decided, likeness, countP_eq_length_filter]
  rfl

/-- Six of nineteen is the least part above the threshold. -/
theorem above_threshold {count : Nat} (most : count ≤ 19) :
    above (Float.ofNat count / Float.ofNat 19) standardThreshold = .ok (decide (6 ≤ count)) := by
  interval_cases count <;> rfl

theorem likeness_le (fields : Fields) (old : Value) : likeness fields old ≤ fields.length := countP_le_length

theorem similarTo_eq (all : fields.length = 19) {olds : List Value}
    (records : ∀ old ∈ olds, ∃ others, old = .record others) :
    similarTo fields standardThreshold olds = .ok (olds.any fun old => 6 ≤ likeness fields old) := by
  have filled : fields.isEmpty = false := by
    rw [isEmpty_eq_false_iff, ← length_pos_iff]
    omega
  induction olds with
  | nil => rfl
  | cons old olds ih =>
    obtain ⟨others, rfl⟩ := records old mem_cons_self
    have rest := ih (forall_mem_cons.1 records).2
    have judged := above_threshold (Nat.le_trans (likeness_le fields (.record others)) (Nat.le_of_eq all))
    rw [similarTo, shared_eq, any_cons]
    simp only [bind, Except.bind, filled, all, judged, Bool.false_eq_true, if_false]
    by_cases alike : 6 ≤ likeness fields (.record others)
    · simp [alike]
    · simp [alike, rest]

/-- A cast character counts as similar if it has six fields in common with one that is remembered. -/
theorem isSimilar_eq (recalls : Recalls history) (cast : IsCast fields) :
    history.isSimilar (.record fields) standardThreshold =
      .ok (history.characters.any fun old => 6 ≤ likeness fields old) := by
  have records : ∀ old ∈ history.characters, ∃ others, old = .record others := by
    intro old member
    obtain ⟨others, same, -⟩ := recalls.cast old member
    exact ⟨others, same⟩
  unfold isSimilar
  by_cases empty : history.characters = []
  · simp [empty]
  · simpa [empty, needRecord] using similarTo_eq cast.length_eq records

theorem likeness_self (cast : IsCast fields) : likeness fields (.record fields) = 19 := by
  rw [likeness, ← cast.length_eq, countP_eq_length]
  intro field member
  have named : field.1 ∈ fieldNames.map Key.text := cast.names.mem_iff.1 (mem_map_of_mem member)
  obtain ⟨name, -, key⟩ := mem_map.1 named
  have found : Fields.get? fields field.1 = some field.2 := by
    rw [← key, Fields.get?_eq_some_iff cast.once, key]
    exact member
  have plain := cast.plain field member
  simp [fields?, found, (plain.equal_iff plain).2]

theorem isSimilar_of_mem (recalls : Recalls history) (cast : IsCast fields)
    (remembered : .record fields ∈ history.characters) :
    history.isSimilar (.record fields) standardThreshold = .ok true := by
  rw [isSimilar_eq recalls cast, Except.ok.injEq, any_eq_true]
  refine ⟨_, remembered, ?_⟩
  rw [likeness_self cast]
  decide

variable {attempts : Nat} {u t : Casting}

/-! ### Events of a casting -/

/-- A candidate was drafted, and was similar to a remembered character or not; or a character was remembered. -/
inductive Event where
  | drafted (candidate : Fields) (similar : Bool)
  | remembered (character : Fields)

namespace Event

def candidate? : Event → Option Fields
  | drafted candidate _ => some candidate
  | remembered _ => none

def character? : Event → Option Fields
  | drafted _ _ => none
  | remembered character => some character

def isSimilar : Event → Bool
  | drafted _ similar => similar
  | remembered _ => false

end Event

def candidates (events : List Event) : List Fields := events.filterMap Event.candidate?

/-- The characters that were remembered, in order. -/
def entries (events : List Event) : List Fields := events.filterMap Event.character?

def similarCount (events : List Event) : Nat := events.countP Event.isSimilar

/-- A history after some more entries. -/
def remembering (history : History) (characters : List Fields) : History :=
  characters.foldl (fun history character => history.add (.record character)) history

section
variable (events more : List Event) (candidate character : Fields) (similar : Bool)

@[simp] theorem candidates_append : candidates (events ++ more) = candidates events ++ candidates more :=
  filterMap_append ..

@[simp] theorem entries_append : entries (events ++ more) = entries events ++ entries more := filterMap_append ..

@[simp] theorem similarCount_append : similarCount (events ++ more) = similarCount events + similarCount more :=
  countP_append ..

@[simp] theorem candidates_drafted :
    candidates (.drafted candidate similar :: events) = candidate :: candidates events := rfl

@[simp] theorem entries_drafted : entries (.drafted candidate similar :: events) = entries events := rfl

@[simp] theorem similarCount_drafted :
    similarCount (.drafted candidate similar :: events) = similarCount events + similar.toNat := by
  cases similar
  · rfl
  · exact countP_cons_of_pos rfl

@[simp] theorem candidates_remembered : candidates [.remembered character] = [] := rfl

@[simp] theorem entries_remembered : entries [.remembered character] = [character] := rfl

@[simp] theorem similarCount_remembered : similarCount [.remembered character] = 0 := rfl

@[simp] theorem remembering_append (history : History) (first rest : List Fields) :
    remembering history (first ++ rest) = remembering (remembering history first) rest := foldl_append ..

end

/-- The part of a casting that is told: all of it down to a depth, or the replacing of a character that is similar
to a remembered one or not, with some attempts left. -/
inductive Stage where
  | whole (depth : Nat)
  | replacing (depth attempts : Nat) (character : Fields) (similar : Bool)

/-- How a casting goes from a state: its events, its outcome and the state that it leaves. -/
inductive Casts (visitor : Visitor) : Stage → Casting → List Event → Except Fault Fields → Casting → Prop where
  | tooDeep {s : Casting} : Casts visitor (.whole 0) s [] (.error .tooDeep) s
  | cast {depth : Nat} {s t u : Casting} {candidate character : Fields} {similar : Bool} {events : List Event}
      (drafts : (draft visitor).runFrom s = (.ok candidate, t))
      (replaces : Casts visitor (.replacing depth maxAttempts candidate similar) t events (.ok character) u) :
      Casts visitor (.whole (depth + 1)) s (.drafted candidate similar :: events ++ [.remembered character])
        (.ok character) { u with history := u.history.add (.record character) }
  | fails {depth : Nat} {s t u : Casting} {candidate : Fields} {similar : Bool} {events : List Event} {fault : Fault}
      (drafts : (draft visitor).runFrom s = (.ok candidate, t))
      (replaces : Casts visitor (.replacing depth maxAttempts candidate similar) t events (.error fault) u) :
      Casts visitor (.whole (depth + 1)) s (.drafted candidate similar :: events) (.error fault) u
  | stays {depth attempts : Nat} {s : Casting} {character : Fields}
      (judged : s.history.isSimilar (.record character) standardThreshold = .ok false) :
      Casts visitor (.replacing depth attempts character false) s [] (.ok character) s
  | spent {depth : Nat} {s : Casting} {character : Fields}
      (judged : s.history.isSimilar (.record character) standardThreshold = .ok true) :
      Casts visitor (.replacing depth 0 character true) s [] (.ok character) s
  | replaced {depth left : Nat} {s t u : Casting} {character next : Fields} {similar : Bool}
      {events more : List Event} {outcome : Except Fault Fields}
      (judged : s.history.isSimilar (.record character) standardThreshold = .ok true)
      (casts : Casts visitor (.whole depth) s events (.ok next) t)
      (continues : Casts visitor (.replacing depth left next similar) t more outcome u) :
      Casts visitor (.replacing depth (left + 1) character true) s (events ++ more) outcome u
  | broken {depth left : Nat} {s t : Casting} {character : Fields} {events : List Event} {fault : Fault}
      (judged : s.history.isSimilar (.record character) standardThreshold = .ok true)
      (casts : Casts visitor (.whole depth) s events (.error fault) t) :
      Casts visitor (.replacing depth (left + 1) character true) s events (.error fault) t

/-! ### States from which castings succeed -/

/-- The history remembers cast characters, and the services reply in texts. -/
structure Ready (s : Casting) : Prop where
  recalls : Recalls s.history
  worded : s.muses.Worded

variable {s : Casting} {depth : Nat} {outcome : Except Fault Fields} {visitor : Visitor}

/-- Whatever chance and the services bring, a candidate is drafted. -/
theorem draft_run (ready : Ready s) (visitor : Visitor) :
    ∃ candidate t, (draft visitor).runFrom s = (.ok candidate, t) ∧ IsCast candidate ∧ t.history = s.history ∧
      Ready t := by
  obtain ⟨fields, chance, sketches, sketched⟩ := sketch_run ready.recalls
  obtain ⟨texts, left, enhances, all, worded⟩ := enhance_run sketched visitor ready.worded
  refine ⟨fields ++ texts.fields, ⟨chance, left, s.history⟩, ?_, ?_, rfl, ready.recalls, worded⟩
  · simp [draft, withMuses, sketches, enhances]
  · exact isCast_append sketched.names sketched.plain all

theorem characters_add (recalls : Recalls history) (fields : Fields) :
    (history.add (.record fields)).characters =
      history.characters.drop (history.characters.length - 2) ++ [.record fields] := by
  have few := recalls.few
  have kept : (history.add (.record fields)).characters =
      (history.characters ++ [Value.record fields]).drop (history.characters.length + 1 - 3) := by
    simp [add, recalls.limit]
  rw [kept, drop_append_of_le_length (by omega)]
  rfl

theorem mem_add (recalls : Recalls history) (fields : Fields) :
    .record fields ∈ (history.add (.record fields)).characters := by
  rw [characters_add recalls]
  exact mem_append_right _ mem_cons_self

theorem Recalls.add (recalls : Recalls history) (cast : IsCast fields) : Recalls (history.add (.record fields)) := by
  have kept := characters_add recalls fields
  refine ⟨?_, ?_, ?_⟩
  · simp [History.add, recalls.limit]
  · rw [kept, length_append, length_drop, length_singleton]
    omega
  · rw [kept]
    exact forall_mem_append.2 ⟨fun old before => recalls.cast old (mem_of_mem_drop before),
      forall_mem_singleton.2 ⟨fields, rfl, cast⟩⟩

theorem isSimilar_total (ready : Ready s) (cast : IsCast fields) :
    ∃ similar, s.history.isSimilar (.record fields) standardThreshold = .ok similar :=
  ⟨_, isSimilar_eq ready.recalls cast⟩

/-! ### The account of a casting -/

/-- A casting that gave a character: the events account for the history, and the character is the last entry. -/
structure Completed (s : Casting) (events : List Event) (character : Fields) (t : Casting) : Prop where
  cast : IsCast character
  history : t.history = remembering s.history (entries events)
  last : (entries events).getLast? = some character
  entered : (entries events).length = 1 + maxAttempts * similarCount events
  drafted : (candidates events).length = 1 + maxAttempts * similarCount events

/-- The replacing of a character that ended: if the first one was similar, every attempt was used. -/
structure Replaced (s : Casting) (attempts : Nat) (similar : Bool) (events : List Event) (character : Fields)
    (t : Casting) : Prop where
  cast : IsCast character
  history : t.history = remembering s.history (entries events)
  entered : (entries events).length = similar.toNat * attempts + maxAttempts * similarCount events
  drafted : (candidates events).length = similar.toNat * attempts + maxAttempts * similarCount events
  unlike : similar = false → events = []

/-- A casting only fails at the depth, and then each level above had a similar candidate. -/
structure Exhausted (depth : Nat) (events : List Event) (fault : Fault) : Prop where
  fault : fault = .tooDeep
  levels : depth ≤ similarCount events

/-- What is known of a stage that goes from a ready state with some events to an outcome. -/
def Accounts : Stage → Casting → List Event → Except Fault Fields → Casting → Prop
  | .whole _, s, events, .ok character, t => Completed s events character t ∧ .record character ∈ t.history.characters
  | .whole depth, _, events, .error fault, _ => Exhausted depth events fault
  | .replacing _ attempts _ similar, s, events, .ok character, t => Replaced s attempts similar events character t
  | .replacing depth _ _ _, _, events, .error fault, _ => Exhausted depth events fault

/-- What a stage may be entered with: a character to replace is a cast one. -/
def Stage.Fits : Stage → Prop
  | .whole _ => True
  | .replacing _ _ character _ => IsCast character

variable {events : List Event}

theorem Casts.judged {character : Fields} {similar : Bool}
    (casts : Casts visitor (.replacing depth attempts character similar) s events outcome t) :
    s.history.isSimilar (.record character) standardThreshold = .ok similar := by
  cases casts <;> assumption

/-- Every casting from a ready state is accounted for, and leaves a ready state. -/
theorem Casts.accounts {stage : Stage} (casts : Casts visitor stage s events outcome t)
    (ready : Ready s) (fits : stage.Fits) : Accounts stage s events outcome t ∧ Ready t := by
  induction casts with
  | tooDeep => exact ⟨⟨rfl, Nat.le_refl 0⟩, ready⟩
  | @cast depth s t u candidate character similar events drafts replaces ih =>
    obtain ⟨_, _, drafts', cast, same, ready_t⟩ := draft_run ready visitor
    obtain ⟨rfl, rfl⟩ : candidate = _ ∧ t = _ := by simpa using drafts.symm.trans drafts'
    obtain ⟨replaced, ready_u⟩ := ih ready_t cast
    refine ⟨⟨⟨replaced.cast, ?_, ?_, ?_, ?_⟩, mem_add ready_u.recalls character⟩,
      ready_u.recalls.add replaced.cast, ready_u.worded⟩
    · simp [replaced.history, same, remembering]
    · simp
    · simp [replaced.entered, Nat.mul_add, Nat.mul_comm]
      omega
    · simp [replaced.drafted, Nat.mul_add, Nat.mul_comm]
      omega
  | @fails depth s t u candidate similar events fault drafts replaces ih =>
    obtain ⟨_, _, drafts', cast, -, ready_t⟩ := draft_run ready visitor
    obtain ⟨rfl, rfl⟩ : candidate = _ ∧ t = _ := by simpa using drafts.symm.trans drafts'
    obtain ⟨exhausted, ready_u⟩ := ih ready_t cast
    refine ⟨⟨exhausted.fault, ?_⟩, ready_u⟩
    -- replacing can only fail after the candidate was found similar
    have similar_first : similar = true := by cases replaces <;> rfl
    have levels := exhausted.levels
    simp [similar_first, levels]
  | stays judged => exact ⟨⟨fits, rfl, by simp [entries, similarCount], by simp [candidates, similarCount],
      fun _ => rfl⟩, ready⟩
  | spent judged => exact ⟨⟨fits, rfl, by simp [entries, similarCount], by simp [candidates, similarCount],
      fun not => Bool.noConfusion not⟩, ready⟩
  | @replaced depth left s t u character next similar events more outcome judged casts continues ih ih_more =>
    obtain ⟨⟨completed, remembered⟩, ready_t⟩ := ih ready trivial
    obtain ⟨accounts, ready_u⟩ := ih_more ready_t completed.cast
    -- the inner casting remembered the next character, which is thus like a remembered one
    have alike := isSimilar_of_mem ready_t.recalls completed.cast remembered
    obtain rfl : similar = true := by simpa using continues.judged.symm.trans alike
    refine ⟨?_, ready_u⟩
    cases outcome with
    | error fault => exact ⟨accounts.fault, by simpa using Nat.le_add_left_of_le accounts.levels⟩
    | ok final =>
      refine ⟨accounts.cast, ?_, ?_, ?_, fun not => Bool.noConfusion not⟩
      · simp [accounts.history, completed.history]
      · simp [accounts.entered, completed.entered, Nat.mul_add]
        omega
      · simp [accounts.drafted, completed.drafted, Nat.mul_add]
        omega
  | broken judged casts ih =>
    obtain ⟨exhausted, ready_t⟩ := ih ready trivial
    exact ⟨exhausted, ready_t⟩

/-! ### Every run is told -/

theorem recast_unlike {next : Act Casting Fields} {character : Fields}
    (judged : s.history.isSimilar (.record character) standardThreshold = .ok false) :
    (recast next attempts character).runFrom s = (.ok character, s) := by
  unfold recast
  simp [judged]

theorem recast_casts (told : ∀ s, Ready s → ∃ events outcome t, (cast visitor depth).runFrom s = (outcome, t) ∧ Casts
      visitor (.whole depth) s events outcome t) (attempts : Nat) (character : Fields) (is_cast : IsCast character)
    (ready : Ready s) :
    ∃ similar events outcome t, (recast (cast visitor depth) attempts character).runFrom s = (outcome, t) ∧
      Casts visitor (.replacing depth attempts character similar) s events outcome t := by
  induction attempts generalizing character s with
  | zero =>
    obtain ⟨_ | _, judged⟩ := isSimilar_total ready is_cast
    · exact ⟨false, [], .ok character, s, recast_unlike judged, .stays judged⟩
    · exact ⟨true, [], .ok character, s, by simp [recast, judged], .spent judged⟩
  | succ left ih =>
    obtain ⟨_ | _, judged⟩ := isSimilar_total ready is_cast
    · exact ⟨false, [], .ok character, s, recast_unlike judged, .stays judged⟩
    · obtain ⟨events, outcome, t, runs, casts⟩ := told s ready
      obtain ⟨accounts, ready_t⟩ := casts.accounts ready trivial
      cases outcome with
      | error fault =>
        exact ⟨true, events, .error fault, t, by simp [recast, judged, runs], .broken judged casts⟩
      | ok next =>
        obtain ⟨_, more, outcome, u, goes, continues⟩ := ih next accounts.1.cast ready_t
        exact ⟨true, events ++ more, outcome, u, by simp [recast, judged, runs, goes],
          .replaced judged casts continues⟩

/-- From a ready state, a casting goes by the rules. -/
theorem cast_casts (visitor : Visitor) (depth : Nat) (ready : Ready s) :
    ∃ events outcome t, (cast visitor depth).runFrom s = (outcome, t) ∧
      Casts visitor (.whole depth) s events outcome t := by
  induction depth generalizing s with
  | zero => exact ⟨[], .error .tooDeep, s, rfl, .tooDeep⟩
  | succ depth ih =>
    obtain ⟨candidate, t, drafts, is_cast, -, ready_t⟩ := draft_run ready visitor
    obtain ⟨similar, events, outcome, u, replaces, told⟩ :=
      recast_casts (fun s ready => ih ready) maxAttempts candidate is_cast ready_t
    cases outcome with
    | error fault =>
      exact ⟨_, .error fault, u, by simp [cast, drafts, replaces], .fails drafts told⟩
    | ok character =>
      exact ⟨_, .ok character, _, by simp [cast, drafts, replaces], .cast drafts told⟩

/-! ### Runs of calls -/

/-- A call on a casting. -/
inductive Call where
  | generate (visitor : Visitor)
  | eyeColor
  | fromTemplate (visitor : Visitor) (template : Fields)
  | scenario

/-- The state that a call leaves, whether it succeeds or not. -/
def Call.after : Call → Casting → Casting
  | generate visitor, s => ((Casting.generate visitor).runFrom s).2
  | eyeColor, s => (Casting.eyeColor.runFrom s).2
  | fromTemplate visitor template, s => ((Casting.fromTemplate visitor template).runFrom s).2
  | scenario, s => (Casting.scenario.runFrom s).2

def after (calls : List Call) (s : Casting) : Casting := calls.foldl (fun s call => call.after s) s

section
variable {P : Casting → Prop}

section
variable (blind : ∀ s chance, P s → P { s with chance })
include blind

theorem keeps_withChance {α : Type} (act : Act Chance α) : Keeps P (withChance act) := fun s holds => blind s _ holds

theorem keeps_eyeColor : Keeps P eyeColor := by
  refine .bind (keeps_withChance blind _) fun number => ?_
  split
  · exact keeps_pure _
  · exact .bind keeps_get fun s => keeps_withChance blind _

theorem keeps_optionOf (template : Fields) (key : String) (standard : List String) :
    Keeps P (optionOf template key standard) := by
  unfold optionOf
  have chosen (options : List String) : Keeps P (do return Value.text (← withChance (Chance.pick options))) :=
    .bind (keeps_withChance blind _) fun _ => keeps_pure _
  dsimp only
  split
  · refine .bind (keeps_liftM _) fun text => ?_
    split
    · exact chosen _
    · exact chosen _
  · exact chosen _

end
end

/-- A character from a template changes the history in no way, and of the services only what they were asked. -/
theorem keeps_fromTemplate {M : Muses → Prop} (asks : ∀ fields, Keeps M (enhance visitor fields))
    (history : History) (template : Fields) :
    Keeps (fun s => s.history = history ∧ M s.muses) (fromTemplate visitor template) := by
  have blind : ∀ (s : Casting) (chance : Chance), s.history = history ∧ M s.muses →
      ({ s with chance } : Casting).history = history ∧ M ({ s with chance } : Casting).muses := fun _ _ holds => holds
  have drawn {α : Type} (act : Act Chance α) := keeps_withChance blind act
  have option := keeps_optionOf blind template
  unfold fromTemplate
  iterate 2 refine .bind (drawn _) fun _ => ?_
  iterate 2 refine .bind (option _ _) fun _ => ?_
  refine .bind (keeps_eyeColor blind) fun _ => ?_
  iterate 10 refine .bind (option _ _) fun _ => ?_
  intro s holds
  rw [withMuses, runFrom_on]
  exact ⟨holds.1, asks _ s.muses holds.2⟩

theorem Ready.call (ready : Ready s) (call : Call) : Ready (call.after s) := by
  have asks (visitor : Visitor) (fields : Fields) : Keeps Muses.Worded (enhance visitor fields) :=
    keeps_enhance (fun _ _ _ worded => askChat_worded worded _ _ _)
      fun _ _ _ worded => askAuthor_worded worded _
  cases call with
  | generate visitor =>
    obtain ⟨events, outcome, t, runs, casts⟩ := cast_casts visitor maxDepth ready
    have left : (Call.generate visitor).after s = t := congrArg Prod.snd runs
    exact left ▸ (casts.accounts ready trivial).2
  | eyeColor => exact keeps_eyeColor (fun _ _ ready => ⟨ready.recalls, ready.worded⟩) s ready
  | fromTemplate visitor template =>
    obtain ⟨same, worded⟩ := keeps_fromTemplate (asks visitor) s.history template s ⟨rfl, ready.worded⟩
    exact ⟨same.symm ▸ ready.recalls, worded⟩
  | scenario => exact ⟨ready.recalls, ready.worded⟩

theorem Ready.after (ready : Ready s) (calls : List Call) : Ready (after calls s) := by
  induction calls generalizing s with
  | nil => exact ready
  | cons call calls ih => exact ih (ready.call call)

theorem ready_first (chance : Chance) {muses : Muses} (worded : muses.Worded) : Ready ⟨chance, muses, {}⟩ :=
  ⟨⟨rfl, Nat.zero_le 3, forall_mem_nil _⟩, worded⟩

/-! ### One candidate and one entry -/

/-- The first event of a casting is its first candidate. -/
theorem Casts.first (casts : Casts visitor (.whole (depth + 1)) s events outcome u) :
    ∃ candidate similar t more, (draft visitor).runFrom s = (.ok candidate, t) ∧
      t.history.isSimilar (.record candidate) standardThreshold = .ok similar ∧
      events = .drafted candidate similar :: more := by
  cases casts with
  | cast drafts replaces | fails drafts replaces => exact ⟨_, _, _, _, drafts, replaces.judged, rfl⟩

/-- A first candidate like no remembered character is the one that is given. -/
theorem Casts.unlike {candidate : Fields} {more : List Event}
    (casts : Casts visitor (.whole (depth + 1)) s (.drafted candidate false :: more) outcome u) :
    outcome = .ok candidate ∧ more = [.remembered candidate] := by
  generalize told : Event.drafted candidate false :: more = events at casts
  cases casts with
  | fails drafts replaces =>
    obtain ⟨same, -⟩ := cons.inj told
    cases same
    cases replaces
  | cast drafts replaces =>
    obtain ⟨same, rest⟩ := cons.inj told
    cases same
    cases replaces
    exact ⟨rfl, rest⟩

/-- **What a casting drafts and remembers**, after any earlier calls and whatever chance and the services bring: it
ends, and it gives a character unless every level down to the depth had a candidate similar to a remembered character.
The character is its last entry in the history, and it has drafted and remembered one character and five more for each
similar candidate. So it keeps to six candidates and one entry exactly if its first candidate is not similar. -/
theorem generate_single_iff_first_unlike (chance : Chance) (muses : Muses) (worded : muses.Worded) (earlier : List Call)
    (visitor : Visitor) :
    ∃ events outcome left, (generate visitor).runFrom (after earlier ⟨chance, muses, {}⟩) = (outcome, left) ∧
      Casts visitor (.whole maxDepth) (after earlier ⟨chance, muses, {}⟩) events outcome left ∧
      (∀ character, outcome = .ok character → Completed (after earlier ⟨chance, muses, {}⟩) events character left) ∧
      (∀ fault, outcome = .error fault → Exhausted maxDepth events fault) ∧
      ((∃ character, outcome = .ok character ∧ (candidates events).length ≤ 1 + maxAttempts ∧
          entries events = [character]) ↔
        ∃ candidate t, (draft visitor).runFrom (after earlier ⟨chance, muses, {}⟩) = (.ok candidate, t) ∧
          t.history.isSimilar (.record candidate) History.standardThreshold = .ok false) := by
  have ready := (ready_first chance worded).after earlier
  generalize after earlier ⟨chance, muses, {}⟩ = s at ready
  obtain ⟨events, outcome, left, runs, casts⟩ := cast_casts visitor maxDepth ready
  have accounts := (casts.accounts ready trivial).1
  have deep : maxDepth = 979 + 1 := rfl
  rw [deep] at casts accounts
  obtain ⟨candidate, similar, t, more, drafts, judged, rfl⟩ := casts.first
  refine ⟨_, outcome, left, runs, casts, ?_, ?_, ?_⟩
  · rintro character rfl
    exact accounts.1
  · rintro fault rfl
    exact accounts
  constructor
  · rintro ⟨character, rfl, -, single⟩
    have entered := accounts.1.entered
    rw [single, List.length_singleton, similarCount_drafted, maxAttempts] at entered
    have unlike : similar = false := by
      cases similar with
      | false => rfl
      | true => simp at entered
    exact ⟨candidate, t, drafts, unlike ▸ judged⟩
  · rintro ⟨candidate', t', drafts', judged'⟩
    obtain ⟨rfl, rfl⟩ : candidate = candidate' ∧ t = t' := by simpa using drafts.symm.trans drafts'
    obtain rfl : similar = false := by simpa using judged.symm.trans judged'
    obtain ⟨rfl, rfl⟩ := Casts.unlike casts
    exact ⟨candidate, rfl, Nat.le_add_right 1 maxAttempts, rfl⟩

/-- A chat service that gives one answer twice. -/
def repeatingMuses : Muses :=
  let answer := Reply.content (.text "childhood\n\nfamily\n\naspiration\n\nachievement")
  { chat := { key := some "k", replies := [answer, answer] } }

theorem repeatingMuses_worded : repeatingMuses.Worded :=
  ⟨by simp [repeatingMuses, Reply.IsWorded], by simp [repeatingMuses]⟩

/-- Asked twice, it makes the first candidate of the second casting similar to the first character. -/
theorem repeatingMuses_alike :
    (match (draft .anonymous).runFrom (after [.generate .anonymous] ⟨{}, repeatingMuses, {}⟩) with
      | (.ok candidate, t) => (t.history.isSimilar (.record candidate) standardThreshold).toOption
      | (.error _, _) => none) = some true := by
  decide +kernel

/-- With the four texts of the character before, a second casting has more than one entry, or none. -/
theorem second_casting_not_single :
    repeatingMuses.Worded ∧
      ∃ events outcome left,
        (generate .anonymous).runFrom (after [.generate .anonymous] ⟨{}, repeatingMuses, {}⟩) = (outcome, left) ∧
        Casts .anonymous (.whole maxDepth) (after [.generate .anonymous] ⟨{}, repeatingMuses, {}⟩) events outcome left ∧
        ¬ ∃ character, outcome = .ok character ∧ (candidates events).length ≤ 1 + maxAttempts ∧
          entries events = [character] := by
  obtain ⟨events, outcome, left, runs, casts, -, -, single⟩ :=
    generate_single_iff_first_unlike {} repeatingMuses repeatingMuses_worded [.generate .anonymous] .anonymous
  refine ⟨repeatingMuses_worded, events, outcome, left, runs, casts, fun one => ?_⟩
  obtain ⟨candidate, t, drafts, unlike⟩ := single.1 one
  have alike := repeatingMuses_alike
  simp [drafts, unlike] at alike

end Playhouse.Casting
