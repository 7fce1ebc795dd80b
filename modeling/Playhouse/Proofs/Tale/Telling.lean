import Playhouse.Proofs.Data.Fields
import Playhouse.Proofs.Act
import Playhouse.Tale.Basic

/-!
What telling does to a tale. A choice with a consequence moves the tale to a segment made from that
consequence's template; one without leaves the tale where it is and is answered by a note. Whether
there is a segment therefore depends on the table of consequences and on the templates alone.
-/
namespace Playhouse.Tale
open Act Value Except

variable {consequence : Consequence} {options : List (String × List String)} {outcome : Except Fault Value × Tale}
  {context : Value} {prompts : Prompts}

/-- A template that gives a text whatever chance brings. -/
def Composes (source : Value) : Prop :=
  ∀ chance, ∃ text, ((compose source).runFrom chance).1 = .ok text

/-- Prompts whose two templates always give a text. -/
def Prompts.Compose (prompts : Prompts) : Prop := Composes prompts.intro ∧ Composes prompts.conflict

/-! ### Templates -/

/-- The fields of a template, each with the option picked for it. -/
def filledWith (options : List (String × List String)) (picked : List String) : Fields :=
  (options.zip picked).map fun ((key, _), option) => (.text key, .text option)

/-- One option for each field of a template. -/
def pickEach (fields : Fields) : Act Chance Fields :=
  fields.mapM fun (key, options) => do return (key, ← options.pick)

theorem compose_eq (source : Value) : compose source = (do
    let template ← liftM (source.entry "template")
    let blanks ← liftM (source.entry "variables")
    let filled ← pickEach (← liftM (blanks.needRecord "items"))
    let text ← liftM (template.needText "format")
    liftM (Template.fill text filled)) := rfl

theorem pickEach_run (some_ : ∀ field ∈ options, field.2 ≠ []) (chance : Chance) :
    ∃ (picked : List String) (after : Chance), picked.length = options.length ∧
      (pickEach (options.map fun (key, texts) => (.text key, .ofTexts texts))).runFrom chance =
        (.ok (filledWith options picked), after) := by
  induction options generalizing chance with
  | nil => exact ⟨[], chance, rfl, rfl⟩
  | cons field rest ih =>
    obtain ⟨key, texts⟩ := field
    obtain ⟨option, -, first⟩ := pick_texts (some_ (key, texts) (by simp)) chance
    obtain ⟨picked, after, length, others⟩ :=
      ih (fun field member => some_ field (by simp [member])) chance.next.2
    refine ⟨option :: picked, after, by simp [length], ?_⟩
    simp only [pickEach] at others ⊢
    simp only [List.map_cons, List.mapM_cons, runFrom_bind, first, runFrom_pure, others]
    rfl

variable {text name : String} {tale after : Tale}

/-- A template composes as soon as each field has options and any of them fill it. -/
theorem composes_templateOf (some_ : ∀ field ∈ options, field.2 ≠ [])
    (fills : ∀ picked : List String, picked.length = options.length → ∃ filled, Template.fill text (filledWith options
      picked) = .ok filled) : Composes (templateOf text options) := by
  intro chance
  obtain ⟨picked, after, length, chosen⟩ := pickEach_run some_ chance
  obtain ⟨filled, done⟩ := fills picked length
  refine ⟨filled, ?_⟩
  simp [compose_eq, templateOf, entry, need, needRecord, needText, chosen, done]

/-- The built-in consequences compose, and the conflict does by assumption. -/
theorem composes_consequence (compose_ : prompts.Compose)
    (found : (consequences prompts).lookup name = some consequence) : Composes consequence.template := by
  have member : (name, consequence) ∈ consequences prompts := by
    obtain ⟨before, after, split, -⟩ := List.lookup_eq_some_iff.mp found
    simp [split]
  simp only [consequences, List.mem_cons, Prod.mk.injEq, List.not_mem_nil, or_false] at member
  rcases member with ⟨-, rfl⟩ | ⟨-, rfl⟩ | ⟨-, rfl⟩ | ⟨-, rfl⟩ | ⟨-, rfl⟩ | ⟨-, rfl⟩ | ⟨-, rfl⟩
  · exact compose_.1
  · exact compose_.2
  all_goals
    refine composes_templateOf (by decide) fun picked length => ?_
    obtain ⟨option, rfl⟩ := List.length_eq_one_iff.mp length
    exact ⟨_, rfl⟩

theorem builtIn_compose : builtIn.Compose := by
  constructor
  all_goals
    refine composes_templateOf (by decide) fun picked length => ?_
    match picked, length with
    | [first, second], _ => exact ⟨_, rfl⟩

/-! ### Segments -/

section
variable (begun : tale.current.truthy = true)
include begun

theorem next_begun (named : name ≠ "") :
    (next (.record [("choice", .text name)])).runFrom tale = (advance (.text name)).runFrom tale := by
  have given : (text name).truthy = true := by simpa [truthy] using named
  simp [next, begun, given, lookup, needRecord]

/-- A choice with a consequence that composes moves the tale to its segment. -/
theorem tell_consequence {after : Chance} (named : name ≠ "")
    (found : (consequences tale.prompts).lookup name = some consequence)
    (composed : (compose consequence.template).runFrom tale.chance = (.ok text, after)) :
    (tell (.record [("choice", .text name)])).runFrom tale = (.ok (segment (.text name) text consequence.choices),
        { tale with current := segment (.text name) text consequence.choices, chance := after }) := by
  simp [tell, next_begun begun named, advance, inTable, found, composing, composed, moveTo]

/-- A choice without a consequence is answered by a note, and the tale stays. -/
theorem tell_unknown (named : name ≠ "") (unknown : (consequences tale.prompts).lookup name = none) :
    (tell (.record [("choice", .text name)])).runFrom tale =
      (.ok (.record [("error", .text ("Failed to generate story segment: " ++
        (Fault.invalidChoice (.text name)).message)), ("choices", .list [])]), tale) := by
  simp [tell, next_begun begun named, advance, inTable, unknown]

/-- A tale that has begun has nothing to tell without a choice, and stays. -/
theorem tell_choiceless :
    (tell .empty).runFrom tale =
      (.ok (.record [("error", .text ("Failed to generate story segment: " ++ Fault.noChoice.message)),
        ("choices", .list [])]), tale) := by
  have unchosen : empty.lookup "choice" .null = .ok .null := rfl
  have untrue : truthy .null = false := rfl
  simp [tell, next, begun, unchosen, untrue]

end
/-! ### What telling can do -/

/-- What a tale may reach in a context: the introduction if it has not begun, and otherwise what the
given choice leads to. -/
def Leads (tale : Tale) (context node : Value) (choices : List Choice) : Prop :=
  if tale.current.truthy then
    ∃ name template, node = .text name ∧ context.lookup "choice" .null = .ok node ∧
      (consequences tale.prompts).lookup name = some ⟨template, choices⟩
  else node = .text "intro" ∧ choices = openingChoices

/-- How a tale goes on: it stays, up to the chance used, or it moves to the segment that is given. -/
inductive Moves (tale : Tale) (context : Value) : Except Fault Value × Tale → Prop
  | stays (fault : Fault) (chance : Chance) : Moves tale context (.error fault, { tale with chance })
  | reaches {node : Value} {choices : List Choice} (leads : tale.Leads context node choices) (text : String)
      (chance : Chance) : Moves tale context
        (.ok (segment node text choices), { tale with current := segment node text choices, chance })

-- Filling a template is the last step that can fail, and of the tale it uses only the chance.
private theorem composing_then_moveTo {node : Value} {choices : List Choice}
    (leads : tale.Leads context node choices) (source : Value) :
    Moves tale context ((composing source >>= fun text => moveTo node text choices).runFrom tale) := by
  rw [runFrom_bind]
  rcases told : (composing source).runFrom tale with ⟨_ | text, after⟩
  all_goals
    have frame : after = { tale with chance := ((compose source).runFrom tale.chance).2 } := by
      simpa [composing] using congrArg Prod.snd told.symm
    subst frame
  · exact .stays _ _
  · exact .reaches leads text _

theorem inTable_eq_some {α : Type} {table : List (String × α)} {key : Value} {entry : α}
    (found : inTable table key = .ok (some entry)) : ∃ name, key = .text name ∧ table.lookup name = some entry := by
  unfold inTable at found
  split at found
  · exact ⟨_, rfl, ok.inj found⟩
  · split at found <;> cases found

theorem next_moves (context : Value) (tale : Tale) : Moves tale context ((next context).runFrom tale) := by
  by_cases begun : tale.current.truthy = true
  · rcases given : context.lookup "choice" .null with fault | choice
    · simpa [next, begun, given] using Moves.stays fault tale.chance
    by_cases chosen : choice.truthy = true
    · rcases found : inTable (consequences tale.prompts) choice with fault | _ | consequence
      · simpa [next, advance, begun, given, chosen, found] using Moves.stays fault tale.chance
      · simpa [next, advance, begun, given, chosen, found] using
          Moves.stays (.invalidChoice choice) tale.chance
      · have leads : tale.Leads context choice consequence.choices := by
          obtain ⟨name, named, found⟩ := inTable_eq_some found
          simpa only [Leads, begun, if_true] using ⟨name, consequence.template, named, given, found⟩
        simpa [next, advance, begun, given, chosen, found] using
          composing_then_moveTo leads consequence.template
    · simpa [next, begun, given, chosen] using Moves.stays .noChoice tale.chance
  · have leads : tale.Leads context (.text "intro") openingChoices := by simp [Leads, begun]
    simpa [next, begun] using composing_then_moveTo leads tale.prompts.intro

theorem tell_answers (context : Value) (tale : Tale) :
    ∃ answer, (tell context).runFrom tale = (.ok answer, ((next context).runFrom tale).2) := by
  simp only [tell, runFrom_bind, runFrom_outcome]
  cases ((next context).runFrom tale).1 <;> exact ⟨_, rfl⟩

/-- The reply: the segment that was reached, or a note of why there is none. -/
def reply : Except Fault Value → Value
  | .ok reached => reached
  | .error fault =>
    .record [("error", .text ("Failed to generate story segment: " ++ fault.message)), ("choices", .list [])]

theorem tell_moves (context : Value) (tale : Tale) :
    ∃ outcome, Moves tale context (outcome, ((tell context).runFrom tale).2) ∧
      ((tell context).runFrom tale).1 = .ok (reply outcome) := by
  have moves := next_moves context tale
  simp only [tell, runFrom_bind, runFrom_outcome]
  generalize (next context).runFrom tale = ran at moves ⊢
  obtain ⟨_ | reached, later⟩ := ran
  · exact ⟨.error _, moves, rfl⟩
  · exact ⟨.ok reached, moves, rfl⟩

theorem Moves.prompts_eq (moves : Moves tale context outcome) : outcome.2.prompts = tale.prompts := by
  cases moves <;> rfl

theorem Moves.begun_iff
    (moves : Moves tale context outcome) : outcome.2.current.truthy = true ↔
      tale.current.truthy = true ∨ ∃ reached, outcome.1 = .ok reached := by
  cases moves with
  | stays => simp
  | reaches => exact iff_of_true rfl (.inr ⟨_, rfl⟩)

/-- The first telling is the introduction, whatever the choice. -/
theorem tell_introduction {after : Chance} (fresh : ¬ tale.current.truthy = true)
    (composed : (compose tale.prompts.intro).runFrom tale.chance = (.ok text, after)) (context : Value) :
    (tell context).runFrom tale = (.ok (segment (.text "intro") text openingChoices),
      { tale with current := segment (.text "intro") text openingChoices, chance := after }) := by
  simp [tell, next, fresh, composing, composed, moveTo]

theorem tell_begins (compose_ : tale.prompts.Compose) (context : Value) :
    ((tell context).runFrom tale).2.current.truthy = true := by
  by_cases begun : tale.current.truthy = true
  · obtain ⟨_, moves, -⟩ := tell_moves context tale
    exact moves.begun_iff.2 (.inl begun)
  · obtain ⟨text, composed⟩ := compose_.1 tale.chance
    rw [tell_introduction begun (Prod.ext composed rfl) context]
    rfl

/-- The start is told as the introduction or as its own consequence, and offers the opening choices. -/
theorem tell_start {answer : Value} (compose_ : tale.prompts.Compose)
    (told : (tell (.record [("choice", .text "start")])).runFrom tale = (.ok answer, after)) :
    ∃ node text, answer = segment node text openingChoices := by
  obtain ⟨text, composed⟩ := compose_.1 tale.chance
  by_cases begun : tale.current.truthy = true
  · have found : (consequences tale.prompts).lookup "start" = some ⟨tale.prompts.intro, openingChoices⟩ := rfl
    rw [tell_consequence begun (by decide) found (Prod.ext composed rfl)] at told
    exact ⟨_, text, (ok.inj (congrArg Prod.fst told)).symm⟩
  · rw [tell_introduction begun (Prod.ext composed rfl)] at told
    exact ⟨_, text, (ok.inj (congrArg Prod.fst told)).symm⟩

theorem shipped_compose : shipped.Compose := by
  constructor
  all_goals
    refine composes_templateOf (by decide) fun picked length => ?_
    match picked, length with
    | [first, second], _ => exact ⟨_, rfl⟩

/-! ### Telling again and again -/

/-- The tale after telling in one context after the other. -/
def afterAll (tale : Tale) (contexts : List Value) : Tale :=
  contexts.foldl (fun tale context => ((tell context).runFrom tale).2) tale

/-- The replies given on the way. -/
def replies (tale : Tale) : List Value → List (Except Fault Value)
  | [] => []
  | context :: rest => ((tell context).runFrom tale).1 :: replies ((tell context).runFrom tale).2 rest

/-- Some reply on the way is a segment. -/
def HasTold (tale : Tale) (contexts : List Value) : Prop :=
  ∃ node text choices, .ok (segment node text choices) ∈ tale.replies contexts

theorem afterAll_prompts (tale : Tale) (contexts : List Value) : (tale.afterAll contexts).prompts = tale.prompts := by
  induction contexts generalizing tale with
  | nil => rfl
  | cons context rest ih =>
    obtain ⟨_, moves, -⟩ := tell_moves context tale
    exact (ih _).trans moves.prompts_eq

/-- A tale has begun when some segment of it has been told. -/
theorem begun_afterAll_iff (tale : Tale) (contexts : List Value) :
    (tale.afterAll contexts).current.truthy = true ↔ tale.current.truthy = true ∨ tale.HasTold contexts := by
  induction contexts generalizing tale with
  | nil => simp [afterAll, HasTold, replies]
  | cons context rest ih =>
    obtain ⟨outcome, moves, answered⟩ := tell_moves context tale
    have told : (∃ reached, outcome = .ok reached) ↔
        ∃ node text choices, ok (segment node text choices) = ((tell context).runFrom tale).1 := by
      rw [answered]
      generalize ((tell context).runFrom tale).2 = later at moves
      cases moves <;> simp [reply, segment]
    rw [afterAll, List.foldl_cons, ← afterAll, ih, moves.begun_iff, told]
    simp only [HasTold, replies, List.mem_cons, exists_or, or_assoc]

theorem choices_length
    (found : (consequences prompts).lookup name = some consequence) : consequence.choices.length = 3 := by
  obtain ⟨before, after, split, -⟩ := List.lookup_eq_some_iff.mp found
  have three : ∀ entry ∈ consequences prompts, entry.2.choices.length = 3 := by simp [consequences, openingChoices]
  exact three (name, consequence) (by simp [split])

/-- Whatever has been told before, telling answers. Either the answer notes an error and the tale stays where it
is; or it is the segment that the tale is then at: the introduction as long as no segment was told, and afterwards
the one of the given choice, each with the three choices listed for it. -/
theorem tell_after_contexts (prompts : Prompts) (chance : Chance) (contexts : List Value) (context : Value) :
    let start : Tale := { prompts, chance }
    let tale := start.afterAll contexts
    let told := (tell context).runFrom tale
    ∃ answer, told.1 = .ok answer ∧
      ((answer.field? "error").isSome = true ∧ told.2.current = tale.current ∨
        answer.field? "error" = none ∧ told.2.current = answer ∧
        ∃ node text choices, answer = segment node text choices ∧ choices.length = 3 ∧
          (¬start.HasTold contexts → node = .text "intro" ∧ choices = openingChoices) ∧
          (start.HasTold contexts → ∃ name template, node = .text name ∧
            context.lookup "choice" .null = .ok node ∧
            (consequences prompts).lookup name = some ⟨template, choices⟩)) := by
  intro start tale told
  have begun : tale.current.truthy = true ↔ start.HasTold contexts :=
    (begun_afterAll_iff start contexts).trans (or_iff_right Bool.false_ne_true)
  obtain ⟨outcome, moves, answered⟩ := tell_moves context tale
  refine ⟨reply outcome, answered, ?_⟩
  change Moves tale context (outcome, told.2) at moves
  generalize told.2 = later at moves ⊢
  cases moves with
  | stays fault chance => exact .inl ⟨rfl, rfl⟩
  | reaches leads text chance =>
    refine .inr ⟨rfl, rfl, _, text, _, rfl, ?_⟩
    rw [Leads, show tale.prompts = prompts from afterAll_prompts start contexts] at leads
    split at leads
    next truthy =>
      obtain ⟨name, template, named, given, found⟩ := leads
      exact ⟨choices_length found, fun untold => absurd (begun.1 truthy) untold,
        fun _ => ⟨name, template, named, given, found⟩⟩
    next untruthy =>
      obtain ⟨rfl, rfl⟩ := leads
      exact ⟨rfl, fun _ => ⟨rfl, rfl⟩, fun told => absurd (begun.2 told) untruthy⟩

end Playhouse.Tale
