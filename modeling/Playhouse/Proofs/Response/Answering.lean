import Mathlib.Logic.Function.Iterate
import Playhouse.Proofs.Act
import Playhouse.Proofs.Data.Fields
import Playhouse.RolePlay.Engine

/-!
When a responder answers, and what. What it says depends on its templates only through the one that it finds for each
type, so a file says the same as its completion by the standard templates. A response that cannot be filled is answered
by an error response, whose own failure is answered in the same way; so with a table of texts an answer depends on the
messages that the error template is given, each of them the explanation of why the one before could not be told. Main
statement: the answer is a valid response of the right type exactly if the template of the type is not empty and, where
it cannot be filled, one of these messages can be told in time, however templates are filled and however deep answers
may go. An error template that does no more than quote the message can always be told.
-/
namespace Playhouse.Responder
open Template Nat

variable {given full : Fields} {r : Responder}

/-! ### Templates that are found -/

/-- A responder that has loaded a table, with the standard templates to fall back on. -/
structure Holds (r : Responder) (given : Fields) : Prop where
  templates : r.templates = .record given
  fallbacks : r.fallbacks = standards

/-- What is found for a key: the file's template, or else the standard one. -/
def found (given : Fields) (key : Key) : Value := ((given.get? key).or (standards.get? key)).getD .null

theorem Holds.template_of_key (holds : r.Holds given) {type : Value} {key : Key} (named : type.key? = some key) :
    r.template type =
      if (found given key).truthy then .ok (found given key) else .error (.unknownResponse type) := by
  have same : (given.get? key).getD ((standards.get? key).getD .null) = found given key := by
    unfold found
    cases given.get? key <;> rfl
  simp only [template, holds.templates, holds.fallbacks, Value.needRecord, valueUnder, named, bind, Except.bind,
    Option.bind, same]
  rfl

theorem Holds.template_congr {a b : Responder} (holds_a : a.Holds given) (holds_b : b.Holds full)
    (same : ∀ key, found given key = found full key) (type : Value) : a.template type = b.template type := by
  cases named : type.key? with
  | some key => rw [holds_a.template_of_key named, holds_b.template_of_key named, same]
  | none =>
    simp [template, holds_a.templates, holds_b.templates, Value.needRecord, valueUnder, named]

/-! ### Operations -/

/-- What a responder can be asked to put together. -/
inductive Operation where
  | respond (type data metadata : Value)
  | story (content choices : Value)
  | error (message details : Value)
  | success (message data : Value)
  | prompt (text options context : Value)
  | system (message level : Value)

def perform (responder : Responder) (now : Moment) : Operation → Except Fault Fields
  | .respond type data metadata => responder.respond now type data metadata
  | .story content choices => responder.story now content choices
  | .error message details => responder.error now message details
  | .success message data => responder.success now message data
  | .prompt text options context => responder.prompt now text options context
  | .system message level => responder.system now message level

section
variable {a b : Responder} (same : ∀ type, a.template type = b.template type) (fills : a.fill = b.fill)
include same fills

theorem respondWithin_congr (now : Moment) (fuel : Nat) (type data metadata : Value) :
    a.respondWithin now fuel type data metadata = b.respondWithin now fuel type data metadata := by
  induction fuel generalizing type data metadata with
  | zero => rfl
  | succ fuel ih =>
    rw [respondWithin, respondWithin, same]
    simp only [content, fills, ih]

/-- A responder is known by the templates that it finds, how it fills them, and how deep its answers may go. -/
theorem perform_congr (deep : a.depth = b.depth) (now : Moment) (operation : Operation) :
    a.perform now operation = b.perform now operation := by
  have answers (type data metadata : Value) : a.respond now type data metadata = b.respond now type data metadata := by
    rw [respond, respond, deep]
    exact respondWithin_congr same fills now b.depth type data metadata
  have answers_as (type : ResponseType) (data : Fields) (metadata : Value) :
      a.respondAs now type data metadata = b.respondAs now type data metadata := answers _ _ _
  cases operation with
  | respond type data metadata => exact answers type data metadata
  | story content choices => simp only [perform, story, answers_as]
  | error message details => simp only [perform, error, answers_as]
  | success message data => simp only [perform, success, answers_as]
  | prompt text options context => simp only [perform, prompt, answers_as]
  | system message level => simp only [perform, system, answers_as]

end

/-! ### Completion -/

/-- A table that has all that another has, and the standard templates under the other keys. -/
def Completes (full given : Fields) : Prop := ∀ key, full.get? key = (given.get? key).or (standards.get? key)

theorem Completes.found_eq (completes : Completes full given) (key : Key) : found given key = found full key := by
  unfold found
  rw [completes key]
  cases given.get? key <;> cases standards.get? key <;> rfl

theorem completes_standards : Completes standards [] := fun _ => rfl

/-- With a file, and only with one, there is a responder, which says what the completed file would say, however
templates are filled; and only then engines and assistants start. -/
theorem answers_as_completed_iff_file (file : Option Fields) (full : Fields) (completes : Completes full (file.getD []))
    (now : Moment) (chance : Chance) (prompts : Tale.Prompts) :
    ((∃ responder, load (file.map .record) = .ok responder ∧ ∀ fill depth now operation,
        { responder with fill, depth }.perform now operation =
          perform { templates := .record full, fill, depth } now operation) ↔ file.isSome) ∧
      ((∃ engine, Engine.start now chance (.ok (file.map .record)) (.ok prompts) = .ok engine) ↔ file.isSome) ∧
      ((∃ assistant, Assistant.start now chance (.ok (file.map .record)) (.ok prompts) = .ok assistant) ↔ file.isSome) ∧
      (file = none → load (file.map .record) = .error (.missingMember "ResponseHandler" "fallback_templates")) := by
  cases file with
  | none =>
    refine ⟨?_, ?_, ?_, fun _ => rfl⟩
    · simp [load, loadTemplates]
    · simp [Engine.start, load, loadTemplates]
    · simp [Assistant.start, load, loadTemplates]
  | some given =>
    refine ⟨?_, ?_, ?_, fun none_ => nomatch none_⟩
    · refine iff_of_true ⟨_, rfl, fun fill depth now operation => ?_⟩ rfl
      let loaded : Responder := { templates := .record given, fill, depth }
      let completed : Responder := { templates := .record full, fill, depth }
      have finds : ∀ type, loaded.template type = completed.template type :=
        Holds.template_congr ⟨rfl, rfl⟩ ⟨rfl, rfl⟩ completes.found_eq
      exact perform_congr finds rfl rfl now operation
    · exact iff_of_true ⟨_, rfl⟩ rfl
    · exact iff_of_true ⟨_, rfl⟩ rfl

/-- The standard templates complete an absent file as they complete an empty one, but only the empty one
has a responder, and with it an engine. -/
theorem standards_answer_for_empty_file_only :
    Completes standards [] ∧
      (¬∃ responder, load none = .ok responder ∧ ∀ fill depth now operation,
        { responder with fill, depth }.perform now operation =
          perform { templates := .record standards, fill, depth } now operation) ∧
      (∃ responder, load (some (.record [])) = .ok responder ∧ ∀ fill depth now operation,
        { responder with fill, depth }.perform now operation =
          perform { templates := .record standards, fill, depth } now operation) ∧
      (¬∃ engine, Engine.start ⟨0⟩ {} (.ok none) (.ok Tale.builtIn) = .ok engine) ∧
      ∃ engine, Engine.start ⟨0⟩ {} (.ok (some (.record []))) (.ok Tale.builtIn) = .ok engine := by
  have without := answers_as_completed_iff_file none standards completes_standards ⟨0⟩ {} Tale.builtIn
  have empty := answers_as_completed_iff_file (some []) standards completes_standards ⟨0⟩ {} Tale.builtIn
  exact ⟨completes_standards, fun loads => (nomatch without.1.1 loads), empty.1.2 rfl,
    fun starts => (nomatch without.2.1.1 starts), empty.2.1.2 rfl⟩

/-- Had the templates to fall back on been set first, an absent file would do as well as one that holds them. -/
example : loadTemplates (some standards) none = loadTemplates (some standards) (some (.record standards)) := rfl

/-! ### Tables of texts -/

/-- A table of templates: texts under names. -/
def IsTable (given : Fields) : Prop := ∀ field ∈ given, ∃ name text, field = (Key.text name, Value.text text)

/-- The template that a table leads to: its own, or else the standard one; empty if there is none. -/
def wording (given : Fields) (name : String) : String :=
  match found given (.text name) with
  | .text text => text
  | _ => ""

/-- The table or the standard templates have something to say for a type. -/
def Offered (given : Fields) (name : String) : Prop :=
  ∃ text, text ≠ "" ∧ (given.get? (.text name) = some (.text text) ∨ standards.get? (.text name) = some (.text text))

/-- A response as it is put together. -/
def response (now : Moment) (type text : String) (metadata : Value) : Fields :=
  withField "metadata" metadata [("type", .text type), ("content", .text text), ("timestamp", .text now.iso)]

/-- An error template with a message in it. -/
def told (r : Responder) (template message : String) : Except Fault String :=
  r.fill template [(.text "message", .text message)]

/-- The message after one: why it could not be told. -/
def retold (r : Responder) (template message : String) : String :=
  match r.told template message with
  | .ok _ => message
  | .error fault => explanation fault

/-- The error response with a message. -/
abbrev complain (r : Responder) (now : Moment) (fuel : Nat) (message : String) : Except Fault Fields :=
  r.respondWithin now fuel (.text "error") (.record [(.text "message", .text message)]) .null

/-- Before the answers go too deep, one of the messages that follow from a first one can be told. -/
def Settles (r : Responder) (template message : String) : Prop :=
  ∃ k, k + 1 < r.depth ∧ ∃ text, r.told template ((r.retold template)^[k] message) = .ok text

variable {name form message : String} {now : Moment}

/-! ### The template in use -/

theorem IsTable.text (table : IsTable given) {key : Key} {value : Value} (held : given.get? key = some value) :
    ∃ text, value = .text text := by
  obtain ⟨field, here, rfl⟩ := Option.map_eq_some_iff.1 held
  obtain ⟨name, text, rfl⟩ := table field (List.mem_of_find?_eq_some here)
  exact ⟨text, rfl⟩

theorem isTable_standards : IsTable standards := by
  intro field member
  obtain ⟨type, -, rfl⟩ := List.mem_map.1 member
  exact ⟨_, _, rfl⟩

theorem found_of_table (table : IsTable given) (key : Key) :
    found given key = .null ∨ ∃ text, found given key = .text text := by
  unfold found
  cases held : given.get? key with
  | some value =>
    obtain ⟨text, rfl⟩ := table.text held
    exact .inr ⟨text, rfl⟩
  | none =>
    cases standard : standards.get? key with
    | some value =>
      obtain ⟨text, rfl⟩ := isTable_standards.text standard
      exact .inr ⟨text, rfl⟩
    | none => exact .inl rfl

theorem Holds.template_wording (holds : r.Holds given) (table : IsTable given) (name : String) :
    r.template (.text name) =
      if wording given name = "" then .error (.unknownResponse (.text name)) else .ok (.text (wording given name)) := by
  rw [holds.template_of_key rfl, wording]
  rcases found_of_table table (.text name) with none_ | ⟨text, some_⟩
  · simp [none_, Value.truthy]
  · by_cases empty : text = "" <;> simp [some_, Value.truthy, empty]

/-- Where there is something to say, only an empty template of the table's own is in the way. -/
theorem Offered.wording_eq_empty_iff (offered : Offered given name) (table : IsTable given) :
    wording given name = "" ↔ given.get? (.text name) = some (.text "") := by
  obtain ⟨text, some_, own | standard⟩ := offered
  · simp [wording, found, own]
  · cases held : given.get? (.text name) with
    | none => simp [wording, found, held, standard, some_]
    | some value =>
      obtain ⟨own, rfl⟩ := table.text held
      simp [wording, found, held]

/-! ### Answers -/

theorem isValid_response (now : Moment) (type text : String) (metadata : Value) :
    Response.isValid (.record (response now type text metadata)) = .ok true := by
  unfold response withField
  split <;> rfl

theorem get?_type_response (now : Moment) (type text : String) (metadata : Value) :
    (response now type text metadata).get? (.text "type") = some (.text type) := by
  unfold response withField
  split
  · exact Fields.get?_set_of_ne (by decide) metadata _
  · rfl

theorem Holds.respondWithin_succ (holds : r.Holds given) (table : IsTable given) (now : Moment) (fuel : Nat)
    (name : String) (data : Fields) (metadata : Value) :
    r.respondWithin now (fuel + 1) (.text name) (.record data) metadata =
      if wording given name = "" then .error (.unknownResponse (.text name))
      else match r.fill (wording given name) data with
        | .ok text => .ok (response now name text metadata)
        | .error fault => r.complain now fuel (explanation fault) := by
  rw [respondWithin, holds.template_wording table]
  split
  · rfl
  · simp only [content, Value.needText, bind, Except.bind]
    cases r.fill (wording given name) data <;> rfl

section
variable (holds : r.Holds given) (table : IsTable given) (worded : wording given "error" ≠ "")
include holds table worded

/-- The error response of a message that can be told is given, and one that cannot be told leads to the
next. -/
theorem respondWithin_error_succ (fuel : Nat) (message : String) :
    r.complain now (fuel + 1) message =
      match r.told (wording given "error") message with
      | .ok text => .ok (response now "error" text .null)
      | .error _ => r.complain now fuel (r.retold (wording given "error") message) := by
  rw [complain, holds.respondWithin_succ table, if_neg worded, ← told, retold]
  cases r.told (wording given "error") message <;> rfl

/-- A message that can be told in time is. -/
theorem respondWithin_error_of_told {fuel k : Nat} (in_time : k < fuel) {text : String}
    (tells : r.told (wording given "error") ((r.retold (wording given "error"))^[k] message) = .ok text) :
    ∃ text, r.complain now fuel message = .ok (response now "error" text .null) := by
  induction k generalizing fuel message with
  | zero =>
    obtain ⟨fuel, rfl⟩ := exists_eq_succ_of_ne_zero (Nat.ne_zero_of_lt in_time)
    rw [respondWithin_error_succ holds table worded, show r.told _ message = .ok text from tells]
    exact ⟨text, rfl⟩
  | succ k ih =>
    obtain ⟨fuel, rfl⟩ := exists_eq_succ_of_ne_zero (Nat.ne_zero_of_lt in_time)
    rw [respondWithin_error_succ holds table worded]
    cases r.told (wording given "error") message with
    | ok text => exact ⟨text, rfl⟩
    | error fault => exact ih (lt_of_succ_lt_succ in_time) tells

/-- Messages none of which can be told in time go on too long. -/
theorem respondWithin_error_of_untold {fuel : Nat} (never : ∀ k < fuel, ∀ text,
      r.told (wording given "error") ((r.retold (wording given "error"))^[k] message) ≠ .ok text) :
    r.complain now fuel message = .error .tooDeep := by
  induction fuel generalizing message with
  | zero => rfl
  | succ fuel ih =>
    rw [respondWithin_error_succ holds table worded]
    cases tells : r.told (wording given "error") message with
    | ok text => exact absurd tells (never 0 (succ_pos fuel) text)
    | error fault => exact ih fun k in_time => never (k + 1) (succ_lt_succ in_time)

end

/-! ### Error templates that can always be told -/

/-- Whether a template is some text around the message, as it is or in a quoted form. -/
def quotes (template : String) : Bool :=
  template != "" && (pieces template.toList).all fun
    | .literal _ => true
    | .field field => field.name == "message".toList && field.layout == [] &&
        [none, some 's', some 'r', some 'a'].contains field.conversion
    | .broken _ => false

theorem quotes_standard : quotes ResponseType.error.standard = true := by decide

theorem ne_empty_of_quotes (plain : quotes form = true) : form ≠ "" := by
  rintro rfl
  cases plain

/-- A template is filled if each of its fields is found and needs no layout. -/
theorem exists_fillWithin {arguments : Fields} {text : List Char} (depth : Nat)
    (each : ∀ piece ∈ pieces text, (∃ plain, piece = .literal plain) ∨
      ∃ field subject, piece = .field field ∧ field.layout = [] ∧
        (find arguments field.name >>= (convert · field.conversion)) = .ok subject) :
    ∃ chars, fillWithin arguments (depth + 1) text = .ok chars := by
  have joins {filled : Except Fault (List (List Char))} (done : ∃ parts, filled = .ok parts) :
      ∃ chars, (filled >>= fun parts => pure parts.flatten) = .ok chars := by
    obtain ⟨parts, rfl⟩ := done
    exact ⟨parts.flatten, rfl⟩
  rw [fillWithin]
  refine joins (exists_mapM fun piece member => ?_)
  rcases each piece member with ⟨plain, rfl⟩ | ⟨field, subject, rfl, unlaid, converted⟩
  · exact ⟨plain, rfl⟩
  · refine ⟨subject.asText.toList, ?_⟩
    dsimp only
    rw [← bind_assoc, converted, unlaid]
    rfl

theorem exists_told_of_quotes (usual : r.fill = Template.fill) (plain : quotes form = true) (message : String) :
    ∃ text, r.told form message = .ok text := by
  simp only [quotes, Bool.and_eq_true, List.all_eq_true] at plain
  obtain ⟨chars, filled⟩ : ∃ chars, fillWithin [(.text "message", .text message)] 2 form.toList = .ok chars := by
    refine exists_fillWithin 1 fun piece member => ?_
    have quoted := plain.2 piece member
    cases piece with
    | literal text => exact .inl ⟨text, rfl⟩
    | broken problem => cases quoted
    | field field =>
      simp only [Bool.and_eq_true, beq_iff_eq, List.contains_iff_mem] at quoted
      obtain ⟨⟨named, unlaid⟩, converted⟩ := quoted
      have finds : find [(.text "message", .text message)] field.name = .ok (.value (.text message)) := by
        rw [named]
        rfl
      have marks : field.conversion = none ∨ field.conversion = some 's' ∨ field.conversion = some 'r' ∨
          field.conversion = some 'a' := by simpa using converted
      refine .inr ⟨field, ?_⟩
      rw [finds]
      rcases marks with mark | mark | mark | mark
      all_goals
        rw [mark]
        exact ⟨_, rfl, unlaid, rfl⟩
  exact ⟨String.ofList chars, by rw [told, usual, Template.fill, filled]; rfl⟩

/-! ### Valid answers -/

/-- What it takes for a good answer: the template in use is not an empty one of the table's own, and where
it cannot be filled, the error template says why in the end. -/
def Ready (r : Responder) (given : Fields) (name : String) (data : Fields) : Prop :=
  given.get? (.text name) ≠ some (.text "") ∧ ∀ fault, r.fill (wording given name) data = .error fault →
      wording given "error" ≠ "" ∧ r.Settles (wording given "error") (explanation fault)

/-- The type of a good answer. -/
def typeOf (r : Responder) (given : Fields) (name : String) (data : Fields) : String :=
  match r.fill (wording given name) data with
  | .ok _ => name
  | .error _ => "error"

/-- What goes wrong otherwise: a type without words, or errors without end. -/
def failure (given : Fields) (name : String) : Fault :=
  if wording given name = "" then .unknownResponse (.text name)
  else if wording given "error" = "" then .unknownResponse (.text "error")
  else .tooDeep

theorem Holds.respond_cases (holds : r.Holds given) (deep : 2 ≤ r.depth) (table : IsTable given)
    (offered : Offered given name) (now : Moment) (data : Fields) (metadata : Value) :
    (r.Ready given name data ∧ ∃ text extra, r.respond now (.text name) (.record data) metadata =
        .ok (response now (r.typeOf given name data) text extra)) ∨
      (¬r.Ready given name data ∧
        r.respond now (.text name) (.record data) metadata = .error (failure given name)) := by
  obtain ⟨depth, measured⟩ : ∃ depth, r.depth = depth + 2 := ⟨r.depth - 2, by omega⟩
  have first := holds.respondWithin_succ table now (depth + 1) name data metadata
  rw [← measured, ← respond] at first
  by_cases empty : wording given name = ""
  · rw [if_pos empty] at first
    refine .inr ⟨fun ready => ready.1 ((offered.wording_eq_empty_iff table).1 empty), ?_⟩
    rw [first, failure, if_pos empty]
  have own := mt (offered.wording_eq_empty_iff table).2 empty
  rw [if_neg empty] at first
  cases filled : r.fill (wording given name) data with
  | ok text =>
    rw [filled] at first
    refine .inl ⟨⟨own, fun fault fails => ?_⟩, text, metadata, ?_⟩
    · rw [filled] at fails
      cases fails
    · rw [first, typeOf, filled]
  | error fault =>
    rw [filled] at first
    by_cases unworded : wording given "error" = ""
    · have second : r.complain now (depth + 1) (explanation fault) = _ :=
        holds.respondWithin_succ table now depth "error" _ .null
      rw [if_pos unworded] at second
      refine .inr ⟨fun ready => (ready.2 fault filled).1 unworded, ?_⟩
      rw [failure, if_neg empty, if_pos unworded]
      exact first.trans second
    by_cases settles : r.Settles (wording given "error") (explanation fault)
    · refine .inl ⟨⟨own, fun other fails => ?_⟩, ?_⟩
      · rw [filled] at fails
        cases fails
        exact ⟨unworded, settles⟩
      · obtain ⟨k, in_time, text, tells⟩ := settles
        have short : k < depth + 1 := by omega
        obtain ⟨text, answers⟩ := respondWithin_error_of_told holds table unworded short tells
        refine ⟨text, .null, ?_⟩
        rw [typeOf, filled]
        exact first.trans answers
    · refine .inr ⟨fun ready => settles (ready.2 fault filled).2, ?_⟩
      rw [failure, if_neg empty, if_neg unworded]
      refine first.trans ?_
      refine respondWithin_error_of_untold holds table unworded fun k in_time text tells => ?_
      exact settles ⟨k, by omega, text, tells⟩

/-- For every table of templates, every way of filling them and every depth of answers, and for every type with a
template, the answer is a valid response of the right type exactly if the table is ready for it; otherwise there is a
fault. With the usual way of filling, a table whose error template only quotes the message is ready for every type that
it does not leave empty. -/
theorem respond_valid_iff_ready (given : Fields) (table : IsTable given)
    (fill : String → Fields → Except Fault String) (depth : Nat) (deep : 2 ≤ depth) (name : String)
    (offered : Offered given name) (now : Moment) (data : Fields) (metadata : Value) :
    let responder : Responder := { templates := .record given, fill, depth }
    ((∃ fields, responder.respond now (.text name) (.record data) metadata = .ok fields ∧
        Response.isValid (.record fields) = .ok true ∧
        fields.get? (.text "type") = some (.text (responder.typeOf given name data))) ↔
      responder.Ready given name data) ∧
      (¬responder.Ready given name data →
        responder.respond now (.text name) (.record data) metadata = .error (failure given name)) ∧
      (fill = Template.fill → quotes (wording given "error") = true → given.get? (.text name) ≠ some (.text "") →
        responder.Ready given name data) := by
  intro responder
  have holds : responder.Holds given := ⟨rfl, rfl⟩
  have cases := holds.respond_cases deep table offered now data metadata
  refine ⟨⟨?_, fun ready => ?_⟩, fun unready => ?_, fun usual plain own => ⟨own, fun fault _ => ?_⟩⟩
  · rintro ⟨fields, answers, -⟩
    rcases cases with ⟨ready, -⟩ | ⟨-, fails⟩
    · exact ready
    · rw [answers] at fails
      cases fails
  · rcases cases with ⟨-, text, extra, answers⟩ | ⟨unready, -⟩
    · exact ⟨_, answers, isValid_response now _ text extra, get?_type_response now _ text extra⟩
    · exact absurd ready unready
  · rcases cases with ⟨ready, -⟩ | ⟨-, fails⟩
    · exact absurd ready unready
    · exact fails
  · exact ⟨ne_empty_of_quotes plain, 0, deep, exists_told_of_quotes usual plain _⟩

/-- With an error template that has a field no message has, every failure goes on without end, while the standard
templates say why. -/
theorem unready_error_template :
    let given : Fields := [(.text "error", .text "\x7bnope\x7d")]
    let responder : Responder := { templates := .record given }
    IsTable given ∧ Offered given "success" ∧ ¬responder.Ready given "success" [] ∧
      responder.respond ⟨0⟩ (.text "success") (.record []) .null = .error .tooDeep ∧
      ∃ fields, respond { templates := .record [] } ⟨0⟩ (.text "success") (.record []) .null = .ok fields ∧
        Response.isValid (.record fields) = .ok true ∧ fields.get? (.text "type") = some (.text "error") := by
  intro given responder
  have table : IsTable given := by
    intro field member
    rw [List.mem_singleton.1 member]
    exact ⟨_, _, rfl⟩
  have offered (given : Fields) : Offered given "success" := ⟨"\x7bmessage\x7d", by decide, .inr rfl⟩
  have unready : ¬responder.Ready given "success" [] := by
    intro ready
    have worded : wording given "success" = "\x7bmessage\x7d" ∧ wording given "error" = "\x7bnope\x7d" := ⟨rfl, rfl⟩
    rw [Ready, worded.1, worded.2] at ready
    obtain ⟨-, k, -, text, tells⟩ := ready.2 (.missingKey (.text "message")) rfl
    cases tells
  have broken :=
    respond_valid_iff_ready given table Template.fill 490 (by decide) "success" (offered _) ⟨0⟩ [] .null
  have standard :=
    respond_valid_iff_ready [] nofun Template.fill 490 (by decide) "success" (offered _) ⟨0⟩ [] .null
  exact ⟨table, offered _, unready, broken.2.1 unready, standard.1.2 (standard.2.2 rfl quotes_standard nofun)⟩

end Playhouse.Responder
