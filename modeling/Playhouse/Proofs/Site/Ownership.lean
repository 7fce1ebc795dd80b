import Playhouse.Proofs.Site.Views
import Mathlib.Data.List.Forall2

/-!
Access of members. Whatever a member requests, and however it ends, the pages are given no personal rows but the
member's own, the tables change in the member's own rows only, and no text is generated from a character or a
template of another account. Making an account is the one request that adds a row of another owner.
-/
namespace Playhouse.Site
open Act Relation List

variable {model : Model} {store : Store}

variable {before : Store} {request : Request} {v w : Visit} {host : Host} {account : Fields}

/-! ### What an account may change in the tables -/

/-- Of the accounts a member changes no row but the own one; in every other table what was there stays, and what is
added belongs to the member. -/
def Model.Confined (model : Model) (account : Fields) (old new : List Fields) : Prop :=
  if model = .user then
    Forall₂ (fun was is => is = was ∨ rowId was = rowId account ∧ rowId is = rowId account) old new
  else ∃ added, new = old ++ added ∧ ∀ row ∈ added, BelongsTo account row

theorem Model.Confined.refl (model : Model) (account : Fields) (rows : List Fields) :
    model.Confined account rows rows := by
  unfold Model.Confined
  split
  · exact forall₂_same.mpr fun _ _ => .inl rfl
  · exact ⟨[], by simp, by simp⟩

theorem Model.Confined.trans {first second third : List Fields}
    (one : model.Confined account first second) (two : model.Confined account second third) :
    model.Confined account first third := by
  unfold Model.Confined at *
  split at one
  · rename_i accounts
    rw [if_pos accounts] at two ⊢
    -- a row that is changed twice is the member's own both times
    induction one generalizing third with
    | nil => exact two
    | cons changed _ ih =>
      cases two with
      | cons changed_again rest =>
        refine .cons ?_ (ih rest)
        rcases changed with rfl | ⟨was, is⟩
        · exact changed_again
        · rcases changed_again with rfl | ⟨-, is⟩ <;> exact .inr ⟨was, is⟩
  · rename_i others
    rw [if_neg others] at two ⊢
    obtain ⟨added, rfl, own⟩ := one
    obtain ⟨more, rfl, own_more⟩ := two
    exact ⟨added ++ more, append_assoc .., forall_mem_append.2 ⟨own, own_more⟩⟩

/-- A member changes tables within their own rows only, and makes and drops none. -/
def Store.Confined (account : Fields) (before after : Store) : Prop :=
  ∀ model, Option.Rel (fun old new => new.refused = old.refused ∧ model.Confined account old.rows new.rows)
    (before.table? model) (after.table? model)

namespace Store

theorem Confined.refl (account : Fields) (store : Store) : Confined account store store := by
  intro model
  cases store.table? model with
  | none => exact .none
  | some table => exact .some ⟨rfl, .refl model account table.rows⟩

theorem Confined.trans {first second third : Store} (one : Confined account first second)
    (two : Confined account second third) : Confined account first third := by
  intro model
  have changed := one model
  have changed_again := two model
  generalize first.table? model = a, second.table? model = b, third.table? model = c at *
  cases changed with
  | none => exact changed_again
  | some kept =>
    cases changed_again with
    | some kept_again => exact .some ⟨kept_again.1.trans kept.1, kept.2.trans kept_again.2⟩

/-- A table that is put in the place of another is all that changes. -/
theorem confined_put {table : Table} {rows : List Fields}
    (known : store.table? model = some table) (confined : model.Confined account table.rows rows) :
    Confined account store (store.put model { table with rows }) := by
  intro other
  rw [table?_put]
  split
  · rename_i same
    subst same
    rw [known]
    exact .some ⟨rfl, confined⟩
  · exact Confined.refl account store other

/-- A new row with the number of an account belongs to it. -/
theorem confined_insert {values : Fields} {after : Store} {id : Int}
    (kind : model = .character ∨ model = .template ∨ model = .submission)
    (own : values.get? (.text "user_id") = some (.int (rowId account)))
    (inserted : insert? model values store = .ok (id, after)) : Confined account store after := by
  obtain ⟨table, row, known, made, -, -, rfl⟩ := insert?_ok inserted
  obtain ⟨column, member, name, integer⟩ :
      ∃ column ∈ model.columns, column.name = "user_id" ∧ column.kind = .integer := by
    rcases kind with rfl | rfl | rfl <;> decide
  obtain ⟨value, stored, found⟩ := get?_rowFor made member
  have personal : model ≠ .user := by rcases kind with rfl | rfl | rfl <;> decide
  refine confined_put known ?_
  rw [Model.Confined, if_neg personal]
  refine ⟨[row], rfl, fun row member => ?_⟩
  obtain rfl := mem_singleton.mp member
  have number : given values column = some (.int (rowId account)) := by rw [given, name, own]
  have kept : value = .int (rowId account) := by
    rw [number, integer, Option.getD_some, Kind.store] at stored
    split at stored
    · exact (Except.ok.inj stored).symm
    · cases stored
  rw [BelongsTo, cell, ← name, found, kept]
  simp [Value.equal, Value.number?, Number.equal]

theorem confined_update {gender level : Value} {after : Store}
    (updated : update? .user (rowId account) [("gender", gender), ("spiciness_level", level)] store = .ok after) :
    Confined account store after := by
  rcases update?_ok updated with rfl | ⟨table, known, rfl⟩
  · exact .refl account after
  · refine confined_put known ?_
    rw [Model.Confined, if_pos rfl]
    refine forall₂_map_right_iff.mpr (forall₂_same.mpr fun row _ => ?_)
    split
    · rename_i same
      have numbered : (row.update [("gender", gender), ("spiciness_level", level)]).get? (.text "id") =
          row.get? (.text "id") := by simp [Fields.update]
      have same : rowId row = rowId account := by simpa using same
      refine .inr ⟨same, ?_⟩
      rw [← same, rowId, cell, numbered]
      rfl
    · exact .inl rfl

end Store

/-! ### What texts are generated from -/

/-- What a member's request can make the casting do: a character from chance, one from a stored template of the
member's own, and a story for a stored character of the member's own. -/
inductive Generation (store : Store) (account : Fields) (casting : Casting) : Casting → Prop where
  | character :
      Generation store account casting ((Casting.generate (.member (account.get? "spiciness_level"))).runFrom casting).2
  | fromTemplate (template : Fields) (held : store.Holds .template template) (own : BelongsTo account template) :
      Generation store account casting
        ((Casting.fromTemplate (.member (account.get? "spiciness_level")) template).runFrom casting).2
  | story (character scenario : Fields) {scene : Scene} {muses : Muses} (held : store.Holds .character character)
      (own : BelongsTo account character)
      (generated : Scene.generate (.member (account.get? "spiciness_level")) character scenario casting.muses =
        (scene, muses)) :
      Generation store account casting { casting with muses }

/-- A story that was generated for a stored character of an account. -/
def StoryOf (store : Store) (account : Fields) (story : Value) : Prop :=
  ∃ character scenario muses, store.Holds .character character ∧ BelongsTo account character ∧
    story = (Scene.generate (.member (account.get? "spiciness_level")) character scenario muses).1.document

/-! ### A member's visit -/

/-- What a visit of a member leads to: pages without personal rows of others, tables changed in the member's own
rows only, and texts generated from the member's own rows only. -/
structure Visit.Confined (host : Host) (account : Fields) (v : Visit) : Prop where
  viewer : v.viewer = some account
  shown : ∀ rendering ∈ v.shown, ∀ named ∈ rendering.context, ∀ held ∈ named.2.held, held.1.isPersonal →
    BelongsTo account held.2
  store : host.store.Confined account v.host.store
  casting : ReflTransGen (Generation host.store account) host.casting v.host.casting
  story : ∀ story, v.host.session.get? (.text "current_story") = some story →
    host.session.get? (.text "current_story") = some story ∨ StoryOf host.store account story

section
variable (confined : v.Confined host account)
include confined

theorem Visit.Confined.owns {row : Fields} (own : v.Owns row) :
    BelongsTo account row := by
  obtain ⟨viewer, known, belongs⟩ := own
  obtain rfl := Option.some.inj (confined.viewer.symm.trans known)
  exact belongs

theorem Visit.Confined.reader :
    v.reader = .member (account.get? "spiciness_level") := by
  rw [Visit.reader, confined.viewer]

/-- Every step keeps to the member's own rows. -/
theorem Visit.Confined.step (step : Step host.store request v w)
    (other : ¬ (request.route? = some .register ∧ request.method = .post)) : w.Confined host account := by
  refine ⟨step.viewer_eq.trans confined.viewer, ?_, ?_, ?_, ?_⟩
  · cases step with
    | showed page context own =>
      refine forall_mem_append.2 ⟨confined.shown, forall_mem_singleton.2 ?_⟩
      exact fun named member held holds personal => confined.owns (own named member held holds personal)
    | _ => exact confined.shown
  · cases step with
    | enrolled reached posted => exact (other ⟨reached, posted⟩).elim
    | settled viewer least most updated =>
      obtain rfl := Option.some.inj (confined.viewer.symm.trans viewer)
      exact confined.store.trans (Store.confined_update updated)
    | added viewer kind own inserted =>
      obtain rfl := Option.some.inj (confined.viewer.symm.trans viewer)
      exact confined.store.trans (Store.confined_insert kind own inserted)
    | _ => exact confined.store
  · cases step with
    | cast => exact confined.casting.tail (confined.reader ▸ .character)
    | castFrom template held own =>
      exact confined.casting.tail (confined.reader ▸ .fromTemplate template held (confined.owns own))
    | told character scenario held known own generated =>
      rw [confined.reader] at generated
      exact confined.casting.tail (.story character scenario held (confined.owns own) generated)
    | _ => exact confined.casting
  · intro story found
    cases step with
    | notified | gotToken => exact confined.story story (by simpa using found)
    | tookNotices => exact confined.story story (by simpa [Fields.get?_erase_of_ne] using found)
    | signedIn => simp at found
    | left => cases found
    | told character scenario held known own generated =>
      rw [Fields.get?_set_self, Option.some.injEq] at found
      rw [confined.reader] at generated
      exact .inr ⟨character, scenario, _, held, confined.owns own, by rw [generated, found]⟩
    | _ => exact confined.story story found

theorem Visit.Confined.steps (steps : ReflTransGen (Step host.store request) v w)
    (other : ¬ (request.route? = some .register ∧ request.method = .post)) : w.Confined host account := by
  induction steps with
  | refl => exact confined
  | tail _ step ih => exact ih.step step other

end

theorem Host.confined_start (signedIn : account? host.store host.session = some account) :
    host.start.Confined host account where
  viewer := signedIn
  shown := forall_mem_nil _
  store := .refl account host.store
  casting := .refl
  story := fun _ found => .inl found

/-- Whatever a member requests, except to make an account: every page, also one that then fails, is given only
personal rows of the member's own; rows are added and changed only where they are the member's; and characters and
stories are generated only from chance and from the member's own templates and characters. -/
theorem Host.serve_confined (host : Host) (request : Request) (account : Fields)
    (signedIn : Site.account? host.store host.session = some account)
    (other : ¬ (request.route? = some .register ∧ request.method = .post)) :
    let visit := ((Serve.respond request).runFrom host.start).2
    let served := (serve request).runFrom host
    (∀ answer, served.1 = .ok answer → answer.shown = visit.shown) ∧
    (∀ rendering ∈ visit.shown, ∀ named ∈ rendering.context, ∀ held ∈ named.2.held, held.1.isPersonal →
      BelongsTo account held.2) ∧
    host.store.Confined account served.2.store ∧
    ReflTransGen (Generation host.store account) host.casting served.2.casting ∧
    ∀ story, visit.host.session.get? (.text "current_story") = some story →
      host.session.get? (.text "current_story") = some story ∨ StoryOf host.store account story := by
  intro visit served
  have steps : Follows (Step host.store request) (Serve.respond request) host.start := Serve.respond_follows rfl
  have confined : visit.Confined host account := (confined_start signedIn).steps steps other
  have answered : (∀ answer, served.1 = .ok answer → answer.shown = visit.shown) ∧
      served.2.store = visit.host.store ∧ served.2.casting = visit.host.casting := by
    unfold served visit
    rw [serve_run]
    rcases (Serve.respond request).runFrom host.start with ⟨fault | response, visit⟩
    · exact ⟨(by rintro answer ⟨⟩), rfl, rfl⟩
    · refine ⟨fun answer given => ?_, rfl, rfl⟩
      cases given
      rfl
  obtain ⟨shown, store, casting⟩ := answered
  refine ⟨shown, confined.shown, ?_, ?_, confined.story⟩
  · rw [store]
    exact confined.store
  · rw [casting]
    exact confined.casting

/-- Ann asks for a story with a character of another account: no page is given that character. -/
theorem Host.other_character_unseen :
    let ann : Fields := [("id", .int 1), ("email", .text "ann@x.org")]
    let rex : Fields := [("id", .int 7), ("name", .text "Rex"), ("user_id", .int 2)]
    let scenario : Fields := [("id", .int 3), ("title", .text "Hunt")]
    let host : Host :=
      { store := { tables := [(.user, { rows := [ann] }), (.character, { rows := [rex] }), (.scenario, { rows := [scenario] })] }
        session := [("_user_id", .text "1")], now := ⟨0⟩, tag := "", reference := "" }
    let request : Request := { method := .get, target := "/view_story/7/3" }
    host.store.Confined ann ((serve request).runFrom host).2.store ∧
      ∀ rendering ∈ ((Serve.respond request).runFrom host.start).2.shown, ∀ named ∈ rendering.context,
        (Model.character, rex) ∉ named.2.held := by
  intro ann rex scenario host request
  have signedIn : Site.account? host.store host.session = some ann :=
    Store.account?_eq_some_iff.2 ⟨_, rfl, 1, by decide +kernel, rfl⟩
  obtain ⟨-, shown, store, -⟩ := serve_confined host request ann signedIn fun register => by cases register.2
  refine ⟨store, fun rendering member named listed held => ?_⟩
  have own : BelongsTo ann rex := shown rendering member named listed _ held rfl
  revert own
  unfold BelongsTo
  decide +kernel

end Playhouse.Site
