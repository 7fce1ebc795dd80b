import Playhouse.Proofs.Character.Retries
import Playhouse.Scene.Basic

/-!
What the text services are asked. However many characters a casting drafts, and however it ends, it asks the chat
service with the instruction for the level of the visitor only, and the author service for family-friendly content
only; a scene asks the chat service once, with its own instruction for the level.
-/
namespace Playhouse
open Narrative Muses

/-- A request that suits a content level. -/
inductive Request.Suits (level : Value) : Request → Prop where
  | narrative {character : Fields} {prompt : String} (asked : request character = .ok prompt) :
      Suits level (.chat (instruction level) prompt 0.7)
  | friendly {prompt : String} (level_one : level.equal (.int 1) = true) : Suits level (.completion prompt)
  | scene (character scenario : Fields) :
      Suits level (.chat (Scene.instruction level) (Scene.request character scenario) 0.8)

/-- A request whose instruction is the one for mature texts. -/
def Request.isMature : Request → Bool
  | chat system _ _ => system == instruction (.int 3) || system == Scene.instruction (.int 3)
  | completion _ => false

/-- Of the levels that an account can choose, mature texts are asked for at the last only. -/
theorem Request.Suits.isMature_iff {request : Request} {level : Int} (suits : request.Suits (.int level))
    (least : 1 ≤ level) (most : level ≤ 3) : request.isMature ↔ level = 3 := by
  have levels : level = 1 ∨ level = 2 ∨ level = 3 := by omega
  cases suits with
  | narrative => rcases levels with rfl | rfl | rfl <;> simp only [isMature] <;> decide +kernel
  | friendly level_one =>
    rcases levels with rfl | rfl | rfl
    · simp [isMature]
    · cases level_one
    · cases level_one
  | scene => rcases levels with rfl | rfl | rfl <;> simp only [isMature] <;> decide +kernel

theorem Request.Suits.eq_one {prompt : String} {level : Int} (suits : (Request.completion prompt).Suits (.int level)) :
    level = 1 := by
  cases suits with
  | friendly level_one => simpa [Value.equal, Value.number?, Number.equal] using level_one

namespace Muses

/-- Requests were added to those made before, and each of them suits a level. -/
def Asked (level : Value) (before after : Muses) : Prop :=
  ∃ made, after.requests = before.requests ++ made ∧ ∀ request ∈ made, request.Suits level

variable {level : Value} {before muses after : Muses}

theorem Asked.refl (level : Value) (muses : Muses) : Asked level muses muses :=
  ⟨[], by simp, by simp⟩

theorem Asked.trans (first : Asked level before muses) (second : Asked level muses after) :
    Asked level before after := by
  obtain ⟨made, added, suit⟩ := first
  obtain ⟨more, added_more, suit_more⟩ := second
  exact ⟨made ++ more, by rw [added_more, added, List.append_assoc], List.forall_mem_append.2 ⟨suit, suit_more⟩⟩

theorem Asked.of_requests {request : Request} (suits : request.Suits level)
    (added : after.requests = muses.requests ++ [request]) : Asked level muses after :=
  ⟨[request], added, List.forall_mem_singleton.2 suits⟩

theorem asked_chat {system user : String} {temperature : Float}
    (suits : (Request.chat system user temperature).Suits level) :
    Asked level muses (muses.askChat system user temperature).2 := by
  unfold askChat
  split
  · exact .of_requests suits rfl
  · exact .refl level muses

theorem asked_author {prompt : String} (suits : (Request.completion prompt).Suits level) :
    Asked level muses (muses.askAuthor prompt).2 := by
  unfold askAuthor
  split
  · exact .of_requests suits rfl
  · exact .refl level muses

end Muses

/-- The texts of a character are asked for at the level of the visitor. -/
theorem Narrative.enhance_asks (visitor : Visitor) (before : Muses) (fields : Fields) :
    Act.Keeps (Asked visitor.level before) (enhance visitor fields) :=
  keeps_enhance (fun _ _ requested asked => asked.trans (asked_chat (.narrative requested)))
    fun _ _ friendly asked => asked.trans (asked_author (.friendly friendly))

theorem Scene.generate_asks (visitor : Visitor) (character scenario : Fields) (muses : Muses) :
    Asked visitor.level muses (generate visitor character scenario muses).2 := by
  have asked : Asked visitor.level muses
      (muses.askChat (instruction visitor.level) (request character scenario) 0.8).2 :=
    asked_chat (.scene character scenario)
  unfold generate
  split <;> rename_i answer <;> rwa [answer] at asked

namespace Casting
open Act

section
variable {P : Casting → Prop}

theorem keeps_sketch (blind : ∀ s chance, P s → P { s with chance }) : Keeps P sketch := by
  have drawn {α : Type} (act : Act Chance α) := keeps_withChance blind act
  have fresh (options : List String) (key : String) : Keeps P (fresh options key) :=
    .bind keeps_get fun _ => drawn _
  unfold sketch
  refine .bind (fresh _ _) fun _ => .bind (drawn _) fun _ => ?_
  iterate 2 refine .bind (fresh _ _) fun _ => ?_
  refine .bind (keeps_eyeColor blind) fun _ => ?_
  iterate 7 refine .bind (fresh _ _) fun _ => ?_
  exact .bind (drawn _) fun _ => keeps_pure _

theorem keeps_recast {next : Act Casting Fields} (kept : Keeps P next) (attempts : Nat) (character : Fields) :
    Keeps P (recast next attempts character) := by
  -- each attempt but the last goes on with the next character
  induction attempts generalizing character with
  | zero =>
    unfold recast
    refine .bind keeps_get fun _ => .bind (keeps_liftM _) fun similar => ?_
    split <;> exact keeps_pure _
  | succ left ih =>
    unfold recast
    refine .bind keeps_get fun _ => .bind (keeps_liftM _) fun similar => ?_
    split
    · exact .bind kept fun next => ih next
    · exact keeps_pure _

end

/-- A casting keeps what each of its narratives keeps, down to any depth. -/
theorem keeps_cast {M : Muses → Prop} {visitor : Visitor}
    (asks : ∀ fields, Keeps M (enhance visitor fields)) (depth : Nat) :
    Keeps (fun s => M s.muses) (cast visitor depth) := by
  have drafts : Keeps (fun s => M s.muses) (draft visitor) :=
    .bind (keeps_sketch fun _ _ holds => holds) fun fields s holds => asks fields s.muses holds
  induction depth with
  | zero => exact fun _ holds => holds
  | succ depth ih =>
    unfold cast
    exact .bind drafts fun candidate => .bind (keeps_recast ih maxAttempts candidate) fun _ s holds => holds

theorem generate_asks (visitor : Visitor) (s : Casting) :
    s.muses.Asked visitor.level ((generate visitor).runFrom s).2.muses :=
  keeps_cast (enhance_asks visitor s.muses) maxDepth s (.refl visitor.level s.muses)

theorem fromTemplate_asks (visitor : Visitor) (template : Fields) (s : Casting) :
    s.muses.Asked visitor.level ((fromTemplate visitor template).runFrom s).2.muses :=
  (keeps_fromTemplate (enhance_asks visitor s.muses) s.history template s ⟨rfl, .refl visitor.level s.muses⟩).2

end Casting
end Playhouse
