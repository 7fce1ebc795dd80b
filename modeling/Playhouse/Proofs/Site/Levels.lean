import Playhouse.Proofs.Character.Asking
import Playhouse.Proofs.Site.Views

/-!
Content levels. An account starts at level 1, and only a form of its own moves it, to 1, 2 or 3. The text services are
asked on behalf of members only, and with the instruction for the level that the member's account has at that moment.
The instruction for every other value is the mature one, so that no account may ever hold another value.
-/
namespace Playhouse.Site
open Act Relation List Views

variable {store after : Store}

variable {before : Store} {request : Request} {v w : Visit} {host : Host} {P : Int → Int → Prop}

/-! ### The levels in the table of accounts -/

/-- Every account has a whole number as its level, and one that is allowed for the account. -/
def Store.Leveled (allowed : Int → Int → Prop) (store : Store) : Prop :=
  ∀ account, store.Holds .user account →
    ∃ level, account.get? (.text "spiciness_level") = some (.int level) ∧ allowed (rowId account) level

namespace Store

theorem Leveled.of_table? (leveled : store.Leveled P)
    (same : after.table? .user = store.table? .user) : after.Leveled P := by
  rintro account ⟨table, known, member⟩
  exact leveled account ⟨table, same ▸ known, member⟩

/-- A new account is at level 1. -/
theorem Leveled.enrol {username email password : String} {id : Int} (leveled : store.Leveled P) (first : ∀ id, P id 1)
    (inserted : insert? .user [("username", .text username), ("email", .text email),
      ("password_hash", sealed password)] store = .ok (id, after)) : after.Leveled P := by
  obtain ⟨table, row, known, made, -, -, rfl⟩ := insert?_ok inserted
  intro account held
  rw [holds_put known, if_pos rfl] at held
  rcases mem_append.mp held with old | new
  · exact leveled account ⟨table, known, old⟩
  · obtain rfl := mem_singleton.mp new
    have column : { name := "spiciness_level", kind := .integer, standard := .int 1 } ∈ Model.user.columns :=
      .tail _ (.tail _ (.tail _ (.tail _ (.head _))))
    obtain ⟨value, stored, found⟩ := get?_rowFor made column
    have standard : value = .int 1 := (Except.ok.inj stored).symm
    exact ⟨1, standard ▸ found, first _⟩

/-- An account that is settled has the level that was chosen for it, and every other account the one that it had. -/
theorem Leveled.settle {account : Fields} {gender : String} {level : Int}
    (leveled : store.Leveled P) (allowed : P (rowId account) level)
    (updated : update? .user (rowId account) [("gender", .text gender), ("spiciness_level", .int level)] store =
      .ok after) : after.Leveled P := by
  rcases update?_ok updated with rfl | ⟨table, known, rfl⟩
  · exact leveled
  · intro other held
    rw [holds_put known, if_pos rfl] at held
    obtain ⟨row, member, rfl⟩ := mem_map.mp held
    split
    · rename_i same
      have numbered : rowId (row.update [("gender", .text gender), ("spiciness_level", .int level)]) = rowId row := by
        simp [rowId, cell, Fields.update]
      refine ⟨level, by simp [Fields.update], ?_⟩
      rw [numbered, beq_iff_eq.mp same]
      exact allowed
    · exact leveled row ⟨table, known, member⟩

end Store

/-- What a step may do to the levels: a new account is at 1, and a member's own form names another. -/
theorem Step.leveled (step : Step before request v w) (leveled : v.host.store.Leveled P) (first : ∀ id, P id 1)
    (chosen : ∀ account level, v.viewer = some account → request.route? = some .updateProfile →
      request.method = .post → levelOf? (request.form.lookup "spiciness_level") = some level →
      P (rowId account) level) : w.host.store.Leveled P := by
  cases step with
  | enrolled reached posted least most inserted => exact leveled.enrol first inserted
  | settled viewer least most updated reached posted named =>
    exact leveled.settle (chosen _ _ viewer reached posted named) updated
  | added viewer kind own inserted =>
    refine leveled.of_table? (Store.table?_insert_of_ne inserted ?_)
    rcases kind with rfl | rfl | rfl <;> decide
  | _ => exact leveled

/-! ### What the services are asked in a visit -/

/-- A step asks the services for texts for the visitor. -/
theorem Step.asked (step : Step before request v w) :
    v.host.casting.muses.Asked v.reader.level w.host.casting.muses := by
  cases step with
  | cast => exact Casting.generate_asks v.reader v.host.casting
  | castFrom template => exact Casting.fromTemplate_asks v.reader template v.host.casting
  | told character scenario held known own generated =>
    have asked := Scene.generate_asks v.reader character scenario v.host.casting.muses
    rwa [generated] at asked
  | _ => exact .refl _ _

/-- Whether a route leads to generated texts. -/
def Route.isForTexts : Route → Bool
  | createCharacter | generateStory _ _ | story _ _ => true
  | _ => false

/-- Texts are generated for members only, and on their routes only. -/
theorem Step.casting_eq (step : Step before request v w) :
    w.host.casting = v.host.casting ∨ v.viewer.isSome ∧ ∃ route, request.route? = some route ∧ route.isForTexts := by
  cases step with
  | cast reached known => exact .inr ⟨known, _, reached, rfl⟩
  | castFrom template held own reached =>
    obtain ⟨account, viewer, -⟩ := own
    exact .inr ⟨by rw [viewer]; rfl, _, reached, rfl⟩
  | told character scenario held known own generated reached =>
    obtain ⟨account, viewer, -⟩ := own
    obtain ⟨c, s, reached | reached⟩ := reached <;> exact .inr ⟨by rw [viewer]; rfl, _, reached, rfl⟩
  | _ => exact .inl rfl

/-- On the routes for texts the accounts stay as they are. -/
theorem Step.accounts_eq (step : Step before request v w) {route : Route} (reached : request.route? = some route)
    (texts : route.isForTexts) : w.host.store.table? .user = v.host.store.table? .user := by
  cases step with
  | enrolled reached_other | settled viewer least most updated reached_other =>
    obtain rfl := Option.some.inj (reached.symm.trans reached_other)
    cases texts
  | added viewer kind own inserted =>
    refine Store.table?_insert_of_ne inserted ?_
    rcases kind with rfl | rfl | rfl <;> decide
  | _ => rfl

/-- What a visit has asked the services, and what it has left of the accounts. -/
structure Visit.Asked (host : Host) (request : Request) (v : Visit) : Prop where
  muses : host.casting.muses.Asked host.start.reader.level v.host.casting.muses
  casting : v.host.casting = host.casting ∨ host.start.viewer.isSome ∧
    ∃ route, request.route? = some route ∧ route.isForTexts
  accounts : ∀ route, request.route? = some route → route.isForTexts →
    v.host.store.table? .user = host.store.table? .user

theorem Visit.Asked.step (asked : v.Asked host request) (viewer : v.viewer = host.start.viewer)
    (step : Step before request v w) : w.Asked host request := by
  have reader : v.reader = host.start.reader := by rw [Visit.reader, viewer, Visit.reader]
  refine ⟨asked.muses.trans (reader ▸ step.asked), ?_, fun route reached texts =>
    (step.accounts_eq reached texts).trans (asked.accounts route reached texts)⟩
  rcases step.casting_eq with same | ⟨known, texts⟩
  · rw [same]
    exact asked.casting
  · exact .inr ⟨viewer ▸ known, texts⟩

namespace Host

theorem asked_respond (host : Host) (request : Request) :
    ((Serve.respond request).runFrom host.start).2.Asked host request :=
  respond_invariant ⟨.refl _ _, .inl rfl, fun _ _ _ => rfl⟩ fun _ _ viewer asked step => asked.step viewer step

theorem leveled_respond {host : Host} {request : Request} (leveled : host.store.Leveled P) (first : ∀ id, P id 1)
    (chosen : ∀ account level, Site.account? host.store host.session = some account →
      request.route? = some .updateProfile → request.method = .post →
      levelOf? (request.form.lookup "spiciness_level") = some level → P (rowId account) level) :
    ((Serve.respond request).runFrom host.start).2.host.store.Leveled P := by
  refine respond_invariant (P := fun v => v.host.store.Leveled P) leveled fun v w viewer leveled step => ?_
  exact step.leveled leveled first fun account level known => chosen account level (viewer.symm.trans known)

/-! ### Runs -/

/-- The host after a request of a client with a session. -/
def answering (host : Host) (visit : Fields × Request) : Host :=
  ((serve visit.2).runFrom { host with session := visit.1 }).2

theorem answering_eq (host : Host) (session : Fields) (request : Request) :
    host.answering (session, request) = ((serve request).runFrom { host with session }).2 := rfl

/-- The host after requests of any clients, each with the session that its client then has. -/
def afterAll (host : Host) (visits : List (Fields × Request)) : Host := visits.foldl answering host

/-- An account has chosen a level: along some requests a form of its own has named it. -/
def Chose (host : Host) (visits : List (Fields × Request)) (id level : Int) : Prop :=
  ∃ earlier session request later account, visits = earlier ++ (session, request) :: later ∧
    Site.account? (host.afterAll earlier).store session = some account ∧ rowId account = id ∧
    request.route? = some .updateProfile ∧ request.method = .post ∧
    levelOf? (request.form.lookup "spiciness_level") = some level

theorem Chose.concat {visits : List (Fields × Request)} {id level : Int} (chose : host.Chose visits id level)
    (visit : Fields × Request) : host.Chose (visits ++ [visit]) id level := by
  obtain ⟨earlier, session, request, later, account, rfl, rest⟩ := chose
  exact ⟨earlier, session, request, later ++ [visit], account, by simp, rest⟩

/-- Level 1, or one of the others by the account's own choice. -/
def MayHave (host : Host) (visits : List (Fields × Request)) (id level : Int) : Prop :=
  1 ≤ level ∧ level ≤ 3 ∧ (level = 1 ∨ host.Chose visits id level)

theorem afterAll_concat (host : Host) (visits : List (Fields × Request)) (visit : Fields × Request) :
    host.afterAll (visits ++ [visit]) = (host.afterAll visits).answering visit := by
  rw [afterAll, foldl_append]
  rfl

theorem leveled_afterAll (nobody : ∀ row, ¬ host.store.Holds .user row) (visits : List (Fields × Request)) :
    (host.afterAll visits).store.Leveled (host.MayHave visits) := by
  induction visits using reverseRecOn with
  | nil => exact fun account held => (nobody account held).elim
  | append_singleton visits visit ih =>
    obtain ⟨session, request⟩ := visit
    have before : (host.afterAll visits).store.Leveled (host.MayHave (visits ++ [(session, request)])) := by
      intro account held
      obtain ⟨level, found, least, most, chosen⟩ := ih account held
      exact ⟨level, found, least, most, chosen.imp_right fun chose => chose.concat _⟩
    rw [afterAll_concat, answering_eq, serve_store]
    refine leveled_respond before (fun _ => ⟨by decide, by decide, .inl rfl⟩) ?_
    intro account level signedIn reached posted named
    obtain ⟨least, most⟩ := levelOf?_bounds named
    exact ⟨least, most, .inr ⟨visits, session, request, [], account, rfl, signedIn, rfl, reached, posted, named⟩⟩

theorem holds_of_account? {session account : Fields}
    (signedIn : Site.account? store session = some account) : store.Holds .user account := by
  obtain ⟨value, -, id, -, found⟩ := Store.account?_eq_some_iff.1 signedIn
  exact Store.holds_of_find found

/-- What a request makes the services write is for the account of its session, which stays as it is meanwhile. -/
theorem asked_answering (host : Host) (session : Fields) (request : Request) :
    ∃ made, (host.answering (session, request)).casting.muses.requests = host.casting.muses.requests ++ made ∧
      ∀ asked ∈ made, (host.answering (session, request)).store.table? .user = host.store.table? .user ∧
        ∃ account, Site.account? host.store session = some account ∧
          asked.Suits ((account.get? (.text "spiciness_level")).getD (.int 1)) := by
  rw [answering_eq, serve_store, serve_casting]
  have visit := asked_respond { host with session } request
  generalize ((Serve.respond request).runFrom { host with session }.start).2 = left at visit ⊢
  obtain ⟨made, added, suit⟩ := visit.muses
  refine ⟨made, added, fun asked member => ?_⟩
  rcases visit.casting with same | ⟨known, route, reached, texts⟩
  · rw [same] at added
    obtain rfl := self_eq_append_right.mp added
    cases member
  · obtain ⟨account, viewer⟩ := Option.isSome_iff_exists.mp known
    refine ⟨visit.accounts route reached texts, account, viewer, ?_⟩
    have suits := suit asked member
    rwa [Visit.reader, viewer] at suits

/-- From a site without accounts, after any requests of any clients: every account is at level 1, 2 or 3, and at 1
unless a form of its own has named another; and whatever the next request makes the services write is asked for with
the instruction for the level that the account of its session then has, the mature one at level 3 and no other, and
from the author service at level 1 only. -/
theorem levels_kept_and_written_for (host : Host) (visits : List (Fields × Request))
    (nobody : ∀ row, ¬ host.store.Holds .user row) :
    let now := host.afterAll visits
    now.store.Leveled (host.MayHave visits) ∧
    ∀ session request,
      let next := now.answering (session, request)
      ∃ made, next.casting.muses.requests = now.casting.muses.requests ++ made ∧
        ∀ asked ∈ made, next.store.table? .user = now.store.table? .user ∧
          ∃ account level, Site.account? now.store session = some account ∧
            account.get? (.text "spiciness_level") = some (.int level) ∧ asked.Suits (.int level) ∧
            (asked.isMature ↔ level = 3) ∧ ((∃ prompt, asked = .completion prompt) → level = 1) := by
  intro now
  have leveled : now.store.Leveled (host.MayHave visits) := leveled_afterAll nobody visits
  refine ⟨leveled, fun session request => ?_⟩
  obtain ⟨made, added, suit⟩ := asked_answering now session request
  refine ⟨made, added, fun asked member => ?_⟩
  obtain ⟨accounts, account, signedIn, suits⟩ := suit asked member
  obtain ⟨level, found, least, most, -⟩ := leveled account (holds_of_account? signedIn)
  rw [found, Option.getD_some] at suits
  refine ⟨accounts, account, level, signedIn, found, suits, suits.isMature_iff least most, ?_⟩
  rintro ⟨prompt, rfl⟩
  exact suits.eq_one

/-- Ann registers, chooses level 3 and asks for a story: one mature request is made, and it is made at the level that
Ann has chosen. -/
theorem story_at_chosen_level :
    let mia : Fields := [("id", .int 1), ("name", .text "Mia"), ("user_id", .int 1)]
    let park : Fields := [("id", .int 1), ("title", .text "Hunt"), ("setting", .text "Park")]
    let host : Host :=
      { store := { tables := [(.user, {}), (.character, { rows := [mia] }), (.scenario, { rows := [park] })] }
        casting := { muses := { chat := { key := some "k" } } }
        now := ⟨0⟩, tag := "", reference := "" }
    let ann : Fields := [("_user_id", .text "1")]
    let register : Request :=
      { method := .post, target := "/register"
        form := [("username", "ann"), ("email", "ann@x.org"), ("password", "pw")] }
    let choose : Request :=
      { method := .post, target := "/update_profile", form := [("gender", "female"), ("spiciness_level", "3")] }
    let tell : Request := { method := .get, target := "/generate_story/1/1" }
    let visits := [([], register), (ann, choose)]
    ((host.afterAll visits).answering (ann, tell)).casting.muses.requests.map (·.isMature) = [true] ∧
      ∃ account, Site.account? (host.afterAll visits).store ann = some account ∧
        account.get? (.text "spiciness_level") = some (.int 3) ∧ host.Chose visits (rowId account) 3 := by
  intro mia park host ann register choose tell visits
  have asked : ((host.afterAll visits).answering (ann, tell)).casting.muses.requests.map (·.isMature) = [true] := by
    decide +kernel
  have quiet : (host.afterAll visits).casting.muses.requests = [] := by
    refine List.isEmpty_iff.mp ?_
    decide +kernel
  have nobody : ∀ row, ¬ host.store.Holds .user row := by
    rintro row ⟨table, ⟨⟩, member⟩
    cases member
  obtain ⟨leveled, written⟩ := levels_kept_and_written_for host visits nobody
  obtain ⟨made, added, suit⟩ := written ann tell
  refine ⟨asked, ?_⟩
  rw [added, quiet, List.nil_append] at asked
  obtain ⟨request, rfl, mature⟩ := List.map_eq_singleton_iff.mp asked
  obtain ⟨-, account, level, signedIn, found, -, mature_iff, -⟩ := suit request (List.mem_singleton_self request)
  obtain rfl := mature_iff.mp mature
  obtain ⟨same, held, -, -, chosen⟩ := leveled account (holds_of_account? signedIn)
  obtain rfl : same = 3 := by simpa [found] using held.symm
  exact ⟨account, signedIn, found, chosen.resolve_left (by decide)⟩

end Host
end Playhouse.Site
