import Playhouse.Proofs.Site.Pages
import Mathlib.Data.List.Induction

/-!
Stories. A story is told for one character in one scenario, but a session has one place for a story and no note of
whom it is about. The page of a character in a scenario shows whatever was told last; it tells a story of its own only
where the session has none.
-/
namespace Playhouse.Site
open Act Fields Serve List Views Option Visit

variable {pages : List Page}

/-- The story that a session holds. -/
def storyIn (session : Fields) : Option Value := session.get? (.text "current_story")

namespace Visit
open Views

variable {v : Visit} {c s : Nat} {character scenario : Fields}

/-! ### Telling a story -/

/-- The character and the scenario of two numbers, if the character is the visitor's own. -/
def cast? (v : Visit) (c s : Nat) : Option (Fields × Fields) := do
  let character ← (v.host.store.find .character c).toOption.join
  let scenario ← (v.host.store.find .scenario s).toOption.join
  let account ← v.viewer
  if (cell character "user_id").equal (.int (rowId account)) then some (character, scenario) else none

/-- The story of the session, or nothing. -/
def kept (v : Visit) : Value := (storyIn v.host.session).getD .null

/-- The story that a visitor is told now. -/
def tale (v : Visit) (character scenario : Fields) : Value :=
  (Scene.generate v.reader character scenario v.host.casting.muses).1.document

/-- The visit after a story. -/
def telling (v : Visit) (character scenario : Fields) : Visit :=
  { v with host := { v.host with
    casting := { v.host.casting with muses := (Scene.generate v.reader character scenario v.host.casting.muses).2 }
    session := v.host.session.set "current_story" (v.tale character scenario) } }

theorem Shows.storyIn_eq {w : Visit} (changed : Shows pages v w) :
    storyIn w.host.session = storyIn v.host.session := changed.session _ (by decide) (by decide)

theorem truthy_tale (v : Visit) (character scenario : Fields) : (v.tale character scenario).truthy = true := rfl

theorem castAndScenario_run (c s : Nat) (v : Visit) :
    ∃ fault, (castAndScenario c s).runFrom v = ((v.cast? c s).elim (.error fault) .ok, v) := by
  unfold castAndScenario cast?
  rw [runFrom_bind, ask_run]
  cases v.host.store.find .character c with
  | error fault => exact ⟨fault, rfl⟩
  | ok row =>
    cases row with
    | none => exact ⟨.noPage, rfl⟩
    | some character =>
      dsimp only [found]
      rw [runFrom_bind, runFrom_pure]
      dsimp only
      rw [runFrom_bind, ask_run]
      cases v.host.store.find .scenario s with
      | error fault => exact ⟨fault, rfl⟩
      | ok row =>
        cases row with
        | none => exact ⟨.noPage, rfl⟩
        | some scenario =>
          dsimp only
          rw [runFrom_bind, runFrom_pure]
          dsimp only
          rw [runFrom_bind, checkOwner_run]
          refine ⟨.denied, ?_⟩
          cases v.viewer with
          | none => rfl
          | some account =>
            cases same : (cell character "user_id").equal (.int (rowId account)) <;>
              simp [same]

theorem tellStory_run (character scenario : Fields) (v : Visit) :
    (tellStory character scenario).runFrom v = (.ok (v.tale character scenario), v.telling character scenario) := by
  unfold tellStory
  rw [runFrom_bind, visitor_run]
  rfl

/-- What every view of a story does first. -/
theorem castAndScenario_bind {α : Type} (next : Fields × Fields → Act Visit α)
    (cast : v.cast? c s = some (character, scenario)) :
    (castAndScenario c s >>= next).runFrom v = (next (character, scenario)).runFrom v := by
  obtain ⟨fault, ran⟩ := castAndScenario_run c s v
  rw [runFrom_bind, ran, cast]
  rfl

/-- Without its character or its scenario a view of a story leaves a notice. -/
theorem shows_castless (next : Fields × Fields → Act Visit Response) (message : String)
    (route : Route) (absent : v.cast? c s = none) :
    Shows pages v ((orElse (castAndScenario c s >>= next) message route).runFrom v).2 := by
  obtain ⟨fault, ran⟩ := castAndScenario_run c s v
  have failed : (castAndScenario c s >>= next).runFrom v = (.error fault, v) := by
    rw [runFrom_bind, ran, absent]
    rfl
  exact shows_orElse message route failed

theorem generateStory_shows (absent : v.cast? c s = none) :
    Shows pages v ((generateStory c s).runFrom v).2 := shows_castless _ _ _ absent

theorem story_shows (absent : v.cast? c s = none) :
    Shows pages v ((story c s).runFrom v).2 := shows_castless _ _ _ absent

theorem generateStory_run (cast : v.cast? c s = some (character, scenario)) :
    (generateStory c s).runFrom v = (.ok (.redirect (.story c s)), v.telling character scenario) := by
  unfold generateStory
  rw [orElse_run, castAndScenario_bind _ cast]
  dsimp only
  rw [runFrom_bind, tellStory_run]
  rfl

/-- The context of the page of a story. -/
def storyContext (character scenario : Fields) (story : Value) : Context :=
  [("character", .row .character character), ("scenario", .row .scenario scenario), ("story", .document story)]

/-- The end of a page of a story. -/
theorem storyPage_run (untaken : v.taken = .null) {context : Context} (plain : context.own = context)
    (message : String) (route : Route) :
    ∃ response w, (orElse (do display .story context; return .page) message route).runFrom v = (.ok response, w) ∧
      w.shown = v.shown ++ [⟨.story, v.viewer.map rowId, context⟩] ∧
      storyIn w.host.session = storyIn v.host.session := by
  rw [orElse_display_run message plain route untaken rfl]
  cases v.canShow .story context with
  | true => exact ⟨_, _, rfl, rfl, get?_erase_of_ne (by decide) _⟩
  | false =>
    refine ⟨_, _, rfl, rfl, ?_⟩
    unfold storyIn
    rw [get?_set_of_ne (by decide), get?_erase_of_ne (by decide)]

/-- The page of a character in a scenario: it is asked for with the story of the session or, only if there is none,
with a new one. -/
theorem story_run (untaken : v.taken = .null) (cast : v.cast? c s = some (character, scenario)) :
    ∃ response w, (story c s).runFrom v = (.ok response, w) ∧
      w.shown = v.shown ++ [⟨.story, v.viewer.map rowId, storyContext character scenario
        (if v.kept.truthy then v.kept else v.tale character scenario)⟩] ∧
      storyIn w.host.session =
        if v.kept.truthy then storyIn v.host.session else some (v.tale character scenario) := by
  unfold story
  rw [orElse_run, castAndScenario_bind _ cast]
  dsimp only
  rw [runFrom_get_bind]
  have kept : (v.host.session.get? "current_story").getD .null = v.kept := rfl
  rw [kept]
  cases told : v.kept.truthy with
  | true =>
    simp only [↓reduceIte]
    rw [runFrom_bind, runFrom_pure]
    dsimp only
    rw [← orElse_run]
    exact storyPage_run untaken rfl _ _
  | false =>
    simp only [Bool.false_eq_true, ↓reduceIte]
    rw [runFrom_bind, tellStory_run]
    dsimp only
    rw [← orElse_run]
    have plain : (storyContext character scenario (v.tale character scenario)).own = _ := rfl
    obtain ⟨response, w, ran, shown, slot⟩ := storyPage_run (v := v.telling character scenario) untaken plain
      "Failed to load story." .scenarios
    exact ⟨response, w, ran, shown, by rw [slot, telling, storyIn, get?_set_self]⟩

end Visit

/-! ### The story of a session -/

/-- Only the views of stories put a story into the session. -/
theorem Step.story_kept {before : Store} {request : Request} {v w : Visit} (step : Step before request v w)
    (other : ∀ c s, request.route? ≠ some (.generateStory c s) ∧ request.route? ≠ some (.story c s)) :
    storyIn w.host.session = storyIn v.host.session ∨ storyIn w.host.session = none := by
  cases step with
  | notified | gotToken => exact .inl (get?_set_of_ne (by decide) _ _)
  | tookNotices => exact .inl (get?_erase_of_ne (by decide) _)
  | signedIn => exact .inr (by simp [storyIn])
  | left => exact .inr rfl
  | told character scenario held known own generated reached =>
    obtain ⟨c, s, reached | reached⟩ := reached
    · exact ((other c s).1 reached).elim
    · exact ((other c s).2 reached).elim
  | showed | enrolled | settled | added | cast | castFrom | filed => exact .inl rfl

/-- A story, with the numbers of the character and of the scenario that it was told for. -/
structure Telling where
  character : Nat
  scenario : Nat
  story : Value

namespace Host

variable {host : Host} {request : Request} {c s : Nat}

/-- The story that the muses tell now, if the signed-in account may have it told. -/
def tell? (host : Host) (c s : Nat) : Option Telling :=
  (host.start.cast? c s).map fun (character, scenario) => ⟨c, s, host.start.tale character scenario⟩

/-- The story that a request makes: on the route for stories always, on the page of a story only if the session has
none. -/
def telling? (host : Host) (request : Request) : Option Telling :=
  match request.method, request.route? with
  | .get, some (.generateStory c s) => host.tell? c s
  | .get, some (.story c s) => if host.start.kept.truthy then none else host.tell? c s
  | _, _ => none

/-- The stories that were told along some requests. -/
def tellings (host : Host) : List Request → List Telling
  | [] => []
  | request :: rest => (host.telling? request).toList ++ ((serve request).runFrom host).2.tellings rest

theorem tellings_concat (host : Host) (requests : List Request) (request : Request) :
    host.tellings (requests ++ [request]) =
      host.tellings requests ++ ((host.after requests).telling? request).toList := by
  induction requests generalizing host with
  | nil => simp [tellings, after]
  | cons first rest ih => rw [cons_append, tellings, ih, tellings, append_assoc, after]

theorem viewer_of_cast? {v : Visit} {cast : Fields × Fields} (known : v.cast? c s = some cast) : v.viewer.isSome := by
  unfold cast? at known
  simp only [bind_eq_bind, bind_eq_some_iff] at known
  obtain ⟨_, _, _, _, account, viewer, _⟩ := known
  rw [viewer]
  rfl

theorem find_of_cast? {v : Visit} {character scenario : Fields} (known : v.cast? c s = some (character, scenario)) :
    v.host.store.find .character c = .ok (some character) ∧ v.host.store.find .scenario s = .ok (some scenario) := by
  unfold cast? at known
  simp only [bind_eq_bind, bind_eq_some_iff] at known
  obtain ⟨_, foundCharacter, _, foundScenario, account, viewer, own⟩ := known
  split at own
  · obtain ⟨rfl, rfl⟩ := Prod.mk.inj (Option.some.inj own)
    exact ⟨Store.join_find.1 foundCharacter, Store.join_find.1 foundScenario⟩
  · cases own

/-- A story that is told is in the session afterwards. -/
theorem session_of_telling {telling : Telling} (told : host.telling? request = some telling) :
    storyIn ((serve request).runFrom host).2.session = some telling.story ∧ telling.story.truthy = true := by
  have served {route : Route} {response : Response} {w : Visit} (reached : request.route? = some route)
      (allowed : route.rule.methods.contains .get) (method : request.method = .get) (known : host.start.viewer.isSome)
      (ran : (follow route .get request.posted).runFrom host.start = (.ok response, w)) :
      ((serve request).runFrom host).2.session = w.host.session := by
    rw [serve_run, respond_viewed reached method allowed known ran]
  unfold telling? at told
  split at told
  · rename_i c s method reached
    obtain ⟨⟨character, scenario⟩, cast, rfl⟩ := map_eq_some_iff.mp told
    rw [served reached rfl method (viewer_of_cast? cast) (generateStory_run cast)]
    exact ⟨get?_set_self _ _ _, truthy_tale _ _ _⟩
  · rename_i c s method reached
    split at told
    · cases told
    · rename_i untold
      obtain ⟨⟨character, scenario⟩, cast, rfl⟩ := map_eq_some_iff.mp told
      obtain ⟨response, w, ran, -, slot⟩ := story_run rfl cast
      rw [served reached rfl method (viewer_of_cast? cast) ran, slot, if_neg untold]
      exact ⟨rfl, truthy_tale _ _ _⟩
  · cases told

theorem method_of_passes {route : Route} (passes : Passes route request host.start)
    (methods : route.rule.methods = [.get]) : request.method = .get := by
  have allowed := passes.allowed
  rw [methods] at allowed
  exact mem_singleton.mp (contains_iff_mem.mp allowed)

/-- A request that tells no story leaves the one of the session, or the session is left with none. -/
theorem session_of_silence (silent : host.telling? request = none) :
    storyIn ((serve request).runFrom host).2.session = storyIn host.session ∨
      storyIn ((serve request).runFrom host).2.session = none := by
  rcases serve_session host request with visited | restored
  case inr => exact .inl (by rw [restored])
  rw [visited]
  -- a view of a story leaves the session alone unless it tells one; whatever surrounds a view leaves it alone too
  have around {route : Route} (reached : request.route? = some route) (quiet : Passes route request host.start →
        storyIn ((follow route request.method request.posted).runFrom host.start).2.host.session =
          storyIn host.session) :
      storyIn ((respond request).runFrom host.start).2.host.session = storyIn host.session := by
    rcases respond_cases (v := host.start) reached with ⟨passes, changed⟩ | ⟨-, changed⟩
    · rw [changed.storyIn_eq, quiet passes]
    · rw [changed.storyIn_eq]
      rfl
  by_cases other : ∀ c s, request.route? ≠ some (.generateStory c s) ∧ request.route? ≠ some (.story c s)
  · refine respond_invariant (P := fun v => storyIn v.host.session = storyIn host.session ∨
      storyIn v.host.session = none) (.inl rfl) fun v w _ kept step => ?_
    rcases step.story_kept other with same | gone
    · rwa [same]
    · exact .inr gone
  · simp only [not_forall, not_and_or, not_not] at other
    obtain ⟨c, s, reached | reached⟩ := other
    · refine .inl (around reached fun passes => ?_)
      have absent : host.start.cast? c s = none := by
        simpa [telling?, method_of_passes passes rfl, reached, tell?] using silent
      have quiet : Shows [] host.start _ := generateStory_shows absent
      exact quiet.storyIn_eq
    · refine .inl (around reached fun passes => ?_)
      cases cast : host.start.cast? c s with
      | none =>
        have quiet : Shows [] host.start _ := story_shows cast
        exact quiet.storyIn_eq
      | some pair =>
        obtain ⟨response, w, ran, -, slot⟩ := story_run rfl cast
        have kept : host.start.kept.truthy = true := by
          simpa [telling?, method_of_passes passes rfl, reached, tell?, cast] using silent
        rw [follow, ran, slot, if_pos kept]
        rfl

/-- Along all requests, the story of a session is the one that was told last. -/
theorem session_after (untold : storyIn host.session = none) (requests : List Request) :
    storyIn (host.after requests).session = none ∨
      ∃ last, (host.tellings requests).getLast? = some last ∧ last.story.truthy = true ∧
        storyIn (host.after requests).session = some last.story := by
  induction requests using reverseRecOn with
  | nil => exact .inl untold
  | append_singleton requests request ih =>
    rw [after_concat, tellings_concat]
    cases told : (host.after requests).telling? request with
    | some telling =>
      obtain ⟨slot, truthy⟩ := session_of_telling told
      exact .inr ⟨telling, by simp, truthy, slot⟩
    | none =>
      rcases session_of_silence told with same | gone
      · rwa [same, toList_none, append_nil]
      · exact .inl gone

/-- Of the pages that a request for a story asks for, one at most is the page of a story, and what it is given. -/
theorem respond_story (reached : request.route? = some (.story c s)) {rendering : Rendering}
    (member : rendering ∈ ((respond request).runFrom host.start).2.shown) (page : rendering.page = .story) :
    request.method = .get ∧ ∃ character scenario, host.start.cast? c s = some (character, scenario) ∧
      rendering.context = storyContext character scenario
        (if host.start.kept.truthy then host.start.kept else host.start.tale character scenario) := by
  have other : rendering.page ∉ [Page.notFound, .failure] := by rw [page]; decide
  rcases respond_cases (v := host.start) reached with ⟨passes, changed⟩ | ⟨-, changed⟩
  · refine ⟨method_of_passes passes rfl, ?_⟩
    have viewed := (changed.shown rendering member).resolve_right other
    cases cast : host.start.cast? c s with
    | none =>
      have quiet : Shows [] host.start _ := story_shows cast
      rcases quiet.shown rendering viewed with absent | absent <;> cases absent
    | some pair =>
      obtain ⟨character, scenario⟩ := pair
      obtain ⟨response, w, ran, shown, -⟩ := story_run rfl cast
      rw [follow, ran] at viewed
      rw [shown] at viewed
      obtain rfl := mem_singleton.mp viewed
      exact ⟨character, scenario, rfl, rfl⟩
  · rcases changed.shown rendering member with absent | listed
    · cases absent
    · exact (other listed).elim

/-- A client starts without a story and sends any requests. Whenever the page of a character in a scenario is then
shown, it shows the story that was told last, for whichever character and scenario; it is one for the two of the page
exactly if the session had no story before, or the last one was told for just these two. -/
theorem story_shown_is_last_told (host : Host) (requests : List Request) (view : Request) (c s : Nat)
    (untold : storyIn host.session = none) (reached : view.route? = some (.story c s)) :
    let now := host.after requests
    ∀ rendering ∈ ((Serve.respond view).runFrom now.start).2.shown, rendering.page = .story →
      ∃ character scenario telling,
        now.store.find .character c = .ok (some character) ∧ now.store.find .scenario s = .ok (some scenario) ∧
        (host.tellings (requests ++ [view])).getLast? = some telling ∧
        rendering.context = Visit.storyContext character scenario telling.story ∧
        (telling.character = c ∧ telling.scenario = s ↔
          storyIn now.session = none ∨
            ∃ last, (host.tellings requests).getLast? = some last ∧ last.character = c ∧ last.scenario = s) := by
  intro now rendering member page
  obtain ⟨method, character, scenario, cast, context⟩ := respond_story reached member page
  obtain ⟨foundCharacter, foundScenario⟩ := find_of_cast? cast
  rw [tellings_concat]
  rcases session_after untold requests with untold | ⟨last, told, truthy, slot⟩
  · -- the page tells its own story
    have falsy : now.start.kept.truthy = false := by
      simp [Visit.kept, Host.start, now, untold, Value.truthy]
    have telling : now.telling? view = some ⟨c, s, now.start.tale character scenario⟩ := by
      simp [telling?, method, reached, falsy, tell?, cast]
    refine ⟨character, scenario, ⟨c, s, now.start.tale character scenario⟩, foundCharacter, foundScenario, ?_, ?_, ?_⟩
    · rw [telling, Option.toList_some, List.getLast?_concat]
    · rw [context, falsy]
      rfl
    · simp [now, untold]
  · -- the page shows the story of the session
    have kept : now.start.kept = last.story := by simp [Visit.kept, Host.start, now, slot]
    have silent : now.telling? view = none := by
      simp [telling?, method, reached, kept, truthy]
    refine ⟨character, scenario, last, foundCharacter, foundScenario, ?_, ?_, ?_⟩
    · rw [silent, Option.toList_none, List.append_nil, told]
    · rw [context, kept, if_pos truthy]
    · simp [now, slot, told]

/-- A story is told for Mia. The page of Noa then shows it: Mia's, not Noa's. -/
theorem mia_shown_for_noa :
    let ann : Fields := [("id", .int 1), ("email", .text "ann@x.org")]
    let chef : Fields := [("age", .int 30), ("occupation", .text "Chef"), ("communication_style", .text "calm"),
      ("user_id", .int 1)]
    let mia : Fields := ("id", .int 1) :: ("name", .text "Mia") :: chef
    let noa : Fields := ("id", .int 2) :: ("name", .text "Noa") :: chef
    let park : Fields := [("id", .int 1), ("title", .text "Hunt"), ("setting", .text "Park")]
    let host : Host :=
      { store := { tables := [(.user, { rows := [ann] }), (.character, { rows := [mia, noa] }), (.scenario, { rows := [park] })] }
        session := [("_user_id", .text "1")], now := ⟨0⟩, tag := "", reference := "" }
    let tell : Request := { method := .get, target := "/generate_story/1/1" }
    let view : Request := { method := .get, target := "/view_story/2/1" }
    ∃ rendering ∈ ((Serve.respond view).runFrom (host.after [tell]).start).2.shown, rendering.page = .story ∧
      ∃ character scenario story, rendering.context = Visit.storyContext character scenario story ∧
        (cell character "name").text? = some "Noa" ∧
        (story.field? "introduction").bind Value.text? =
          some ("Mia, a 30-year-old Chef, finds themselves in Park. "
            ++ "With their calm nature, they approach the situation cautiously.") := by
  intro ann chef mia noa park host tell view
  have pages : ((Serve.respond view).runFrom (host.after [tell]).start).2.shown.map (·.page) = [.story] := by
    decide +kernel
  obtain ⟨rendering, shown, page⟩ := List.map_eq_singleton_iff.mp pages
  have member : rendering ∈ ((Serve.respond view).runFrom (host.after [tell]).start).2.shown := by
    rw [shown]
    exact List.mem_singleton_self rendering
  obtain ⟨character, scenario, telling, foundCharacter, -, last, context, -⟩ :=
    story_shown_is_last_told host [tell] view 2 1 rfl (by decide +kernel) rendering member page
  have noa_found :
      ((host.after [tell]).store.find .character 2).toOption.join.map (fun row => (cell row "name").text?) =
        some (some "Noa") := by
    decide +kernel
  have mia_told : (host.tellings ([tell] ++ [view])).getLast?.map
      (fun telling => (telling.story.field? "introduction").bind Value.text?) =
        some (some ("Mia, a 30-year-old Chef, finds themselves in Park. "
          ++ "With their calm nature, they approach the situation cautiously.")) := by
    decide +kernel
  rw [last] at mia_told
  have found : (host.after [tell]).store.find .character 2 = .ok (some character) := foundCharacter
  rw [found] at noa_found
  exact ⟨rendering, member, page, character, scenario, telling.story, context, Option.some.inj noa_found,
    Option.some.inj mia_told⟩

end Host
end Playhouse.Site
