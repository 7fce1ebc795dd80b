import Playhouse.Photo.Verification
import Playhouse.Proofs.Data.Measure

/-!
Photos and the least confidence that is asked of them. Whether a photo is confirmed rests on the names of what is seen
in it, on the pose and on the place; no score of an object can lose it. The least confidence of a demand is looked at
nowhere. What can be relied on is the confidence of the verdict: no object that was asked for is seen with a lower
score. A confirmed photo stays confirmed when sightings are added and wanted objects are left out, and neither order nor
repetition matters.
-/
namespace Playhouse.Photo
open Value List

variable {verdict : Verdict} {seen : String × Number} {tree : FileTree} {text path : String}

/-- What a service reports of a photo: names, each with a score. -/
def described (seen : List (String × Number)) : List Sighting :=
  seen.map fun (name, score) => ⟨some (.text name), some (.ofNumber score)⟩

/-- Whether the name of something seen holds a wanted text, in any case. -/
def names (wanted : String) (seen : String × Number) : Bool := occursIn (lowered wanted) (lowered seen.1)

variable {lens : Lens} {demand : Demand} {wanted : List String} {detected places : List (String × Number)}

theorem number?_ofNumber (score : Number) : (ofNumber score).number? = some score := by
  cases score <;> rfl

theorem described_cons (seen : String × Number) (rest : List (String × Number)) :
    described (seen :: rest) = ⟨some (.text seen.1), some (.ofNumber seen.2)⟩ :: described rest := rfl

theorem matches?_text (text : String) (seen : String × Number) (score : Option Value) :
    matches? (.text text) ⟨some (.text seen.1), score⟩ = some (names text seen) := rfl

/-! ### Objects -/

theorem found?_described {best : Value} (text : String) (number : best.number?.isSome)
    (detected : List (String × Number)) :
    found? (.text text) best (described detected) = some (detected.any (names text)) := by
  induction detected generalizing best with
  | nil => rfl
  | cons seen rest ih =>
    have scored : ∀ x ∈ [ofNumber seen.2], x.number?.isSome := by simp [number?_ofNumber]
    obtain ⟨better, greatest, number_better⟩ := (extremes_number (forall_mem_cons.mpr ⟨number, scored⟩)).2
    rw [described_cons, found?, matches?_text]
    cases named : names text seen <;> simp [named, greatest, ih number, ih number_better]

theorem anyMatches?_described (wanted : List String) (seen : String × Number) (score : Option Value) :
    anyMatches? (wanted.map .text) ⟨some (.text seen.1), score⟩ = some (wanted.any fun text => names text seen) := by
  induction wanted with
  | nil => rfl
  | cons text rest ih =>
    rw [map_cons, anyMatches?, matches?_text]
    cases named : names text seen <;> simp [named, ih]

/-- The scores of all that has one of some wanted texts in its name. -/
def scores (wanted : List String) (detected : List (String × Number)) : List Value :=
  detected.filterMap fun seen => if wanted.any (names · seen) then some (.ofNumber seen.2) else none

/-- Goes through a report for the scores of what passes a test of its name. -/
theorem filterMapM_described (wanted : List String) {test : Sighting → Option Bool}
    (tested : ∀ seen score, test ⟨some (.text seen.1), score⟩ = some (wanted.any (names · seen)))
    (detected : List (String × Number)) : ((described detected).filterMapM fun sighting => do
      if ← test sighting then return some (← sighting.score) else return none) = some (scores wanted detected) := by
  induction detected with
  | nil => rfl
  | cons seen rest ih =>
    rw [described_cons, filterMapM_cons, tested, ih, scores, scores, filterMap_cons]
    cases wanted.any (names · seen) <;> rfl

theorem number?_scores {score : Value} (member : score ∈ scores wanted detected) : score.number?.isSome := by
  obtain ⟨seen, -, counted⟩ := mem_filterMap.mp member
  split at counted
  · obtain rfl := Option.some.inj counted
    rw [number?_ofNumber]
    rfl
  · cases counted

/-- The least of some scores. -/
def sureness? : List Value → Option Value
  | [] => some (.float 0.0)
  | score :: rest => least? score rest

theorem sureness?_number (wanted : List String) (detected : List (String × Number)) :
    ∃ sureness, sureness? (scores wanted detected) = some sureness ∧ sureness.number?.isSome := by
  cases listed : scores wanted detected with
  | nil => exact ⟨.float 0.0, rfl, rfl⟩
  | cons score rest =>
    have numbers : ∀ x ∈ score :: rest, x.number?.isSome := fun x member => number?_scores (listed ▸ member)
    exact (extremes_number numbers).1

theorem mapM_texts {find : Value → Option Bool} {found : String → Bool}
    (decided : ∀ text, find (.text text) = some (found text)) (wanted : List String) :
    (wanted.map Value.text).mapM find = some (wanted.map found) := by
  induction wanted with
  | nil => rfl
  | cons text rest ih => simp [decided, ih]

/-- All wanted texts are looked for in the names alone; the scores give how sure that is. -/
theorem objects?_described (wanted : List String) (detected : List (String × Number)) :
    objects? (wanted.map .text) (described detected) = (sureness? (scores wanted detected)).map fun sureness =>
        (wanted.all fun text => detected.any (names text), sureness) := by
  have looked : ∀ text, (if (Value.text text).isKey then found? (.text text) (.float 0.0) (described detected)
      else none) = some (detected.any (names text)) := fun text => found?_described text rfl detected
  have searched : ((wanted.map Value.text).mapM fun wanted =>
      if wanted.isKey then found? wanted (.float 0.0) (described detected) else none) =
      some (wanted.map fun text => detected.any (names text)) := mapM_texts looked wanted
  unfold objects?
  rw [searched, filterMapM_described wanted (anyMatches?_described wanted)]
  have all : (wanted.map fun text => detected.any (names text)).all id =
      wanted.all fun text => detected.any (names text) := by simp [all_map]
  cases scores wanted detected with
  | nil => simp [sureness?, all]
  | cons score rest => cases least : least? score rest <;> simp [sureness?, all, least]

theorem placeSeen?_described (text : String) (places : List (String × Number)) :
    placeSeen? (.text text) (described places) = some (places.any (names text)) := by
  induction places with
  | nil => rfl
  | cons seen rest ih =>
    rw [described_cons, placeSeen?, matches?_text]
    cases named : names text seen <;> simp [named, ih]

theorem place?_described (text : String) (places : List (String × Number)) :
    ∃ confidence, place? (.text text) (described places) = some ⟨places.any (names text), confidence⟩ ∧
      confidence.number?.isSome := by
  unfold place?
  rw [placeSeen?_described, filterMapM_described [text] (by simp [matches?_text])]
  cases listed : scores [text] places with
  | nil => exact ⟨.float 0.0, rfl, rfl⟩
  | cons score rest =>
    have numbers : ∀ x ∈ score :: rest, x.number?.isSome := fun x member => number?_scores (listed ▸ member)
    obtain ⟨confidence, greatest, number⟩ := (extremes_number numbers).2
    exact ⟨confidence, by simp [greatest], number⟩

theorem place?_unnamed {required : Value} (unnamed : ∀ text, required ≠ .text text)
    (judged : place? required (described places) = some verdict) : verdict.confirmed = false := by
  have no_text : required.text? = none := by
    cases required with
    | text text => exact (unnamed text rfl).elim
    | _ => rfl
  cases places with
  | nil =>
    obtain rfl := Option.some.inj judged
    rfl
  | cons seen rest =>
    rw [described_cons, place?, placeSeen?, matches?, no_text] at judged
    cases judged

/-! ### Verdicts -/

/-- The verdict on the pose; where none is demanded every pose will do. -/
def poseVerdict (lens : Lens) (demand : Demand) : Verdict :=
  if demand.pose.truthy then checkPose (detectPose lens) demand.pose else ⟨true, .float 1.0⟩

/-- The verdict on the place; where none is demanded every place will do. -/
def placeVerdict? (lens : Lens) (demand : Demand) : Option Verdict :=
  if demand.place.truthy then place? demand.place lens.places else some ⟨true, .float 1.0⟩

/-- A verdict is put together from those on the objects, the pose and the place. The least confidence of the demand
has no part in it. -/
theorem judge?_iff : judge? lens demand = some verdict ↔
    lens.visionStarts ∧ ∃ required found place confidence, demand.wanted? = some required ∧
      objects? required lens.objects = some found ∧ placeVerdict? lens demand = some place ∧
      least? found.2 [(poseVerdict lens demand).confidence, place.confidence] = some confidence ∧
      ⟨found.1 && (poseVerdict lens demand).confirmed && place.confirmed, confidence⟩ = verdict := by
  have parts : judge? lens demand = (do
      if !lens.visionStarts then none
      let found ← objects? (← demand.wanted?) lens.objects
      let place ← placeVerdict? lens demand
      let confidence ← least? found.2 [(poseVerdict lens demand).confidence, place.confidence]
      return ⟨found.1 && (poseVerdict lens demand).confirmed && place.confirmed, confidence⟩) := by
    unfold judge? placeVerdict?
    cases demand.place.truthy <;> rfl
  rw [parts]
  cases lens.visionStarts <;> simp [Option.bind_eq_some_iff]

/-- The pose of a demand is held, and how sure that is can be said with a number. -/
def HoldsPose (lens : Lens) (demand : Demand) : Prop :=
  demand.pose.truthy → (checkPose (detectPose lens) demand.pose).confirmed ∧
    (checkPose (detectPose lens) demand.pose).confidence.number?.isSome

/-- The place of a demand is among those recognised. -/
def AtPlace (places : List (String × Number)) (demand : Demand) : Prop :=
  demand.place.truthy → ∃ text, demand.place = .text text ∧ ∃ seen ∈ places, names text seen

theorem holdsPose_iff :
    HoldsPose lens demand ↔
      (poseVerdict lens demand).confirmed ∧ (poseVerdict lens demand).confidence.number?.isSome := by
  unfold HoldsPose poseVerdict
  cases demand.pose.truthy with
  | false => simp [number?]
  | true => simp

theorem atPlace_iff (located : lens.places = described places) :
    AtPlace places demand ↔
      ∃ place, placeVerdict? lens demand = some place ∧ place.confirmed ∧ place.confidence.number?.isSome := by
  unfold AtPlace placeVerdict?
  rw [located]
  cases demand.place.truthy with
  | false => exact ⟨fun _ => ⟨_, rfl, rfl, rfl⟩, fun _ demanded => by cases demanded⟩
  | true =>
    rw [if_pos rfl]
    constructor
    · intro recognised
      obtain ⟨text, named, seen, member, holds⟩ := recognised rfl
      obtain ⟨confidence, judged, number⟩ := place?_described text places
      exact ⟨_, named ▸ judged, any_eq_true.mpr ⟨seen, member, holds⟩, number⟩
    · rintro ⟨verdict, judged, confirmed, -⟩ -
      by_cases named : ∃ text, demand.place = .text text
      · obtain ⟨text, named⟩ := named
        obtain ⟨confidence, judged_text, -⟩ := place?_described text places
        rw [named, judged_text, Option.some.injEq] at judged
        subst judged
        exact ⟨text, named, any_eq_true.mp confirmed⟩
      · have refused := place?_unnamed (fun text same => named ⟨text, same⟩) judged
        rw [confirmed] at refused
        cases refused

section
variable (asked : demand.wanted? = some (wanted.map .text)) (reported : lens.objects = described detected)
include asked reported

theorem judge?_eq_some_iff :
    judge? lens demand = some verdict ↔
      lens.visionStarts ∧ ∃ sureness place confidence, sureness? (scores wanted detected) = some sureness ∧
        placeVerdict? lens demand = some place ∧
        least? sureness [(poseVerdict lens demand).confidence, place.confidence] = some confidence ∧
        ⟨(wanted.all fun text => detected.any (names text)) && (poseVerdict lens demand).confirmed &&
          place.confirmed, confidence⟩ = verdict := by
  rw [judge?_iff, asked, reported]
  refine and_congr_right fun _ => ⟨?_, ?_⟩
  · rintro ⟨_, _, place, confidence, ⟨⟩, found, rest⟩
    rw [objects?_described, Option.map_eq_some_iff] at found
    obtain ⟨sureness, sure, rfl⟩ := found
    exact ⟨sureness, place, confidence, sure, rest⟩
  · rintro ⟨sureness, place, confidence, sure, rest⟩
    exact ⟨_, (_, sureness), place, confidence, rfl, by rw [objects?_described, sure]; rfl, rest⟩

/-- A photo that can be looked at is confirmed by names, pose and place alone. -/
theorem judge?_confirmed_iff (located : lens.places = described places) :
    (∃ verdict, judge? lens demand = some verdict ∧ verdict.confirmed) ↔
      lens.visionStarts ∧ (∀ text ∈ wanted, ∃ seen ∈ detected, names text seen) ∧ HoldsPose lens demand ∧
        AtPlace places demand := by
  have every : (wanted.all fun text => detected.any (names text)) = true ↔
      ∀ text ∈ wanted, ∃ seen ∈ detected, names text seen := by simp
  rw [holdsPose_iff, atPlace_iff located, ← every]
  constructor
  · rintro ⟨verdict, judged, confirmed⟩
    obtain ⟨starts, sureness, place, confidence, sure, placed, least, rfl⟩ :=
      (judge?_eq_some_iff asked reported).mp judged
    obtain ⟨sureness', sure', number⟩ := sureness?_number wanted detected
    obtain rfl : sureness = sureness' := Option.some.inj (sure.symm.trans sure')
    simp only [Bool.and_eq_true] at confirmed
    obtain ⟨⟨found, posed⟩, recognised⟩ := confirmed
    have numbers := numbers_of_least? least number
    exact ⟨starts, found, ⟨posed, numbers _ (by simp)⟩, place, placed, recognised, numbers _ (by simp)⟩
  · rintro ⟨starts, found, ⟨posed, number_pose⟩, place, placed, recognised, number_place⟩
    obtain ⟨sureness, sure, number⟩ := sureness?_number wanted detected
    have numbers : ∀ x ∈ [(poseVerdict lens demand).confidence, place.confidence], x.number?.isSome := by
      simp [number_pose, number_place]
    obtain ⟨confidence, least, -⟩ := (extremes_number (forall_mem_cons.mpr ⟨number, numbers⟩)).1
    refine ⟨_, (judge?_eq_some_iff asked reported).mpr
      ⟨starts, sureness, place, confidence, sure, placed, least, rfl⟩, ?_⟩
    simp [found, posed, recognised]

end

theorem verify_of_judged (there : tree.exists? path)
    (judged : judge? lens demand = some verdict) : (verify lens path demand tree).1 = verdict := by
  rw [verify, if_pos there, judged]
  rfl

/-- Only a photo that is there and was judged is confirmed. -/
theorem judged_of_confirmed (confirmed : (verify lens path demand tree).1.confirmed) :
    tree.exists? path ∧ judge? lens demand = some (verify lens path demand tree).1 := by
  by_cases there : tree.exists? path
  · refine ⟨there, ?_⟩
    cases judged : judge? lens demand with
    | none =>
      rw [verify, if_pos there, judged] at confirmed
      cases confirmed
    | some verdict => rw [verify_of_judged there judged]
  · rw [verify, if_neg there] at confirmed
    cases confirmed

theorem verify_confirmed_iff :
    (verify lens path demand tree).1.confirmed ↔
      tree.exists? path ∧ ∃ verdict, judge? lens demand = some verdict ∧ verdict.confirmed := by
  constructor
  · intro confirmed
    obtain ⟨there, judged⟩ := judged_of_confirmed confirmed
    exact ⟨there, _, judged, confirmed⟩
  · rintro ⟨there, verdict, judged, confirmed⟩
    rwa [verify_of_judged there judged]

/-- The services as they see some objects and places in a photo. -/
def Lens.seeing (lens : Lens) (detected places : List (String × Number)) : Lens :=
  { lens with objects := described detected, places := described places }

/-- What is asked of a photo, with other objects. -/
def Demand.asking (demand : Demand) (objects : Value) : Demand := { demand with objects }

variable {wanted wanted' : List Value} {detected' places' : List (String × Number)} {objects objects' : Value}

/-! ### What can be wanted -/

/-- What is no text is found nowhere: among no sightings it is not seen, and any sighting makes the search fail. -/
theorem found?_unnamed {value best : Value} (unnamed : value.text? = none) (detected : List (String × Number)) :
    found? value best (described detected) ≠ some true := by
  cases detected with
  | nil => simp [described, found?]
  | cons seen rest => simp [described_cons, found?, matches?, unnamed]

theorem mapM_all_true {α : Type} {find : α → Option Bool} {values : List α} {found : List Bool}
    (ran : values.mapM find = some found) (all : found.all id = true) : ∀ value ∈ values, find value = some true := by
  induction values generalizing found with
  | nil => exact forall_mem_nil _
  | cons value rest ih =>
    simp only [mapM_cons, Option.bind_eq_bind, Option.bind_eq_some_iff, Option.pure_def, Option.some.injEq] at ran
    obtain ⟨first, finds, others, ran_rest, rfl⟩ := ran
    simp only [all_cons, id_eq, Bool.and_eq_true] at all
    exact forall_mem_cons.mpr ⟨all.1 ▸ finds, ih ran_rest all.2⟩

theorem exists_texts (each : ∀ value ∈ wanted, value.text?.isSome) :
    ∃ texts : List String, wanted = texts.map Value.text := by
  induction wanted with
  | nil => exact ⟨[], rfl⟩
  | cons value rest ih =>
    obtain ⟨first, others⟩ := forall_mem_cons.mp each
    obtain ⟨texts, rfl⟩ := ih others
    cases value with
    | text text => exact ⟨text :: texts, rfl⟩
    | _ => cases first

theorem texts_of_objects? {sureness : Value} (found : objects? wanted (described detected) = some (true, sureness)) :
    ∃ texts : List String, wanted = texts.map Value.text := by
  simp only [objects?, Option.bind_eq_bind, Option.bind_eq_some_iff, Option.pure_def] at found
  obtain ⟨all, searched, hits, -, gives⟩ := found
  have every : all.all id = true := by
    cases hits with
    | nil => simpa using (Prod.mk.inj (Option.some.inj gives)).1
    | cons score rest =>
      obtain ⟨confidence, -, both⟩ := Option.bind_eq_some_iff.mp gives
      exact (Prod.mk.inj (Option.some.inj both)).1
  refine exists_texts fun value member => ?_
  have finds := mapM_all_true searched every value member
  split at finds
  · rw [Option.isSome_iff_ne_none]
    exact fun unnamed => found?_unnamed unnamed detected finds
  · cases finds

/-! ### What is confirmed -/

/-- Only texts are wanted of a photo that is confirmed. -/
theorem texts_of_confirmed (asked : demand.wanted? = some wanted) (reported : lens.objects = described detected)
    {verdict : Verdict} (judged : judge? lens demand = some verdict) (confirmed : verdict.confirmed) :
    ∃ texts : List String, wanted = texts.map Value.text := by
  obtain ⟨-, required, ⟨all, sureness⟩, place, confidence, required_eq, found, -, -, rfl⟩ := judge?_iff.mp judged
  obtain rfl := Option.some.inj (asked.symm.trans required_eq)
  simp only [Bool.and_eq_true] at confirmed
  rw [reported] at found
  exact texts_of_objects? (confirmed.1.1 ▸ found)

theorem AtPlace.mono (recognised : AtPlace places demand) (more : places ⊆ places') : AtPlace places' demand := by
  intro demanded
  obtain ⟨text, named, seen, member, holds⟩ := recognised demanded
  exact ⟨text, named, seen, more member, holds⟩

/-- A confirmed photo is confirmed again where more is seen and less is wanted. -/
theorem confirmed_of_subset (asked : (demand.asking objects).wanted? = some wanted)
    (asked' : (demand.asking objects').wanted? = some wanted') (more_objects : detected ⊆ detected')
    (more_places : places ⊆ places') (fewer : wanted' ⊆ wanted)
    (confirmed : (verify (lens.seeing detected places) path (demand.asking objects) tree).1.confirmed) :
    (verify (lens.seeing detected' places') path (demand.asking objects') tree).1.confirmed := by
  rw [verify_confirmed_iff] at confirmed ⊢
  obtain ⟨there, verdict, judged, confirms⟩ := confirmed
  obtain ⟨texts, rfl⟩ := texts_of_confirmed asked rfl judged confirms
  obtain ⟨texts', rfl⟩ : ∃ texts' : List String, wanted' = texts'.map Value.text := by
    refine exists_texts fun value member => ?_
    obtain ⟨text, -, rfl⟩ := mem_map.mp (fewer member)
    rfl
  have fewer_texts : texts' ⊆ texts := by
    intro text member
    obtain ⟨other, listed, same⟩ := mem_map.mp (fewer (mem_map_of_mem member))
    exact Value.text.inj same ▸ listed
  obtain ⟨starts, found, posed, placed⟩ := (judge?_confirmed_iff asked rfl rfl).mp ⟨verdict, judged, confirms⟩
  refine ⟨there, (judge?_confirmed_iff asked' rfl rfl).mpr ⟨starts, fun text listed => ?_, posed, ?_⟩⟩
  · obtain ⟨seen, member, named⟩ := found text (fewer_texts listed)
    exact ⟨seen, more_objects member, named⟩
  · exact AtPlace.mono placed more_places

/-- **Verdicts are monotone.** With the pose, the place and the least confidence of a demand as they are, and whatever
the services make of the image and the pose: a photo that is confirmed stays so when the objects and the places seen
hold all of those before and every wanted object was wanted before. So with the same objects and places seen and the
same objects wanted the verdict is the same, whatever their order and however often each occurs. -/
theorem verdict_monotone (lens : Lens) (path : String) (demand : Demand) (tree : FileTree)
    (detected detected' places places' : List (String × Number)) (objects objects' : Value)
    (wanted wanted' : List Value) (asked : (demand.asking objects).wanted? = some wanted)
    (asked' : (demand.asking objects').wanted? = some wanted') :
    let verdict := (verify (lens.seeing detected places) path (demand.asking objects) tree).1
    let verdict' := (verify (lens.seeing detected' places') path (demand.asking objects') tree).1
    (detected ⊆ detected' → places ⊆ places' → wanted' ⊆ wanted → verdict.confirmed → verdict'.confirmed) ∧
    ((∀ seen, seen ∈ detected ↔ seen ∈ detected') → (∀ seen, seen ∈ places ↔ seen ∈ places') →
      (∀ value, value ∈ wanted ↔ value ∈ wanted') → verdict.confirmed = verdict'.confirmed) := by
  intro verdict verdict'
  refine ⟨confirmed_of_subset asked asked', fun same_objects same_places same_wanted => Bool.eq_iff_iff.mpr ⟨?_, ?_⟩⟩
  · exact confirmed_of_subset asked asked' (fun _ => (same_objects _).mp) (fun _ => (same_places _).mp)
      fun _ => (same_wanted _).mpr
  · exact confirmed_of_subset asked' asked (fun _ => (same_objects _).mpr) (fun _ => (same_places _).mpr)
      fun _ => (same_wanted _).mp

/-- Someone with raised hands and a cup before a tower, first with two objects asked for, then with one of them only and
with more to be seen: a dog, the cup once more, and a lake. -/
theorem raised_hands_confirmed_again :
    let point (height : Int) : Fields := [("x", .int 0), ("y", .int height), ("z", .int 0), ("visibility", .int 1)]
    let lens : Lens := { image := .readable, posture := .landmarks (point 2 :: List.replicate 16 (point 1)) }
    let demand : Demand := { objects := .null, pose := .text "hands_up", place := .text "tower" }
    let tree : FileTree := { entries := [("p.jpg", .file "")] }
    let cup : String × Number := ("Coffee cup", .float 0.9)
    let tower : String × Number := ("Eiffel Tower", .float 0.8)
    (verify (lens.seeing [cup] [tower]) "p.jpg" (demand.asking (.ofTexts ["cup", "coffee"])) tree).1.confirmed ∧
      (verify (lens.seeing [("Dog", .float 0.1), cup, cup] [("Lake", .int 1), tower]) "p.jpg"
        (demand.asking (.text "coffee")) tree).1.confirmed := by
  intro point lens demand tree cup tower
  have confirmed :
      (verify (lens.seeing [cup] [tower]) "p.jpg" (demand.asking (.ofTexts ["cup", "coffee"])) tree).1.confirmed := by
    decide +kernel
  obtain ⟨again, -⟩ := verdict_monotone lens "p.jpg" demand tree [cup] [("Dog", .float 0.1), cup, cup] [tower]
    [("Lake", .int 1), tower] (.ofTexts ["cup", "coffee"]) (.text "coffee") _ _ rfl rfl
  exact ⟨confirmed, again (by simp) (by simp) (by simp) confirmed⟩

end Playhouse.Photo
