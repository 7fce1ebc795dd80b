import Mathlib.Logic.Relation
import Playhouse.World.Chance

/-!
Running actions. An action is opened by what it does from a state: its outcome, and the state it
leaves whether it succeeds or not. Chance brings one of the options, whichever they are, as long as there is one.
-/
namespace Playhouse.Act

variable {σ τ α β : Type}

@[simp] theorem runFrom_pure (a : α) (s : σ) : (pure a : Act σ α).runFrom s = (.ok a, s) := rfl

@[simp] theorem runFrom_bind (act : Act σ α) (next : α → Act σ β) (s : σ) :
    (act >>= next).runFrom s =
      match act.runFrom s with
      | (.ok a, t) => (next a).runFrom t
      | (.error fault, t) => (.error fault, t) := by
  have unfolded : (act >>= next).runFrom s = (ExceptT.bindCont next (act.runFrom s).1).run (act.runFrom s).2 := rfl
  rw [unfolded]
  rcases act.runFrom s with ⟨_ | _, t⟩ <;> rfl

@[simp] theorem runFrom_map (f : α → β) (act : Act σ α) (s : σ) :
    (f <$> act).runFrom s = ((act.runFrom s).1.map f, (act.runFrom s).2) := by
  rw [map_eq_pure_bind, runFrom_bind]
  rcases act.runFrom s with ⟨_ | _, t⟩ <;> rfl

@[simp] theorem runFrom_discard (act : Act σ α) (s : σ) :
    (discard act).runFrom s = ((act.runFrom s).1.map fun _ => ⟨⟩, (act.runFrom s).2) := by
  have mapped : discard act = (fun _ => PUnit.unit) <$> act := rfl
  rw [mapped, runFrom_map]

@[simp] theorem runFrom_get (s : σ) : (get : Act σ σ).runFrom s = (.ok s, s) := rfl
@[simp] theorem runFrom_set (s t : σ) : (set t : Act σ PUnit).runFrom s = (.ok ⟨⟩, t) := rfl
@[simp] theorem runFrom_modify (f : σ → σ) (s : σ) : (modify f : Act σ PUnit).runFrom s = (.ok ⟨⟩, f s) := rfl
theorem runFrom_get_bind (next : σ → Act σ α) (s : σ) : (get >>= next).runFrom s = (next s).runFrom s := rfl
@[simp] theorem runFrom_throw (fault : Fault) (s : σ) : (throw fault : Act σ α).runFrom s = (.error fault, s) := rfl
@[simp] theorem runFrom_liftM (result : Except Fault α) (s : σ) : (liftM result : Act σ α).runFrom s = (result, s) := by
  cases result <;> rfl
@[simp] theorem runFrom_outcome (act : Act σ α) (s : σ) :
    act.outcome.runFrom s = (.ok (act.runFrom s).1, (act.runFrom s).2) := rfl
@[simp] theorem runFrom_on (part : τ → σ) (put : σ → τ → τ) (act : Act σ α) (t : τ) :
    (act.on part put).runFrom t = ((act.runFrom (part t)).1, put (act.runFrom (part t)).2 t) := rfl

/-! ### Outcomes -/

section
variable {ε : Type} (a : α) (e : ε)

@[simp] theorem ok_bind (next : α → Except ε β) : (Except.ok a >>= next) = next a := rfl
@[simp] theorem error_bind (next : α → Except ε β) : (Except.error e >>= next) = .error e := rfl
@[simp] theorem pure_eq_ok : (pure a : Except ε α) = .ok a := rfl
@[simp] theorem map_ok (f : α → β) : (.ok a : Except ε α).map f = .ok (f a) := rfl
@[simp] theorem map_error (f : α → β) : (.error e : Except ε α).map f = .error e := rfl
@[simp] theorem toOption_ok : (.ok a : Except ε α).toOption = some a := rfl
@[simp] theorem toOption_error : (.error e : Except ε α).toOption = none := rfl

theorem bind_eq_ok_iff {outcome : Except ε α} {next : α → Except ε β} {b : β} :
    (outcome >>= next) = .ok b ↔ ∃ a, outcome = .ok a ∧ next a = .ok b := by
  cases outcome <;> simp

end

/-! ### What an action keeps -/

/-- Whether it succeeds or not, an action that starts from a state with a property ends in one. -/
def Keeps (P : σ → Prop) (act : Act σ α) : Prop := ∀ s, P s → P (act.runFrom s).2

section
variable {P : σ → Prop}

theorem Keeps.bind {act : Act σ α} {next : α → Act σ β} (first : Keeps P act) (rest : ∀ a, Keeps P (next a)) :
    Keeps P (act >>= next) := by
  intro s holds
  have holds_between := first s holds
  rw [runFrom_bind]
  generalize act.runFrom s = between at holds_between
  obtain ⟨fault | a, t⟩ := between
  · exact holds_between
  · exact rest a t holds_between

theorem keeps_pure (a : α) : Keeps P (pure a : Act σ α) := fun _ holds => holds

theorem keeps_get : Keeps P (get : Act σ σ) := fun _ holds => holds

theorem keeps_liftM (result : Except Fault α) : Keeps P (liftM result : Act σ α) := by
  intro s holds
  rwa [runFrom_liftM]

end

/-! ### What an action does step by step -/

/-- Whether it succeeds or not, an action from a state ends where steps lead. -/
def Follows (step : σ → σ → Prop) (act : Act σ α) (s : σ) : Prop :=
  Relation.ReflTransGen step s (act.runFrom s).2

section
variable {step : σ → σ → Prop} {act : Act σ α} {next : α → Act σ β} {s : σ}

theorem follows_of_unchanged (unchanged : (act.runFrom s).2 = s) : Follows step act s := by
  rw [Follows, unchanged]

theorem follows_of_step (taken : step s (act.runFrom s).2) : Follows step act s := .single taken

theorem follows_pure (a : α) : Follows step (pure a : Act σ α) s := .refl

theorem follows_throw (fault : Fault) : Follows step (throw fault : Act σ α) s := .refl

theorem Follows.outcome (steps : Follows step act s) : Follows step act.outcome s := steps

theorem Follows.bind (first : Follows step act s)
    (rest : ∀ a t, act.runFrom s = (.ok a, t) → Follows step (next a) t) : Follows step (act >>= next) s := by
  unfold Follows at *
  rw [runFrom_bind]
  rcases ran : act.runFrom s with ⟨fault | a, t⟩ <;> rw [ran] at first
  · exact first
  · exact first.trans (rest a t ran)

/-- An action that only looks takes no step. -/
theorem Follows.look (unchanged : (act.runFrom s).2 = s)
    (rest : ∀ a, (act.runFrom s).1 = .ok a → Follows step (next a) s) : Follows step (act >>= next) s := by
  refine .bind (follows_of_unchanged unchanged) fun a t ran => ?_
  rw [ran] at unchanged rest
  subst unchanged
  exact rest a rfl

theorem Follows.getting {next : σ → Act σ β} (rest : Follows step (next s) s) : Follows step (get >>= next) s := rest

end

end Playhouse.Act

/-! ### Lists whose items are decided one by one -/

namespace Playhouse
open List

variable {α : Type}

theorem filterM_eq_filter {verdict : α → Except Fault Bool} {keeps : α → Bool} {items : List α}
    (decided : ∀ item ∈ items, verdict item = .ok (keeps item)) : items.filterM verdict = .ok (items.filter keeps) := by
  have passed : ∀ (items done : List α), (∀ item ∈ items, verdict item = .ok (keeps item)) →
      items.filterAuxM verdict done = .ok ((items.filter keeps).reverse ++ done) := by
    intro items
    induction items with
    | nil => exact fun done _ => rfl
    | cons item items ih =>
      intro done decided
      rw [filterAuxM, decided item mem_cons_self]
      have rest := fun done => ih done (forall_mem_cons.1 decided).2
      cases keep : keeps item with
      | true => simpa [keep, filter_cons] using rest (item :: done)
      | false => simpa [keep, filter_cons] using rest done
  rw [filterM, passed items [] decided]
  simp

/-- What is left when every item is decided on. -/
theorem filter_of_filterM {verdict : α → Except Fault Bool} {items kept : List α}
    (filtered : items.filterM verdict = .ok kept) :
    kept = items.filter fun item => (verdict item).toOption.getD false := by
  have passed : ∀ (items done : List α) {all : List α}, items.filterAuxM verdict done = .ok all →
      ∀ item ∈ items, verdict item = .ok ((verdict item).toOption.getD false) := by
    intro items
    induction items with
    | nil => exact fun _ _ _ item member => absurd member not_mem_nil
    | cons item items ih =>
      intro done all filtered
      rw [filterAuxM] at filtered
      cases decided : verdict item with
      | error fault =>
        rw [decided] at filtered
        cases filtered
      | ok keep =>
        rw [decided] at filtered
        exact forall_mem_cons.2 ⟨by simp [decided], ih _ filtered⟩
  have decided : ∀ item ∈ items, verdict item = .ok ((verdict item).toOption.getD false) := by
    cases all : items.filterAuxM verdict [] with
    | error fault =>
      rw [filterM, all] at filtered
      cases filtered
    | ok reversed => exact passed items [] all
  exact (Except.ok.inj ((filterM_eq_filter decided).symm.trans filtered)).symm

theorem mapM_eq_map {α β : Type} {act : α → Except Fault β} {result : α → β} {items : List α}
    (decided : ∀ item ∈ items, act item = .ok (result item)) : items.mapM act = .ok (items.map result) := by
  induction items with
  | nil => rfl
  | cons item items ih =>
    rw [mapM_cons, decided item mem_cons_self, ih (forall_mem_cons.1 decided).2]
    rfl

theorem exists_mapM {α β : Type} {act : α → Except Fault β} {items : List α}
    (decided : ∀ item ∈ items, ∃ result, act item = .ok result) : ∃ results, items.mapM act = .ok results := by
  induction items with
  | nil => exact ⟨[], rfl⟩
  | cons item items ih =>
    obtain ⟨result, first⟩ := decided item mem_cons_self
    obtain ⟨results, rest⟩ := ih (forall_mem_cons.1 decided).2
    refine ⟨result :: results, ?_⟩
    rw [mapM_cons, first, rest]
    rfl

/-! ### Chance -/

/-- The option at the place that the next number gives, counted round. -/
theorem Chance.pick_run_at {options : List α} (some_ : options ≠ []) (chance : Chance) :
    ∃ option, options[chance.next.1 % options.length]? = some option ∧
      (pick options).runFrom chance = (.ok option, chance.next.2) := by
  have inside := Nat.mod_lt chance.next.1 (length_pos_iff.2 some_)
  refine ⟨options[chance.next.1 % options.length], getElem?_eq_getElem inside, ?_⟩
  have filled : options.isEmpty = false := by simpa using some_
  simp [pick, filled, inside]

theorem Chance.pick_run {options : List α} (some_ : options ≠ []) (chance : Chance) :
    ∃ option ∈ options, (pick options).runFrom chance = (.ok option, chance.next.2) := by
  obtain ⟨option, placed, picks⟩ := pick_run_at some_ chance
  exact ⟨option, mem_of_getElem? placed, picks⟩

theorem Value.pick_texts {options : List String} (some_ : options ≠ []) (chance : Chance) :
    ∃ option ∈ options, (Value.ofTexts options).pick.runFrom chance = (.ok (.text option), chance.next.2) := by
  have filled : options.map Value.text ≠ [] := by simpa using some_
  obtain ⟨picked, among, picks⟩ := Chance.pick_run filled chance
  obtain ⟨option, member, rfl⟩ := mem_map.1 among
  exact ⟨option, member, picks⟩

end Playhouse
