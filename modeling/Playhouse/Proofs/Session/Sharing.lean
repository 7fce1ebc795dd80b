import Playhouse.Proofs.Act
import Playhouse.Session.Shared

/-!
Records that stand in no history yet. Such a record is recorded as a copy of it would be, so what holds of events that
nobody keeps holds of it too.
-/
namespace Playhouse.Shared
open Act List Sessions

variable {places : List (Value × Nat × Nat)} {number : Nat}

theorem rewrite_of_free (free : ∀ held ∈ places, held.2.2 ≠ number) (event id : Value) (session : Fields) :
    rewrite places number event id session = session := by
  rw [rewrite]
  induction places with
  | nil => rfl
  | cons held places ih =>
    obtain ⟨other, free_rest⟩ := forall_mem_cons.1 free
    have no : (held.2.2 == number && held.1.equal id) = false := by simp [other]
    simp only [foldl_cons, no]
    exact ih free_rest

theorem rewriteAll_of_free (free : ∀ held ∈ places, held.2.2 ≠ number) (event : Value) (s : Sessions) :
    rewriteAll places number event s = s := by
  rw [rewriteAll, map_id'']
  rintro ⟨id, session⟩
  cases session with
  | record fields => simp only [rewrite_of_free free]
  | _ => rfl

/-- Giving a record that stands nowhere has the result of recording a copy of it, and leaves the same sessions. -/
theorem record_of_free {shared : Shared} (free : ∀ held ∈ shared.places, held.2.2 ≠ number) (id : Value) :
    let alone := (Sessions.record id (shared.records.getD number .null)).runFrom shared.sessions
    let outcome := (record id number).runFrom shared
    outcome.1 = alone.1 ∧ outcome.2.sessions = alone.2 := by
  simp only [Sessions.record, record, runFrom_bind, onSessions, runFrom_on]
  rcases (get? id).runFrom shared.sessions with ⟨fault | _ | session, s⟩
  · exact ⟨rfl, rfl⟩
  · exact ⟨rfl, rfl⟩
  · simp only [runFrom_bind, runFrom_get, runFrom_on]
    rcases (timed (shared.records.getD number .null)).runFrom s with ⟨fault | event, t⟩
    · exact ⟨rfl, rfl⟩
    · simp [rewrite_of_free free, rewriteAll_of_free free]

/-- Whatever else is done with the sessions, the record still stands nowhere. -/
theorem free_meanwhile {shared : Shared} (free : ∀ held ∈ shared.places, held.2.2 ≠ number)
    (act : Sessions → Sessions) (replaced : Option String) :
    ∀ held ∈ (shared.meanwhile act replaced).places, held.2.2 ≠ number :=
  fun held member => free held (mem_filter.1 member).1

end Playhouse.Shared
