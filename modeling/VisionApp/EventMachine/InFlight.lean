import Mathlib.Data.List.Forall2
import Mathlib.Data.List.Infix

/-!
# Requests in flight

A component keeps the requests it has started in a list, the oldest first, and
an answer may come to any of them, after which it is gone. What a closure does
not say about its request, a history variable can: it keeps an entry for every
request in flight, in a list beside the component's. `Tracks` relates the two.

When the entries are numbered as they are made, the requests in flight have
increasing numbers. If only the oldest is ever answered, the answered ones are
older than all those in flight.
-/

namespace EventMachine

universe u v

section Tracks

variable {Request : Type u} {Entry : Type v} {describes : Request → Entry → Prop}
  {inFlight : List Request} {entries : List Entry}

/-- Every request in flight is described by the entry at its place. -/
def Tracks (describes : Request → Entry → Prop) (inFlight : List Request)
    (entries : List Entry) : Prop :=
  List.Forall₂ describes inFlight entries

namespace Tracks

theorem nil : Tracks describes [] [] :=
  List.Forall₂.nil

theorem start (tracks : Tracks describes inFlight entries) {requests : List Request}
    {fresh : List Entry} (described : Tracks describes requests fresh) :
    Tracks describes (inFlight ++ requests) (entries ++ fresh) :=
  List.rel_append tracks described

theorem single {request : Request} {entry : Entry} (described : describes request entry) :
    Tracks describes [request] [entry] :=
  .cons described .nil

theorem mono {other : Request → Entry → Prop} (tracks : Tracks describes inFlight entries)
    (weaker : ∀ request entry, describes request entry → other request entry) :
    Tracks other inFlight entries :=
  List.Forall₂.imp weaker tracks

theorem answer (tracks : Tracks describes inFlight entries) (index : ℕ) :
    Tracks describes (inFlight.eraseIdx index) (entries.eraseIdx index) := by
  induction tracks generalizing index with
  | nil => exact .nil
  | cons described rest ih =>
      cases index with
      | zero => exact rest
      | succ index => exact .cons described (ih index)

/-- The request that an answer belongs to has an entry. -/
theorem entry (tracks : Tracks describes inFlight entries) {index : ℕ} {request : Request}
    (asked : inFlight[index]? = some request) :
    ∃ entry, entries[index]? = some entry ∧ describes request entry := by
  induction tracks generalizing index with
  | nil => simp at asked
  | @cons first label _ _ described rest ih =>
      cases index with
      | zero =>
          rcases Option.some.inj asked with rfl
          exact ⟨label, rfl, described⟩
      | succ index => exact ih asked

theorem nil_iff (tracks : Tracks describes inFlight entries) : inFlight = [] ↔ entries = [] := by
  rw [← List.length_eq_zero_iff, ← List.length_eq_zero_iff, List.Forall₂.length_eq tracks]

end Tracks

end Tracks

section Numbers

variable {made : ℕ} {numbers answered : List ℕ}

/-- The numbers of the requests in flight, of which `made` were made so far. -/
structure Numbered (made : ℕ) (numbers : List ℕ) : Prop where
  ordered : numbers.Pairwise (· < ·)
  bounded : ∀ number ∈ numbers, number < made

/-- The answered requests are older than those in flight and those to come. -/
def AllNewer (answered : List ℕ) (made : ℕ) (numbers : List ℕ) : Prop :=
  ∀ number ∈ answered, number < made ∧ ∀ newer ∈ numbers, number < newer

namespace Numbered

theorem nil : Numbered 0 [] :=
  ⟨.nil, by simp⟩

theorem start (numbered : Numbered made numbers) (count : ℕ) :
    Numbered (made + count) (numbers ++ List.range' made count) := by
  constructor
  · rw [List.pairwise_append]
    refine ⟨numbered.ordered, List.pairwise_lt_range', ?_⟩
    intro older olderMem newer newerMem
    exact Nat.lt_of_lt_of_le (numbered.bounded older olderMem) (List.mem_range'_1.mp newerMem).1
  · intro number numberMem
    rcases List.mem_append.mp numberMem with older | newer
    · exact Nat.lt_add_right count (numbered.bounded number older)
    · exact (List.mem_range'_1.mp newer).2

theorem answer (numbered : Numbered made numbers) (index : ℕ) :
    Numbered made (numbers.eraseIdx index) :=
  ⟨numbered.ordered.sublist (List.eraseIdx_sublist _ _),
    fun number left => numbered.bounded number (List.mem_of_mem_eraseIdx left)⟩

end Numbered

namespace AllNewer

theorem start (newer : AllNewer answered made numbers) (count : ℕ) :
    AllNewer answered (made + count) (numbers ++ List.range' made count) := by
  intro number wasAnswered
  rcases newer number wasAnswered with ⟨wasMade, older⟩
  refine ⟨Nat.lt_add_right count wasMade, ?_⟩
  intro other otherMem
  rcases List.mem_append.mp otherMem with inFlight | fresh
  · exact older other inFlight
  · exact Nat.lt_of_lt_of_le wasMade (List.mem_range'_1.mp fresh).1

/-- A request that fails is not answered. -/
theorem fail (newer : AllNewer answered made numbers) (index : ℕ) :
    AllNewer answered made (numbers.eraseIdx index) := by
  intro number wasAnswered
  refine ⟨(newer number wasAnswered).1, ?_⟩
  intro other left
  exact (newer number wasAnswered).2 other (List.mem_of_mem_eraseIdx left)

/-- The oldest request is answered, and the others are newer. -/
theorem answerOldest (newer : AllNewer answered made numbers) (numbered : Numbered made numbers) :
    AllNewer (answered ++ numbers[0]?.toList) made (numbers.eraseIdx 0) := by
  intro number wasAnswered
  rcases List.mem_append.mp wasAnswered with earlier | now
  · exact newer.fail 0 number earlier
  · cases numbers with
    | nil => simp at now
    | cons oldest others =>
        simp only [List.getElem?_cons_zero, Option.toList_some, List.mem_singleton] at now
        subst now
        refine ⟨numbered.bounded number List.mem_cons_self, ?_⟩
        intro other otherMem
        exact List.rel_of_pairwise_cons numbered.ordered otherMem

end AllNewer

end Numbers

end EventMachine
