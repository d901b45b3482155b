/-!
# Lists that are told by their marks

A text is a list of marks, such as characters or tokens. A part of a text is told if no other
part of its kind could stand in its place, whatever follows: from the marks of the part and of
what follows, both are known.

Where parts are joined by a mark, each of them ends at that mark or where the list ends. So a
list is told if its parts are told up to the mark that joins them.
-/
namespace DomainSql

section
variable {α μ : Type}

/-- Equal marks of two entries, whatever follows them, come from equal entries that are followed
by the same. -/
def Told (read : α → List μ) (ends : List μ → Prop) (first second : α) : Prop :=
  ∀ rest rest', ends rest → ends rest' → read first ++ rest = read second ++ rest' →
    first = second ∧ rest = rest'

/-- None of some marks comes next. -/
def Stops (marks : List μ) (rest : List μ) : Prop := ∀ mark ∈ marks, rest.head? ≠ some mark

variable {marks others rest tail : List μ} {mark : μ}

/-- If none of some marks comes next, then none of fewer marks does. -/
theorem Stops.mono (stops : Stops marks rest) (fewer : others ⊆ marks) : Stops others rest := by
  intro mark listed
  exact stops mark (fewer listed)

/-- Where another mark comes next, none of the marks does. -/
theorem stops_cons (absent : mark ∉ marks) : Stops marks (mark :: tail) := by
  rintro other listed same
  cases same
  exact absent listed

/-- Where none of the marks comes next, what follows does not start with one of them. -/
theorem Stops.ne_cons (stops : Stops marks rest) (listed : mark ∈ marks) :
    rest ≠ mark :: tail := by
  rintro rfl
  exact stops mark listed rfl

end

/-- A list is a single part, or a part that is joined to another list by a mark. -/
structure Joined {α β μ : Type} (sign : μ) (part : α → List μ) (list : β → List μ)
    (single : α → β) (join : α → β → β) : Prop where
  shape : ∀ joined, (∃ first, joined = single first) ∨ ∃ first rest, joined = join first rest
  marks_single : ∀ first, list (single first) = part first
  marks_join : ∀ first rest, list (join first rest) = part first ++ sign :: list rest

namespace Joined
variable {α β μ : Type} {sign : μ} {marks : List μ} {part : α → List μ} {list : β → List μ}
  {single : α → β} {join : α → β → β} {first : α}

/-- A single part is told where neither the mark comes next nor one that goes on with the part.
In a list of more parts the mark stands where the single part ends. -/
theorem told_single (joined : Joined sign part list single join) (apart : sign ∉ marks)
    (told : ∀ other, Told part (Stops marks) first other) (second : β) :
    Told list (Stops (sign :: marks)) (single first) second := by
  intro rest rest' stops stops' same
  have more : marks ⊆ sign :: marks := List.subset_cons_self sign marks
  rcases joined.shape second with ⟨other, rfl⟩ | ⟨other, others, rfl⟩
  · rw [joined.marks_single, joined.marks_single] at same
    obtain ⟨rfl, sameRest⟩ := told other _ _ (stops.mono more) (stops'.mono more) same
    exact ⟨rfl, sameRest⟩
  · rw [joined.marks_single, joined.marks_join, List.append_assoc] at same
    have behind := (told other _ _ (stops.mono more) (stops_cons apart) same).2
    exact absurd behind (stops.ne_cons List.mem_cons_self)

/-- A list of more parts is told if its first part is, and the list behind that. -/
theorem told_join (joined : Joined sign part list single join) (apart : sign ∉ marks)
    (told : ∀ other, Told part (Stops marks) first other) {behindFirst : β}
    (toldBehind : ∀ other, Told list (Stops (sign :: marks)) behindFirst other) (second : β) :
    Told list (Stops (sign :: marks)) (join first behindFirst) second := by
  intro rest rest' stops stops' same
  have more : marks ⊆ sign :: marks := List.subset_cons_self sign marks
  rcases joined.shape second with ⟨other, rfl⟩ | ⟨other, others, rfl⟩
  · rw [joined.marks_single, joined.marks_join, List.append_assoc] at same
    have behind := (told other _ _ (stops_cons apart) (stops'.mono more) same).2
    exact absurd behind.symm (stops'.ne_cons List.mem_cons_self)
  · rw [joined.marks_join, joined.marks_join, List.append_assoc, List.append_assoc] at same
    obtain ⟨rfl, behind⟩ := told other _ _ (stops_cons apart) (stops_cons apart) same
    obtain ⟨rfl, sameRest⟩ := toldBehind others _ _ stops stops' (List.cons.inj behind).2
    exact ⟨rfl, sameRest⟩

end Joined

end DomainSql
