/-!
# Sorting

Lists in order, by insertion.
-/

namespace TableMigration.Sorting

variable {α : Type}

/-- Puts an element before the first that is not less than it. -/
def insert (less : α → α → Bool) (a : α) : List α → List α
  | [] => [a]
  | b :: rest => if less b a then b :: insert less a rest else a :: b :: rest

def sort (less : α → α → Bool) : List α → List α
  | [] => []
  | a :: rest => insert less a (sort less rest)

theorem insert_perm (less : α → α → Bool) (a : α) (l : List α) :
    (insert less a l).Perm (a :: l) := by
  induction l with
  | nil => exact .refl _
  | cons b rest ih =>
    unfold insert
    split
    · exact (ih.cons b).trans (.swap a b rest)
    · exact .refl _

theorem sort_perm (less : α → α → Bool) (l : List α) : (sort less l).Perm l := by
  induction l with
  | nil => exact .refl _
  | cons a rest ih => exact (insert_perm less a _).trans (ih.cons a)

end TableMigration.Sorting
