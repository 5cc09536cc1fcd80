namespace AnnotatedMake

/-- Each element once, at the place of its first occurrence. -/
def distinct {α : Type} [DecidableEq α] : List α → List α
  | [] => []
  | first :: rest => first :: (distinct rest).filter fun other => other ≠ first

theorem mem_distinct {α : Type} [DecidableEq α] {element : α} {list : List α} :
    element ∈ distinct list ↔ element ∈ list := by
  induction list with
  | nil => simp [distinct]
  | cons first rest ih =>
      by_cases same : element = first <;> simp [distinct, same, ih]

theorem distinct_nodup {α : Type} [DecidableEq α] (list : List α) : (distinct list).Nodup := by
  induction list with
  | nil => simp [distinct]
  | cons first rest ih =>
      rw [distinct, List.nodup_cons]
      exact ⟨by simp, ih.sublist List.filter_sublist⟩

end AnnotatedMake
