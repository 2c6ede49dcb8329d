/-
# Names marked in a traversal

Traversals of the struct graph mark each name they enter and enter no marked
name again. What is left of a finite universe of names shrinks with every mark,
which is why the traversals end.
-/
namespace VulkanFoundry

/-- How many names of the universe are not marked. -/
def unmarked (everything marked : List String) : Nat :=
  everything.countP fun name => !marked.contains name

theorem unmarked_le_of_subset {everything marked marked' : List String} (h : marked ⊆ marked') :
    unmarked everything marked' ≤ unmarked everything marked := by
  refine List.countP_mono_left fun name _ hname => ?_
  simp only [Bool.not_eq_true', List.contains_eq_mem, decide_eq_false_iff_not] at hname ⊢
  exact fun hm => hname (h hm)

theorem unmarked_cons_lt {name : String} :
    ∀ {everything marked : List String}, name ∈ everything → name ∉ marked →
      unmarked everything (name :: marked) < unmarked everything marked
  | [], _, h, _ => absurd h List.not_mem_nil
  | n :: rest, marked, h, hname => by
    have hle : unmarked rest (name :: marked) ≤ unmarked rest marked :=
      unmarked_le_of_subset (List.subset_cons_self _ _)
    rw [unmarked, unmarked, List.countP_cons, List.countP_cons]
    by_cases hn : n = name
    · have hnew : (name :: marked).contains n = true := by simp [hn]
      have hold : marked.contains n = false := by simpa [hn] using hname
      rw [hnew, hold]
      exact Nat.lt_succ_of_le hle
    · have hrest : name ∈ rest := (List.mem_cons.1 h).resolve_left (Ne.symm hn)
      have hsame : (name :: marked).contains n = marked.contains n := by simp [hn]
      rw [hsame]
      exact Nat.add_lt_add_right (unmarked_cons_lt hrest hname) _

end VulkanFoundry
