/-
# Structs in the order of their dependencies

The structs that are generated are put into an order in which each comes behind
the structs that it depends on, as far as the dependencies have no cycle. The
order is that of a depth-first traversal which starts from the selected names
in their order, follows dependencies in the order of the members, and emits a
struct when all it leads to has been emitted. A struct is marked when it is
entered, so cycles end there.
-/
import VulkanFoundry.Selection.Dependency
import VulkanFoundry.Selection.Marking

namespace VulkanFoundry

/-- The state of the traversal: the structs entered so far, and those emitted, in
order. -/
structure Emission where
  entered : List String := []
  order : List String := []
  deriving DecidableEq

def Emission.enter (e : Emission) (name : String) : Emission :=
  { e with entered := name :: e.entered }

def Emission.emit (e : Emission) (name : String) : Emission :=
  { e with order := e.order ++ [name] }

namespace Registry

def structNames (r : Registry) : List String := r.structs.map (·.name)

/-- Emits the structs that the names denote, each behind the selected structs it
depends on. -/
def emitAll (r : Registry) (selected : NameSet) (names : List String) (e : Emission) :
    { e' : Emission // e.entered ⊆ e'.entered } :=
  match names with
  | [] => ⟨e, List.Subset.refl _⟩
  | name :: rest =>
    match h : r.struct? name with
    | none => emitAll r selected rest e
    | some s =>
      if hin : s.name ∈ e.entered then emitAll r selected rest e
      else
        have : unmarked r.structNames (s.name :: e.entered) < unmarked r.structNames e.entered :=
          unmarked_cons_lt (List.mem_map_of_mem (mem_structs_of_struct? h)) hin
        let inner := emitAll r selected ((r.dependencies s).filter selected.contains)
          (e.enter s.name)
        have hsub : e.entered ⊆ inner.1.entered :=
          List.Subset.trans (List.subset_cons_self _ _) inner.2
        let outer := emitAll r selected rest (inner.1.emit s.name)
        ⟨outer.1, List.Subset.trans hsub outer.2⟩
termination_by (unmarked r.structNames e.entered, names.length)
decreasing_by
  · exact Prod.Lex.right _ (Nat.lt_succ_self _)
  · exact Prod.Lex.right _ (Nat.lt_succ_self _)
  · exact Prod.Lex.left _ _ this
  · rcases Nat.lt_or_eq_of_le (unmarked_le_of_subset (List.Subset.trans
      (List.subset_cons_self _ _) inner.2)) with h | h
    · exact Prod.Lex.left _ _ h
    · simp only [Emission.enter, Emission.emit, inner] at h ⊢
      rw [h]
      exact Prod.Lex.right _ (Nat.lt_succ_self _)

/-- The canonical names of the selected structs in the order in which they are
generated. -/
def sequence (r : Registry) (selected : NameSet) : List String :=
  (r.emitAll selected selected.names {}).1.order

end Registry
end VulkanFoundry
