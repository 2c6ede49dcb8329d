/-
# Selecting structs with all that they depend on

A selection is a set of structs, some of them with macros under which alone they
exist. Structs are added with everything that they depend on. Under a macro,
each struct that is reached gains it, but for those that are selected without
any macro: they stay as they are, and what lies behind them is not followed.
Without a macro, structs selected before are not followed again.

Closing fails where a struct depends on an excluded one.
-/
import VulkanFoundry.Generation.Error
import VulkanFoundry.Selection.Dependency
import VulkanFoundry.Selection.Marking

namespace VulkanFoundry

/-- The structs that are generated, by their canonical names. -/
structure Selection where
  structs : NameSet := ∅
  /-- For structs that only platform extensions need, the macros one of which has
  to be defined. -/
  guards : NameMap NameSet := ∅
  deriving DecidableEq

/-- The macros of a struct; none for one that always exists. -/
def Selection.guardsOf (s : Selection) (name : String) : List String :=
  match s.guards.get? name with
  | some macros => macros.names
  | none => []

/-- The selection with the struct added, under a macro or without, unless that
changes nothing that is to be followed. -/
def Selection.visit? (s : Selection) (guard : Option String) (name : String) :
    Option Selection :=
  match guard with
  | none => if s.structs.contains name then none else some { s with structs := s.structs.add name }
  | some condition =>
    if s.structs.contains name && !s.guards.contains name then none
    else
      some {
        structs := s.structs.add name
        guards := s.guards.insert name (((s.guards.get? name).getD ∅).add condition) }

namespace Registry

/-- The canonical name behind the name of a struct. -/
def structName (r : Registry) (name : String) : String :=
  match r.struct? name with
  | some s => s.name
  | none => name

/-- Adds the pending structs, the last of which were reached last, and everything
they depend on. Names that were visited are not visited again. -/
def closeOver (r : Registry) (excluded : NameSet) (guard : Option String)
    (visited pending : List String) (s : Selection) : Except GenerationError Selection :=
  match pending with
  | [] => .ok s
  | name :: rest =>
    if hv : name ∈ visited then closeOver r excluded guard visited rest s
    else
      match s.visit? guard name with
      | none => closeOver r excluded guard visited rest s
      | some s' =>
        match h : r.struct? name with
        | none => closeOver r excluded guard visited rest s'
        | some struct =>
          have : unmarked r.types.names (name :: visited) < unmarked r.types.names visited :=
            unmarked_cons_lt (mem_names_of_struct? h) hv
          match (r.dependencies struct).find? excluded.contains with
          | some dependency => .error (.excludedDependency struct.name dependency)
          | none =>
            closeOver r excluded guard (name :: visited)
              ((r.dependencies struct).reverse ++ rest) s'
termination_by (unmarked r.types.names visited, pending.length)
decreasing_by
  · exact Prod.Lex.right _ (Nat.lt_succ_self _)
  · exact Prod.Lex.right _ (Nat.lt_succ_self _)
  · exact Prod.Lex.right _ (Nat.lt_succ_self _)
  · exact Prod.Lex.left _ _ this

end Registry
end VulkanFoundry
