/-
# Arrays of structs and the loops that copy them

A struct in an array of fixed size is stored as its factory in arrays within arrays, one
level for each dimension, and is written into the plain struct by loops within loops. Type
and loops are read off the same dimensions, but each in its own way: the type is put
together from the inside, and the loops are written as all their heads, the statement
inside and all their ends. Both are trees that follow the list of dimensions
(`arrayExpr_eq_text`, `copyLoops_eq_text`), the first dimension on the outside, and the
text of either is the text of its tree.

So they agree on what an array is: whatever numbers the dimensions stand for, the loops
copy the elements that the type has, in the order in which it has them, and each of them
once (`CopyLoop.places_ofSizes`).

Key theorems: `ArrayType.mem_places_iff`, `Registry.copies_agree_with_storedType`.
-/
import Mathlib.Data.List.Nodup
import Mathlib.Logic.Function.Basic
import VulkanFoundry.Factory.Statement
import VulkanFoundry.Proofs.Storage.StorableTypes

namespace VulkanFoundry

open Code (pad)

variable {element : String} {sizes : List ArraySize} {extent : ArraySize → Nat}

/-! ### Types of arrays -/

/-- The type of an element, or of an array of values of another such type. -/
inductive ArrayType where
  | element (expr : String)
  | array (inner : ArrayType) (size : ArraySize)

namespace ArrayType

/-- The type of the arrays with the dimensions, the first on the outside. -/
def ofSizes (element : String) : List ArraySize → ArrayType
  | [] => .element element
  | size :: sizes => .array (ofSizes element sizes) size

def text : ArrayType → String
  | .element expr => expr
  | .array inner size => "std::array<" ++ inner.text ++ ", " ++ arrayExtent size ++ ">"

/-- The indices at which values of the type have elements, the outermost index first, in
the order of the elements. -/
def places (extent : ArraySize → Nat) : ArrayType → List (List Nat)
  | .element _ => [[]]
  | .array inner size =>
    (List.range (extent size)).flatMap fun i => (inner.places extent).map (i :: ·)

/-- An element stands wherever each index is below its dimension, and nowhere else. -/
theorem mem_places_iff : ∀ {sizes : List ArraySize} {place : List Nat},
    place ∈ (ofSizes element sizes).places extent ↔
      List.Forall₂ (fun i size => i < extent size) place sizes
  | [], place => by simp [ofSizes, places]
  | size :: sizes, place => by
    simp only [ofSizes, places, List.mem_flatMap, List.mem_range, List.mem_map,
      List.forall₂_cons_right_iff, mem_places_iff]
    constructor
    · rintro ⟨i, hi, rest, hrest, rfl⟩
      exact ⟨i, rest, hi, hrest, rfl⟩
    · rintro ⟨i, rest, hi, hrest, rfl⟩
      exact ⟨i, hi, rest, hrest, rfl⟩

theorem nodup_places : ∀ t : ArrayType, (t.places extent).Nodup
  | .element _ => List.nodup_singleton _
  | .array inner size => by
    refine List.nodup_flatMap.2 ⟨fun i _ => ?_, ?_⟩
    · exact (nodup_places inner).map (List.cons_injective)
    · refine List.nodup_range.imp fun {i j} hij place hi hj => ?_
      obtain ⟨rest, -, rfl⟩ := List.mem_map.1 hi
      obtain ⟨rest', -, h⟩ := List.mem_map.1 hj
      exact hij (List.cons.inj h).1.symm

end ArrayType

/-- The type that is put together from the inside. -/
theorem arrayExpr_eq_text (element : String) : ∀ sizes : List ArraySize,
    arrayExpr element sizes = (ArrayType.ofSizes element sizes).text
  | [] => rfl
  | size :: sizes => by
    rw [ArrayType.ofSizes, ArrayType.text, ← arrayExpr_eq_text element sizes]
    rfl

/-! ### Loops -/

/-- The statement that copies the element at the values of some counters, or a loop. -/
inductive CopyLoop where
  | copy (counters : List Nat)
  | loop (counter : Nat) (size : ArraySize) (body : CopyLoop)

namespace CopyLoop

/-- The loops for the dimensions from the given one on, the first of them on the outside.
Inside of all, the element is the one at all counters there are, in their order. -/
def ofSizes (dimension : Nat) : List ArraySize → CopyLoop
  | [] => .copy (List.range dimension)
  | size :: sizes => .loop dimension size (ofSizes (dimension + 1) sizes)

def subscripts (counters : List Nat) : String :=
  String.join (counters.map fun k => "[" ++ loopIndex k ++ "]")

def text (target source : String) (depth : Nat) : CopyLoop → String
  | .copy counters =>
    pad depth ++ target ++ subscripts counters ++ " = " ++ source ++ subscripts counters ++
      ".Generate(sidecar.Subordinate());\n"
  | .loop counter size body =>
    let i := loopIndex counter
    pad depth ++ "for (size_t " ++ i ++ " = 0; " ++ i ++ " < " ++ arrayExtent size ++ "; ++" ++
      i ++ ") \x7b\n" ++ body.text target source (depth + 1) ++ pad depth ++ "\x7d\n"

/-- The indices of the elements that are copied, one after the other; the counters of the
loops around the statement have the given values. -/
def places (extent : ArraySize → Nat) (values : Nat → Nat) : CopyLoop → List (List Nat)
  | .copy counters => [counters.map values]
  | .loop counter size body => (List.range (extent size)).flatMap fun i =>
      body.places extent (Function.update values counter i)

/-- What is written for the loops are their heads, the statement inside and their ends. -/
theorem text_ofSizes (target source : String) : ∀ (k : Nat) (sizes : List ArraySize),
    (ofSizes k sizes).text target source k =
      String.join ((sizes.zipIdx k).map fun e => loopHead e.2 e.1) ++
        (copy (List.range (k + sizes.length))).text target source (k + sizes.length) ++
        String.join ((List.range' k sizes.length).reverse.map fun level => pad level ++ "\x7d\n")
  | k, [] => by
    rw [ofSizes, List.zipIdx_nil, List.map_nil, String.join_nil, String.empty_append]
    exact String.append_empty.symm
  | k, size :: sizes => by
    have hloop : (ofSizes k (size :: sizes)).text target source k =
        loopHead k size ++ (ofSizes (k + 1) sizes).text target source (k + 1) ++
          (pad k ++ "\x7d\n") :=
      String.append_assoc ..
    have hlength : k + (size :: sizes).length = k + 1 + sizes.length := by
      rw [List.length_cons]
      omega
    have hheads : String.join (((size :: sizes).zipIdx k).map fun e => loopHead e.2 e.1) =
        loopHead k size ++ String.join ((sizes.zipIdx (k + 1)).map fun e => loopHead e.2 e.1) := by
      rw [List.zipIdx_cons, List.map_cons, String.join_cons]
    -- The ends stand from the inside to the outside, so this loop's own is the last.
    have hends : String.join ((List.range' k (size :: sizes).length).reverse.map
          fun level => pad level ++ "\x7d\n") =
        String.join ((List.range' (k + 1) sizes.length).reverse.map
          fun level => pad level ++ "\x7d\n") ++ (pad k ++ "\x7d\n") := by
      rw [List.length_cons, List.range'_succ, List.reverse_cons, List.map_append,
        String.join_append, List.map_singleton, String.join_cons, String.join_nil,
        String.append_empty]
    rw [hloop, text_ofSizes target source (k + 1) sizes, hheads, hlength, hends]
    simp only [String.append_assoc]

/-- The loops copy the elements that the type has, each at the values of the counters
outside of the loops and then its own indices. -/
theorem places_ofSizes (element : String) : ∀ (k : Nat) (values : Nat → Nat)
    (sizes : List ArraySize), (ofSizes k sizes).places extent values =
      ((ArrayType.ofSizes element sizes).places extent).map ((List.range k).map values ++ ·)
  | k, values, [] => by
    rw [ofSizes, places, ArrayType.ofSizes, ArrayType.places, List.map_singleton,
      List.append_nil]
  | k, values, size :: sizes => by
    -- A loop sets the counter of its dimension and leaves those outside as they are.
    have hvalues : ∀ i, (List.range (k + 1)).map (Function.update values k i) =
        (List.range k).map values ++ [i] := by
      intro i
      have hinner : ∀ j ∈ List.range k, Function.update values k i j = values j := fun j hj =>
        Function.update_of_ne (Nat.ne_of_lt (List.mem_range.1 hj)) i values
      calc (List.range (k + 1)).map (Function.update values k i)
          = (List.range k).map (Function.update values k i) ++ [Function.update values k i k] := by
            rw [List.range_succ, List.map_append, List.map_singleton]
        _ = (List.range k).map values ++ [i] := by
            rw [List.map_congr_left hinner, Function.update_self]
    simp only [ofSizes, places, ArrayType.ofSizes, ArrayType.places,
      places_ofSizes element (k + 1), hvalues, List.map_flatMap, List.map_map]
    congr 1
    funext i
    refine List.map_congr_left fun place _ => ?_
    simp

end CopyLoop

/-- The loops that are written one part after the other. -/
theorem copyLoops_eq_text (name field : String) (sizes : List ArraySize) :
    copyLoops name field sizes =
      (CopyLoop.ofSizes 0 sizes).text ("out." ++ name) field 0 := by
  have hstatement : (CopyLoop.copy (List.range sizes.length)).text ("out." ++ name) field
      sizes.length = pad sizes.length ++ "out." ++ name ++ elementIndex sizes.length ++ " = " ++
        field ++ elementIndex sizes.length ++ ".Generate(sidecar.Subordinate());\n" := by
    rw [CopyLoop.text, ← String.append_assoc]
    rfl
  rw [CopyLoop.text_ofSizes, Nat.zero_add, hstatement, ← List.range_eq_range']
  unfold copyLoops
  simp only [String.append_assoc]

/-! ### Members that hold structs -/

section members

variable {r : Registry} {m : Member} {s : StructType} {base owner : String} {t : StoredType}

/-- The member holds values of the struct: its type is a name of the struct, without
pointers, and it is not the extension chain. Nothing known, `void`, is the name of no
struct. -/
def Registry.HoldsStruct (r : Registry) (m : Member) (s : StructType) : Prop :=
  m.name ≠ chainLinkMember ∧ ∃ base, base ≠ "void" ∧ r.struct? base = some s ∧
    (⟨base, 0⟩ : TypeShape).IsOf m.type

def StructType.storedArray (s : StructType) (sizes : List ArraySize) : StoredType where
  expr := (ArrayType.ofSizes (Code.factoryName s.name) sizes).text
  storage := if sizes.isEmpty then .nestedFactory else .staticArray true
  base := s.name

theorem StructType.withSizes?_storedArray (s : StructType) (sizes : List ArraySize) :
    (s.storedArray []).withSizes? sizes = some (s.storedArray sizes) := by
  cases sizes with
  | nil => rfl
  | cons size sizes =>
    have hexpr := arrayExpr_eq_text (Code.factoryName s.name) (size :: sizes)
    show some (StoredType.mk (arrayExpr (Code.factoryName s.name) (size :: sizes)) _ _) = _
    rw [hexpr]
    rfl

theorem StructType.holdsFactory_storedArray (s : StructType) (sizes : List ArraySize) :
    (s.storedArray sizes).storage.HoldsFactory := by
  cases sizes <;> trivial

/-- An array of factories is written by loops, and a single one by the statement inside. -/
theorem PlannedMember.generateStatement_storedArray (m : Member) (s : StructType) :
    (PlannedMember.mk m (s.storedArray m.arraySizes)).generateStatement =
      copyLoops m.name (Code.fieldName m.name) m.arraySizes := by
  cases hsizes : m.arraySizes with
  | nil =>
    show "out." ++ m.name ++ " = " ++ Code.fieldName m.name ++
      ".Generate(sidecar.Subordinate());\n" = _
    have hpad : pad 0 = "" := rfl
    have hnone : CopyLoop.subscripts [] = "" := rfl
    rw [copyLoops_eq_text, CopyLoop.ofSizes, CopyLoop.text, List.range_zero, hpad, hnone,
      String.empty_append, String.append_empty, String.append_empty]
  | cons size sizes =>
    show copyLoops m.name (Code.fieldName m.name) m.arraySizes = _
    rw [hsizes]

namespace Registry

theorem storedValue?_of_struct? (hbase : base ≠ "void") (hs : r.struct? base = some s) :
    r.storedValue? base = some (s.storedArray []) := by
  obtain ⟨x, hx, hstruct⟩ := Option.bind_eq_some_iff.1 hs
  have hclass : r.classify? base = some .nestedFactory := by
    cases x with
    | struct s' => rw [classify?, hx]
    | _ => cases hstruct
  rw [storedValue?, if_neg hbase, hclass]
  show (r.struct? base).map _ = _
  rw [hs]
  rfl

/-- A member that holds structs is stored as an array of their factories. -/
theorem storeMember_of_holdsStruct (h : r.HoldsStruct m s) (owner : String) :
    r.storeMember owner m = .ok (s.storedArray m.arraySizes) := by
  obtain ⟨hname, base, hbase, hs, hshape⟩ := h
  refine storeAs_eq_ok_iff.2 ((storedType?_eq_some_iff hname).2 ?_)
  exact ⟨_, hshape, _, storedValue?_of_struct? hbase hs, s.withSizes?_storedArray m.arraySizes⟩

/-- Only members that hold structs are stored as factories in place. -/
theorem exists_holdsStruct (h : r.storeMember owner m = .ok t) (ht : t.storage.HoldsFactory) :
    ∃ s, r.HoldsStruct m s := by
  have hstored := storeAs_eq_ok_iff.1 h
  have hname : m.name ≠ chainLinkMember := by
    intro hname
    rw [storedType?, if_pos hname] at hstored
    obtain rfl := Option.some.inj hstored
    exact ht
  obtain ⟨⟨base, pointers⟩, hshape, u, hu, hsizes⟩ := (storedType?_eq_some_iff hname).1 hstored
  -- Behind a pointer there is no factory in place, and dimensions do not add one.
  have hp : pointers = 0 := by
    by_contra hp
    obtain ⟨hnone, hnot⟩ := storedShape?_of_pointers hu hp
    rcases exists_withSizes?_iff.1 ⟨t, hsizes⟩ with hnil | ⟨factories, hfactories⟩
    · rw [hnil] at hsizes
      exact hnot (Option.some.inj hsizes ▸ ht)
    · cases hnone.symm.trans hfactories
  subst hp
  obtain ⟨hnames, -⟩ := StoredType.namesFactory_of_withSizes? hsizes ht.namesFactory
  obtain ⟨s, hs, -⟩ := struct?_of_storedShape? hu hnames
  exact ⟨s, hname, base, (exists_storedValue?_iff.1 ⟨u, hu⟩).1, hs, hshape⟩

/-- **Stored arrays and the loops that copy them.** A member that holds structs, in an array
with any number of dimensions, is stored as an array of their factories: its type is that
of the dimensions, the first on the outside, and it is written by the loops for the
dimensions, the first on the outside again, around one statement with all counters in
their order. Whatever the dimensions stand for, these loops copy the elements of the stored
array in their order, each at the indices that are below its dimensions, and none twice.
Nothing but a member that holds structs is written in this way. -/
theorem copies_agree_with_storedType (r : Registry) (owner : String) (m : Member) :
    (∀ t, r.storeMember owner m = .ok t → t.storage.HoldsFactory → ∃ s, r.HoldsStruct m s) ∧
    ∀ s, r.HoldsStruct m s → ∃ t, r.storeMember owner m = .ok t ∧ t.storage.HoldsFactory ∧
      t.expr = (ArrayType.ofSizes (Code.factoryName s.name) m.arraySizes).text ∧
      (PlannedMember.mk m t).generateStatement =
        (CopyLoop.ofSizes 0 m.arraySizes).text ("out." ++ m.name) (Code.fieldName m.name) 0 ∧
      ∀ extent values,
        (CopyLoop.ofSizes 0 m.arraySizes).places extent values =
          (ArrayType.ofSizes (Code.factoryName s.name) m.arraySizes).places extent ∧
        ((CopyLoop.ofSizes 0 m.arraySizes).places extent values).Nodup ∧
        ∀ place, place ∈ (CopyLoop.ofSizes 0 m.arraySizes).places extent values ↔
          List.Forall₂ (fun i size => i < extent size) place m.arraySizes := by
  refine ⟨fun t => exists_holdsStruct, fun s h => ?_⟩
  refine ⟨s.storedArray m.arraySizes, storeMember_of_holdsStruct h owner,
    s.holdsFactory_storedArray m.arraySizes, rfl, ?_, fun extent values => ?_⟩
  · rw [PlannedMember.generateStatement_storedArray, copyLoops_eq_text]
  · have hplaces : (CopyLoop.ofSizes 0 m.arraySizes).places extent values =
        (ArrayType.ofSizes (Code.factoryName s.name) m.arraySizes).places extent := by
      rw [CopyLoop.places_ofSizes (Code.factoryName s.name)]
      exact List.map_id' _
    rw [hplaces]
    exact ⟨rfl, ArrayType.nodup_places _, fun _ => ArrayType.mem_places_iff⟩

end Registry

end members

def gridMember : Member where
  type := "struct InfoKHR"
  name := "grid"
  arraySizes := [.literal 2, .constant "N"]
  expectedValue := none
  len := none
  nullTerminated := false
  noAutoValidity := false
  optional := false
  bitFieldWidth := none
  selection := none

theorem copies_of_gridMember :
    infoRegistry.HoldsStruct gridMember
      { name := "Info", members := [], extended := [], returnedOnly := false } ∧
    ∃ t, infoRegistry.storeMember "S" gridMember = .ok t ∧
      t.expr = "std::array<std::array<InfoFactory, N>, 2>" ∧
      (PlannedMember.mk gridMember t).generateStatement =
        "for (size_t i0 = 0; i0 < 2; ++i0) \x7b\n  for (size_t i1 = 0; i1 < N; ++i1) \x7b\n" ++
        "    out.grid[i0][i1] = grid_[i0][i1].Generate(sidecar.Subordinate());\n" ++
        "  \x7d\n\x7d\n" := by
  have hholds : infoRegistry.HoldsStruct gridMember
      { name := "Info", members := [], extended := [], returnedOnly := false } :=
    ⟨by decide, "InfoKHR", by decide, by decide +kernel, .word "InfoKHR", rfl, by decide +kernel⟩
  obtain ⟨-, hcopies⟩ := Registry.copies_agree_with_storedType infoRegistry "S" gridMember
  obtain ⟨t, ht, -, hexpr, hstatement, -⟩ := hcopies _ hholds
  exact ⟨hholds, t, ht, hexpr.trans (by decide +kernel), hstatement.trans (by decide +kernel)⟩

end VulkanFoundry
