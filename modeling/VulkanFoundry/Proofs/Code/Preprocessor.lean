/-
# Code under macros

Generated code stands between lines that ask whether a macro is defined, or one of
several, and lines that end this. A preprocessor goes through the lines of a text
with a stack of the questions that are open, and keeps a line that asks nothing if
the answer to all of them is yes.

Text in which every question is ended (`Balanced`) is kept or dropped as one
piece wherever it stands (`keptLines_append`). Protected text is therefore what the
text itself is where one of the macros is defined, and nothing elsewhere
(`preprocess_protect`), and this carries over to text that is protected many times.

Only the directives that protect text are read. Other lines are code.

Key theorems: `Code.keptLines_append`, `Code.preprocess_protect`.
-/
import VulkanFoundry.Code.Layout
import VulkanFoundry.Proofs.Text.Splitting
import VulkanFoundry.Proofs.Text.Tokens

namespace VulkanFoundry
namespace Code

open Text (splitAtChar splitAtChar_append splitAtChar_ne_nil splitAtChar_of_not_mem)
open TypeText (IsWord tokens)

/-- Whether code under the macros exists: always if there are none, and else if one
of them is defined. -/
def enabled (defined : String → Bool) (guards : List String) : Bool :=
  guards.isEmpty || guards.any defined

/-- A line that opens or closes a condition. -/
inductive Directive where
  /-- Asks for one of the macros. -/
  | opening (macros : List String)
  | closing
  deriving DecidableEq

/-- The macros that a condition asks for. -/
def definedNames : List Token → List String
  | .atom (.word "defined") :: .punct '(' :: .atom (.word name) :: .punct ')' :: rest =>
    name :: definedNames rest
  | _ :: rest => definedNames rest
  | [] => []

/-- The directive of a line, if it is one. -/
def directive? (line : List Char) : Option Directive :=
  match tokens line with
  | .punct '#' :: .atom (.word "ifdef") :: .atom (.word name) :: _ => some (.opening [name])
  | .punct '#' :: .atom (.word "if") :: condition => some (.opening (definedNames condition))
  | .punct '#' :: .atom (.word "endif") :: _ => some .closing
  | _ => none

/-- The lines that are kept, where the stack has the answers to the conditions that
are open. -/
def keptLines (defined : String → Bool) : List Bool → List (List Char) → List (List Char)
  | _, [] => []
  | stack, line :: rest =>
    match directive? line with
    | some (.opening macros) => keptLines defined (macros.any defined :: stack) rest
    | some .closing => keptLines defined stack.tail rest
    | none =>
      if stack.all id then line :: keptLines defined stack rest else keptLines defined stack rest

/-- The lines of code, each of which is ended by a line feed. -/
def sourceLines (code : String) : List (List Char) := (splitAtChar '\n' code.toList).dropLast

/-- The lines of code that are left where the macros are defined. -/
def preprocess (defined : String → Bool) (code : String) : List (List Char) :=
  keptLines defined [] (sourceLines code)

/-- Lines in which every condition that is opened is closed. -/
inductive Balanced : List (List Char) → Prop where
  | nil : Balanced []
  | line {line : List Char} {rest : List (List Char)} (h : directive? line = none)
      (hrest : Balanced rest) : Balanced (line :: rest)
  | block {first last : List Char} {inner rest : List (List Char)} {macros : List String}
      (hfirst : directive? first = some (.opening macros)) (hinner : Balanced inner)
      (hlast : directive? last = some .closing) (hrest : Balanced rest) :
      Balanced (first :: (inner ++ last :: rest))

variable {defined : String → Bool}

/-! ### Running over balanced lines -/

/-- **Balanced lines are kept or dropped as one piece**, and leave the stack as it
was. -/
theorem keptLines_append {block : List (List Char)} (hb : Balanced block) (stack : List Bool)
    (rest : List (List Char)) : keptLines defined stack (block ++ rest) =
      (if stack.all id then keptLines defined [] block else []) ++
        keptLines defined stack rest := by
  induction hb generalizing stack rest with
  | nil =>
    rw [List.nil_append, keptLines, ite_self, List.nil_append]
  | @line line inner h _ ih =>
    have hstep : ∀ (stack : List Bool) (lines : List (List Char)),
        keptLines defined stack (line :: lines) =
          (if stack.all id then [line] else []) ++ keptLines defined stack lines := by
      intro stack lines
      rw [keptLines, h]
      by_cases hs : stack.all id = true
      · simp only [hs, if_true, List.singleton_append]
      · simp only [hs, if_false, List.nil_append, Bool.false_eq_true]
    rw [List.cons_append, hstep, ih, hstep]
    by_cases hs : stack.all id = true
    · simp only [hs, if_true, List.all_nil, List.append_assoc]
    · simp only [hs, if_false, List.nil_append, Bool.false_eq_true]
  | @block first last inner more macros hfirst _ hlast _ ihinner ihmore =>
    have hstep : ∀ (stack : List Bool) (lines : List (List Char)),
        keptLines defined stack (first :: (inner ++ last :: lines)) =
          (if (macros.any defined :: stack).all id then keptLines defined [] inner else []) ++
            keptLines defined stack lines := by
      intro stack lines
      -- the answer that the first line puts on the stack is there until the last one
      rw [keptLines, hfirst]
      show keptLines defined (macros.any defined :: stack) (inner ++ last :: lines) = _
      rw [ihinner, keptLines, hlast]
      rfl
    rw [List.cons_append, List.append_assoc, List.cons_append, hstep, ihmore, hstep]
    by_cases hs : stack.all id = true
    · simp only [hs, if_true, List.all_cons, List.all_nil, Bool.and_true, List.append_assoc]
    · simp only [hs, if_false, List.all_cons, Bool.and_false, List.nil_append,
        Bool.false_eq_true]

theorem Balanced.append {lines rest : List (List Char)} (h : Balanced lines)
    (hrest : Balanced rest) : Balanced (lines ++ rest) := by
  induction h with
  | nil => exact hrest
  | line h _ ih => exact .line h ih
  | @block first last inner more macros hfirst hinner hlast _ _ ih =>
    rw [List.cons_append, List.append_assoc]
    exact .block hfirst hinner hlast ih

theorem Balanced.of_forall :
    ∀ {lines : List (List Char)}, (∀ line ∈ lines, directive? line = none) → Balanced lines
  | [], _ => .nil
  | l :: _, h =>
    .line (h l List.mem_cons_self) (of_forall fun l' hl => h l' (List.mem_cons_of_mem l hl))

theorem keptLines_of_forall :
    ∀ {lines : List (List Char)}, (∀ line ∈ lines, directive? line = none) →
      keptLines defined [] lines = lines
  | [], _ => rfl
  | line :: lines, h => by
    have hlines : keptLines defined [] lines = lines :=
      keptLines_of_forall fun l hl => h l (List.mem_cons_of_mem line hl)
    rw [keptLines, h line List.mem_cons_self]
    exact congrArg (line :: ·) hlines

/-! ### The lines of a text -/

theorem sourceLines_append (code rest : String) : sourceLines (code ++ "\n" ++ rest) =
    splitAtChar '\n' code.toList ++ sourceLines rest := by
  have hline : "\n".toList = ['\n'] := rfl
  rw [sourceLines, sourceLines, String.toList_append, String.toList_append, hline,
    List.append_assoc, List.singleton_append, splitAtChar_append,
    List.dropLast_append_of_ne_nil (splitAtChar_ne_nil _ _)]

theorem sourceLines_line {line : String} (h : '\n' ∉ line.toList) (rest : String) :
    sourceLines (line ++ "\n" ++ rest) = line.toList :: sourceLines rest := by
  rw [sourceLines_append, splitAtChar_of_not_mem h]
  rfl

theorem unlines_cons (line : String) (lines : List String) :
    unlines (line :: lines) = line ++ "\n" ++ unlines lines := by
  simp [unlines]

theorem sourceLines_unlines :
    ∀ {lines : List String}, (∀ line ∈ lines, '\n' ∉ line.toList) →
      sourceLines (unlines lines) = lines.map String.toList
  | [], _ => rfl
  | line :: lines, h => by
    rw [unlines_cons, sourceLines_line (h line List.mem_cons_self),
      sourceLines_unlines fun l hl => h l (List.mem_cons_of_mem line hl), List.map_cons]

theorem unlines_append (lines more : List String) :
    unlines (lines ++ more) = unlines lines ++ unlines more := by
  simp [unlines]

def WholeLines (code : String) : Prop := ∃ lines, code = unlines lines

theorem WholeLines.append {code rest : String} (h : WholeLines code) (hrest : WholeLines rest) :
    WholeLines (code ++ rest) := by
  obtain ⟨lines, rfl⟩ := h
  obtain ⟨more, rfl⟩ := hrest
  exact ⟨lines ++ more, (unlines_append lines more).symm⟩

theorem WholeLines.sourceLines_append {code : String} (h : WholeLines code) (rest : String) :
    sourceLines (code ++ rest) = sourceLines code ++ sourceLines rest := by
  obtain ⟨lines, rfl⟩ := h
  induction lines with
  | nil =>
    have hempty : unlines [] = "" := rfl
    rw [hempty, String.empty_append]
    rfl
  | cons line lines ih =>
    rw [unlines_cons, String.append_assoc, Code.sourceLines_append, ih, Code.sourceLines_append,
      List.append_assoc]

/-- A line with a word in front, behind spaces at most. -/
structure WordLine (line : String) : Prop where
  free : '\n' ∉ line.toList
  starts : ∃ c rest, line.toList.dropWhile (· = ' ') = c :: rest ∧ TypeText.isWordChar c = true

instance (line : String) : Decidable (WordLine line) :=
  decidable_of_iff ('\n' ∉ line.toList ∧
      (line.toList.dropWhile (· = ' ')).head?.any TypeText.isWordChar = true) <| by
    constructor
    · rintro ⟨hfree, hstarts⟩
      refine ⟨hfree, ?_⟩
      cases hcs : line.toList.dropWhile (· = ' ') with
      | nil =>
        rw [hcs] at hstarts
        cases hstarts
      | cons c rest =>
        rw [hcs] at hstarts
        exact ⟨c, rest, rfl, hstarts⟩
    · rintro ⟨hfree, c, rest, hcs, hc⟩
      exact ⟨hfree, by rw [hcs]; exact hc⟩

theorem not_mem_append {a b : String} (ha : '\n' ∉ a.toList) (hb : '\n' ∉ b.toList) :
    '\n' ∉ (a ++ b).toList := by
  rw [String.toList_append, List.mem_append]
  exact fun hm => hm.elim ha hb

theorem WordLine.append {line rest : String} (h : WordLine line) (hrest : '\n' ∉ rest.toList) :
    WordLine (line ++ rest) := by
  obtain ⟨hfree, c, cs, hcs, hc⟩ := h
  constructor
  · exact not_mem_append hfree hrest
  · refine ⟨c, cs ++ rest.toList, ?_, hc⟩
    rw [String.toList_append, List.dropWhile_append, hcs]
    rfl

theorem tokens_dropWhile_space :
    ∀ cs : List Char, tokens (cs.dropWhile (· = ' ')) = tokens cs
  | [] => rfl
  | c :: cs => by
    by_cases hc : c = ' '
    · subst hc
      show tokens (cs.dropWhile (· = ' ')) = tokens (' ' :: cs)
      rw [tokens_dropWhile_space cs]
      rfl
    · rw [List.dropWhile_cons_of_neg (by simpa using hc)]

theorem WordLine.directive? {line : String} (h : WordLine line) :
    directive? line.toList = none := by
  obtain ⟨-, c, cs, hcs, hc⟩ := h
  obtain ⟨w, rest, hw⟩ := TypeText.exists_tokensFrom_eq_word cs (List.cons_ne_nil c [])
  have htokens : tokens line.toList = .atom (.word w) :: rest := by
    rw [← tokens_dropWhile_space, hcs, tokens, TypeText.tokensFrom, if_pos hc, hw]
  rw [Code.directive?, htokens]

theorem WordLine.around {before middle after : String} (hb : WordLine before)
    (hm : '\n' ∉ middle.toList) (ha : '\n' ∉ after.toList) :
    WordLine (before ++ middle ++ after) :=
  (hb.append hm).append ha

def CodeLine (line : String) : Prop := '\n' ∉ line.toList ∧ directive? line.toList = none

instance (line : String) : Decidable (CodeLine line) :=
  inferInstanceAs (Decidable ('\n' ∉ line.toList ∧ directive? line.toList = none))

theorem WordLine.codeLine {line : String} (h : WordLine line) : CodeLine line :=
  ⟨h.free, h.directive?⟩

/-! ### The lines around protected code -/

/-- The condition on several macros. -/
def anyDefined (guards : List String) : String :=
  Text.joined " || " (guards.map fun g => "defined(" ++ g ++ ")")

theorem toList_anyDefined (guards : List String) : (anyDefined guards).toList =
    Text.join " || ".toList
      (guards.map fun g => "defined".toList ++ '(' :: (g.toList ++ [')'])) := by
  rw [anyDefined, Text.joined, String.toList_ofList, List.map_map]
  congr 1
  refine List.map_congr_left fun g _ => ?_
  show ("defined(" ++ g ++ ")").toList = _
  rw [String.toList_append, String.toList_append, List.append_assoc]
  rfl

theorem tokens_defined {g : String} (hg : IsWord g) (cs : List Char) :
    tokens ("defined".toList ++ '(' :: (g.toList ++ ')' :: cs)) =
      .atom (.word "defined") :: .punct '(' :: .atom (.word g) :: .punct ')' :: tokens cs := by
  have hdefined : IsWord "defined" := by decide
  rw [TypeText.tokens_word_append hdefined (by decide), TypeText.tokens_word_append hg (by decide)]
  rfl

theorem tokens_or (cs : List Char) :
    tokens (" || ".toList ++ cs) = .punct '|' :: .punct '|' :: tokens cs := rfl

theorem definedNames_anyDefined :
    ∀ {guards : List String}, (∀ g ∈ guards, IsWord g) →
      definedNames (tokens (anyDefined guards).toList) = guards
  | [], _ => rfl
  | [g], h => by
    rw [toList_anyDefined]
    show definedNames (tokens ("defined".toList ++ '(' :: (g.toList ++ [')']))) = [g]
    rw [tokens_defined (h g List.mem_cons_self)]
    rfl
  | g :: g' :: rest, h => by
    have hrest : definedNames (tokens (anyDefined (g' :: rest)).toList) = g' :: rest :=
      definedNames_anyDefined fun x hx => h x (List.mem_cons_of_mem g hx)
    rw [toList_anyDefined] at hrest ⊢
    show definedNames (tokens (("defined".toList ++ '(' :: (g.toList ++ [')'])) ++ " || ".toList ++
      Text.join " || ".toList ((g' :: rest).map fun x =>
        "defined".toList ++ '(' :: (x.toList ++ [')'])))) = g :: g' :: rest
    rw [List.append_assoc, List.append_assoc, List.cons_append, List.append_assoc,
      List.singleton_append, tokens_defined (h g List.mem_cons_self), tokens_or]
    show g :: definedNames (tokens (Text.join " || ".toList _)) = _
    rw [hrest]

theorem not_mem_anyDefined {guards : List String} (h : ∀ g ∈ guards, IsWord g) :
    '\n' ∉ (anyDefined guards).toList := by
  rw [toList_anyDefined]
  refine Text.not_mem_join (by decide) fun piece hp => ?_
  obtain ⟨g, hg, rfl⟩ := List.mem_map.1 hp
  have hgood : '\n' ∉ g.toList := (h g hg).2.not_mem (by decide)
  simp [hgood]

theorem directive?_ifdef {g : String} (hg : IsWord g) :
    directive? ("#ifdef " ++ g).toList = some (.opening [g]) := by
  have htokens : tokens ("#ifdef " ++ g).toList =
      [.punct '#', .atom (.word "ifdef"), .atom (.word g)] := by
    have hprefix : ∀ cs : List Char, tokens ("#ifdef ".toList ++ cs) =
      .punct '#' :: .atom (.word "ifdef") :: tokens cs := fun _ => rfl
    rw [String.toList_append, hprefix, TypeText.tokens_word hg]
  rw [directive?, htokens]
  rfl

theorem directive?_if {guards : List String} (h : ∀ g ∈ guards, IsWord g) :
    directive? ("#if " ++ anyDefined guards).toList = some (.opening guards) := by
  have hprefix : ∀ cs : List Char, tokens ("#if ".toList ++ cs) =
      .punct '#' :: .atom (.word "if") :: tokens cs := fun _ => rfl
  rw [directive?, String.toList_append, hprefix]
  show some (Directive.opening (definedNames (tokens (anyDefined guards).toList))) = _
  rw [definedNames_anyDefined h]

theorem directive?_endif (comment : String) :
    directive? ("#endif  // " ++ comment).toList = some .closing := by
  have hprefix : ∀ cs : List Char, tokens ("#endif  // ".toList ++ cs) =
      .punct '#' :: .atom (.word "endif") :: .punct '/' :: .punct '/' :: tokens cs := fun _ => rfl
  rw [directive?, String.toList_append, hprefix]
  rfl

/-- Protected code stands between a line that asks for its macros and one that ends
this. -/
theorem sourceLines_protect {guards : List String} (hne : guards ≠ [])
    (hw : ∀ g ∈ guards, IsWord g) {code : String} (hcode : WholeLines code) :
    ∃ first last, sourceLines (protect guards code) = first :: (sourceLines code ++ [last]) ∧
      directive? first = some (.opening guards) ∧ directive? last = some .closing := by
  have hlines : ∀ {first last : String}, '\n' ∉ first.toList → '\n' ∉ last.toList →
      sourceLines (first ++ "\n" ++ (code ++ (last ++ "\n"))) =
        first.toList :: (sourceLines code ++ [last.toList]) := by
    intro first last hfirst hlast
    have hend := sourceLines_line hlast ""
    rw [String.append_empty] at hend
    rw [sourceLines_line hfirst, hcode.sourceLines_append, hend]
    rfl
  match guards, hne, hw with
  | [g], _, hw =>
    have hg := hw g List.mem_cons_self
    refine ⟨("#ifdef " ++ g).toList, ("#endif  // " ++ g).toList, ?_, directive?_ifdef hg,
      directive?_endif g⟩
    have hmem : '\n' ∉ g.toList := hg.2.not_mem (by decide)
    rw [← hlines (not_mem_append (by decide) hmem) (not_mem_append (by decide) hmem)]
    simp only [protect, String.append_assoc]
  | g :: g' :: rest, _, hw =>
    have hmem := not_mem_anyDefined hw
    refine ⟨("#if " ++ anyDefined (g :: g' :: rest)).toList,
      ("#endif  // " ++ anyDefined (g :: g' :: rest)).toList, ?_, directive?_if hw,
      directive?_endif _⟩
    rw [← hlines (not_mem_append (by decide) hmem) (not_mem_append (by decide) hmem)]
    simp only [protect, anyDefined, String.append_assoc]

theorem WholeLines.protect {code : String} (h : WholeLines code) :
    ∀ guards : List String, WholeLines (protect guards code)
  | [] => h
  | [g] => by
    obtain ⟨lines, rfl⟩ := h
    refine ⟨("#ifdef " ++ g) :: (lines ++ ["#endif  // " ++ g]), ?_⟩
    simp [Code.protect, unlines, String.append_assoc]
  | g :: g' :: rest => by
    obtain ⟨lines, rfl⟩ := h
    refine ⟨("#if " ++ anyDefined (g :: g' :: rest)) ::
      (lines ++ ["#endif  // " ++ anyDefined (g :: g' :: rest)]), ?_⟩
    simp [Code.protect, anyDefined, unlines, String.append_assoc]

/-! ### Blocks of code -/

/-- Whole lines in which every condition that is opened is closed. -/
structure Block (code : String) : Prop where
  whole : WholeLines code
  balanced : Balanced (sourceLines code)

/-- A block does not change how what follows it is read. -/
theorem Block.preprocess_append {code : String} (h : Block code) (rest : String) :
    preprocess defined (code ++ rest) = preprocess defined code ++ preprocess defined rest := by
  rw [preprocess, h.whole.sourceLines_append, keptLines_append h.balanced]
  rfl

theorem Block.append {code rest : String} (h : Block code) (hrest : Block rest) :
    Block (code ++ rest) where
  whole := h.whole.append hrest.whole
  balanced := h.whole.sourceLines_append rest ▸ h.balanced.append hrest.balanced

theorem Block.empty : Block "" := ⟨⟨[], rfl⟩, .nil⟩

theorem Block.join : ∀ {pieces : List String}, (∀ code ∈ pieces, Block code) →
    Block (String.join pieces)
  | [], _ => .empty
  | code :: pieces, h => by
    have hrest := join fun piece hp => h piece (List.mem_cons_of_mem code hp)
    rw [String.join_cons]
    exact (h code List.mem_cons_self).append hrest

/-- **Blocks one after another** are each read as if they stood alone. -/
theorem preprocess_join : ∀ {pieces : List String}, (∀ code ∈ pieces, Block code) →
    preprocess defined (String.join pieces) = pieces.flatMap (preprocess defined)
  | [], _ => rfl
  | code :: pieces, h => by
    have hrest : preprocess defined (String.join pieces) = pieces.flatMap (preprocess defined) :=
      preprocess_join fun piece hp => h piece (List.mem_cons_of_mem code hp)
    rw [String.join_cons, (h code List.mem_cons_self).preprocess_append, hrest,
      List.flatMap_cons]

/-- Lines of code, none of which is a directive. -/
def IsCode (code : String) : Prop :=
  ∃ lines, code = unlines lines ∧ ∀ line ∈ lines, CodeLine line

theorem IsCode.directive?_eq_none {code : String} (h : IsCode code) :
    ∀ line ∈ sourceLines code, directive? line = none := by
  obtain ⟨lines, rfl, hlines⟩ := h
  intro line hl
  rw [sourceLines_unlines fun l hl => (hlines l hl).1] at hl
  obtain ⟨written, hw, rfl⟩ := List.mem_map.1 hl
  exact (hlines written hw).2

theorem IsCode.block {code : String} (h : IsCode code) : Block code where
  whole := h.imp fun _ hlines => hlines.1
  balanced := .of_forall h.directive?_eq_none

theorem IsCode.preprocess_eq {code : String} (h : IsCode code) :
    preprocess defined code = sourceLines code :=
  keptLines_of_forall h.directive?_eq_none

theorem Block.protect {code : String} (h : Block code) {guards : List String}
    (hw : ∀ g ∈ guards, IsWord g) : Block (protect guards code) := by
  refine ⟨h.whole.protect guards, ?_⟩
  by_cases hne : guards = []
  · subst hne
    exact h.balanced
  · obtain ⟨first, last, hlines, hfirst, hlast⟩ := sourceLines_protect hne hw h.whole
    rw [hlines]
    exact .block hfirst h.balanced hlast .nil

/-- **Protected code exists where one of its macros is defined**, and is then what it
is without protection. -/
theorem preprocess_protect {guards : List String} (hw : ∀ g ∈ guards, IsWord g) {code : String}
    (h : Block code) :
    preprocess defined (protect guards code) =
      if enabled defined guards then preprocess defined code else [] := by
  by_cases hne : guards = []
  · subst hne
    rfl
  · obtain ⟨first, last, hlines, hfirst, hlast⟩ := sourceLines_protect hne hw h.whole
    have hsome : enabled defined guards = guards.any defined := by
      rw [enabled, List.isEmpty_eq_false_iff.2 hne, Bool.false_or]
    rw [preprocess, hlines, keptLines, hfirst]
    show keptLines defined [guards.any defined] (sourceLines code ++ [last]) = _
    rw [keptLines_append h.balanced, keptLines, hlast, hsome]
    simp [keptLines, preprocess]

/-- Code under one condition inside of the other. -/
def nest (conditions : List (List String)) (code : String) : String :=
  conditions.foldr protect code

/-- Nested code exists where all its conditions hold. -/
theorem preprocess_nest {code : String} (h : Block code) :
    ∀ {conditions : List (List String)}, (∀ guards ∈ conditions, ∀ g ∈ guards, IsWord g) →
      Block (nest conditions code) ∧ ∀ defined, preprocess defined (nest conditions code) =
        if conditions.all (enabled defined) then preprocess defined code else []
  | [], _ => ⟨h, fun _ => rfl⟩
  | guards :: conditions, hwords => by
    have hw : ∀ g ∈ guards, IsWord g := hwords guards List.mem_cons_self
    obtain ⟨hblock, hinner⟩ :=
      preprocess_nest h fun gs hgs => hwords gs (List.mem_cons_of_mem guards hgs)
    refine ⟨hblock.protect hw, fun defined => ?_⟩
    show preprocess defined (Code.protect guards (nest conditions code)) = _
    rw [preprocess_protect hw hblock, hinner, List.all_cons]
    by_cases hg : enabled defined guards = true
    · rw [hg, Bool.true_and]
      rfl
    · rw [Bool.eq_false_iff.2 hg, Bool.false_and]
      rfl

end Code
end VulkanFoundry
