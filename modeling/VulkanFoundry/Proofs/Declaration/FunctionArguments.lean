/-
# Arguments of function pointers

An argument has a type and a name, with `const` and stars before the type and between
the two. In running text it is the tokens of a list that the name ends; with tags it is
a declaration of its own. Both ways look at the qualifiers alone to accept or to refuse
it, and at the same sequence of them (`FunctionArgument.ofTokens?_tokens`,
`FunctionArgument.ofElement_of_tagged`). An argument is refused exactly if a qualifier is
repeated or a `const` stands behind a star.

What is accepted need not come out the same: running text puts `const` before the type
wherever it stood, and a tagged type keeps it where it is. With `const` before the type
and the star behind it there is no difference (`WrittenArgument.asWritten_eq`).

Key theorems: `argumentFault?_eq_none_iff`, `WrittenArgument.check_eq_ok_iff`.
-/
import Mathlib.Data.List.Count
import VulkanFoundry.Proofs.Declaration.Fragments
import VulkanFoundry.Proofs.Success

namespace VulkanFoundry

open TypeText

/-! ### Qualifiers -/

/-- What may stand around the type of an argument. -/
inductive Qualifier where
  | const
  | star
  deriving DecidableEq, Repr

namespace Qualifier

def atom : Qualifier → Atom
  | const => .word "const"
  | star => .star

def token (q : Qualifier) : Token := .atom q.atom

theorem token_injective : Function.Injective token := by
  intro q q' h
  cases q <;> cases q' <;> first | rfl | cases h

theorem isWord_of_mem_map_atom {qs : List Qualifier} {w : String}
    (hw : .word w ∈ qs.map atom) : IsWord w := by
  obtain ⟨q, -, hq⟩ := List.mem_map.1 hw
  cases q with
  | const =>
    obtain rfl := Atom.word.inj hq
    decide
  | star => cases hq

def isToken (t : Token) : Bool := t = constToken || t = starToken

theorem filter_map_token (qs : List Qualifier) :
    (qs.map token).filter isToken = qs.map token := by
  refine List.filter_eq_self.2 fun t ht => ?_
  obtain ⟨q, -, rfl⟩ := List.mem_map.1 ht
  cases q <;> decide

end Qualifier

variable {ts : List Token} {function : String}

theorem mem_dropWhile_star_iff : ∀ {ts : List Token},
    constToken ∈ ts.dropWhile (· ≠ starToken) ↔ [starToken, constToken].Sublist ts
  | [] => by simp
  | t :: ts => by
    by_cases ht : t = starToken
    · subst ht
      rw [List.dropWhile_cons_of_neg (by simp), List.cons_sublist_cons, List.singleton_sublist,
        List.mem_cons, or_iff_right (by decide)]
    · rw [List.dropWhile_cons_of_pos (by simpa using ht), mem_dropWhile_star_iff,
        List.sublist_cons_iff, iff_self_or]
      rintro ⟨r, hr, -⟩
      exact absurd (List.cons.inj hr).1.symm ht

/-- **When the tokens of an argument are allowed.** -/
theorem argumentFault?_eq_none_iff : argumentFault? ts = none ↔
    ¬ (1 < ts.count constToken ∨ 1 < ts.count starToken ∨
      [starToken, constToken].Sublist ts) := by
  rw [← mem_dropWhile_star_iff, ← List.contains_iff_mem, argumentFault?]
  split_ifs with hconst hstar hbehind
  · exact iff_of_false nofun (not_not.2 (.inl hconst))
  · exact iff_of_false nofun (not_not.2 (.inr (.inl hstar)))
  · exact iff_of_false nofun (not_not.2 (.inr (.inr hbehind)))
  · exact iff_of_true rfl fun h => h.elim hconst fun h => h.elim hstar hbehind

/-- Tokens that are no qualifiers make no difference. -/
theorem argumentFault?_filter (ts : List Token) :
    argumentFault? (ts.filter Qualifier.isToken) = argumentFault? ts := by
  have hconst : Qualifier.isToken constToken = true := by decide
  have hstar : Qualifier.isToken starToken = true := by decide
  have hpair : [starToken, constToken].Sublist (ts.filter Qualifier.isToken) ↔
      [starToken, constToken].Sublist ts :=
    ⟨fun h => h.trans List.filter_sublist, fun h => h.filter Qualifier.isToken⟩
  have hbehind : ((ts.filter Qualifier.isToken).dropWhile (· ≠ starToken)).contains constToken =
      (ts.dropWhile (· ≠ starToken)).contains constToken := by
    rw [Bool.eq_iff_iff, List.contains_iff_mem, List.contains_iff_mem, mem_dropWhile_star_iff,
      mem_dropWhile_star_iff, hpair]
  rw [argumentFault?, argumentFault?, List.count_filter hconst, List.count_filter hstar, hbehind]

theorem checkArgument_of_filter {qs : List Qualifier}
    (h : ts.filter Qualifier.isToken = qs.map Qualifier.token) :
    checkArgument function ts = checkArgument function (qs.map Qualifier.token) := by
  rw [checkArgument, checkArgument, ← h, argumentFault?_filter]

/-! ### Arguments as they are written -/

/-- An argument as it is written. -/
structure WrittenArgument where
  /-- What stands before the type. -/
  before : List Qualifier
  type : String
  /-- What stands between the type and the name. -/
  behind : List Qualifier
  name : String
  deriving DecidableEq

namespace WrittenArgument

variable {a : WrittenArgument}

def qualifiers (a : WrittenArgument) : List Qualifier := a.before ++ a.behind

/-- Type and name are words, and neither is taken for a qualifier. -/
structure Sound (a : WrittenArgument) : Prop where
  isWord_type : IsWord a.type
  type_ne : a.type ≠ "const"
  isWord_name : IsWord a.name
  name_ne : a.name ≠ "const"

instance (a : WrittenArgument) : Decidable a.Sound :=
  decidable_of_iff (IsWord a.type ∧ a.type ≠ "const" ∧ IsWord a.name ∧ a.name ≠ "const")
    ⟨fun ⟨htype, htype', hname, hname'⟩ => ⟨htype, htype', hname, hname'⟩,
      fun ⟨htype, htype', hname, hname'⟩ => ⟨htype, htype', hname, hname'⟩⟩

/-- A qualifier is repeated, or a `const` stands behind a star. -/
def Rejected (a : WrittenArgument) : Prop :=
  1 < a.qualifiers.count .const ∨ 1 < a.qualifiers.count .star ∨
    [.star, .const].Sublist a.qualifiers

instance (a : WrittenArgument) : Decidable a.Rejected :=
  inferInstanceAs (Decidable (1 < a.qualifiers.count .const ∨ 1 < a.qualifiers.count .star ∨
    [.star, .const].Sublist a.qualifiers))

/-- At most a `const` before the type, and at most a star behind it. -/
def Plain (a : WrittenArgument) : Prop :=
  (a.before = [] ∨ a.before = [.const]) ∧ (a.behind = [] ∨ a.behind = [.star])

instance (a : WrittenArgument) : Decidable a.Plain :=
  inferInstanceAs
    (Decidable ((a.before = [] ∨ a.before = [.const]) ∧ (a.behind = [] ∨ a.behind = [.star])))

/-- The argument with `const` before the type and the star behind it. -/
def argument (a : WrittenArgument) : FunctionArgument where
  type := (if .const ∈ a.qualifiers then "const " else "") ++ a.type ++
    (if .star ∈ a.qualifiers then "*" else "")
  name := a.name

def typeAtoms (a : WrittenArgument) : List Atom :=
  a.before.map Qualifier.atom ++ .word a.type :: a.behind.map Qualifier.atom

/-- The argument with the qualifiers where they stand. -/
def asWritten (a : WrittenArgument) : FunctionArgument where
  type := String.ofList (render a.typeAtoms)
  name := a.name

/-- What the qualifiers have against them in an argument of the function. -/
def check (function : String) (a : WrittenArgument) : Except LoadError Unit :=
  checkArgument function (a.qualifiers.map Qualifier.token)

theorem argumentFault?_qualifiers_eq_none_iff :
    argumentFault? (a.qualifiers.map Qualifier.token) = none ↔ ¬ a.Rejected := by
  have hcount (q : Qualifier) : (a.qualifiers.map Qualifier.token).count q.token =
      a.qualifiers.count q := List.count_map_of_injective _ _ Qualifier.token_injective q
  have hpair : [starToken, constToken].Sublist (a.qualifiers.map Qualifier.token) ↔
      [.star, .const].Sublist a.qualifiers := by
    rw [List.sublist_map_iff]
    constructor
    · rintro ⟨qs, hqs, heq⟩
      have hmap : [Qualifier.star, .const].map Qualifier.token = qs.map Qualifier.token := heq
      rwa [← List.map_injective_iff.2 Qualifier.token_injective hmap] at hqs
    · exact fun h => ⟨_, h, rfl⟩
  have hconst := hcount .const
  have hstar := hcount .star
  rw [argumentFault?_eq_none_iff, Rejected, hpair, ← hconst, ← hstar]
  rfl

theorem check_eq_error_iff {e : LoadError} : a.check function = .error e ↔
    ∃ fault, argumentFault? (a.qualifiers.map Qualifier.token) = some fault ∧
      e = .invalidElement function fault := by
  unfold check checkArgument
  cases argumentFault? (a.qualifiers.map Qualifier.token) <;> simp [eq_comm]

/-- **Which arguments are refused.** -/
theorem check_eq_ok_iff : a.check function = .ok () ↔ ¬ a.Rejected := by
  rw [← argumentFault?_qualifiers_eq_none_iff, check, checkArgument]
  cases argumentFault? (a.qualifiers.map Qualifier.token) <;> simp

end WrittenArgument

/-! ### Arguments in running text -/

namespace WrittenArgument

variable {a : WrittenArgument}

def qualifierTokens (qs : List Qualifier) : List ArgumentToken := qs.map fun q => .text q.token

def tokensBehind (a : WrittenArgument) : List ArgumentToken :=
  qualifierTokens a.behind ++ [.text (.atom (.word a.name))]

def tokens (a : WrittenArgument) : List ArgumentToken :=
  qualifierTokens a.before ++ .type a.type :: a.tokensBehind

theorem lexicalTokens_append (as bs : List ArgumentToken) :
    lexicalTokens (as ++ bs) = lexicalTokens as ++ lexicalTokens bs := List.filterMap_append

theorem lexicalTokens_qualifierTokens : ∀ qs : List Qualifier,
    lexicalTokens (qualifierTokens qs) = qs.map Qualifier.token
  | [] => rfl
  | q :: qs => congrArg (q.token :: ·) (lexicalTokens_qualifierTokens qs)

theorem splitAtType?_qualifierTokens_append : ∀ (qs : List Qualifier) (base : String)
    (rest : List ArgumentToken),
    splitAtType? (qualifierTokens qs ++ .type base :: rest) = some (base, rest)
  | [], _, _ => rfl
  | _ :: qs, base, rest => splitAtType?_qualifierTokens_append qs base rest

theorem isOneOf_of_mem_tokens {cs : List Char} : ∀ t ∈ a.tokens, t.isOneOf cs = false := by
  have hqualifier (qs : List Qualifier) : ∀ t ∈ qualifierTokens qs, t.isOneOf cs = false := by
    intro t ht
    obtain ⟨q, -, rfl⟩ := List.mem_map.1 ht
    rfl
  intro t ht
  rcases List.mem_append.1 ht with ht | ht
  · exact hqualifier _ t ht
  rcases List.mem_cons.1 ht with rfl | ht
  · rfl
  rcases List.mem_append.1 ht with ht | ht
  · exact hqualifier _ t ht
  · obtain rfl := List.mem_singleton.1 ht
    rfl

theorem lexicalTokens_tokens : lexicalTokens a.tokens =
    a.qualifiers.map Qualifier.token ++ [.atom (.word a.name)] := by
  rw [tokens, lexicalTokens_append, lexicalTokens_qualifierTokens, qualifiers, List.map_append,
    List.append_assoc]
  refine congrArg (_ ++ ·) ?_
  show lexicalTokens (qualifierTokens a.behind ++ _) = _
  rw [lexicalTokens_append, lexicalTokens_qualifierTokens]
  rfl

theorem isToken_word {w : String} (hw : w ≠ "const") :
    Qualifier.isToken (.atom (.word w)) = false := by
  simp [Qualifier.isToken, constToken, starToken, hw]

theorem filter_lexicalTokens_tokens (ha : a.Sound) :
    (lexicalTokens a.tokens).filter Qualifier.isToken = a.qualifiers.map Qualifier.token := by
  rw [lexicalTokens_tokens, List.filter_append, Qualifier.filter_map_token,
    List.filter_cons_of_neg (by simp [isToken_word ha.name_ne]), List.filter_nil, List.append_nil]

theorem mem_lexicalTokens_tokens (ha : a.Sound) {q : Qualifier} :
    q.token ∈ lexicalTokens a.tokens ↔ q ∈ a.qualifiers := by
  have hq : Qualifier.isToken q.token = true := by cases q <;> decide
  rw [← List.mem_map_of_injective Qualifier.token_injective, ← filter_lexicalTokens_tokens ha,
    List.mem_filter, and_iff_left hq]

/-- The canonical text of a type with at most one `const` before it and one star behind. -/
theorem ofList_render_qualified (isConst isPointer : Bool) (type : String) :
    String.ofList (render ((if isConst then [.word "const"] else []) ++
      .word type :: (if isPointer then [.star] else []))) =
    (if isConst then "const " else "") ++ type ++ (if isPointer then "*" else "") := by
  refine String.toList_inj.1 ?_
  cases isConst <;> cases isPointer <;>
    simp [render, renderRest]

theorem assemble_qualified (isConst isPointer : Bool) {type : String} (htype : IsWord type) :
    assemble (if isConst then "const" else "") type (if isPointer then "*" else "") =
      (if isConst then "const " else "") ++ type ++ (if isPointer then "*" else "") := by
  have hconst : Writes (if isConst then [constToken] else [])
      (if isConst then "const" else "").toList := by
    cases isConst
    · exact .nil
    · exact writes_word (by decide)
  have hstar : Writes (if isPointer then [starToken] else [])
      (if isPointer then "*" else "").toList := by
    cases isPointer
    · exact .nil
    · exact .star .nil
  rw [assemble_of_writes hconst (writes_word htype) hstar, ← ofList_render_qualified]
  cases isConst <;> cases isPointer <;> rfl

end WrittenArgument

/-- **An argument in running text** is refused for its qualifiers, or declared with
`const` before the type and the star behind it. -/
theorem FunctionArgument.ofTokens?_tokens {a : WrittenArgument} (ha : a.Sound)
    (function : String) : FunctionArgument.ofTokens? function a.tokens =
      (a.check function).map fun _ => some a.argument := by
  have hfilter : a.tokens.filter (fun t => !t.isOneOf [';']) = a.tokens :=
    List.filter_eq_self.2 fun t ht => by rw [WrittenArgument.isOneOf_of_mem_tokens t ht]; rfl
  have hsplit : splitAtType? a.tokens = some (a.type, a.tokensBehind) :=
    WrittenArgument.splitAtType?_qualifierTokens_append a.before a.type a.tokensBehind
  have hcheck : checkArgument function (lexicalTokens a.tokens) = a.check function :=
    checkArgument_of_filter (WrittenArgument.filter_lexicalTokens_tokens ha)
  have hname : a.tokensBehind.reverse.findSome? ArgumentToken.nameWord? = some a.name := by
    simp [WrittenArgument.tokensBehind, ArgumentToken.nameWord?, ha.name_ne]
  have hconst : (lexicalTokens a.tokens).contains constToken = decide (.const ∈ a.qualifiers) := by
    rw [Bool.eq_iff_iff, List.contains_iff_mem, decide_eq_true_iff]
    exact WrittenArgument.mem_lexicalTokens_tokens ha (q := .const)
  have hstar : (lexicalTokens a.tokens).contains starToken = decide (.star ∈ a.qualifiers) := by
    rw [Bool.eq_iff_iff, List.contains_iff_mem, decide_eq_true_iff]
    exact WrittenArgument.mem_lexicalTokens_tokens ha (q := .star)
  unfold FunctionArgument.ofTokens?
  simp only [hfilter, hsplit, hcheck, hname, hconst, hstar,
    WrittenArgument.assemble_qualified _ _ ha.isWord_type]
  cases a.check function with
  | error e => rfl
  | ok u => simp [WrittenArgument.argument, bind, Except.bind, pure, Except.pure, Except.map]

/-! ### Tagged arguments -/

namespace WrittenArgument

variable {a : WrittenArgument}

theorem filterMap_atom?_map_token : ∀ qs : List Qualifier,
    (qs.map Qualifier.token).filterMap Token.atom? = qs.map Qualifier.atom
  | [] => rfl
  | q :: qs => congrArg (q.atom :: ·) (filterMap_atom?_map_token qs)

theorem isWord_of_mem_typeAtoms (ha : a.Sound) {w : String} (hw : .word w ∈ a.typeAtoms) :
    IsWord w := by
  rcases List.mem_append.1 hw with hw | hw
  · exact Qualifier.isWord_of_mem_map_atom hw
  rcases List.mem_cons.1 hw with hw | hw
  · exact Atom.word.inj hw ▸ ha.isWord_type
  · exact Qualifier.isWord_of_mem_map_atom hw

theorem filter_tokens_asWritten (ha : a.Sound) :
    (TypeText.tokens a.asWritten.type.toList).filter Qualifier.isToken =
      a.qualifiers.map Qualifier.token := by
  rw [asWritten, String.toList_ofList,
    tokens_of_writes (writes_render fun w hw => isWord_of_mem_typeAtoms ha hw), typeAtoms,
    List.map_append, List.map_cons, List.filter_append,
    List.filter_cons_of_neg (by simp [isToken_word ha.type_ne]), List.map_map, List.map_map]
  show (a.before.map Qualifier.token).filter _ ++ (a.behind.map Qualifier.token).filter _ = _
  rw [Qualifier.filter_map_token, Qualifier.filter_map_token, qualifiers, List.map_append]

/-- With `const` before the type and the star behind it, nothing has to be moved. -/
theorem asWritten_eq (h : a.Plain) : a.asWritten = a.argument := by
  obtain ⟨hbefore, hbehind⟩ := h
  have htype : a.typeAtoms = (if decide (.const ∈ a.qualifiers) then [.word "const"] else []) ++
      .word a.type :: (if decide (.star ∈ a.qualifiers) then [.star] else []) := by
    rcases hbefore with hbefore | hbefore <;> rcases hbehind with hbehind | hbehind <;>
      simp [typeAtoms, qualifiers, hbefore, hbehind, Qualifier.atom]
  rw [asWritten, htype, ofList_render_qualified, argument]
  simp only [decide_eq_true_eq]

theorem Plain.not_rejected (h : a.Plain) : ¬ a.Rejected := by
  obtain ⟨hbefore, hbehind⟩ := h
  rcases hbefore with hbefore | hbefore <;> rcases hbehind with hbehind | hbehind <;>
    rw [Rejected, qualifiers, hbefore, hbehind] <;> decide

end WrittenArgument

/-- **A tagged argument** is refused for its qualifiers, or declared with the qualifiers
where they stand. -/
theorem FunctionArgument.ofElement_of_tagged {a : WrittenArgument} (ha : a.Sound)
    {e : ParamElement} (h : Declaration.Tagged e.content (a.before.map Qualifier.token) a.type
      (a.behind.map Qualifier.token) a.name) (function : String) :
    FunctionArgument.ofElement function e = (a.check function).map fun _ => a.asWritten := by
  obtain ⟨hlead, hbase, htail, hname⟩ := Declaration.ofFragments_of_tagged h
  have htype : (Declaration.ofFragments e.content).typeText? = some a.asWritten.type := by
    rw [Declaration.typeText?, hbase, Option.map_some,
      assemble_of_writes hlead (writes_word ha.isWord_type) htail, List.filterMap_append,
      List.filterMap_append, WrittenArgument.filterMap_atom?_map_token,
      WrittenArgument.filterMap_atom?_map_token]
    rfl
  have hcheck : checkArgument function (TypeText.tokens a.asWritten.type.toList) =
      a.check function := checkArgument_of_filter (WrittenArgument.filter_tokens_asWritten ha)
  unfold FunctionArgument.ofElement
  simp only [Declaration.requireName, Declaration.requireType, hname, htype]
  show checkArgument function (TypeText.tokens a.asWritten.type.toList) >>= _ = _
  rw [hcheck]
  cases a.check function <;> rfl

end VulkanFoundry
