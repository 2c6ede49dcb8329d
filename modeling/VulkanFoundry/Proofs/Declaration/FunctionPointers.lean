/-
# The two ways to write a function pointer

A function pointer is written as running text in which its name and the types of its
arguments are tagged, or with a tagged prototype and a tagged parameter for each
argument. What is written is the same either way: a name, a return type and a list of
arguments (`Prototype`). Blanks, comments and the keyword `typedef` are free, a star may
stand at the name, the return type may be tagged in running text, and an empty list may
be written `(void)`.

Both ways come down to the same checks of the arguments' qualifiers, made in order, and
to the same name and return type (`FunctionPointerType.ofElement_of_text`,
`FunctionPointerType.ofElement_of_tags`).
-/
import VulkanFoundry.Proofs.Declaration.FunctionArguments

namespace VulkanFoundry

open TypeText

/-- A function pointer as it is written. -/
structure Prototype where
  name : String
  /-- Whether the return type starts with `const`. -/
  returnsConst : Bool
  /-- The word of the return type. -/
  returned : String
  /-- The number of stars behind that word. -/
  stars : Nat
  arguments : List WrittenArgument
  deriving DecidableEq

def typedefToken : Token := .atom (.word "typedef")

namespace Prototype

variable {p : Prototype}

/-- The words are words, and that of the return type has no `typedef` in it. -/
structure Sound (p : Prototype) : Prop where
  isWord_returned : IsWord p.returned
  typedef_free : ¬ "typedef".toList <:+: p.returned.toList
  arguments : ∀ a ∈ p.arguments, a.Sound

def returnType (p : Prototype) : String :=
  (if p.returnsConst then "const " else "") ++ p.returned ++
    String.ofList (List.replicate p.stars '*')

/-- What is declared, with the arguments in order. -/
def functionPointer (p : Prototype) : FunctionPointerType where
  name := p.name
  returnType := p.returnType
  arguments := p.arguments.map WrittenArgument.argument

/-! ### What is written -/

def leadTokens (p : Prototype) (typedef : Bool) : List Token :=
  (if typedef then [typedefToken] else []) ++ (if p.returnsConst then [constToken] else [])

def returnedToken (p : Prototype) : Token := .atom (.word p.returned)

def starTokens (p : Prototype) : List Token := List.replicate p.stars starToken

/-- The return type is at its end: nothing follows, or a parenthesis opens. -/
def EndsReturnType (rest : List Token) : Prop := ∀ t ∈ rest.head?, t = .punct '('

/-- The arguments as a list in running text, without the parentheses around it. -/
inductive ListTokens : List WrittenArgument → List ArgumentToken → Prop
  | empty : ListTokens [] []
  | void : ListTokens [] [.text (.atom (.word "void"))]
  | cons (a : WrittenArgument) (rest : List WrittenArgument) : ListTokens (a :: rest)
      (a.tokens ++ rest.flatMap fun b => .text (.punct ',') :: b.tokens)

/-- The parenthesis that closes the list, and the end of the declaration. -/
def listEnd : List ArgumentToken := [.text (.punct ')'), .text (.punct ';')]

/-- The text of a fragment that can belong to the return type. -/
def headText? : Fragment → Option String
  | .text s | .type s => some s
  | _ => none

/-- The element writes the function pointer as one running text. -/
inductive WrittenAsText (p : Prototype) (e : TypeElement) : Prop
  | intro {before after : List Fragment} {name : String} {typedef : Bool} {rest : List Token}
      {list : List ArgumentToken} (hproto : e.proto? = none)
      (hfragments : e.fragments = before ++ .name name :: after)
      (hname : Text.trimmed name = p.name)
      (hbefore : ∀ f ∈ before, f.name? = none)
      (hhead : WritesAll (p.leadTokens typedef ++ p.returnedToken :: p.starTokens ++ rest)
        (before.filterMap headText?))
      (hrest : EndsReturnType rest)
      (hlist : ListTokens p.arguments list)
      (hafter : Running after (.text (.punct ')') :: .text (.punct '(') :: (list ++ listEnd)))

/-- The element writes the function pointer with a tagged prototype and parameters. -/
inductive WrittenWithTags (p : Prototype) (e : TypeElement) : Prop
  | intro {proto : List Fragment} {typedef : Bool} {rest : List Token}
      (hproto : e.proto? = some proto)
      (hhead : Declaration.Tagged proto (p.leadTokens typedef) p.returned (p.starTokens ++ rest)
        p.name)
      (hrest : EndsReturnType rest)
      (hparams : List.Forall₂ (fun param a => Declaration.Tagged param.content
        (a.before.map Qualifier.token) a.type (a.behind.map Qualifier.token) a.name)
        e.paramElements p.arguments)

/-! ### The return type -/

theorem renderRest_replicate_star : ∀ n : Nat,
    renderRest (List.replicate n .star) = List.replicate n '*'
  | 0 => rfl
  | n + 1 => congrArg ('*' :: ·) (renderRest_replicate_star n)

def returnAtoms (p : Prototype) : List Atom :=
  (if p.returnsConst then [.word "const"] else []) ++
    .word p.returned :: List.replicate p.stars .star

theorem ofList_render_returnAtoms (p : Prototype) :
    String.ofList (render p.returnAtoms) = p.returnType := by
  refine String.toList_inj.1 ?_
  unfold returnAtoms returnType
  cases p.returnsConst <;> simp [render, renderRest, renderRest_replicate_star]

theorem filterMap_atom?_returnTokens (p : Prototype) :
    (p.leadTokens false ++ p.returnedToken :: p.starTokens).filterMap Token.atom? =
      p.returnAtoms := by
  have hstars : p.starTokens.filterMap Token.atom? = List.replicate p.stars .star :=
    List.filterMap_replicate_of_some rfl
  unfold leadTokens returnedToken returnAtoms
  cases p.returnsConst <;> simp [Token.atom?, constToken, hstars]

theorem returnType_ne_empty (hp : p.Sound) : p.returnType ≠ "" := by
  intro h
  have hempty := String.toList_eq_nil_iff.2 h
  unfold returnType at hempty
  simp only [String.toList_append, List.append_eq_nil_iff] at hempty
  exact hp.isWord_returned.toList_ne_nil hempty.1.2

theorem writes_withoutTypedef {typedef : Bool} {ts : List Token} {cs : List Char}
    (h : Writes (p.leadTokens typedef ++ ts) cs)
    (hfree : ∀ w, .atom (.word w) ∈ ts → ¬ "typedef".toList <:+: w.toList) :
    Writes (p.leadTokens false ++ ts) (withoutTypedef cs) := by
  have hlead : ∀ w, .atom (.word w) ∈ p.leadTokens typedef →
      w = "typedef" ∨ ¬ "typedef".toList <:+: w.toList := by
    intro w hw
    have hword : w = "typedef" ∨ w = "const" := by
      unfold leadTokens at hw
      split_ifs at hw <;> simp_all [typedefToken, constToken]
    exact hword.imp_right fun hconst => by rw [hconst]; decide
  have htypedef : IsWord "typedef" := by decide
  have hwithout := h.replaceAll htypedef fun w hw =>
    (List.mem_append.1 hw).elim (hlead w) fun hts => .inr (hfree w hts)
  have hrest : ts.filter (· ≠ .atom (.word "typedef")) = ts := by
    refine List.filter_eq_self.2 fun t ht => decide_eq_true ?_
    rintro rfl
    exact hfree "typedef" ht List.infix_rfl
  have hkept : (p.leadTokens typedef).filter (· ≠ .atom (.word "typedef")) =
      p.leadTokens false := by
    unfold leadTokens
    cases typedef <;> cases p.returnsConst <;> decide
  rwa [List.filter_append, hrest, hkept] at hwithout

theorem ne_punct_of_mem_leadTokens {typedef : Bool} {c : Char} :
    ∀ t ∈ p.leadTokens typedef, t ≠ .punct c := by
  rintro t ht rfl
  unfold leadTokens at ht
  split_ifs at ht <;> simp [typedefToken, constToken] at ht

theorem ne_punct_of_mem_starTokens {c : Char} : ∀ t ∈ p.starTokens, t ≠ .punct c := by
  rintro t ht rfl
  cases List.eq_of_mem_replicate ht

/-! ### Lists of arguments -/

/-- The arguments are checked one by one, and the first fault is that of the list. -/
def checkArguments (p : Prototype) : Except LoadError Unit :=
  p.arguments.forM (WrittenArgument.check p.name)

theorem mapM_check {β : Type} (given : WrittenArgument → β) (function : String) :
    ∀ args : List WrittenArgument,
      (args.mapM fun a => (a.check function).map fun _ => given a) =
        (args.forM (WrittenArgument.check function)).map fun _ => args.map given
  | [] => rfl
  | a :: args => by
    rw [List.mapM_cons, mapM_check given function args]
    show _ = Except.map _ (a.check function >>= fun _ => args.forM (WrittenArgument.check function))
    cases a.check function with
    | error e => rfl
    | ok u => cases args.forM (WrittenArgument.check function) <;> rfl

theorem splitWhere_append_cons {α : Type} {isSeparator : α → Bool} {separator : α}
    (hseparator : isSeparator separator = true) (rest : List α) :
    ∀ {group : List α}, (∀ t ∈ group, isSeparator t = false) →
      splitWhere isSeparator (group ++ separator :: rest) = group :: splitWhere isSeparator rest
  | [], _ => by rw [List.nil_append, splitWhere, if_pos hseparator]
  | t :: group, h => by
    have ht : ¬ isSeparator t = true := by rw [h t List.mem_cons_self]; exact Bool.false_ne_true
    rw [List.cons_append, splitWhere, if_neg ht,
      splitWhere_append_cons hseparator rest fun u hu => h u (List.mem_cons_of_mem t hu)]

/-- Between the commas and the last parenthesis stand the arguments. -/
theorem splitWhere_tokens (a : WrittenArgument) : ∀ rest : List WrittenArgument,
    splitWhere (·.isOneOf [',', ')'])
      (a.tokens ++ (rest.flatMap fun b => .text (.punct ',') :: b.tokens) ++ listEnd) =
      (a :: rest).map WrittenArgument.tokens ++ [[.text (.punct ';')]]
  | [] => by
    rw [List.flatMap_nil, List.append_nil]
    exact splitWhere_append_cons rfl _ WrittenArgument.isOneOf_of_mem_tokens
  | b :: rest => by
    rw [List.flatMap_cons, List.append_assoc, List.append_assoc, List.cons_append,
      splitWhere_append_cons rfl _ WrittenArgument.isOneOf_of_mem_tokens, ← List.append_assoc,
      splitWhere_tokens b rest]
    rfl

theorem dropWhile_tokens_append (a : WrittenArgument) (rest : List ArgumentToken) :
    (a.tokens ++ rest).dropWhile (·.isOneOf ['(', ')']) = a.tokens ++ rest := by
  have hne : a.tokens ≠ [] := List.append_ne_nil_of_right_ne_nil _ (List.cons_ne_nil _ _)
  obtain ⟨t, ts, hts⟩ := List.exists_cons_of_ne_nil hne
  have ht : t.isOneOf ['(', ')'] = false :=
    WrittenArgument.isOneOf_of_mem_tokens t (hts ▸ List.mem_cons_self)
  rw [hts, List.cons_append, List.dropWhile_cons_of_neg (by simp [ht])]

/-- What is made of a list in running text is made of its arguments. -/
theorem mapM_ofTokens?_map {args : List WrittenArgument} {list : List ArgumentToken}
    (h : ListTokens args list) (hargs : ∀ a ∈ args, a.Sound) (function : String) {β : Type}
    (given : List FunctionArgument → β) :
    ((splitWhere (·.isOneOf [',', ')'])
      ((.text (.punct ')') :: .text (.punct '(') :: (list ++ listEnd)).dropWhile
        (·.isOneOf ['(', ')']))).mapM (FunctionArgument.ofTokens? function)).map
          (fun found => given (found.filterMap id)) =
      (args.forM (WrittenArgument.check function)).map fun _ =>
        given (args.map WrittenArgument.argument) := by
  cases h with
  | empty => rfl
  | void => rfl
  | cons a rest =>
    have hgroups : ((a :: rest).map WrittenArgument.tokens).mapM
        (FunctionArgument.ofTokens? function) =
        (a :: rest).mapM fun b => (b.check function).map fun _ => some b.argument :=
      mapM_eq_of_forall₂ (List.forall₂_map_left_iff.2 (List.forall₂_same.2 fun b hb =>
        FunctionArgument.ofTokens?_tokens (hargs b hb) function))
    have hlast : [[ArgumentToken.text (.punct ';')]].mapM (FunctionArgument.ofTokens? function) =
        .ok [none] := rfl
    rw [List.dropWhile_cons_of_pos rfl, List.dropWhile_cons_of_pos rfl, List.append_assoc,
      dropWhile_tokens_append, ← List.append_assoc, splitWhere_tokens, List.mapM_append, hgroups,
      mapM_check, hlast]
    cases (a :: rest).forM (WrittenArgument.check function) with
    | error e => rfl
    | ok u => exact congrArg (fun as => Except.ok (given as)) (by simp [List.filterMap_append])

end Prototype

/-! ### The two ways -/

namespace FunctionPointerType

variable {p : Prototype} {e e' : TypeElement}

theorem splitAtName?_append : ∀ {before : List Fragment} (name : String) (after : List Fragment),
    (∀ f ∈ before, f.name? = none) →
    splitAtName? (before ++ .name name :: after) = some (before, Text.trimmed name, after)
  | [], _, _, _ => rfl
  | f :: before, name, after, h => by
    have hrest := splitAtName?_append name after fun g hg => h g (List.mem_cons_of_mem f hg)
    have hf : ∀ s, f = .name s → False := by
      rintro s rfl
      cases h _ List.mem_cons_self
    rw [List.cons_append, splitAtName?, hrest]
    · rfl
    · exact hf

/-- With a name and a return type, running text comes down to its list of arguments. -/
theorem ofText_eq {fragments before after : List Fragment} {name returnType : String}
    (hname : splitAtName? fragments = some (before, name, after))
    (hreturn : TypeText.canonical (withoutTypedef (beforeParenthesis
      (Text.joined " " (before.filterMap Prototype.headText?)).toList)) = returnType)
    (hne : returnType ≠ "") : ofText fragments =
      ((splitWhere (·.isOneOf [',', ')'])
        ((after.flatMap argumentTokens).dropWhile (·.isOneOf ['(', ')']))).mapM
          (FunctionArgument.ofTokens? name)).map fun found =>
            { name, returnType, arguments := found.filterMap id } := by
  subst hreturn
  rw [ofText, hname]
  exact (if_neg hne).trans (map_eq_bind _ _).symm

/-- The return type as running text has it: up to the first parenthesis, without the
keyword. -/
theorem canonical_of_writes_head (hp : p.Sound) {typedef : Bool} {rest : List Token}
    {cs : List Char}
    (h : Writes (p.leadTokens typedef ++ p.returnedToken :: p.starTokens ++ rest) cs)
    (hrest : Prototype.EndsReturnType rest) :
    TypeText.canonical (withoutTypedef (beforeParenthesis cs)) = p.returnType := by
  have hbefore : Writes (p.leadTokens typedef ++ p.returnedToken :: p.starTokens)
      (beforeParenthesis cs) := by
    refine h.takeWhile (fun t ht => ?_) hrest
    rcases List.mem_append.1 ht with ht | ht
    · exact Prototype.ne_punct_of_mem_leadTokens t ht
    rcases List.mem_cons.1 ht with rfl | ht
    · exact Token.noConfusion
    · exact Prototype.ne_punct_of_mem_starTokens t ht
  have hwithout : Writes (p.leadTokens false ++ p.returnedToken :: p.starTokens)
      (withoutTypedef (beforeParenthesis cs)) := by
    refine Prototype.writes_withoutTypedef hbefore fun w hw => ?_
    rcases List.mem_cons.1 hw with hw | hw
    · exact Atom.word.inj (Token.atom.inj hw) ▸ hp.typedef_free
    · cases List.eq_of_mem_replicate hw
  rw [TypeText.canonical, atoms_of_writes hwithout, Prototype.filterMap_atom?_returnTokens,
    Prototype.ofList_render_returnAtoms]

/-- **Running text** declares the function pointer unless an argument is refused. -/
theorem ofElement_of_text (hp : p.Sound) (h : p.WrittenAsText e) :
    ofElement e = p.checkArguments.map fun _ => p.functionPointer := by
  obtain @⟨before, after, name, typedef, rest, list, hproto, hfragments, hname, hbefore, hhead,
    hrest, hlist, hafter⟩ := h
  have hreturn : TypeText.canonical (withoutTypedef (beforeParenthesis
      (Text.joined " " (before.filterMap Prototype.headText?)).toList)) = p.returnType :=
    canonical_of_writes_head hp hhead.writes_joined hrest
  have hsplit := splitAtName?_append name after hbefore
  rw [← hfragments, hname] at hsplit
  rw [ofElement, hproto]
  show ofText e.fragments = _
  rw [ofText_eq hsplit hreturn (Prototype.returnType_ne_empty hp), hafter.flatMap_eq]
  exact Prototype.mapM_ofTokens?_map hlist hp.arguments p.name
    (FunctionPointerType.mk p.name p.returnType)

/-- **Tags** declare the function pointer unless an argument is refused, with the
qualifiers of the arguments where they stand. -/
theorem ofElement_of_tags (hp : p.Sound) (h : p.WrittenWithTags e) :
    ofElement e = p.checkArguments.map fun _ =>
      { p.functionPointer with arguments := p.arguments.map WrittenArgument.asWritten } := by
  obtain @⟨proto, typedef, rest, hproto, hhead, hrest, hparams⟩ := h
  obtain ⟨hlead, hbase, htail, hname⟩ := Declaration.ofFragments_of_tagged hhead
  have hlead' : Writes (p.leadTokens false ++ [])
      (withoutTypedef (Declaration.ofFragments proto).lead.toList) :=
    Prototype.writes_withoutTypedef (by rwa [List.append_nil]) fun w hw => nomatch hw
  have htail' : Writes p.starTokens
      (beforeParenthesis (Declaration.ofFragments proto).tail.toList) :=
    htail.takeWhile Prototype.ne_punct_of_mem_starTokens hrest
  have hreturn : TypeText.assemble
      (String.ofList (withoutTypedef (Declaration.ofFragments proto).lead.toList)) p.returned
      (String.ofList (beforeParenthesis (Declaration.ofFragments proto).tail.toList)) =
      p.returnType := by
    rw [← String.toList_ofList (l := withoutTypedef _)] at hlead'
    rw [← String.toList_ofList (l := beforeParenthesis _)] at htail'
    rw [assemble_of_writes hlead' (writes_word hp.isWord_returned) htail', List.append_nil]
    exact (congrArg (fun as => String.ofList (render as))
      p.filterMap_atom?_returnTokens).trans p.ofList_render_returnAtoms
  have harguments : e.paramElements.mapM (FunctionArgument.ofElement p.name) =
      p.checkArguments.map fun _ => p.arguments.map WrittenArgument.asWritten := by
    rw [Prototype.checkArguments, ← Prototype.mapM_check]
    have hsound := (List.forall₂_and_left _ _).2 ⟨hp.arguments, hparams.flip⟩
    refine mapM_eq_of_forall₂ (hsound.imp fun a param h => ?_).flip
    exact FunctionArgument.ofElement_of_tagged h.1 h.2 p.name
  rw [ofElement, hproto]
  show ofTagged proto e.paramElements = _
  simp only [ofTagged, Declaration.requireName, Declaration.requireBase, hname, hbase]
  show (e.paramElements.mapM (FunctionArgument.ofElement p.name) >>= fun arguments => pure _) = _
  rw [harguments, hreturn]
  cases p.checkArguments <;> rfl

/-- A fault of the list is one of an argument that is refused. -/
theorem exists_fault_of_checkArguments {err : LoadError} (h : p.checkArguments = .error err) :
    ∃ fault, err = .invalidElement p.name fault := by
  obtain ⟨a, -, ha⟩ := exists_of_forM_eq_error h
  obtain ⟨fault, -, rfl⟩ := WrittenArgument.check_eq_error_iff.1 ha
  exact ⟨fault, rfl⟩

end FunctionPointerType
end VulkanFoundry
