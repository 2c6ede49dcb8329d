/-
# Both ways to write a function pointer agree

Tokens that a text can have are written with a blank behind each. So what stands around a
type, and a list of arguments, can always be written, and with them every function
pointer: as running text, and with tags, whatever qualifiers its arguments have. Names
have to be words, so that nothing is trimmed from them.

The two ways are checked and resolved alike. So they accept the same function pointers,
and refuse the others for the same fault (`FunctionPointerType.text_agrees_with_tags`).
-/
import VulkanFoundry.Proofs.Declaration.FunctionPointers
import VulkanFoundry.Proofs.Text.Lossless

namespace VulkanFoundry

open TypeText

/-! ### Tags -/

namespace Declaration

def fragments (lead : List Token) (type : String) (tail : List Token) (name : String) :
    List Fragment :=
  [.text (String.ofList (spaced lead)), .type type, .text (String.ofList (spaced tail)),
    .name name]

theorem writes_allText_spaced {ts : List Token} (h : ∀ t ∈ ts, t.Writable) :
    Writes ts (allText [.text (String.ofList (spaced ts))]).toList := by
  have hwrites := writes_spaced h
  simpa [allText, Fragment.text?] using hwrites

theorem tagged_fragments {lead tail : List Token} {type name : String}
    (hlead : ∀ t ∈ lead, t.Writable) (htype : IsWord type) (htail : ∀ t ∈ tail, t.Writable)
    (hname : IsWord name) : Tagged (fragments lead type tail name) lead type tail name := by
  have htagged : Tagged ([.text (String.ofList (spaced lead))] ++ .type type ::
      ([.text (String.ofList (spaced tail))] ++ .name name :: [])) lead (Text.trimmed type) tail
      (Text.trimmed name) := .intro (by simp [Fragment.isPlain]) (writes_allText_spaced hlead)
        (by simp [Fragment.name?]) (writes_allText_spaced htail)
  rwa [htype.trimmed_eq, hname.trimmed_eq] at htagged

end Declaration

/-! ### Running text -/

namespace ArgumentToken

def Writable : ArgumentToken → Prop
  | .text t => t.Writable
  | .type s => IsWord s

def part : ArgumentToken → TypePart
  | .text t => .text (String.ofList (spaced [t]))
  | .type s => .type s

theorem running_parts : ∀ {as : List ArgumentToken}, (∀ a ∈ as, a.Writable) →
    Running ((as.map part).filterMap TypePart.fragment?) as
  | [], _ => .nil
  | .text t :: as, h => by
    have hrest := running_parts fun b hb => h b (List.mem_cons_of_mem _ hb)
    have htoken : Token.Writable t := h _ List.mem_cons_self
    have hwrites : Writes [t] (String.ofList (spaced [t])).toList := by
      rw [String.toList_ofList]
      exact writes_spaced fun u hu => List.mem_singleton.1 hu ▸ htoken
    exact .text hwrites hrest
  | .type s :: as, h => by
    have hrest := running_parts fun b hb => h b (List.mem_cons_of_mem _ hb)
    have hword : IsWord s := h _ List.mem_cons_self
    have htype := Running.type (s := s) hrest
    rwa [hword.trimmed_eq] at htype

end ArgumentToken

namespace Prototype

variable {p : Prototype}

theorem writable_qualifier (q : Qualifier) : q.token.Writable := by
  cases q <;> decide

theorem writable_of_mem_map_token {qs : List Qualifier} :
    ∀ t ∈ qs.map Qualifier.token, t.Writable := by
  intro t ht
  obtain ⟨q, -, rfl⟩ := List.mem_map.1 ht
  exact writable_qualifier q

theorem writable_of_mem_leadTokens {typedef : Bool} :
    ∀ t ∈ p.leadTokens typedef, t.Writable := by
  intro t ht
  have hcases : t = typedefToken ∨ t = constToken := by
    unfold leadTokens at ht
    split_ifs at ht <;> simp_all
  rcases hcases with rfl | rfl <;> decide

theorem writable_of_mem_starTokens : ∀ t ∈ p.starTokens, t.Writable := by
  intro t ht
  rw [List.eq_of_mem_replicate ht]
  decide

theorem writable_of_mem_tokens {a : WrittenArgument} (ha : a.Sound) :
    ∀ t ∈ a.tokens, t.Writable := by
  have hqualifiers (qs : List Qualifier) :
      ∀ t ∈ WrittenArgument.qualifierTokens qs, t.Writable := by
    intro t ht
    obtain ⟨q, -, rfl⟩ := List.mem_map.1 ht
    exact writable_qualifier q
  intro t ht
  rcases List.mem_append.1 ht with ht | ht
  · exact hqualifiers _ t ht
  rcases List.mem_cons.1 ht with rfl | ht
  · exact ha.isWord_type
  rcases List.mem_append.1 ht with ht | ht
  · exact hqualifiers _ t ht
  · obtain rfl := List.mem_singleton.1 ht
    exact ha.isWord_name

def argumentList : List WrittenArgument → List ArgumentToken
  | [] => []
  | a :: rest => a.tokens ++ rest.flatMap fun b => .text (.punct ',') :: b.tokens

theorem listTokens_argumentList : ∀ args : List WrittenArgument,
    ListTokens args (argumentList args)
  | [] => .empty
  | a :: rest => .cons a rest

theorem writable_of_mem_argumentList : ∀ {args : List WrittenArgument},
    (∀ a ∈ args, a.Sound) → ∀ t ∈ argumentList args, t.Writable
  | [], _, t, ht => absurd ht List.not_mem_nil
  | a :: rest, h, t, ht => by
    rcases List.mem_append.1 ht with ht | ht
    · exact writable_of_mem_tokens (h a List.mem_cons_self) t ht
    obtain ⟨b, hb, ht⟩ := List.mem_flatMap.1 ht
    rcases List.mem_cons.1 ht with rfl | ht
    · exact (by decide : (Token.punct ',').Writable)
    · exact writable_of_mem_tokens (h b (List.mem_cons_of_mem a hb)) t ht

def tokensBehindName (p : Prototype) : List ArgumentToken :=
  .text (.punct ')') :: .text (.punct '(') :: (argumentList p.arguments ++ listEnd)

theorem writable_of_mem_tokensBehindName (hp : p.Sound) :
    ∀ t ∈ p.tokensBehindName, t.Writable := by
  have hopen : (Token.punct '(').Writable := by decide
  have hclose : (Token.punct ')').Writable := by decide
  have hend : (Token.punct ';').Writable := by decide
  intro t ht
  simp only [tokensBehindName, listEnd, List.mem_cons, List.mem_append, List.not_mem_nil,
    or_false] at ht
  rcases ht with rfl | rfl | ht | rfl | rfl
  · exact hclose
  · exact hopen
  · exact writable_of_mem_argumentList hp.arguments t ht
  · exact hclose
  · exact hend

def headText (p : Prototype) : String := String.ofList (spaced
  (p.leadTokens true ++ p.returnedToken :: p.starTokens ++ [.punct '(']))

def inText (p : Prototype) : TypeElement where
  content := .text p.headText :: .name p.name :: p.tokensBehindName.map ArgumentToken.part

def argumentElement (a : WrittenArgument) : ParamElement where
  content := Declaration.fragments (a.before.map Qualifier.token) a.type
    (a.behind.map Qualifier.token) a.name

def inTags (p : Prototype) : TypeElement where
  content :=
    .proto (Declaration.fragments (p.leadTokens false) p.returned p.starTokens p.name) ::
      p.arguments.map fun a => .param (argumentElement a)

theorem writtenAsText_inText (hp : p.Sound) (hname : IsWord p.name) :
    p.WrittenAsText p.inText := by
  have hproto : p.inText.proto? = none := by
    refine List.findSome?_eq_none_iff.2 fun part hpart => ?_
    simp only [inText, List.mem_cons, List.mem_map] at hpart
    rcases hpart with rfl | rfl | ⟨a, -, rfl⟩
    · rfl
    · rfl
    · cases a <;> rfl
  have hhead : Writes (p.leadTokens true ++ p.returnedToken :: p.starTokens ++ [.punct '('])
      p.headText.toList := by
    rw [headText, String.toList_ofList]
    refine writes_spaced fun t ht => ?_
    simp only [List.append_assoc, List.cons_append, List.mem_append, List.mem_cons,
      List.not_mem_nil, or_false] at ht
    rcases ht with ht | rfl | ht | rfl
    · exact writable_of_mem_leadTokens t ht
    · exact hp.isWord_returned
    · exact writable_of_mem_starTokens t ht
    · decide
  have hbefore : ∀ f ∈ [Fragment.text p.headText], f.name? = none := by simp [Fragment.name?]
  have hpieces : WritesAll (p.leadTokens true ++ p.returnedToken :: p.starTokens ++ [.punct '('])
      ([Fragment.text p.headText].filterMap headText?) := by
    have hpieces := WritesAll.cons hhead .nil
    rwa [List.append_nil] at hpieces
  exact .intro hproto rfl hname.trimmed_eq hbefore hpieces
    (fun t ht => (Option.some.inj ht).symm) (listTokens_argumentList p.arguments)
    (ArgumentToken.running_parts (writable_of_mem_tokensBehindName hp))

theorem writtenWithTags_inTags (hp : p.Sound) (hname : IsWord p.name) :
    p.WrittenWithTags p.inTags := by
  have hhead : Declaration.Tagged
      (Declaration.fragments (p.leadTokens false) p.returned p.starTokens p.name)
      (p.leadTokens false) p.returned (p.starTokens ++ []) p.name := by
    rw [List.append_nil]
    exact Declaration.tagged_fragments writable_of_mem_leadTokens hp.isWord_returned
      writable_of_mem_starTokens hname
  have hproto : p.inTags.proto? = some
      (Declaration.fragments (p.leadTokens false) p.returned p.starTokens p.name) := rfl
  have hparams : p.inTags.paramElements = p.arguments.map argumentElement := by
    show (p.arguments.map fun a => TypePart.param (argumentElement a)).filterMap _ = _
    rw [List.filterMap_map, ← List.filterMap_eq_map]
    rfl
  refine .intro hproto hhead (fun t ht => nomatch ht) ?_
  rw [hparams]
  refine List.forall₂_map_left_iff.2 (List.forall₂_same.2 fun a ha => ?_)
  have hsound : a.Sound := hp.arguments a ha
  exact Declaration.tagged_fragments writable_of_mem_map_token hsound.isWord_type
    writable_of_mem_map_token hsound.isWord_name

end Prototype

/-! ### Both ways agree -/

namespace FunctionPointerType

variable {p : Prototype}

/-- **Both ways to write a function pointer agree.** Every function pointer can be written
both ways. With `const` before the types and stars behind them, both declare it as it is
written. With qualifiers in any other place both accept it if no argument is refused, though
only tags keep the qualifiers in their places, and else both refuse it with the same fault. -/
theorem text_agrees_with_tags (hp : p.Sound) :
    (IsWord p.name → p.WrittenAsText p.inText ∧ p.WrittenWithTags p.inTags) ∧
    ∀ e e', p.WrittenAsText e → p.WrittenWithTags e' →
      ((∀ a ∈ p.arguments, a.Plain) →
        ofElement e = .ok p.functionPointer ∧ ofElement e' = .ok p.functionPointer) ∧
      ((∀ a ∈ p.arguments, ¬ a.Rejected) → ofElement e = .ok p.functionPointer ∧
        ofElement e' = .ok
          { p.functionPointer with arguments := p.arguments.map WrittenArgument.asWritten }) ∧
      ((∃ a ∈ p.arguments, a.Rejected) → ∃ fault,
        ofElement e = .error (.invalidElement p.name fault) ∧
          ofElement e' = .error (.invalidElement p.name fault)) := by
  refine ⟨fun hname => ⟨p.writtenAsText_inText hp hname, p.writtenWithTags_inTags hp hname⟩,
    fun e e' he he' => ?_⟩
  have haccepted (h : ∀ a ∈ p.arguments, ¬ a.Rejected) : p.checkArguments = .ok () :=
    forM_eq_ok_iff.2 fun a ha => WrittenArgument.check_eq_ok_iff.2 (h a ha)
  rw [ofElement_of_text hp he, ofElement_of_tags hp he']
  refine ⟨fun hplain => ?_, fun h => ?_, fun ⟨a, ha, hrejected⟩ => ?_⟩
  · -- what is plain stands in its place already, so tags keep nothing apart
    have hsame : p.arguments.map WrittenArgument.asWritten =
        p.arguments.map WrittenArgument.argument :=
      List.map_congr_left fun a ha => WrittenArgument.asWritten_eq (hplain a ha)
    rw [haccepted fun a ha => (hplain a ha).not_rejected, hsame]
    exact ⟨rfl, rfl⟩
  · rw [haccepted h]
    exact ⟨rfl, rfl⟩
  · cases hcheck : p.checkArguments with
    | ok u =>
      have ha' := forM_eq_ok_iff.1 hcheck a ha
      exact absurd hrejected (WrittenArgument.check_eq_ok_iff.1 ha')
    | error err =>
      obtain ⟨fault, rfl⟩ := exists_fault_of_checkArguments hcheck
      exact ⟨fault, rfl, rfl⟩

/-! ### Two function pointers, written both ways -/

/-- A function pointer with a pointer and a number as arguments. -/
def logPrototype : Prototype where
  name := "PFN_vkLog"
  returnsConst := false
  returned := "void"
  stars := 1
  arguments := [⟨[.const], "char", [.star], "pText"⟩, ⟨[], "size_t", [], "size"⟩]

/-- `logPrototype` as running text, with a star at the name of an argument. -/
def logText : TypeElement where
  content := [.text "typedef void* (VKAPI_PTR *", .name "PFN_vkLog", .text ")(\n  const ",
    .type "char", .text " *pText,", .type " size_t ", .text "size);"]

def logTags : TypeElement where
  content := [.proto [.type "void", .text "* ", .name "PFN_vkLog"],
    .param { content := [.text "const ", .type "char", .text "* ", .name "pText"] },
    .param { content := [.type "size_t", .text " ", .name "size"] }]

theorem endsReturnType_cons (rest : List Token) :
    Prototype.EndsReturnType (.punct '(' :: rest) := fun _ ht => (Option.some.inj ht).symm

theorem writtenAsText_logText : logPrototype.WrittenAsText logText := by
  have hhead : WritesAll ([typedefToken, .atom (.word "void"), starToken, .punct '(',
      .atom (.word "VKAPI_PTR"), starToken] ++ []) ["typedef void* (VKAPI_PTR *"] :=
    .cons (writes_iff.2 (by decide +kernel)) .nil
  have hafter : Running [.text ")(\n  const ", .type "char", .text " *pText,", .type " size_t ",
      .text "size);"]
      ([Token.punct ')', .punct '(', constToken].map .text ++ .type (Text.trimmed "char") ::
        ([starToken, .atom (.word "pText"), .punct ','].map .text ++
          .type (Text.trimmed " size_t ") ::
            ([.atom (.word "size"), .punct ')', .punct ';'].map .text ++ []))) :=
    .text (writes_iff.2 (by decide +kernel)) (.type (.text (writes_iff.2 (by decide +kernel))
      (.type (.text (writes_iff.2 (by decide +kernel)) .nil))))
  have hchar : Text.trimmed "char" = "char" := by decide +kernel
  have hsize : Text.trimmed " size_t " = "size_t" := by decide +kernel
  rw [hchar, hsize] at hafter
  have hfragments : logText.fragments = [.text "typedef void* (VKAPI_PTR *"] ++
    .name "PFN_vkLog" :: [.text ")(\n  const ", .type "char", .text " *pText,", .type " size_t ",
      .text "size);"] := rfl
  have hname : Text.trimmed "PFN_vkLog" = logPrototype.name := by decide +kernel
  have hhead' : WritesAll (logPrototype.leadTokens true ++ logPrototype.returnedToken ::
      logPrototype.starTokens ++ [.punct '(', .atom (.word "VKAPI_PTR"), starToken])
      ([.text "typedef void* (VKAPI_PTR *"].filterMap Prototype.headText?) := hhead
  exact .intro rfl hfragments hname (by decide) hhead' (endsReturnType_cons _) (.cons _ _) hafter

theorem writtenWithTags_logTags : logPrototype.WrittenWithTags logTags := by
  have hhead : Declaration.Tagged ([] ++ .type "void" :: ([.text "* "] ++ .name "PFN_vkLog" :: []))
      (logPrototype.leadTokens false) (Text.trimmed "void") (logPrototype.starTokens ++ [])
      (Text.trimmed "PFN_vkLog") :=
    .intro (by decide) (writes_iff.2 (by decide +kernel)) (by decide)
      (writes_iff.2 (by decide +kernel))
  have htext : Declaration.Tagged ([.text "const "] ++ .type "char" ::
      ([.text "* "] ++ .name "pText" :: [])) [constToken] (Text.trimmed "char") [starToken]
      (Text.trimmed "pText") :=
    .intro (by decide) (writes_iff.2 (by decide +kernel)) (by decide)
      (writes_iff.2 (by decide +kernel))
  have hsize : Declaration.Tagged ([] ++ .type "size_t" :: ([.text " "] ++ .name "size" :: []))
      [] (Text.trimmed "size_t") [] (Text.trimmed "size") :=
    .intro (by decide) (writes_iff.2 (by decide +kernel)) (by decide)
      (writes_iff.2 (by decide +kernel))
  exact .intro rfl hhead (fun t ht => nomatch ht) (.cons htext (.cons hsize .nil))

/-- A function pointer without a result, with a `const` behind a star. -/
def constPrototype : Prototype where
  name := "PFN_vkFree"
  returnsConst := false
  returned := "void"
  stars := 0
  arguments := [⟨[], "char", [.star, .const], "pText"⟩]

def constText : TypeElement where
  content := [.text "typedef ", .type "void", .text " (VKAPI_PTR *", .name "PFN_vkFree",
    .text ")(", .type "char", .text "*const pText);"]

def constTags : TypeElement where
  content := [.proto [.type "void", .text " ", .name "PFN_vkFree"],
    .param { content := [.type "char", .text "* const ", .name "pText"] }]

theorem writtenAsText_constText : constPrototype.WrittenAsText constText := by
  have hhead : WritesAll ([typedefToken] ++ ([.atom (.word "void")] ++ ([.punct '(',
      .atom (.word "VKAPI_PTR"), starToken] ++ []))) ["typedef ", "void", " (VKAPI_PTR *"] :=
    .cons (writes_iff.2 (by decide +kernel)) (.cons (writes_iff.2 (by decide +kernel))
      (.cons (writes_iff.2 (by decide +kernel)) .nil))
  have hafter : Running [.text ")(", .type "char", .text "*const pText);"]
      ([Token.punct ')', .punct '('].map .text ++ .type (Text.trimmed "char") ::
        ([starToken, constToken, .atom (.word "pText"), .punct ')', .punct ';'].map .text ++ [])) :=
    .text (writes_iff.2 (by decide +kernel)) (.type (.text (writes_iff.2 (by decide +kernel)) .nil))
  have hchar : Text.trimmed "char" = "char" := by decide +kernel
  rw [hchar] at hafter
  have hfragments : constText.fragments =
      [.text "typedef ", .type "void", .text " (VKAPI_PTR *"] ++ .name "PFN_vkFree" ::
        [.text ")(", .type "char", .text "*const pText);"] := rfl
  have hname : Text.trimmed "PFN_vkFree" = constPrototype.name := by decide +kernel
  have hhead' : WritesAll (constPrototype.leadTokens true ++ constPrototype.returnedToken ::
      constPrototype.starTokens ++ [.punct '(', .atom (.word "VKAPI_PTR"), starToken])
      ([.text "typedef ", .type "void", .text " (VKAPI_PTR *"].filterMap Prototype.headText?) :=
    hhead
  exact .intro rfl hfragments hname (by decide) hhead' (endsReturnType_cons _) (.cons _ _) hafter

theorem writtenWithTags_constTags : constPrototype.WrittenWithTags constTags := by
  have hhead : Declaration.Tagged ([] ++ .type "void" :: ([.text " "] ++ .name "PFN_vkFree" :: []))
      (constPrototype.leadTokens false) (Text.trimmed "void") (constPrototype.starTokens ++ [])
      (Text.trimmed "PFN_vkFree") :=
    .intro (by decide) (writes_iff.2 (by decide +kernel)) (by decide)
      (writes_iff.2 (by decide +kernel))
  have htext : Declaration.Tagged ([] ++ .type "char" :: ([.text "* const "] ++
      .name "pText" :: [])) [] (Text.trimmed "char") [starToken, constToken]
      (Text.trimmed "pText") :=
    .intro (by decide) (writes_iff.2 (by decide +kernel)) (by decide)
      (writes_iff.2 (by decide +kernel))
  exact .intro rfl hhead (fun t ht => nomatch ht) (.cons htext .nil)

/-- One function pointer is declared either way, the other one refused either way. -/
theorem log_declared_const_refused :
    (ofElement logText = .ok logPrototype.functionPointer ∧
      ofElement logTags = .ok logPrototype.functionPointer) ∧
    ∃ fault, ofElement constText = .error (.invalidElement "PFN_vkFree" fault) ∧
      ofElement constTags = .error (.invalidElement "PFN_vkFree" fault) := by
  have hlog : logPrototype.Sound := ⟨by decide, by decide, by decide⟩
  have hconst : constPrototype.Sound := ⟨by decide, by decide, by decide⟩
  obtain ⟨-, hlogs⟩ := text_agrees_with_tags hlog
  obtain ⟨-, hconsts⟩ := text_agrees_with_tags hconst
  obtain ⟨hdeclared, -⟩ := hlogs logText logTags writtenAsText_logText writtenWithTags_logTags
  obtain ⟨-, -, hrefused⟩ :=
    hconsts constText constTags writtenAsText_constText writtenWithTags_constTags
  exact ⟨hdeclared (by decide), hrefused (by decide)⟩

end FunctionPointerType
end VulkanFoundry
