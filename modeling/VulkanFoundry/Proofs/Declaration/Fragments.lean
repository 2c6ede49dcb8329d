/-
# What fragments write

Declarations are running text with tagged words in it. The fragments of one declaration
tag its type and its name; the text before the type, and that between type and name, is
all that can stand there besides comments, and each of them writes tokens as if it was
in one piece (`Declaration.ofFragments_of_tagged`). What is tagged behind the name
is text like any other.

In a list of arguments that is written as running text each type is tagged and stands
for itself, and each piece of text writes tokens of its own (`Running.flatMap_eq`).
Pieces of text that are joined by blanks write their tokens one after the other.

Key theorems: `Declaration.ofFragments_eq`, `WritesAll.writes_joined`.
-/
import VulkanFoundry.Declaration.FunctionPointer
import VulkanFoundry.Proofs.Text.Writing

namespace VulkanFoundry

open TypeText

/-! ### Tagged declarations -/

/-- The fragment is running text or a comment, and tags neither a type nor a name. -/
def Fragment.isPlain : Fragment → Bool
  | .text _ | .enum _ | .comment _ => true
  | .type _ | .name _ => false

theorem Fragment.name?_of_isPlain {f : Fragment} (h : f.isPlain = true) : f.name? = none := by
  cases f with
  | name s => cases h
  | _ => rfl

theorem allText_cons (f : Fragment) (fragments : List Fragment) :
    allText (f :: fragments) = f.text?.getD "" ++ allText fragments := by
  refine String.toList_inj.1 ?_
  cases f <;> simp [allText, Fragment.text?, List.filterMap_cons]

theorem allText_append : ∀ fragments fragments' : List Fragment,
    allText (fragments ++ fragments') = allText fragments ++ allText fragments'
  | [], _ => String.empty_append.symm
  | f :: fragments, fragments' => by
    rw [List.cons_append, allText_cons, allText_cons, allText_append fragments, String.append_assoc]

namespace Declaration

variable {fragments : List Fragment} {lead tail : List Token} {base name : String}

/-- The fragments tag a type and a name. What they write before the type and between the
two is given by tokens. -/
inductive Tagged : List Fragment → List Token → String → List Token → String → Prop
  | intro {before between rest : List Fragment} {lead tail : List Token} {type name : String}
      (hbefore : ∀ f ∈ before, f.isPlain = true) (hlead : Writes lead (allText before).toList)
      (hbetween : ∀ f ∈ between, f.name? = none) (htail : Writes tail (allText between).toList) :
      Tagged (before ++ .type type :: (between ++ .name name :: rest)) lead (Text.trimmed type)
        tail (Text.trimmed name)

theorem foldl_add_lead : ∀ {before : List Fragment} (lead : String),
    (∀ f ∈ before, f.isPlain = true) →
    before.foldl add { lead } = { lead := lead ++ allText before }
  | [], lead, _ => congrArg (fun lead => { lead : Declaration }) String.append_empty.symm
  | f :: before, lead, h => by
    have hadd : add { lead } f = { lead := lead ++ f.text?.getD "" } := by
      cases f with
      | comment s => exact congrArg (fun lead => { lead : Declaration }) String.append_empty.symm
      | type s => cases h _ List.mem_cons_self
      | name s => cases h _ List.mem_cons_self
      | _ => rfl
    rw [List.foldl_cons, hadd, foldl_add_lead _ fun g hg => h g (List.mem_cons_of_mem f hg),
      allText_cons, String.append_assoc]

theorem foldl_add_tail : ∀ {between : List Fragment} (lead base tail : String),
    (∀ f ∈ between, f.name? = none) →
    between.foldl add { lead, base := some base, tail } =
      { lead, base := some base, tail := tail ++ allText between }
  | [], lead, base, tail, _ =>
    congrArg (fun tail => { lead, base := some base, tail : Declaration }) String.append_empty.symm
  | f :: between, lead, base, tail, h => by
    have hadd : add { lead, base := some base, tail } f =
        { lead, base := some base, tail := tail ++ f.text?.getD "" } := by
      cases f with
      | comment s =>
        exact congrArg (fun tail => { lead, base := some base, tail : Declaration })
          String.append_empty.symm
      | name s => cases h _ List.mem_cons_self
      | _ => rfl
    rw [List.foldl_cons, hadd, foldl_add_tail _ _ _ fun g hg => h g (List.mem_cons_of_mem f hg),
      allText_cons, String.append_assoc]

/-- Behind the name, text goes to the suffix, tagged or not. -/
theorem foldl_add_suffix : ∀ (after : List Fragment) (lead tail suffix : String)
    (base : Option String) (name : String),
    after.foldl add { lead, base, tail, name := some name, suffix } =
      { lead, base, tail, name := some name, suffix := suffix ++ allText after }
  | [], lead, tail, suffix, base, name =>
    congrArg (fun suffix => { lead, base, tail, name := some name, suffix : Declaration })
      String.append_empty.symm
  | f :: after, lead, tail, suffix, base, name => by
    have hadd : add { lead, base, tail, name := some name, suffix } f =
        { lead, base, tail, name := some name, suffix := suffix ++ f.text?.getD "" } := by
      cases f with
      | comment s =>
        exact congrArg (fun suffix => { lead, base, tail, name := some name, suffix : Declaration })
          String.append_empty.symm
      | _ => simp [add, addText, Fragment.text?]
    rw [List.foldl_cons, hadd, foldl_add_suffix, allText_cons, String.append_assoc]

/-- **The parts of a tagged declaration** are the texts around its tags. -/
theorem ofFragments_eq {before between after : List Fragment} {type name : String}
    (hbefore : ∀ f ∈ before, f.isPlain = true) (hbetween : ∀ f ∈ between, f.name? = none) :
    ofFragments (before ++ .type type :: (between ++ .name name :: after)) =
      { lead := allText before, base := some (Text.trimmed type), tail := allText between
        name := some (Text.trimmed name), suffix := allText after } := by
  rw [ofFragments, List.foldl_append, foldl_add_lead _ hbefore, String.empty_append,
    List.foldl_cons]
  show (between ++ .name name :: after).foldl add
    { lead := allText before, base := some (Text.trimmed type), tail := "" } = _
  rw [List.foldl_append, foldl_add_tail _ _ _ hbetween, String.empty_append, List.foldl_cons]
  show after.foldl add
    { lead := allText before, base := some (Text.trimmed type), tail := allText between
      name := some (Text.trimmed name), suffix := "" } = _
  rw [foldl_add_suffix, String.empty_append]

/-- **Tagged fragments are read as they are meant.** -/
theorem ofFragments_of_tagged (h : Tagged fragments lead base tail name) :
    Writes lead (ofFragments fragments).lead.toList ∧ (ofFragments fragments).base = some base ∧
      Writes tail (ofFragments fragments).tail.toList ∧
      (ofFragments fragments).name = some name := by
  cases h with
  | intro hbefore hlead hbetween htail =>
    rw [ofFragments_eq hbefore hbetween]
    exact ⟨hlead, rfl, htail, rfl⟩

end Declaration

/-! ### Running text with tagged types -/

/-- The fragments write tokens of a list of arguments, in which a tagged type stands for
itself. -/
inductive Running : List Fragment → List ArgumentToken → Prop
  | nil : Running [] []
  | text {s : String} {ts : List Token} {fragments : List Fragment} {as : List ArgumentToken}
      (hs : Writes ts s.toList) (h : Running fragments as) :
      Running (.text s :: fragments) (ts.map .text ++ as)
  | type {s : String} {fragments : List Fragment} {as : List ArgumentToken}
      (h : Running fragments as) : Running (.type s :: fragments) (.type (Text.trimmed s) :: as)
  | comment {s : String} {fragments : List Fragment} {as : List ArgumentToken}
      (h : Running fragments as) : Running (.comment s :: fragments) as

theorem Running.flatMap_eq {fragments : List Fragment} {as : List ArgumentToken}
    (h : Running fragments as) : fragments.flatMap argumentTokens = as := by
  induction h with
  | nil => rfl
  | text hs _ ih => rw [List.flatMap_cons, ih, argumentTokens, tokens_of_writes hs]
  | type _ ih =>
    rw [List.flatMap_cons, ih]
    rfl
  | comment _ ih =>
    rw [List.flatMap_cons, ih]
    rfl

/-! ### Pieces of text -/

inductive WritesAll : List Token → List String → Prop
  | nil : WritesAll [] []
  | cons {ts ts' : List Token} {s : String} {pieces : List String} (hs : Writes ts s.toList)
      (h : WritesAll ts' pieces) : WritesAll (ts ++ ts') (s :: pieces)

theorem WritesAll.writes_join {ts : List Token} {pieces : List String} (h : WritesAll ts pieces) :
    Writes ts (Text.join [' '] (pieces.map String.toList)) := by
  induction h with
  | nil => exact .nil
  | @cons ts ts' s pieces hs h ih =>
    cases h with
    | nil =>
      rw [List.append_nil]
      exact hs
    | @cons us us' s' pieces' _ _ =>
      show Writes _ (s.toList ++ [' '] ++ _)
      rw [List.append_assoc]
      exact hs.append_blank (by decide) ih

/-- **Pieces joined by blanks** write the tokens of all of them. -/
theorem WritesAll.writes_joined {ts : List Token} {pieces : List String}
    (h : WritesAll ts pieces) : Writes ts (Text.joined " " pieces).toList := by
  rw [Text.joined, String.toList_ofList]
  exact h.writes_join

end VulkanFoundry
