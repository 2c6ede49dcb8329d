/-
# The bracket groups behind a name

The dimensions of an array are written behind its name, each in a pair of brackets.
Reading takes one group after the other, with blanks between them, and stops where
something else stands. It fails if a group is not closed or holds no dimension, and it
fails for nothing else (`ArraySize.readAll_eq_ok_iff`).

What it stops at is not looked at any more. A text that is no group, before or between the
groups, hides all groups behind it: the dimensions that are read are those of all groups
if and only if no bracket opens in what is left
(`ArraySize.dimensions_areGroupsOf_iff`).

Key theorems: `ArraySize.length_bracketGroups`,
`ArraySize.OpensWith.areGroupsOf_iff`.
-/
import VulkanFoundry.Declaration.Member
import VulkanFoundry.Proofs.Success
import VulkanFoundry.Proofs.Text.Numerals
import VulkanFoundry.Proofs.Text.Splitting
import VulkanFoundry.Proofs.Text.Writing

namespace VulkanFoundry
namespace ArraySize

variable {cs rest content blanks : List Char} {size : ArraySize} {sizes : List ArraySize}

/-- The text opens with bracket groups that write the dimensions, with blanks before and
between them, and what is left behind them starts with neither a blank nor a group. -/
inductive OpensWith : List ArraySize → List Char → List Char → Prop
  | stop {rest : List Char} (h : ∀ c ∈ rest.head?, Text.isBlank c = false ∧ c ≠ '[') :
      OpensWith [] rest rest
  | blank {sizes : List ArraySize} {rest cs : List Char} {c : Char} (hc : Text.isBlank c = true)
      (h : OpensWith sizes rest cs) : OpensWith sizes rest (c :: cs)
  | group {size : ArraySize} {sizes : List ArraySize} {content rest cs : List Char}
      (hcontent : ']' ∉ content) (hsize : ofWord? (Text.trim content) = some size)
      (h : OpensWith sizes rest cs) :
      OpensWith (size :: sizes) rest ('[' :: (content ++ ']' :: cs))

/-- The contents of all bracket groups of a text: behind each opening bracket, what stands
there up to the next closing one. -/
def bracketGroups : List Char → List (List Char)
  | [] => []
  | c :: cs =>
    if c = '[' then cs.takeWhile (· ≠ ']') :: bracketGroups cs else bracketGroups cs

/-- The dimensions are the bracket groups of the text: as many as brackets open in it, and
each is what the trimmed content of the group in its place writes. -/
structure AreGroupsOf (sizes : List ArraySize) (cs : List Char) : Prop where
  length_eq : sizes.length = cs.count '['
  read : List.Forall₂ (fun size content => ofWord? (Text.trim content) = some size) sizes
    (bracketGroups cs)

/-! ### Reading groups -/

theorem not_mem_of_ofWord? (h : ofWord? (Text.trim content) = some size) : '[' ∉ content := by
  intro hmem
  have hword : '[' ∉ Text.trim content := by
    intro hmem
    unfold ofWord? at h
    split at h
    · cases h
    · rename_i hcheck
      simp only [Bool.or_eq_true, Bool.not_eq_true', not_or, Bool.not_eq_false,
        List.all_eq_true] at hcheck
      exact absurd (hcheck.2 '[' hmem) (by decide)
  obtain ⟨front, back, hsplit, hfront, hback⟩ := Text.exists_eq_append_trim content
  rw [hsplit, List.mem_append, List.mem_append] at hmem
  rcases hmem with hmem | hmem | hmem
  · exact absurd (hfront _ hmem) (by decide)
  · exact hword hmem
  · exact absurd (hback _ hmem) (by decide)

theorem readGroups?_of_head (h : cs.head? ≠ some '[') : readGroups? cs = some [] := by
  unfold readGroups?
  split
  · exact absurd rfl h
  · rfl

theorem readGroups?_of_not_mem (h : ']' ∉ cs) : readGroups? ('[' :: cs) = none := by
  have hsplit := Text.splitAtFirst?_of_not_mem h
  rw [readGroups?]
  split
  · rfl
  · rename_i heq
    rw [hsplit] at heq
    cases heq

/-- A closed group is read, and then what follows it. -/
theorem readGroups?_group (h : ']' ∉ content) (cs : List Char) :
    readGroups? ('[' :: (content ++ ']' :: cs)) =
      (ofWord? (Text.trim content)).bind fun size =>
        (readGroups? (Text.trimStart cs)).map (size :: ·) := by
  have hsplit := Text.splitAtFirst?_append cs h
  conv => lhs; rw [readGroups?]
  split
  · rename_i heq
    rw [hsplit] at heq
    cases heq
  · rename_i inner rest heq
    rw [hsplit] at heq
    cases heq
    split
    · rename_i hsize
      rw [hsize]
      rfl
    · rename_i size hsize
      rw [hsize]
      rfl

/-- A text opens with a bracket that is closed, with one that is not, or with none. -/
theorem group_cases (cs : List Char) :
    cs.head? ≠ some '[' ∨ (∃ cs', cs = '[' :: cs' ∧ ']' ∉ cs') ∨
      ∃ content cs', cs = '[' :: (content ++ ']' :: cs') ∧ ']' ∉ content := by
  by_cases hopen : cs.head? = some '['
  · obtain ⟨cs', rfl⟩ := List.head?_eq_some_iff.1 hopen
    by_cases hclose : ']' ∈ cs'
    · obtain ⟨content, rest, rfl, hcontent⟩ := List.eq_append_cons_of_mem hclose
      exact .inr (.inr ⟨content, rest, rfl, hcontent⟩)
    · exact .inr (.inl ⟨cs', rfl, hclose⟩)
  · exact .inl hopen

theorem length_trimStart_le (cs : List Char) : (Text.trimStart cs).length ≤ cs.length :=
  (List.dropWhile_suffix Text.isBlank).length_le

theorem readGroups?_append_blanks (hblanks : ∀ c ∈ blanks, Text.isBlank c = true)
    (cs : List Char) : readGroups? (cs ++ blanks) = readGroups? cs := by
  induction hlen : cs.length using Nat.strongRecOn generalizing cs with
  | ind n ih =>
    subst hlen
    have hnot : ∀ c, Text.isBlank c = false → c ∉ blanks := fun c hc hmem => by
      rw [hblanks c hmem] at hc
      cases hc
    rcases group_cases cs with hhead | ⟨cs', rfl, hclose⟩ | ⟨content, cs', rfl, hcontent⟩
    · have hhead' : (cs ++ blanks).head? ≠ some '[' := by
        cases cs with
        | nil => exact fun h => hnot '[' (by decide) (List.mem_of_mem_head? h)
        | cons c cs => exact hhead
      rw [readGroups?_of_head hhead, readGroups?_of_head hhead']
    · have hclose' : ']' ∉ cs' ++ blanks := fun hmem =>
        (List.mem_append.1 hmem).elim hclose (hnot ']' (by decide))
      rw [List.cons_append, readGroups?_of_not_mem hclose, readGroups?_of_not_mem hclose']
    · have hrest : readGroups? (Text.trimStart (cs' ++ blanks)) =
          readGroups? (Text.trimStart cs') := by
        have hshorter := length_trimStart_le cs'
        rw [Text.trimStart, List.dropWhile_append]
        split
        · rename_i hempty
          have hall : blanks.dropWhile Text.isBlank = [] := List.dropWhile_eq_nil_iff.2 hblanks
          rw [Text.trimStart, List.isEmpty_iff.1 hempty, hall]
        · have hlt : (Text.trimStart cs').length < ('[' :: (content ++ ']' :: cs')).length := by
            simp only [List.length_cons, List.length_append]
            omega
          exact ih _ hlt _ rfl
      rw [List.cons_append, List.append_assoc, List.cons_append, readGroups?_group hcontent,
        readGroups?_group hcontent, hrest]

/-- The groups that a text opens with are read. -/
theorem OpensWith.readGroups?_eq (h : OpensWith sizes rest cs) :
    readGroups? (Text.trimStart cs) = some sizes := by
  induction h with
  | @stop rest h =>
    have hstart : Text.trimStart rest = rest := by
      cases rest with
      | nil => rfl
      | cons c rest =>
        have hc : Text.isBlank c = false := (h c rfl).1
        rw [Text.trimStart, List.dropWhile_cons_of_neg (by rw [hc]; exact Bool.false_ne_true)]
    rw [hstart]
    exact readGroups?_of_head fun hhead => (h '[' hhead).2 rfl
  | blank hc _ ih =>
    rw [Text.trimStart, List.dropWhile_cons_of_pos hc]
    exact ih
  | group hcontent hsize _ ih =>
    rw [Text.trimStart, List.dropWhile_cons_of_neg (by decide), readGroups?_group hcontent, hsize,
      ih]
    rfl

theorem OpensWith.blanks_append (h : OpensWith sizes rest cs) :
    ∀ {blanks : List Char}, (∀ c ∈ blanks, Text.isBlank c = true) →
      OpensWith sizes rest (blanks ++ cs)
  | [], _ => h
  | c :: _, hblanks => .blank (hblanks c List.mem_cons_self)
      (h.blanks_append fun d hd => hblanks d (List.mem_cons_of_mem c hd))

theorem OpensWith.of_trimStart (h : OpensWith sizes rest (Text.trimStart cs)) :
    OpensWith sizes rest cs := by
  have hsplit : cs.takeWhile Text.isBlank ++ Text.trimStart cs = cs :=
    List.takeWhile_append_dropWhile
  rw [← hsplit]
  exact h.blanks_append fun c => List.mem_takeWhile_imp

/-- What is read is what the text opens with. -/
theorem exists_opensWith (cs : List Char) {sizes : List ArraySize}
    (h : readGroups? (Text.trimStart cs) = some sizes) : ∃ rest, OpensWith sizes rest cs := by
  suffices hstart : ∃ rest, OpensWith sizes rest (Text.trimStart cs) from
    hstart.imp fun _ => OpensWith.of_trimStart
  induction hlen : cs.length using Nat.strongRecOn generalizing cs sizes with
  | ind n ih =>
    subst hlen
    have hshorter := length_trimStart_le cs
    rcases group_cases (Text.trimStart cs) with
      hhead | ⟨cs', hcs, hclose⟩ | ⟨content, cs', hcs, hcontent⟩
    · rw [readGroups?_of_head hhead] at h
      obtain rfl := Option.some.inj h
      refine ⟨_, .stop fun c hc => ⟨?_, fun heq => hhead (heq ▸ hc)⟩⟩
      have hhead' : (cs.dropWhile Text.isBlank).head? = some c := hc
      have hnot := List.head?_dropWhile_not Text.isBlank cs
      rw [hhead'] at hnot
      exact hnot
    · rw [hcs, readGroups?_of_not_mem hclose] at h
      cases h
    · rw [hcs, readGroups?_group hcontent] at h
      obtain ⟨size, hsize, h⟩ := Option.bind_eq_some_iff.1 h
      obtain ⟨sizes', hrest, rfl⟩ := Option.map_eq_some_iff.1 h
      have hlt : cs'.length < cs.length := by
        have hlength := congrArg List.length hcs
        simp only [List.length_cons, List.length_append] at hlength
        omega
      obtain ⟨rest, hopens⟩ := ih _ hlt cs' hrest rfl
      exact ⟨rest, hcs ▸ .group hcontent hsize hopens.of_trimStart⟩

/-- **When dimensions are read.** -/
theorem readAll_eq_ok_iff {text : String} :
    readAll text = .ok sizes ↔ ∃ rest, OpensWith sizes rest text.toList := by
  have htrim : readGroups? (Text.trim text.toList) =
      readGroups? (Text.trimStart text.toList) := by
    obtain ⟨blanks, hsplit, hblanks⟩ := Text.exists_trimStart_eq_append text.toList
    rw [hsplit, readGroups?_append_blanks hblanks]
  have hread : readAll text = .ok sizes ↔
      readGroups? (Text.trimStart text.toList) = some sizes := by
    unfold readAll
    rw [htrim]
    cases readGroups? (Text.trimStart text.toList) <;> simp
  rw [hread]
  exact ⟨exists_opensWith text.toList, fun ⟨_, h⟩ => h.readGroups?_eq⟩

/-! ### All groups -/

/-- There are as many groups as brackets that open. -/
theorem length_bracketGroups : ∀ cs : List Char, (bracketGroups cs).length = cs.count '['
  | [] => rfl
  | c :: cs => by
    rw [bracketGroups, List.count_cons]
    by_cases hc : c = '['
    · simp [hc, length_bracketGroups cs]
    · simp [hc, length_bracketGroups cs]

theorem bracketGroups_append_of_not_mem : ∀ {front : List Char}, '[' ∉ front →
    bracketGroups (front ++ cs) = bracketGroups cs
  | [], _ => rfl
  | c :: front, h => by
    have hc : c ≠ '[' := fun he => h (he ▸ List.mem_cons_self)
    have hfront : '[' ∉ front := fun hm => h (List.mem_cons_of_mem c hm)
    rw [List.cons_append, bracketGroups, if_neg hc, bracketGroups_append_of_not_mem hfront]

/-- A closed group without brackets in it is a group by itself. -/
theorem bracketGroups_group (hclose : ']' ∉ content) (hopen : '[' ∉ content) (cs : List Char) :
    bracketGroups ('[' :: (content ++ ']' :: cs)) = content :: bracketGroups cs := by
  have htake : (content ++ ']' :: cs).takeWhile (· ≠ ']') = content := by
    have hall : ∀ c ∈ content, decide (c ≠ ']') = true := fun c hc =>
      decide_eq_true fun he => hclose (he ▸ hc)
    rw [List.takeWhile_append_of_pos hall, List.takeWhile_cons_of_neg (by decide),
      List.append_nil]
  rw [bracketGroups, if_pos rfl, htake, bracketGroups_append_of_not_mem hopen, bracketGroups,
    if_neg (by decide)]

/-- The groups of the text are those that are read, and then those of what is left. -/
theorem OpensWith.exists_bracketGroups (h : OpensWith sizes rest cs) :
    ∃ contents, bracketGroups cs = contents ++ bracketGroups rest ∧
      List.Forall₂ (fun size content => ofWord? (Text.trim content) = some size) sizes
        contents := by
  induction h with
  | stop => exact ⟨[], rfl, .nil⟩
  | @blank sizes rest cs c hc _ ih =>
    obtain ⟨contents, hcontents, hread⟩ := ih
    have hne : c ≠ '[' := by rintro rfl; exact absurd hc (by decide)
    exact ⟨contents, by rw [bracketGroups, if_neg hne, hcontents], hread⟩
  | @group size sizes content rest cs hcontent hsize _ ih =>
    obtain ⟨contents, hcontents, hread⟩ := ih
    refine ⟨content :: contents, ?_, .cons hsize hread⟩
    rw [bracketGroups_group hcontent (not_mem_of_ofWord? hsize), hcontents, List.cons_append]

/-- **All groups are read unless a bracket opens in what is left.** -/
theorem OpensWith.areGroupsOf_iff (h : OpensWith sizes rest cs) :
    AreGroupsOf sizes cs ↔ '[' ∉ rest := by
  obtain ⟨contents, hcontents, hread⟩ := h.exists_bracketGroups
  have hlength := hread.length_eq
  have hcount := length_bracketGroups cs
  rw [hcontents, List.length_append, length_bracketGroups] at hcount
  rw [← List.count_eq_zero]
  constructor
  · intro hall
    have hequal := hall.length_eq
    omega
  · intro hzero
    have hnil : bracketGroups rest = [] :=
      List.eq_nil_of_length_eq_zero ((length_bracketGroups rest).trans hzero)
    rw [hnil, List.append_nil] at hcontents
    exact ⟨by omega, hcontents ▸ hread⟩

theorem readAll_trimmed_eq_ok_iff {text : String} :
    readAll (Text.trimmed text) = .ok sizes ↔ readAll text = .ok sizes := by
  unfold readAll
  rw [Text.trimmed, String.toList_ofList, Text.trim_trim]
  cases readGroups? (Text.trim text.toList) <;> simp

/-- A member that is no bit field has the dimensions that are read behind its name. -/
theorem readAll_of_readLayout {suffix : String}
    (h : readLayout (Text.trimmed suffix) = .ok (sizes, none)) : readAll suffix = .ok sizes := by
  rw [← readAll_trimmed_eq_ok_iff]
  unfold readLayout at h
  split at h
  · obtain ⟨n, -, h⟩ := bind_eq_ok_iff.1 h
    cases h
  · obtain ⟨sizes', hsizes, h⟩ := bind_eq_ok_iff.1 h
    cases h
    exact hsizes

/-- **When no dimension is lost.** Dimensions are read from a text if and only if it opens
with bracket groups that write them, and they are all groups of the text unless a bracket
opens behind these. The same holds of the dimensions of a member that is no bit field, if
the text is what stands behind its name. -/
theorem dimensions_areGroupsOf_iff (text : String) :
    (∀ sizes, readAll text = .ok sizes ↔ ∃ rest, OpensWith sizes rest text.toList) ∧
    (∀ sizes rest, OpensWith sizes rest text.toList →
      (AreGroupsOf sizes text.toList ↔ '[' ∉ rest)) ∧
    ∀ owner e m, Member.ofElement owner e = .ok m → m.bitFieldWidth = none →
      (Declaration.ofFragments e.content).suffix = text →
        ∃ rest, OpensWith m.arraySizes rest text.toList ∧
          (AreGroupsOf m.arraySizes text.toList ↔ '[' ∉ rest) := by
  refine ⟨fun _ => readAll_eq_ok_iff, fun _ _ h => h.areGroupsOf_iff, ?_⟩
  rintro owner e m h hwidth rfl
  obtain ⟨name, -, h⟩ := bind_eq_ok_iff.1 h
  obtain ⟨type, -, h⟩ := bind_eq_ok_iff.1 h
  obtain ⟨⟨sizes, width⟩, hlayout, h⟩ := bind_eq_ok_iff.1 h
  obtain rfl := Except.ok.inj h
  obtain rfl : width = none := hwidth
  obtain ⟨rest, hopens⟩ := readAll_eq_ok_iff.1 (readAll_of_readLayout hlayout)
  exact ⟨rest, hopens, hopens.areGroupsOf_iff⟩

/-- A member of type `float`, with what is written behind its name. -/
def floatMember (behind : List Fragment) : MemberElement where
  content := .type "float" :: .name "m" :: behind

/-- Two groups with blanks around and inside of them, and a semicolon behind them. -/
theorem dimensions_of_two_groups :
    OpensWith [.literal 3, .constant "N"] [';'] "[3] [ N ] ;".toList ∧
      readAll "[3] [ N ] ;" = .ok [.literal 3, .constant "N"] ∧
      AreGroupsOf [.literal 3, .constant "N"] "[3] [ N ] ;".toList ∧
      ∃ m, Member.ofElement "S" (floatMember [.text "[3] [ ", .enum "N", .text " ] ;"]) = .ok m ∧
        m.arraySizes = [.literal 3, .constant "N"] ∧ m.bitFieldWidth = none ∧
        ∃ rest, OpensWith m.arraySizes rest "[3] [ N ] ;".toList ∧
          (AreGroupsOf m.arraySizes "[3] [ N ] ;".toList ↔ '[' ∉ rest) := by
  obtain ⟨hread, hall, hmember⟩ := dimensions_areGroupsOf_iff "[3] [ N ] ;"
  have hopens : OpensWith [.literal 3, .constant "N"] [';'] "[3] [ N ] ;".toList := by
    have hfirst : ofWord? (Text.trim ['3']) = some (.literal 3) := by decide
    have hsecond : ofWord? (Text.trim [' ', 'N', ' ']) = some (.constant "N") := by decide
    have hrest : OpensWith [] [';'] [';'] := .stop fun c hc => by
      obtain rfl := Option.some.inj hc
      decide
    exact .group (by decide) hfirst (.blank (by decide) (.group (by decide) hsecond
      (.blank (by decide) hrest)))
  have hm : ∃ m, Member.ofElement "S"
      (floatMember [.text "[3] [ ", .enum "N", .text " ] ;"]) = .ok m ∧
        m.arraySizes = [.literal 3, .constant "N"] ∧ m.bitFieldWidth = none :=
    exists_eq_ok_of_check (by decide +kernel)
  refine ⟨hopens, (hread _).2 ⟨_, hopens⟩, (hall _ _ hopens).2 (by decide), ?_⟩
  obtain ⟨m, hm, hsizes, hwidth⟩ := hm
  exact ⟨m, hm, hsizes, hwidth, hmember _ _ m hm hwidth (by decide)⟩

/-- **Text before or between the groups hides dimensions.** The second group of a text is
lost, and a member whose only group is hidden is no array. -/
theorem hidden_groups_are_lost :
    readAll "[3]x[4]" = .ok [.literal 3] ∧ ¬ AreGroupsOf [.literal 3] "[3]x[4]".toList ∧
      (∃ m, Member.ofElement "S" (floatMember [.text "x[3]"]) = .ok m ∧ m.arraySizes = []) ∧
      ¬ AreGroupsOf [] "x[3]".toList := by
  refine ⟨by decide +kernel, fun h => ?_, exists_eq_ok_of_check (by decide +kernel), fun h => ?_⟩
  · exact absurd h.length_eq (by decide)
  · exact absurd h.length_eq (by decide)

end ArraySize
end VulkanFoundry
