/-
# Lengths of members and of parameters

An attribute gives the lengths of what a member or a parameter points to, one for each
pointer level, in a comma separated list, in which the mark of a null-terminated text may
stand as well. A parameter records all of them but the marks. They are separated by
commas again, and reading the list once more gives the same lengths, so none is lost
(`list_lengthsWithoutMark`). A member records the first one alone
(`Member.len_of_ofElement`).

So the two agree on an attribute if and only if it gives at most one length
(`len_eq_len_iff`).

Key theorems: `Attribute.splitList_joined`.
-/
import VulkanFoundry.Declaration.Command
import VulkanFoundry.Proofs.Success
import VulkanFoundry.Proofs.Text.Numerals
import VulkanFoundry.Proofs.Text.Splitting

namespace VulkanFoundry

/-! ### Entries of a list -/

namespace Attribute

/-- The text can be an entry of a list: it is not empty, has no comma and no blanks
around it. -/
structure IsEntry (cs : List Char) : Prop where
  ne_nil : cs ≠ []
  no_comma : ',' ∉ cs
  trimmed : Text.trim cs = cs

theorem isEntry_of_mem_splitChars {cs entry : List Char} (h : entry ∈ splitChars cs) :
    IsEntry entry := by
  obtain ⟨hmem, hne⟩ := List.mem_filter.1 h
  obtain ⟨piece, hpiece, rfl⟩ := List.mem_map.1 hmem
  refine ⟨of_decide_eq_true hne, fun hcomma => ?_, Text.trim_trim piece⟩
  -- A comma in the entry is one in the piece that it is trimmed from.
  obtain ⟨front, back, hsplit, -, -⟩ := Text.exists_eq_append_trim piece
  have hwithin : ',' ∈ piece := by
    rw [hsplit]
    exact List.mem_append_right front (List.mem_append_left back hcomma)
  exact Text.not_mem_of_mem_splitAtChar hpiece hwithin

theorem splitChars_join {entries : List (List Char)} (h : ∀ entry ∈ entries, IsEntry entry) :
    splitChars (Text.join [','] entries) = entries := by
  -- The text of no entries is split into one piece, which is empty and no entry.
  by_cases hne : entries = []
  · rw [hne]
    rfl
  · have htrim : entries.map Text.trim = entries :=
      (List.map_congr_left fun entry he => (h entry he).trimmed).trans entries.map_id
    rw [splitChars, Text.splitAtChar_join hne fun entry he => (h entry he).no_comma, htrim,
      List.filter_eq_self.2 fun entry he => decide_eq_true (h entry he).ne_nil]

variable {text : String} {entries : List String}

theorem isEntry_of_mem_splitList {entry : String} (h : entry ∈ splitList text) :
    IsEntry entry.toList := by
  obtain ⟨cs, hcs, rfl⟩ := List.mem_map.1 h
  rw [String.toList_ofList]
  exact isEntry_of_mem_splitChars hcs

/-- **Entries of a list are entries of the list** that they are joined to. -/
theorem splitList_joined (h : ∀ entry ∈ entries, IsEntry entry.toList) :
    splitList (Text.joined "," entries) = entries := by
  have hall : ∀ cs ∈ entries.map String.toList, IsEntry cs := List.forall_mem_map.2 h
  have hsplit : splitChars (Text.join ",".toList (entries.map String.toList)) =
      entries.map String.toList := splitChars_join hall
  rw [splitList, Text.joined, String.toList_ofList, hsplit, List.map_map]
  exact (List.map_congr_left fun _ _ => String.ofList_toList).trans entries.map_id

end Attribute

/-! ### Lengths -/

section lengths

variable {text : String}

/-- The lengths that an attribute gives: its entries but the marks of null-terminated
texts. -/
def lengths (text : String) : List String :=
  (Attribute.splitList text).filter (· ≠ nullTerminatedMark)

theorem isEntry_of_mem_lengths {length : String} (h : length ∈ lengths text) :
    Attribute.IsEntry length.toList :=
  Attribute.isEntry_of_mem_splitList (List.mem_of_mem_filter h)

theorem lengthsWithoutMark_eq (text : String) : lengthsWithoutMark (some text) =
    if lengths text = [] then none else some (Text.joined "," (lengths text)) := by
  have hlist : (Attribute.list (some text)).filter (· ≠ nullTerminatedMark) = lengths text := rfl
  rw [lengthsWithoutMark, hlist]
  cases lengths text <;> rfl

/-- **All lengths of a parameter** are there when the list is read once more. -/
theorem list_lengthsWithoutMark (text : String) :
    Attribute.list (lengthsWithoutMark (some text)) = lengths text := by
  rw [lengthsWithoutMark_eq]
  split
  · rename_i hnone
    rw [hnone]
    rfl
  · exact Attribute.splitList_joined fun _ => isEntry_of_mem_lengths

/-- The first length is the only one that is there when it is read once more. -/
theorem list_head?_lengths (text : String) :
    Attribute.list (lengths text).head? = (lengths text).take 1 := by
  cases hlengths : lengths text with
  | nil => rfl
  | cons first rest =>
    have hfirst : Attribute.IsEntry first.toList :=
      isEntry_of_mem_lengths (hlengths ▸ List.mem_cons_self)
    have hone := Attribute.splitList_joined (List.forall_mem_singleton.2 hfirst)
    have hjoined : Text.joined "," [first] = first := String.ofList_toList
    rw [hjoined] at hone
    exact hone

/-- The first length is all that is recorded only where there is no other. -/
theorem head?_lengths_eq_iff (text : String) :
    (lengths text).head? = lengthsWithoutMark (some text) ↔ (lengths text).length ≤ 1 := by
  constructor
  · intro h
    have hread : (lengths text).take 1 = lengths text := calc
      (lengths text).take 1 = Attribute.list (lengths text).head? :=
        (list_head?_lengths text).symm
      _ = Attribute.list (lengthsWithoutMark (some text)) := congrArg Attribute.list h
      _ = lengths text := list_lengthsWithoutMark text
    have hlength := congrArg List.length hread
    rw [List.length_take] at hlength
    omega
  · intro h
    rw [lengthsWithoutMark_eq]
    match hlengths : lengths text with
    | [] => rfl
    | [only] => exact congrArg some String.ofList_toList.symm
    | _ :: _ :: _ => simp [hlengths] at h

end lengths

section recorded

variable {text owner command : String} {e : MemberElement} {p : ParamElement} {m : Member}
  {q : CommandParam}

theorem Member.len_of_ofElement (he : e.len = some text) (h : Member.ofElement owner e = .ok m) :
    m.len = (lengths text).head? := by
  obtain ⟨name, -, h⟩ := bind_eq_ok_iff.1 h
  obtain ⟨type, -, h⟩ := bind_eq_ok_iff.1 h
  obtain ⟨layout, -, h⟩ := bind_eq_ok_iff.1 h
  obtain rfl := Except.ok.inj h
  rw [he, lengths, List.head?_filter]
  rfl

theorem CommandParam.len_of_ofElement (hp : p.len = some text)
    (h : CommandParam.ofElement command p = .ok q) : q.len = lengthsWithoutMark (some text) := by
  obtain ⟨name, -, h⟩ := bind_eq_ok_iff.1 h
  obtain ⟨type, -, h⟩ := bind_eq_ok_iff.1 h
  obtain rfl := Except.ok.inj h
  rw [← hp]

/-- **When a member and a parameter record the same lengths.** A parameter records the
lengths that its attribute gives, separated by commas, or nothing if there are none; all
of them are found again when that is read. A member records the first of them. So on one
attribute they agree if and only if it gives at most one length. -/
theorem len_eq_len_iff (he : e.len = some text) (hm : Member.ofElement owner e = .ok m)
    (hp : p.len = some text) (hq : CommandParam.ofElement command p = .ok q) :
    (q.len = if lengths text = [] then none else some (Text.joined "," (lengths text))) ∧
    Attribute.list q.len = lengths text ∧ m.len = (lengths text).head? ∧
    (m.len = q.len ↔ (lengths text).length ≤ 1) := by
  have hmember := Member.len_of_ofElement he hm
  have hparam := CommandParam.len_of_ofElement hp hq
  refine ⟨?_, ?_, hmember, ?_⟩
  · rw [hparam, lengthsWithoutMark_eq]
  · rw [hparam, list_lengthsWithoutMark]
  · rw [hmember, hparam, head?_lengths_eq_iff]

end recorded

/-- A member that points to rows, with the lengths of the rows. -/
def rowsMember (len : String) : MemberElement where
  len := some len
  content := [.type "float", .text "**", .name "rows"]

def rowsParam (len : String) : ParamElement where
  len := some len
  content := [.type "float", .text "**", .name "rows"]

/-- A single length is recorded by both, whatever marks stand around it. -/
theorem len_of_marked_rows : ∃ m q,
    Member.ofElement "S" (rowsMember "null-terminated, count ,,null-terminated") = .ok m ∧
      CommandParam.ofElement "f" (rowsParam "null-terminated, count ,,null-terminated") = .ok q ∧
      m.len = q.len ∧ q.len = some "count" := by
  have hlengths : lengths "null-terminated, count ,,null-terminated" = ["count"] := by
    decide +kernel
  obtain ⟨m, hm, -⟩ : ∃ m, Member.ofElement "S"
      (rowsMember "null-terminated, count ,,null-terminated") = .ok m ∧ m.name = "rows" :=
    exists_eq_ok_of_check (by decide +kernel)
  obtain ⟨q, hq, -⟩ : ∃ q, CommandParam.ofElement "f"
      (rowsParam "null-terminated, count ,,null-terminated") = .ok q ∧ q.name = "rows" :=
    exists_eq_ok_of_check (by decide +kernel)
  obtain ⟨hparam, -, -, hagree⟩ := len_eq_len_iff rfl hm rfl hq
  rw [hlengths] at hparam hagree
  exact ⟨m, q, hm, hq, hagree.2 (by decide), hparam⟩

/-- **A member loses all lengths but the first.** Of the numbers of rows and columns the
parameter records both. -/
theorem columns_of_member_are_lost : ∃ m q,
    Member.ofElement "S" (rowsMember "rows,columns") = .ok m ∧
      CommandParam.ofElement "f" (rowsParam "rows,columns") = .ok q ∧
      lengths "rows,columns" = ["rows", "columns"] ∧
      m.len = some "rows" ∧ q.len = some "rows,columns" := by
  obtain ⟨m, hm, hlen⟩ : ∃ m, Member.ofElement "S" (rowsMember "rows,columns") = .ok m ∧
      m.len = some "rows" := exists_eq_ok_of_check (by decide +kernel)
  obtain ⟨q, hq, hlen'⟩ : ∃ q, CommandParam.ofElement "f" (rowsParam "rows,columns") = .ok q ∧
      q.len = some "rows,columns" := exists_eq_ok_of_check (by decide +kernel)
  exact ⟨m, q, hm, hq, by decide +kernel, hlen, hlen'⟩

end VulkanFoundry
