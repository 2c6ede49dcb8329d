/-
# What making a directory and writing a file change

The files of a store are what a run is there for, so a store is looked at through them: at
each place there is a file with its contents, or none. Making directories changes no file,
whether all of them can be made or not. A write that succeeds changes one file and no
directory, so that afterwards every path leads where it led before.

Two names of files in one directory lead to two places, whatever way the directory itself
is written. So files of different names do not get in each other's way
(`FileStore.leadsTo?_inside_injective`).

Key theorems: `FileStore.sameFiles_createDirectory`, `FileStore.file?_write`.
-/
import VulkanFoundry.Generation.FileStore
import VulkanFoundry.Proofs.Text.Splitting

namespace VulkanFoundry
namespace FileStore

variable {s s' : FileStore} {path contents : String} {place : List String}

def file? (s : FileStore) (place : String) : Option String :=
  match s.entries.get? place with
  | some (.file contents) => some contents
  | _ => none

/-- The second store has the files of the first, with the same contents, and no others. -/
def SameFiles (s s' : FileStore) : Prop := ∀ place, s'.file? place = s.file? place

/-- The name of the place that a path leads to. -/
def leadsTo? (s : FileStore) (path : String) : Option String := (s.place? path).map placeName

theorem read?_eq_some_iff : s.read? path = some contents ↔
    namesDirectory path = false ∧ ∃ place, s.leadsTo? path = some place ∧
      s.file? place = some contents := by
  unfold read? leadsTo? file?
  cases s.place? path with
  | none => simp
  | some place =>
    simp only [Option.bind_some, Option.map_some, Option.some.injEq, exists_eq_left']
    cases s.entries.get? (placeName place) with
    | none => simp
    | some entry =>
      cases entry with
      | directory => simp
      | file held => cases namesDirectory path <;> simp

/-! ### Making directories -/

theorem SameFiles.refl (s : FileStore) : s.SameFiles s := fun _ => rfl

theorem SameFiles.trans {s₁ s₂ s₃ : FileStore} (h : s₁.SameFiles s₂) (h' : s₂.SameFiles s₃) :
    s₁.SameFiles s₃ := fun place => (h' place).trans (h place)

theorem sameFiles_createOne (h : s.createOne place = some s') : s.SameFiles s' := by
  unfold createOne at h
  split at h
  · obtain rfl := Option.some.inj h
    exact .refl s
  · split at h
    · cases h
    · rename_i hfree
      obtain rfl := Option.some.inj h
      intro other
      have hnone : s.entries.get? (placeName place) = none := by
        simp only [Bool.or_eq_true, not_or, NameMap.contains, Bool.not_eq_true] at hfree
        simpa using hfree.1.1
      by_cases hother : other = placeName place
      · subst hother
        simp [file?, hnone]
      · simp [file?, NameMap.get?_insert_of_ne _ hother]

theorem sameFiles_createAlong : ∀ (steps : List String) (s : FileStore) (place : List String),
    s.SameFiles (s.createAlong place steps).2
  | [], s, _ => .refl s
  | step :: steps, s, place => by
    rw [createAlong]
    cases hone : s.createOne (advance place step) with
    | none => exact .refl s
    | some s' =>
      exact (sameFiles_createOne hone).trans
        (sameFiles_createAlong steps s' (advance place step))

/-- **Making a directory changes no file,** also where it fails on the way. -/
theorem sameFiles_createDirectory (s : FileStore) (path : String) :
    s.SameFiles (s.createDirectory path).2 := by
  unfold createDirectory
  split
  · exact .refl s
  · split
    · exact sameFiles_createAlong (steps path).dropLast s []
    · exact sameFiles_createAlong (steps path) s []

/-! ### Writing a file -/

theorem write_eq_ok (h : s.write path contents = .ok s') :
    namesDirectory path = false ∧ ∃ place, s.place? path = some place ∧
      s.isDirectory place = false ∧
      s' = { s with entries := s.entries.insert (placeName place) (.file contents) } := by
  unfold write at h
  split at h
  · cases h
  · rename_i place hplace
    split at h
    · cases h
    · rename_i hallowed
      simp only [Bool.or_eq_true, not_or, Bool.not_eq_true] at hallowed
      exact ⟨hallowed.1.1.1, place, hplace, hallowed.1.1.2, (Except.ok.inj h).symm⟩

theorem write_eq_error {refused : String} (h : s.write path contents = .error refused) :
    refused = path := by
  unfold write at h
  split at h
  · exact (Except.error.inj h).symm
  · split at h
    · exact (Except.error.inj h).symm
    · cases h

/-- A file is not put where a directory is, so the directories stay. -/
theorem isDirectory_write (h : s.write path contents = .ok s') (place : List String) :
    s'.isDirectory place = s.isDirectory place := by
  obtain ⟨-, target, -, hfree, rfl⟩ := write_eq_ok h
  unfold isDirectory at hfree ⊢
  by_cases hplace : placeName place = placeName target
  · have hother : s.entries.get? (placeName target) ≠ some .directory := by
      simp only [Bool.or_eq_false_iff] at hfree
      simpa using hfree.2
    simp [hplace, hother]
  · simp [NameMap.get?_insert_of_ne _ hplace]

theorem walk?_write (h : s.write path contents = .ok s') :
    ∀ (steps place : List String), s'.walk? place steps = s.walk? place steps
  | [], _ => rfl
  | step :: steps, place => by
    rw [walk?, walk?, isDirectory_write h, walk?_write h steps]

/-- After a write every path leads where it led before. -/
theorem leadsTo?_write (h : s.write path contents = .ok s') (other : String) :
    s'.leadsTo? other = s.leadsTo? other := by
  rw [leadsTo?, leadsTo?, place?, place?, walk?_write h]

/-- **A write changes one file,** the one that the path leads to. -/
theorem file?_write (h : s.write path contents = .ok s') :
    ∃ place, s.leadsTo? path = some place ∧
      ∀ other, s'.file? other = if other = place then some contents else s.file? other := by
  obtain ⟨-, place, hplace, -, rfl⟩ := write_eq_ok h
  refine ⟨placeName place, by rw [leadsTo?, hplace, Option.map_some], fun other => ?_⟩
  unfold file?
  rw [NameMap.get?_insert]
  by_cases hother : other = placeName place
  · rw [if_pos hother, if_pos hother]
  · rw [if_neg hother, if_neg hother]

/-! ### Names in a directory -/

/-- The string names something inside of a directory. -/
def IsFileName (name : String) : Prop :=
  name ≠ "" ∧ name ≠ "." ∧ name ≠ ".." ∧ '/' ∉ name.toList

instance (name : String) : Decidable (IsFileName name) :=
  inferInstanceAs (Decidable (name ≠ "" ∧ name ≠ "." ∧ name ≠ ".." ∧ '/' ∉ name.toList))

theorem parts_of_toList {path name : String} {lead : List Char}
    (h : path.toList = lead ++ '/' :: name.toList) (hname : '/' ∉ name.toList) :
    parts path = (Text.splitAtChar '/' lead).map String.ofList ++ [name] := by
  rw [parts, h, Text.splitAtChar_append, Text.splitAtChar_of_not_mem hname, List.map_append,
    List.map_singleton, String.ofList_toList]

/-- A path into a directory takes the steps of the directory and then one more. -/
theorem steps_inside {directory name : String} (h : IsFileName name) :
    steps (inside directory name) = steps directory ++ [name] := by
  obtain ⟨hempty, hdot, -, hslash⟩ := h
  have hname : [name].filter (fun p => p ≠ "" && p ≠ ".") = [name] := by simp [hempty, hdot]
  unfold inside
  split
  · rename_i hends
    rcases Bool.or_eq_true_iff.1 hends with hnone | hlast
    · have hdirectory : directory = "" := by simpa using hnone
      have hparts : parts name = [name] := by
        rw [parts, Text.splitAtChar_of_not_mem hslash, List.map_singleton, String.ofList_toList]
      rw [hdirectory, String.empty_append, steps, hparts, hname]
      rfl
    · -- the slash at the end of the directory is the one in front of the name
      obtain ⟨lead, hlead⟩ := List.getLast?_eq_some_iff.1 (of_decide_eq_true hlast)
      have hbehind : parts (directory ++ name) =
          (Text.splitAtChar '/' lead).map String.ofList ++ [name] :=
        parts_of_toList (by rw [String.toList_append, hlead, List.append_assoc]; rfl) hslash
      have hfront : parts directory = (Text.splitAtChar '/' lead).map String.ofList ++ [""] :=
        parts_of_toList hlead (by decide)
      rw [steps, steps, hbehind, hfront, List.filter_append, List.filter_append, hname]
      simp
  · have hparts : parts (directory ++ "/" ++ name) = parts directory ++ [name] := by
      refine parts_of_toList ?_ hslash
      rw [String.toList_append, String.toList_append, List.append_assoc]
      rfl
    rw [steps, hparts, List.filter_append, hname, steps]

theorem walk?_append : ∀ (steps steps' place : List String),
    s.walk? place (steps ++ steps') = (s.walk? place steps).bind fun p => s.walk? p steps'
  | [], _, _ => rfl
  | step :: steps, steps', place => by
    rw [List.cons_append, walk?, walk?]
    split
    · exact walk?_append steps steps' (advance place step)
    · rfl

theorem place?_inside {directory name : String} (h : IsFileName name)
    (hplace : s.place? (inside directory name) = some place) :
    ∃ base, s.walk? [] (steps directory) = some base ∧ place = base ++ [name] := by
  unfold place? at hplace
  split at hplace
  · rw [steps_inside h, walk?_append] at hplace
    obtain ⟨base, hbase, hstep⟩ := Option.bind_eq_some_iff.1 hplace
    rw [walk?] at hstep
    split at hstep
    · rw [walk?, advance, if_neg h.2.2.1] at hstep
      exact ⟨base, hbase, (Option.some.inj hstep).symm⟩
    · cases hstep
  · cases hplace

/-- **Different names in one directory lead to different places.** -/
theorem leadsTo?_inside_injective {directory name name' target : String} (hname : IsFileName name)
    (hname' : IsFileName name') (h : s.leadsTo? (inside directory name) = some target)
    (h' : s.leadsTo? (inside directory name') = some target) : name = name' := by
  obtain ⟨place, hplace, htarget⟩ := Option.map_eq_some_iff.1 h
  obtain ⟨place', hplace', htarget'⟩ := Option.map_eq_some_iff.1 h'
  obtain ⟨base, hbase, rfl⟩ := place?_inside hname hplace
  obtain ⟨base', hbase', rfl⟩ := place?_inside hname' hplace'
  obtain rfl : base = base' := Option.some.inj (hbase.symm.trans hbase')
  obtain ⟨lead, hlead⟩ := Text.exists_join_concat "/".toList (base.map String.toList)
  have htext : ∀ n : String, placeName (base ++ [n]) = String.ofList (lead ++ n.toList) :=
    fun n => by rw [placeName, Text.joined, List.map_append, List.map_singleton, hlead]
  rw [htext] at htarget htarget'
  have hsame : lead ++ name.toList = lead ++ name'.toList :=
    String.ofList_injective (htarget.trans htarget'.symm)
  exact String.toList_injective (List.append_cancel_left hsame)

end FileStore
end VulkanFoundry
