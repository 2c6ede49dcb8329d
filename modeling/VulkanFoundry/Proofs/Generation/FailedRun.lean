/-
# What a failed run leaves behind

A run generates all files before it writes the first one, so whatever goes wrong up to
there leaves the store as it was. Then the files are written one after another, and the
first write that fails ends the run. What was written by then stays: a failed run leaves
all files alone if the directory cannot be made or the first write fails, and otherwise
leaves the first file or the first two behind, and not the rest.

Key theorems: `FileStore.WithFiles.sameFiles_iff`, `writeInto_eq_error`,
`GeneratedFiles.writeTo_eq_error`, `files_of_failed_run`.
-/
import VulkanFoundry.Generation.Run
import VulkanFoundry.Proofs.Generation.Store
import VulkanFoundry.Proofs.Registry.Loading
import VulkanFoundry.Proofs.Success

namespace VulkanFoundry

open FileStore (IsFileName inside)

variable {s s₁ after : FileStore} {directory name contents text : String}
  {files : List (String × String)} {c : Configuration} {g : GeneratedFiles} {e : GenerationError}

/-! ### Files in a directory -/

namespace FileStore

/-- The store afterwards holds the files in the directory, and at every place that none of
them is put at it has what the store before had. -/
structure WithFiles (s : FileStore) (directory : String) (files : List (String × String))
    (after : FileStore) : Prop where
  held : ∀ f ∈ files, after.read? (inside directory f.1) = some f.2
  others : ∀ place, (∀ f ∈ files, after.leadsTo? (inside directory f.1) ≠ some place) →
    after.file? place = s.file? place

theorem WithFiles.nil (h : s.SameFiles after) : s.WithFiles directory [] after where
  held := fun _ hf => absurd hf List.not_mem_nil
  others := fun place _ => h place

theorem WithFiles.of_sameFiles (hsame : s.SameFiles s₁) (h : s₁.WithFiles directory files after) :
    s.WithFiles directory files after where
  held := h.held
  others := fun place hplace => (h.others place hplace).trans (hsame place)

/-- What is written after a file leaves it alone, having other names. -/
theorem WithFiles.cons (h : s₁.WithFiles directory files after) (hname : IsFileName name)
    (hfiles : ∀ f ∈ files, IsFileName f.1) (hfresh : name ∉ files.map Prod.fst)
    (hwrite : s.write (inside directory name) contents = .ok s₁)
    (hplaces : ∀ path, after.leadsTo? path = s₁.leadsTo? path) :
    s.WithFiles directory ((name, contents) :: files) after := by
  obtain ⟨place, hplace, hfile⟩ := file?_write hwrite
  have hlead : after.leadsTo? (inside directory name) = some place := by
    rw [hplaces, leadsTo?_write hwrite, hplace]
  refine ⟨List.forall_mem_cons.2 ⟨?_, h.held⟩, fun other hother => ?_⟩
  · have hkept : after.file? place = s₁.file? place := h.others place fun f hf hf' =>
      hfresh (leadsTo?_inside_injective (hfiles f hf) hname hf' hlead ▸ List.mem_map_of_mem hf)
    have hheld : s₁.file? place = some contents := by rw [hfile, if_pos rfl]
    exact read?_eq_some_iff.2 ⟨(write_eq_ok hwrite).1, place, hlead, hkept.trans hheld⟩
  · obtain ⟨hfirst, hrest⟩ := List.forall_mem_cons.1 hother
    have hne : other ≠ place := fun heq => hfirst (heq ▸ hlead)
    rw [h.others other hrest, hfile, if_neg hne]

/-- Writing files changes nothing exactly if each of them was there already. -/
theorem WithFiles.sameFiles_iff (h : s.WithFiles directory files after) : s.SameFiles after ↔
    ∀ f ∈ files, ∃ place, after.leadsTo? (inside directory f.1) = some place ∧
      s.file? place = some f.2 := by
  constructor
  · intro hsame f hf
    obtain ⟨-, place, hlead, hheld⟩ := read?_eq_some_iff.1 (h.held f hf)
    exact ⟨place, hlead, (hsame place).symm.trans hheld⟩
  · intro hthere place
    by_cases hfree : ∀ f ∈ files, after.leadsTo? (inside directory f.1) ≠ some place
    · exact h.others place hfree
    · push Not at hfree
      obtain ⟨f, hf, hlead⟩ := hfree
      obtain ⟨-, placed, hplaced, hheld⟩ := read?_eq_some_iff.1 (h.held f hf)
      obtain ⟨before, hbefore, hthere⟩ := hthere f hf
      obtain rfl : placed = place := Option.some.inj (hplaced.symm.trans hlead)
      obtain rfl : before = placed := Option.some.inj (hbefore.symm.trans hlead)
      exact hheld.trans hthere.symm

end FileStore

/-! ### Writing one after another -/

/-- **Writing that stops** has written the files before the one it stops at, and nothing
else. -/
theorem writeInto_eq_error : ∀ {files : List (String × String)} {s : FileStore},
    (∀ f ∈ files, IsFileName f.1) → (files.map Prod.fst).Nodup →
    writeInto directory files s = (.error e, after) →
    ∃ written f rest, files = written ++ f :: rest ∧ e = .inaccessible (inside directory f.1) ∧
      (∀ path, after.leadsTo? path = s.leadsTo? path) ∧ s.WithFiles directory written after
  | [], _, _, _, h => by cases (Prod.mk.inj h).1
  | (name, contents) :: files, s, hfiles, hnodup, h => by
    obtain ⟨hname, hfiles⟩ := List.forall_mem_cons.1 hfiles
    obtain ⟨hfresh, hnodup⟩ := List.nodup_cons.1 hnodup
    rw [writeInto] at h
    cases hwrite : s.write (inside directory name) contents with
    | error refused =>
      simp only [hwrite] at h
      obtain ⟨herror, rfl⟩ := Prod.mk.inj h
      refine ⟨[], (name, contents), files, rfl, ?_, fun _ => rfl, .nil (.refl s)⟩
      rw [← Except.error.inj herror, FileStore.write_eq_error hwrite]
    | ok s₁ =>
      simp only [hwrite] at h
      obtain ⟨hresult, hafter⟩ := Prod.mk.inj h
      have hstops : (writeInto directory files s₁).1 = .error e := by
        rw [eq_error_iff, error?_map] at hresult
        exact eq_error_iff.2 hresult
      -- that paths lead where they led tells the places of the rest from the first one's
      obtain ⟨written, f, rest, rfl, herror, hplaces, hwith⟩ :=
        writeInto_eq_error hfiles hnodup (Prod.ext hstops hafter)
      refine ⟨(name, contents) :: written, f, rest, rfl, herror, fun path => ?_, ?_⟩
      · rw [hplaces, FileStore.leadsTo?_write hwrite]
      · have hwritten : ∀ f ∈ written, IsFileName f.1 := fun f hf =>
          hfiles f (List.mem_append_left _ hf)
        rw [List.map_append] at hfresh
        exact hwith.cons hname hwritten (fun hm => hfresh (List.mem_append_left _ hm)) hwrite
          hplaces

/-! ### Runs -/

theorem GeneratedFiles.target_mem_of_generateFrom (h : generateFrom text c = .ok g) :
    g.target ∈ targetNames := by
  unfold generateFrom at h
  split at h
  · cases h
  · obtain ⟨t, -, h⟩ := bind_eq_ok_iff.1 h
    obtain ⟨header, -, h⟩ := bind_eq_ok_iff.1 h
    obtain ⟨source, -, h⟩ := bind_eq_ok_iff.1 h
    obtain ⟨tests, -, h⟩ := bind_eq_ok_iff.1 h
    obtain rfl := Except.ok.inj h
    cases t with
    | factories f => exact List.mem_cons_of_mem _ List.mem_cons_self
    | remapper m => exact List.mem_cons_self

theorem GeneratedFiles.fileNames_of_mem_targetNames (h : g.target ∈ targetNames) :
    (∀ f ∈ g.files, IsFileName f.1) ∧ (g.files.map Prod.fst).Nodup := by
  have hnames : ∀ target ∈ targetNames,
      (∀ n ∈ [target ++ ".h", target ++ ".cc", target ++ "_tests.cc"], IsFileName n) ∧
        [target ++ ".h", target ++ ".cc", target ++ "_tests.cc"].Nodup := by decide
  obtain ⟨hfile, hnodup⟩ := hnames g.target h
  exact ⟨fun f hf => hfile f.1 (List.mem_map_of_mem (f := Prod.fst) hf), hnodup⟩

/-- Writing a target fails at its directory, before any file, or at one of its files. -/
theorem GeneratedFiles.writeTo_eq_error (htarget : g.target ∈ targetNames)
    (h : g.writeTo directory s = (.error e, after)) :
    ∃ written f rest, g.files = written ++ f :: rest ∧
      (written = [] ∧ e = .inaccessible directory ∨ e = .inaccessible (inside directory f.1)) ∧
      s.WithFiles directory written after := by
  unfold writeTo at h
  have hmade := FileStore.sameFiles_createDirectory s directory
  split at h
  · rename_i s₁ hcreate
    rw [hcreate] at hmade
    obtain ⟨herror, rfl⟩ := Prod.mk.inj h
    exact ⟨[], _, _, rfl, .inl ⟨rfl, (Except.error.inj herror).symm⟩, .nil hmade⟩
  · rename_i s₁ hcreate
    rw [hcreate] at hmade
    obtain ⟨hfiles, hnodup⟩ := fileNames_of_mem_targetNames htarget
    obtain ⟨written, f, rest, hsplit, herror, -, hwith⟩ := writeInto_eq_error hfiles hnodup h
    exact ⟨written, f, rest, hsplit, .inr herror, hwith.of_sameFiles hmade⟩

/-- **The files after a failed run.** If nothing could be generated the store is as it was.
Otherwise the run has written the files before the one it failed at, none if there is no
directory for them, and so it has left all files as they were exactly if those it has
written were there already with the same contents. -/
theorem files_of_failed_run (h : run text c s = (.error e, after)) :
    (generateFrom text c = .error e ∧ after = s) ∨
    ∃ g written f rest, generateFrom text c = .ok g ∧ g.files = written ++ f :: rest ∧
      (written = [] ∧ e = .inaccessible c.outputDirectory ∨
        e = .inaccessible (inside c.outputDirectory f.1)) ∧
      s.WithFiles c.outputDirectory written after ∧
      (s.SameFiles after ↔ ∀ f ∈ written, ∃ place,
        after.leadsTo? (inside c.outputDirectory f.1) = some place ∧
          s.file? place = some f.2) := by
  unfold run at h
  cases hgenerate : generateFrom text c with
  | error e' =>
    rw [hgenerate] at h
    obtain ⟨herror, rfl⟩ := Prod.mk.inj h
    exact .inl ⟨congrArg _ (Except.error.inj herror), rfl⟩
  | ok g =>
    rw [hgenerate] at h
    obtain ⟨written, f, rest, hsplit, herror, hwith⟩ :=
      g.writeTo_eq_error (GeneratedFiles.target_mem_of_generateFrom hgenerate) h
    exact .inr ⟨g, written, f, rest, rfl, hsplit, herror, hwith, hwith.sameFiles_iff⟩

/-! ### A run that leaves a file behind -/

/-- The remapper is to be written into `generated`. -/
def remapperRun : Configuration := { target := HandleRemapper.targetName }

/-- A store with directories alone, one of them where the source file is to be written. -/
def blockedStore : FileStore :=
  (FileStore.createDirectory {} "generated/handle_remapper.cc").2

theorem run_in_blockedStore : (run emptyDocument remapperRun blockedStore).1 =
    .error (.inaccessible "generated/handle_remapper.cc") := by
  rw [run, generateFrom, load_emptyDocument]
  decide +kernel

/-- The run has written the header, and nothing else. -/
theorem files_of_run_in_blockedStore : ∃ header,
    blockedStore.WithFiles "generated" [("handle_remapper.h", header)]
      (run emptyDocument remapperRun blockedStore).2 := by
  have hgenerated : ∃ g, generateFrom emptyDocument remapperRun = .ok g ∧
      g.target = "handle_remapper" := by
    rw [generateFrom, load_emptyDocument]
    exact ⟨_, rfl, rfl⟩
  obtain ⟨g, hg, htarget⟩ := hgenerated
  rcases files_of_failed_run (Prod.ext run_in_blockedStore rfl) with
    ⟨herror, -⟩ | ⟨g', written, f, rest, hg', hsplit, hstop, hwith, -⟩
  · cases hg.symm.trans herror
  obtain rfl : g = g' := Except.ok.inj (hg.symm.trans hg')
  rw [GeneratedFiles.files, htarget] at hsplit
  -- the run stopped at the source file, which is the second one
  have hother : ∀ place ∈ ["generated", "generated/handle_remapper.h",
      "generated/handle_remapper_tests.cc"],
      GenerationError.inaccessible "generated/handle_remapper.cc" ≠ .inaccessible place := by decide
  obtain ⟨-, hnone⟩ | hsource := hstop
  · exact absurd hnone (hother _ (by decide))
  match written, hsplit with
  | [], hsplit =>
    obtain ⟨rfl, -⟩ := List.cons.inj hsplit
    exact absurd hsource (hother "generated/handle_remapper.h" (by decide))
  | [header], hsplit =>
    obtain ⟨rfl, -⟩ := List.cons.inj hsplit
    exact ⟨_, hwith⟩
  | [_, _], hsplit =>
    obtain ⟨-, hsplit⟩ := List.cons.inj hsplit
    obtain ⟨-, hsplit⟩ := List.cons.inj hsplit
    obtain ⟨rfl, -⟩ := List.cons.inj hsplit
    exact absurd hsource (hother "generated/handle_remapper_tests.cc" (by decide))
  | _ :: _ :: _ :: _, hsplit => simp at hsplit

/-- **A failed run leaves its header behind** in a store that had no files. -/
theorem header_of_run_in_blockedStore :
    FileStore.SameFiles {} blockedStore ∧ ∃ e after,
      run emptyDocument remapperRun blockedStore = (.error e, after) ∧
        (after.file? "generated/handle_remapper.h").isSome = true ∧
        ¬ blockedStore.SameFiles after := by
  have hheader : ((run emptyDocument remapperRun blockedStore).2.file?
      "generated/handle_remapper.h").isSome = true := by
    rw [run, generateFrom, load_emptyDocument]
    decide +kernel
  refine ⟨FileStore.sameFiles_createDirectory _ _, _, _, Prod.ext run_in_blockedStore rfl, hheader,
    fun hsame => ?_⟩
  have hnone : blockedStore.file? "generated/handle_remapper.h" = none := by decide +kernel
  rw [hsame, hnone] at hheader
  cases hheader

end VulkanFoundry
