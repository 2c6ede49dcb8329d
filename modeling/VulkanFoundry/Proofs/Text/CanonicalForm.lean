/-
# The canonical text is a normal form

A type is read again and again from the text in which it is stored, so that text must
say what the text it was made from says: the same words and stars in the same order.
It does, and two texts have one canonical form exactly if their atoms are the same
(`TypeText.canonical_eq_iff`). That the atoms are told apart by what is written for them
rests on words being words: none of them is a star.

A type put together from pieces has the atoms of the pieces one after the other
(`TypeText.atoms_assemble`). The blank between two pieces keeps a word that ends the one
apart from a word that starts the other, whatever the pieces are.
-/
import VulkanFoundry.Proofs.Text.Writing

namespace VulkanFoundry
namespace TypeText

variable {cs cs' : List Char} {c : Char}

/-- Every text has the atoms of its canonical form. -/
theorem atoms_canonical (cs : List Char) : atoms (canonical cs).toList = atoms cs := by
  rw [canonical, String.toList_ofList]
  exact atoms_render fun _ => isWord_of_mem_atoms

/-- Texts have one canonical form exactly if they have the same atoms. -/
theorem canonical_eq_iff : canonical cs = canonical cs' ↔ atoms cs = atoms cs' := by
  constructor
  · intro h
    calc atoms cs = atoms (canonical cs).toList := (atoms_canonical cs).symm
      _ = atoms (canonical cs').toList := by rw [h]
      _ = atoms cs' := atoms_canonical cs'
  · intro h
    rw [canonical, h, canonical]

/-! ### Atoms and what is written for them -/

theorem IsWord.text_ne_star {w : String} (h : IsWord w) : (Atom.word w).text ≠ Atom.star.text := by
  rintro rfl
  exact absurd (h.2 '*' (by decide)) (by decide)

/-- Stars and words are told apart by what is written for them. -/
theorem text_inj {a b : Atom} (ha : ∀ w, a = .word w → IsWord w)
    (hb : ∀ w, b = .word w → IsWord w) : a.text = b.text ↔ a = b := by
  cases a with
  | star =>
    cases b with
    | star => exact iff_of_true rfl rfl
    | word v => exact iff_of_false (hb v rfl).text_ne_star.symm nofun
  | word w =>
    cases b with
    | star => exact iff_of_false (ha w rfl).text_ne_star nofun
    | word v => exact ⟨congrArg Atom.word, Atom.word.inj⟩

/-- What is written for atoms tells them, if the words among them are words. -/
theorem map_text_inj : ∀ {as bs : List Atom}, (∀ w, .word w ∈ as → IsWord w) →
    (∀ w, .word w ∈ bs → IsWord w) → (as.map Atom.text = bs.map Atom.text ↔ as = bs)
  | [], [], _, _ => iff_of_true rfl rfl
  | [], _ :: _, _, _ => iff_of_false nofun nofun
  | _ :: _, [], _, _ => iff_of_false nofun nofun
  | a :: as, b :: bs, has, hbs => by
    have hfirst : a.text = b.text ↔ a = b :=
      text_inj (fun w hw => has w (hw ▸ List.mem_cons_self))
        fun w hw => hbs w (hw ▸ List.mem_cons_self)
    have hrest := map_text_inj (fun w hw => has w (List.mem_cons_of_mem a hw))
      fun w hw => hbs w (List.mem_cons_of_mem b hw)
    rw [List.map_cons, List.map_cons, List.cons.injEq, List.cons.injEq, hfirst, hrest]

/-! ### Texts put together -/

theorem atoms_append_blank (hc : Text.isBlank c = true) (cs cs' : List Char) :
    atoms (cs ++ c :: cs') = atoms cs ++ atoms cs' := by
  have hboth := (writes_iff.2 (rfl : tokens cs = _)).append_blank hc
    (writes_iff.2 (rfl : tokens cs' = _))
  rw [atoms_of_writes hboth, List.filterMap_append]
  rfl

theorem atoms_assemble (before base after : String) :
    atoms (assemble before base after).toList =
      atoms before.toList ++ atoms base.toList ++ atoms after.toList := by
  have hblank : Text.isBlank ' ' = true := by decide
  rw [assemble, atoms_canonical, atoms_append_blank hblank, atoms_append_blank hblank]

/-- **The canonical text is a normal form of the atoms.** It has the atoms of the text it
was made from; two texts have the same one if and only if they have the same atoms, or
the same is written for their atoms; making it again changes nothing; and of a type that
is put together it is that of the atoms of the pieces, none of them merged or split. -/
theorem canonical_normal_form :
    (∀ cs, atoms (canonical cs).toList = atoms cs) ∧
    (∀ cs cs', canonical cs = canonical cs' ↔ atoms cs = atoms cs') ∧
    (∀ cs cs', canonical cs = canonical cs' ↔
      (atoms cs).map Atom.text = (atoms cs').map Atom.text) ∧
    (∀ cs, canonical (canonical cs).toList = canonical cs) ∧
    ∀ before base after : String, atoms (assemble before base after).toList =
      atoms before.toList ++ atoms base.toList ++ atoms after.toList := by
  refine ⟨atoms_canonical, fun _ _ => canonical_eq_iff, fun cs cs' => ?_, isCanonical_canonical,
    atoms_assemble⟩
  rw [canonical_eq_iff, map_text_inj (fun _ => isWord_of_mem_atoms) fun _ => isWord_of_mem_atoms]

example : assemble "const" "unsigned  int(" "*const," = "const unsigned int* const" := by decide

end TypeText
end VulkanFoundry
