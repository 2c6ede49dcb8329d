/-
# Entries that stand

An entry stands in a registry if its constant is declared with its value, or the
enum under its key has its field with its value, or its alias with its target. An
entry stands once it is made, no later one takes it away, and making it again
changes nothing. So after a list of contributions that succeeds all of them stand,
and making the whole list again is of no effect (`foldlM_apply_again`).

Key theorems: `Entry.StandsIn.withEntry`, `Entry.withEntry_eq_self`,
`Registry.Takes.standsIn`.
-/
import VulkanFoundry.Proofs.Contribution.Entry

namespace VulkanFoundry

/-- What the entry says is so in the registry. -/
def Entry.StandsIn (r : Registry) : Entry → Prop
  | .constant name value =>
    ∃ d : Define, r.types.get? name = some (.define d) ∧ d.value = value
  | .field key f =>
    ∃ e g, r.types.get? key = some (.enum e) ∧ e.field? f.name = some g ∧ g.value = f.value
  | .fieldAlias key a => ∃ e b, r.types.get? key = some (.enum e) ∧
    e.aliases.get? a.name = some b ∧ b.target = a.target

variable {r r' : Registry} {e : EnumType} {x y : Entry} {key name : String}

/-! ### One entry -/

theorem EnumType.field?_withEntry_of_some {f : EnumField} (h : e.field? name = some f) :
    (e.withEntry key x).field? name = some f := by
  cases x with
  | constant n value => exact h
  | field k g =>
    simp only [withEntry]
    split
    · simp [field?_withField, h]
    · exact h
  | fieldAlias k a =>
    simp only [withEntry]
    split
    · simp [h]
    · exact h

theorem EnumType.get?_aliases_withEntry_of_some {a : EnumFieldAlias}
    (h : e.aliases.get? name = some a) : (e.withEntry key x).aliases.get? name = some a := by
  cases x with
  | constant n value => exact h
  | field k g =>
    simp only [withEntry]
    split
    · simp [h]
    · exact h
  | fieldAlias k b =>
    simp only [withEntry]
    split
    · simp [get?_aliases_withAlias, h]
    · exact h

theorem Registry.mapEnum_eq_self {change : EnumType → EnumType}
    (he : r.types.get? key = some (.enum e)) (h : change e = e) : r.mapEnum key change = r := by
  simp only [mapEnum, he, h, NameMap.insert_eq_self he]

namespace Entry

theorem FitsIn.standsIn (h : x.FitsIn r) : x.StandsIn (r.withEntry x) := by
  cases x with
  | constant name value =>
    cases ht : r.types.get? name with
    | none =>
      refine ⟨{ name, signature := none, value, added := true }, ?_, rfl⟩
      rw [Registry.get?_withEntry, ht]
      simp [define?]
    | some t =>
      obtain ⟨d, rfl, hd⟩ := h t ht
      refine ⟨d, ?_, hd⟩
      rw [Registry.get?_withEntry, ht]
      rfl
  | field key f =>
    obtain ⟨e, he, -, hf⟩ := h
    have he' : (r.withEntry (.field key f)).types.get? key = some (.enum (e.withField f)) := by
      rw [Registry.get?_withEntry_of_enum he, EnumType.withEntry, if_pos rfl]
    cases hg : e.field? f.name with
    | none =>
      refine ⟨_, f, he', ?_, rfl⟩
      simp [EnumType.field?_withField, hg]
    | some g =>
      refine ⟨_, g, he', ?_, hf g hg⟩
      simp [EnumType.field?_withField, hg]
  | fieldAlias key a =>
    obtain ⟨e, he, -, ha⟩ := h
    have he' : (r.withEntry (.fieldAlias key a)).types.get? key = some (.enum (e.withAlias a)) := by
      rw [Registry.get?_withEntry_of_enum he, EnumType.withEntry, if_pos rfl]
    cases hb : e.aliases.get? a.name with
    | none =>
      refine ⟨_, a, he', ?_, rfl⟩
      simp [EnumType.get?_aliases_withAlias, hb]
    | some b =>
      refine ⟨_, b, he', ?_, ha b hb⟩
      simp [EnumType.get?_aliases_withAlias, hb]

theorem StandsIn.withEntry (h : x.StandsIn r) (y : Entry) : x.StandsIn (r.withEntry y) := by
  cases x with
  | constant name value =>
    obtain ⟨d, hd, hv⟩ := h
    refine ⟨d, ?_, hv⟩
    rw [Registry.get?_withEntry, hd]
    rfl
  | field key f =>
    obtain ⟨e, g, he, hg, hv⟩ := h
    exact ⟨_, g, Registry.get?_withEntry_of_enum he y,
      EnumType.field?_withEntry_of_some hg, hv⟩
  | fieldAlias key a =>
    obtain ⟨e, b, he, hb, ht⟩ := h
    exact ⟨_, b, Registry.get?_withEntry_of_enum he y,
      EnumType.get?_aliases_withEntry_of_some hb, ht⟩

theorem withEntry_eq_self (h : x.StandsIn r) : r.withEntry x = r := by
  cases x with
  | constant name value =>
    obtain ⟨d, hd, -⟩ := h
    simp [Registry.withEntry, NameMap.contains, hd]
  | field key f =>
    obtain ⟨e, g, he, hg, -⟩ := h
    exact Registry.mapEnum_eq_self he (by simp [EnumType.withField, hg])
  | fieldAlias key a =>
    obtain ⟨e, b, he, hb, -⟩ := h
    exact Registry.mapEnum_eq_self he (by simp [EnumType.withAlias, NameMap.contains, hb])

end Entry

/-! ### All entries of a list -/

theorem Entry.StandsIn.foldl_withEntry : ∀ {xs : List Entry} {r : Registry}, x.StandsIn r →
    x.StandsIn (xs.foldl Registry.withEntry r)
  | [], _, h => h
  | y :: _, _, h => (h.withEntry y).foldl_withEntry

namespace Registry

theorem foldl_withEntry_eq_self : ∀ {xs : List Entry}, (∀ x ∈ xs, x.StandsIn r) →
    xs.foldl withEntry r = r
  | [], _ => rfl
  | x :: xs, h => by
    obtain ⟨hx, hxs⟩ := List.forall_mem_cons.1 h
    rw [List.foldl_cons, Entry.withEntry_eq_self hx]
    exact foldl_withEntry_eq_self hxs

/-- All entries of a list that is taken stand at its end. -/
theorem Takes.standsIn : ∀ {xs : List Entry} {r : Registry}, r.Takes xs →
    ∀ x ∈ xs, x.StandsIn (xs.foldl withEntry r)
  | [], _, _, x, hx => absurd hx List.not_mem_nil
  | y :: xs, r, h, x, hx => by
    obtain ⟨hy, htakes⟩ := takes_cons_iff.1 h
    rw [List.foldl_cons]
    rcases List.mem_cons.1 hx with rfl | hx
    · exact hy.standsIn.foldl_withEntry
    · exact htakes.standsIn x hx

/-- What fits at the end of a list is what did fit before and agrees with the list. -/
theorem fitsIn_foldl_withEntry_iff : ∀ {xs : List Entry} {r : Registry}, r.Takes xs →
    (y.FitsIn (xs.foldl withEntry r) ↔ y.FitsIn r ∧ ∀ x ∈ xs, x.Agrees y)
  | [], r, _ => by simp
  | x :: xs, r, h => by
    obtain ⟨hx, htakes⟩ := takes_cons_iff.1 h
    rw [List.foldl_cons, fitsIn_foldl_withEntry_iff htakes, Entry.fitsIn_withEntry_iff hx,
      List.forall_mem_cons, and_assoc]

/-- A list that is taken is taken again at its end. -/
theorem Takes.again {xs : List Entry} (h : r.Takes xs) : (xs.foldl withEntry r).Takes xs where
  fits := fun x hx => (fitsIn_foldl_withEntry_iff h).2
    ⟨h.fits x hx, fun y hy => h.agree y hy x hx⟩
  agree := h.agree

end Registry

theorem entry_foldl_withEntry : ∀ (xs : List Entry) (r : Registry),
    Contribution.entry (xs.foldl Registry.withEntry r) = Contribution.entry r
  | [], _ => rfl
  | x :: xs, r => by
    rw [List.foldl_cons, entry_foldl_withEntry xs, Contribution.entry_withEntry]

/-- **Making the same contributions again changes nothing.** -/
theorem foldlM_apply_again {cs : List Contribution}
    (h : cs.foldlM Contribution.apply r = .ok r') : cs.foldlM Contribution.apply r' = .ok r' := by
  obtain ⟨xs, hxs, htakes, rfl⟩ := foldlM_apply_eq_ok_iff.1 h
  refine foldlM_apply_eq_ok_iff.2 ⟨xs, ?_, htakes.again, ?_⟩
  · rw [entry_foldl_withEntry]
    exact hxs
  · exact (Registry.foldl_withEntry_eq_self htakes.standsIn).symm

end VulkanFoundry
