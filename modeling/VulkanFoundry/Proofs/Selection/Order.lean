/-
# Dependencies come first

The traversal enters a struct, emits what it depends on, and then emits the
struct. When a struct is emitted, each of its dependencies has been entered. One
that is not emitted yet is still waiting, so the struct was reached on the way from
it, through structs entered after it. Conversely, what a struct leads to in this
way is emitted before the visit of the struct ends.

So a dependency comes behind the struct that has it exactly if it leads to that
struct along structs entered after it (`Registry.precedes_sequence_iff`). Where it
does not lead back at all it comes first, whatever cycles there are elsewhere.

Each call of the traversal is described by what it enters and what it emits
(`Registry.Emits`). A visit is put together from the call for the dependencies and
the call for the names that are left (`Registry.Emits.visit`).

Key theorems: `Registry.emits_emitAll`, `Registry.mem_sequence_iff`.
-/
import Mathlib.Data.List.Nodup
import VulkanFoundry.Proofs.Selection.Selected
import VulkanFoundry.Selection.Order

namespace VulkanFoundry

def Precedes (order : List String) (a b : String) : Prop := [a, b].Sublist order

namespace Precedes

variable {order order' : List String} {a b : String}

theorem mono (h : order.Sublist order') (hab : Precedes order a b) : Precedes order' a b :=
  List.Sublist.trans hab h

theorem mem_left (h : Precedes order a b) : a ∈ order :=
  List.Sublist.subset h List.mem_cons_self

theorem mem_right (h : Precedes order a b) : b ∈ order :=
  List.Sublist.subset h (List.mem_cons_of_mem _ List.mem_cons_self)

theorem append (ha : a ∈ order) (hb : b ∈ order') : Precedes (order ++ order') a b :=
  List.Sublist.append (List.singleton_sublist.2 ha) (List.singleton_sublist.2 hb)

theorem asymm (hn : order.Nodup) (hab : Precedes order a b) : ¬ Precedes order b a := by
  intro hba
  induction order with
  | nil => cases hab
  | cons n rest ih =>
    obtain ⟨hnew, hrest⟩ := List.nodup_cons.1 hn
    have hskip : ∀ {x y : String}, Precedes (n :: rest) x y → y ∈ rest := by
      intro x y h
      cases h with
      | cons _ h => exact mem_right h
      | cons_cons _ h => exact h.subset List.mem_cons_self
    have hlate : ∀ {x y : String}, Precedes (n :: rest) x y → x ∈ rest → Precedes rest x y := by
      intro x y h hx
      cases h with
      | cons _ h => exact h
      | cons_cons _ h => exact absurd hx hnew
    exact ih hrest (hlate hab (hskip hba)) (hlate hba (hskip hab))

theorem of_append_left (hn : (order ++ order').Nodup) (hb : b ∈ order)
    (h : Precedes (order ++ order') a b) : Precedes order a b := by
  have hnot : ∀ {x : String}, x ∈ order → x ∉ order' := fun hx hx' =>
    List.disjoint_of_nodup_append hn hx hx'
  obtain ⟨l, l', heq, hl, hl'⟩ := List.sublist_append_iff.1 h
  match l, l', heq with
  | [], _, rfl => exact absurd (mem_right hl') (hnot hb)
  | [_], _, rfl => exact absurd (hl'.subset List.mem_cons_self) (hnot hb)
  | [_, _], [], rfl => exact hl

theorem of_append_right (hn : (order ++ order').Nodup) (ha : a ∈ order')
    (h : Precedes (order ++ order') a b) : Precedes order' a b := by
  have hnot : ∀ {x : String}, x ∈ order → x ∉ order' := fun hx hx' =>
    List.disjoint_of_nodup_append hn hx hx'
  obtain ⟨l, l', heq, hl, hl'⟩ := List.sublist_append_iff.1 h
  match l, l', heq with
  | [], _, rfl => exact hl'
  | [_], _, rfl => exact absurd ha (hnot (hl.subset List.mem_cons_self))
  | [_, _], [], rfl => exact absurd ha (hnot (mem_left hl))

theorem reverse_iff : Precedes order.reverse a b ↔ Precedes order b a := by
  rw [Precedes, ← List.reverse_sublist, List.reverse_reverse]
  rfl

end Precedes

namespace Registry

/-- The name is that of the struct, or an alias of it. -/
def Denotes (r : Registry) (name struct : String) : Prop :=
  ∃ s, r.struct? name = some s ∧ s.name = struct

/-- The structs in the order in which the traversal enters them. -/
def entryOrder (r : Registry) (selected : NameSet) : List String :=
  (r.emitAll selected selected.names {}).1.entered.reverse

/-- The traversal from some names enters new structs, listed from the last one, and
emits the same structs in an order of its own. -/
structure Emits (r : Registry) (selected : NameSet) (names : List String) (e e' : Emission)
    (marks new : List String) : Prop where
  entered : e'.entered = marks ++ e.entered
  order : e'.order = e.order ++ new
  nodup_marks : (marks ++ e.entered).Nodup
  nodup : new.Nodup
  mem_marks : ∀ n, n ∈ marks ↔ n ∈ new
  /-- All that the names denote is entered. -/
  complete : ∀ n ∈ names, ∀ x, r.Denotes n x → x ∈ e'.entered
  denoted : ∀ x ∈ new, ∃ n, (n ∈ names ∨ selected.contains n = true) ∧ r.Denotes n x
  /-- What is emitted is reached from one of the names. -/
  reached : ∀ x ∈ new, ∃ n ∈ names, ∃ a ∈ new, r.Denotes n a ∧
    r.ReachesWithin (fun y => selected.contains y = true ∧ y ∈ new) a x
  closed : ∀ a ∈ new, ∀ d, r.DependsOn a d → selected.contains d = true → d ∈ e'.entered
  /-- A dependency that does not come first leads to what depends on it, along
  structs entered after it. -/
  led : ∀ a ∈ new, ∀ d ∈ new, r.DependsOn a d → selected.contains d = true →
    Precedes new d a ∨
      r.ReachesWithin (fun y => selected.contains y = true ∧ Precedes marks y d) d a
  /-- What a struct leads to along structs entered after it comes before it. -/
  covered : ∀ d ∈ new, ∀ x,
    r.ReachesWithin (fun y => selected.contains y = true ∧ Precedes marks y d) d x →
    x = d ∨ Precedes new x d

variable {r : Registry} {selected : NameSet} {e inner outer e' : Emission} {name : String}
variable {rest names marks marks₁ marks₂ new new₁ new₂ : List String} {s : StructType}

/-! ### One step -/

theorem Emits.mem_entered (h : r.Emits selected names e e' marks new) {n : String} :
    n ∈ e'.entered ↔ n ∈ new ∨ n ∈ e.entered := by
  rw [h.entered, List.mem_append, h.mem_marks]

theorem Emits.fresh (h : r.Emits selected names e e' marks new) {n : String} (hn : n ∈ new) :
    n ∉ e.entered := fun he =>
  List.disjoint_of_nodup_append h.nodup_marks ((h.mem_marks n).2 hn) he

theorem Emits.nil (he : e.entered.Nodup) : r.Emits selected [] e e [] [] := by
  constructor <;> simp [he]

/-- A name of a struct that was entered before, or of none, is passed over. -/
theorem Emits.skip (h : r.Emits selected rest e e' marks new)
    (hname : ∀ x, r.Denotes name x → x ∈ e.entered) :
    r.Emits selected (name :: rest) e e' marks new := by
  refine
    { h with
      complete := fun n hn x hx => ?_
      denoted := fun x hx => ?_
      reached := fun x hx => ?_ }
  · rcases List.mem_cons.1 hn with rfl | hn
    · exact h.mem_entered.2 (.inr (hname x hx))
    · exact h.complete n hn x hx
  · obtain ⟨n, hn, hd⟩ := h.denoted x hx
    exact ⟨n, hn.imp_left (List.mem_cons_of_mem _), hd⟩
  · obtain ⟨n, hn, hpath⟩ := h.reached x hx
    exact ⟨n, List.mem_cons_of_mem _ hn, hpath⟩

section Visit

variable (hr : KeyedByName r.types) (hs : r.struct? name = some s)
variable (h₁ : r.Emits selected ((r.dependencies s).filter selected.contains) (e.enter s.name)
  inner marks₁ new₁)
variable (h₂ : r.Emits selected rest (inner.emit s.name) outer marks₂ new₂)

include h₁ in
theorem mem_entered_inner {n : String} :
    n ∈ inner.entered ↔ n ∈ new₁ ∨ n = s.name ∨ n ∈ e.entered := by
  rw [h₁.mem_entered, Emission.enter, List.mem_cons]

include h₁ h₂ in
theorem not_mem_of_mem_new₂ {n : String} (hn : n ∈ new₂) :
    n ∉ new₁ ∧ n ≠ s.name ∧ n ∉ e.entered := by
  have hout : ¬ (n ∈ new₁ ∨ n = s.name ∨ n ∈ e.entered) := fun h =>
    h₂.fresh hn ((mem_entered_inner h₁).2 h)
  tauto

include h₁ in
theorem ne_of_mem_new₁ {n : String} (hn : n ∈ new₁) : n ≠ s.name := by
  rintro rfl
  exact h₁.fresh hn List.mem_cons_self

include hr hs h₁ in
/-- The struct that is visited leads to all that is emitted inside of its visit. -/
theorem reaches_of_mem_new₁ {x : String} (hx : x ∈ new₁) :
    r.ReachesWithin (fun y => selected.contains y = true ∧ y ∈ new₁) s.name x := by
  obtain ⟨n, hn, b, hb, ⟨t, ht, htb⟩, hpath⟩ := h₁.reached x hx
  obtain ⟨hdep, hsel⟩ := List.mem_filter.1 hn
  obtain ⟨u, hu, hun⟩ := struct?_of_mem_dependencies hr hdep
  obtain rfl : n = b := by
    rw [hu] at ht
    rw [← hun, ← htb, Option.some.inj ht]
  exact .head ⟨⟨s, struct?_name hr hs, hdep⟩, hsel, hb⟩ hpath

include hr hs h₁ in
/-- All selected dependencies of a struct were entered when it is emitted. -/
theorem mem_entered_of_visit {d : String} (hd : r.DependsOn s.name d)
    (hsel : selected.contains d = true) : d ∈ inner.entered := by
  have hdep : d ∈ r.dependencies s := (dependsOn_iff (struct?_name hr hs)).1 hd
  exact h₁.complete d (List.mem_filter.2 ⟨hdep, hsel⟩) d (struct?_of_mem_dependencies hr hdep)

include h₁ h₂ in
theorem nodup_marks_visit : ((marks₂ ++ marks₁ ++ [s.name]) ++ e.entered).Nodup := by
  have h := h₂.nodup_marks
  rw [Emission.emit, h₁.entered, Emission.enter] at h
  simpa using h

include hr hs h₁ h₂ in
theorem led_visit {a d : String} (ha : a ∈ new₁ ++ s.name :: new₂)
    (hd : d ∈ new₁ ++ s.name :: new₂) (hdep : r.DependsOn a d)
    (hsel : selected.contains d = true) : Precedes (new₁ ++ s.name :: new₂) d a ∨
      r.ReachesWithin (fun y => selected.contains y = true ∧
        Precedes (marks₂ ++ marks₁ ++ [s.name]) y d) d a := by
  have hsub₂ : new₂.Sublist (new₁ ++ s.name :: new₂) :=
    (List.sublist_cons_self _ _).trans (List.sublist_append_right _ _)
  have hmarks₁ : marks₁.Sublist (marks₂ ++ marks₁ ++ [s.name]) :=
    (List.sublist_append_right _ _).trans (List.sublist_append_left _ _)
  have hmarks₂ : marks₂.Sublist (marks₂ ++ marks₁ ++ [s.name]) :=
    (List.sublist_append_left _ _).trans (List.sublist_append_left _ _)
  rcases List.mem_append.1 ha with ha | ha
  · rcases List.mem_append.1 hd with hd | hd
    · refine (h₁.led a ha d hd hdep hsel).imp (.mono (List.sublist_append_left _ _)) fun h => ?_
      exact h.mono fun y hy => ⟨hy.1, hy.2.mono hmarks₁⟩
    rcases List.mem_cons.1 hd with rfl | hd
    · -- the visited struct leads to all that is emitted inside of its visit
      refine .inr ((reaches_of_mem_new₁ hr hs h₁ ha).mono fun y hy => ⟨hy.1, ?_⟩)
      exact .append (List.mem_append_right _ ((h₁.mem_marks y).2 hy.2))
        (List.mem_singleton_self _)
    · exact absurd (h₁.closed a ha d hdep hsel) (h₂.fresh hd)
  rcases List.mem_cons.1 ha with rfl | ha
  · rcases List.mem_append.1 hd with hd | hd
    · exact .inl (.append hd List.mem_cons_self)
    rcases List.mem_cons.1 hd with rfl | hd
    · have hself := (dependsOn_iff (struct?_name hr hs)).1 hdep
      exact absurd rfl (mem_dependencies_iff.1 hself).1
    · exact absurd (mem_entered_of_visit hr hs h₁ hdep hsel) (h₂.fresh hd)
  · rcases List.mem_append.1 hd with hd | hd
    · exact .inl (.append hd (List.mem_cons_of_mem _ ha))
    rcases List.mem_cons.1 hd with rfl | hd
    · have hafter : Precedes ([s.name] ++ new₂) s.name a := .append (List.mem_singleton_self _) ha
      exact .inl (hafter.mono (List.sublist_append_right _ _))
    · refine (h₂.led a ha d hd hdep hsel).imp (.mono hsub₂) fun h => ?_
      exact h.mono fun y hy => ⟨hy.1, hy.2.mono hmarks₂⟩

include hr hs h₁ h₂ in
/-- A path along structs entered after its first struct stays inside of the visit of
that struct. -/
theorem covered_visit {d x : String} (hd : d ∈ new₁ ++ s.name :: new₂)
    (hpath : r.ReachesWithin (fun y => selected.contains y = true ∧
      Precedes (marks₂ ++ marks₁ ++ [s.name]) y d) d x) :
    x = d ∨ Precedes (new₁ ++ s.name :: new₂) x d := by
  have hnodup := nodup_marks_visit h₁ h₂
  have hn : (marks₂ ++ marks₁ ++ [s.name]).Nodup := hnodup.of_append_left
  have hout : ∀ {y : String}, Precedes (marks₂ ++ marks₁ ++ [s.name]) y d → y ∉ e.entered := by
    intro y hy he
    exact List.disjoint_of_nodup_append hnodup hy.mem_left he
  rcases List.mem_append.1 hd with hd | hd
  · have hd' : d ∈ marks₂ ++ marks₁ :=
      List.mem_append_right _ ((h₁.mem_marks d).2 hd)
    -- a path that left the inner traversal would enter what was entered before it
    have hinner : x ∈ new₁ ∧ r.ReachesWithin
        (fun y => selected.contains y = true ∧ Precedes marks₁ y d) d x := by
      induction hpath with
      | refl => exact ⟨hd, .refl⟩
      | @tail m y _ hstep ih =>
        obtain ⟨hdep, hsel, hafter⟩ := hstep
        have hbefore := Precedes.of_append_left hn hd' hafter
        have hin := (mem_entered_inner h₁).1 (h₁.closed m ih.1 y hdep hsel)
        have hne : y ≠ s.name := by
          rintro rfl
          have hlast : s.name ∈ [s.name] := List.mem_singleton_self _
          exact List.disjoint_of_nodup_append hn hbefore.mem_left hlast
        have hnew₁ := hin.resolve_right fun h => h.elim hne (hout hafter)
        have hmark := Precedes.of_append_right hn.of_append_left
          ((h₁.mem_marks y).2 hnew₁) hbefore
        exact ⟨hnew₁, ih.2.tail ⟨hdep, hsel, hmark⟩⟩
    refine (h₁.covered d hd x hinner.2).imp_right ?_
    exact .mono (List.sublist_append_left _ _)
  rcases List.mem_cons.1 hd with rfl | hd
  · have hinner : x = s.name ∨ x ∈ new₁ := by
      induction hpath with
      | refl => exact .inl rfl
      | @tail m y _ hstep ih =>
        obtain ⟨hdep, hsel, hafter⟩ := hstep
        have hin : y ∈ inner.entered := by
          rcases ih with rfl | ih
          · exact mem_entered_of_visit hr hs h₁ hdep hsel
          · exact h₁.closed m ih y hdep hsel
        rcases (mem_entered_inner h₁).1 hin with h | h | h
        · exact .inr h
        · exact .inl h
        · exact absurd h (hout hafter)
    exact hinner.imp_right fun h => .append h List.mem_cons_self
  · have hd' : d ∈ marks₂ := (h₂.mem_marks d).2 hd
    have hpath₂ : r.ReachesWithin
        (fun y => selected.contains y = true ∧ Precedes marks₂ y d) d x := by
      refine hpath.mono fun y hy => ⟨hy.1, ?_⟩
      have hbefore := Precedes.of_append_left hn (List.mem_append_left _ hd') hy.2
      exact Precedes.of_append_left hn.of_append_left hd' hbefore
    refine (h₂.covered d hd x hpath₂).imp_right ?_
    exact .mono ((List.sublist_cons_self _ _).trans (List.sublist_append_right _ _))

include hr hs h₁ h₂ in
/-- A visit emits what the struct depends on, then the struct, then what the other
names lead to. -/
theorem Emits.visit : r.Emits selected (name :: rest) e outer (marks₂ ++ marks₁ ++ [s.name])
    (new₁ ++ s.name :: new₂) := by
  have hself : s.name ∈ new₁ ++ s.name :: new₂ := List.mem_append_right _ List.mem_cons_self
  have hmem₂ : ∀ {y : String}, y ∈ new₂ → y ∈ new₁ ++ s.name :: new₂ := fun hy =>
    List.mem_append_right _ (List.mem_cons_of_mem _ hy)
  have houter : ∀ {y : String}, y ∈ inner.entered → y ∈ outer.entered := fun hy =>
    h₂.mem_entered.2 (.inr hy)
  refine
    { entered := ?_
      order := ?_
      nodup_marks := nodup_marks_visit h₁ h₂
      nodup := ?_
      mem_marks := fun n => ?_
      complete := fun n hn x hx => ?_
      denoted := fun x hx => ?_
      reached := fun x hx => ?_
      closed := fun a ha d hd hsel => ?_
      led := fun a ha d hd hdep hsel => led_visit hr hs h₁ h₂ ha hd hdep hsel
      covered := fun d hd x hpath => covered_visit hr hs h₁ h₂ hd hpath }
  · rw [h₂.entered, Emission.emit, h₁.entered, Emission.enter]
    simp
  · rw [h₂.order, Emission.emit, h₁.order, Emission.enter]
    simp
  · have hnot : s.name ∉ new₂ := fun hin => (not_mem_of_mem_new₂ h₁ h₂ hin).2.1 rfl
    refine List.nodup_append.2 ⟨h₁.nodup, List.nodup_cons.2 ⟨hnot, h₂.nodup⟩, ?_⟩
    rintro a ha b hb rfl
    rcases List.mem_cons.1 hb with rfl | hb
    · exact ne_of_mem_new₁ h₁ ha rfl
    · exact (not_mem_of_mem_new₂ h₁ h₂ hb).1 ha
  · rw [List.mem_append, List.mem_append, h₁.mem_marks, h₂.mem_marks, List.mem_singleton,
      List.mem_append, List.mem_cons]
    tauto
  · rcases List.mem_cons.1 hn with rfl | hn
    · obtain ⟨t, ht, rfl⟩ := hx
      obtain rfl : s = t := Option.some.inj (hs.symm.trans ht)
      exact houter ((mem_entered_inner h₁).2 (.inr (.inl rfl)))
    · exact h₂.complete n hn x hx
  · rcases List.mem_append.1 hx with hx | hx
    · obtain ⟨n, hn, hd⟩ := h₁.denoted x hx
      exact ⟨n, .inr (hn.elim (fun hn => (List.mem_filter.1 hn).2) id), hd⟩
    rcases List.mem_cons.1 hx with rfl | hx
    · exact ⟨name, .inl List.mem_cons_self, s, hs, rfl⟩
    · obtain ⟨n, hn, hd⟩ := h₂.denoted x hx
      exact ⟨n, hn.imp_left (List.mem_cons_of_mem _), hd⟩
  · rcases List.mem_append.1 hx with hx | hx
    · refine ⟨name, List.mem_cons_self, s.name, hself, ⟨s, hs, rfl⟩, ?_⟩
      exact (reaches_of_mem_new₁ hr hs h₁ hx).mono fun y hy =>
        ⟨hy.1, List.mem_append_left _ hy.2⟩
    rcases List.mem_cons.1 hx with rfl | hx
    · exact ⟨name, List.mem_cons_self, s.name, hself, ⟨s, hs, rfl⟩, .refl⟩
    · obtain ⟨n, hn, b, hb, hd, hpath⟩ := h₂.reached x hx
      exact ⟨n, List.mem_cons_of_mem _ hn, b, hmem₂ hb, hd, hpath.mono fun y hy =>
        ⟨hy.1, hmem₂ hy.2⟩⟩
  · rcases List.mem_append.1 ha with ha | ha
    · exact houter (h₁.closed a ha d hd hsel)
    rcases List.mem_cons.1 ha with rfl | ha
    · exact houter (mem_entered_of_visit hr hs h₁ hd hsel)
    · exact h₂.closed a ha d hd hsel

end Visit

/-! ### The whole run -/

/-- **The traversal emits**, from any names and after any structs. -/
theorem emits_emitAll (hr : KeyedByName r.types) (selected : NameSet) (names : List String)
    (e : Emission) (he : e.entered.Nodup) :
    ∃ marks new, r.Emits selected names e (r.emitAll selected names e).1 marks new := by
  fun_induction emitAll r selected names e with
  | case1 e => exact ⟨[], [], .nil he⟩
  | case2 e name rest hnone ih =>
    obtain ⟨marks, new, h⟩ := ih he
    refine ⟨marks, new, h.skip ?_⟩
    rintro x ⟨s, hs, -⟩
    rw [hnone] at hs
    cases hs
  | case3 e name rest s hs hin ih =>
    obtain ⟨marks, new, h⟩ := ih he
    refine ⟨marks, new, h.skip ?_⟩
    rintro x ⟨t, ht, rfl⟩
    obtain rfl : s = t := Option.some.inj (hs.symm.trans ht)
    exact hin
  | case4 e name rest s hs hin hlt inner hsub outer ih₁ _ ih₂ =>
    obtain ⟨marks₁, new₁, h₁⟩ := ih₁ (List.nodup_cons.2 ⟨hin, he⟩)
    have hinner : inner.1.entered.Nodup := h₁.entered ▸ h₁.nodup_marks
    obtain ⟨marks₂, new₂, h₂⟩ := ih₂ hinner
    exact ⟨_, _, .visit hr hs h₁ h₂⟩

theorem emits_sequence (hr : KeyedByName r.types) (selected : NameSet) :
    ∃ e', r.Emits selected selected.names {} e' (r.entryOrder selected).reverse
      (r.sequence selected) := by
  obtain ⟨marks, new, h⟩ := emits_emitAll hr selected selected.names {} List.nodup_nil
  have hmarks : (r.entryOrder selected).reverse = marks := by
    rw [entryOrder, List.reverse_reverse, h.entered, List.append_nil]
  have horder : r.sequence selected = new := by
    rw [sequence, h.order]
    rfl
  rw [hmarks, horder]
  exact ⟨_, h⟩

/-- The order has each struct once. -/
theorem nodup_sequence (hr : KeyedByName r.types) : (r.sequence selected).Nodup := by
  obtain ⟨e', h⟩ := emits_sequence hr selected
  exact h.nodup

/-- The order has the structs that the selected names denote. -/
theorem mem_sequence_iff (hr : KeyedByName r.types) {x : String} :
    x ∈ r.sequence selected ↔ ∃ n, selected.contains n = true ∧ r.Denotes n x := by
  obtain ⟨e', h⟩ := emits_sequence hr selected
  constructor
  · intro hx
    obtain ⟨n, hn, hd⟩ := h.denoted x hx
    exact ⟨n, hn.elim NameMap.mem_names_iff.1 id, hd⟩
  · rintro ⟨n, hn, hd⟩
    have hin := h.complete n (NameMap.mem_names_iff.2 hn) x hd
    exact (h.mem_entered.1 hin).resolve_right List.not_mem_nil

/-- **A dependency comes first unless it leads back.** It comes behind what depends
on it exactly if it leads there along selected structs that are entered after it. -/
theorem precedes_sequence_iff (hr : KeyedByName r.types) {a d : String}
    (ha : a ∈ r.sequence selected) (hd : r.DependsOn a d) (hsel : selected.contains d = true) :
    Precedes (r.sequence selected) d a ↔ ¬ r.ReachesWithin
      (fun y => selected.contains y = true ∧ Precedes (r.entryOrder selected) d y) d a := by
  obtain ⟨e', h⟩ := emits_sequence hr selected
  obtain ⟨t, ht, hdep⟩ := hd
  have hin : d ∈ r.sequence selected :=
    (mem_sequence_iff hr).2 ⟨d, hsel, struct?_of_mem_dependencies hr hdep⟩
  have hmarks : ∀ {y : String}, Precedes (r.entryOrder selected) d y ↔
      Precedes (r.entryOrder selected).reverse y d := Precedes.reverse_iff.symm
  simp only [hmarks]
  constructor
  · intro hbefore hpath
    rcases h.covered d hin a hpath with rfl | hafter
    · exact hbefore.asymm h.nodup hbefore
    · exact hbefore.asymm h.nodup hafter
  · exact (h.led a ha d hin ⟨t, ht, hdep⟩ hsel).resolve_right

end Registry
end VulkanFoundry
