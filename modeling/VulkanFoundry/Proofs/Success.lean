/-
# Chains of steps that may fail

Reading, selecting and planning are chains of steps, each of which gives a value
or an error, and the first error ends the chain. What is known of a chain that
succeeds is what is known of its steps: each of them succeeded, on what the
steps before it gave. What a chain fails with is what the first of its steps fails
with that fails at all.

Key theorems: `bind_eq_ok_iff`, `mapM_eq_ok_iff`, `forM_eq_ok_iff`,
`foldlM_preserves`, `foldlM_establishes`, `exists_of_foldlM_eq_error`,
`error?_bind_eq_or`, `error?_mapM`.
-/
import Mathlib.Data.List.Forall2

namespace VulkanFoundry

variable {ε α β γ : Type}

theorem bind_eq_ok_iff {x : Except ε α} {f : α → Except ε β} {b : β} :
    (x >>= f) = .ok b ↔ ∃ a, x = .ok a ∧ f a = .ok b := by
  cases x with
  | error e => simp [bind, Except.bind]
  | ok a => simp [bind, Except.bind]

theorem check_bind_eq_ok_iff {x : Except ε Unit} {f : Unit → Except ε β} {b : β} :
    (x >>= f) = .ok b ↔ x = .ok () ∧ f () = .ok b := by
  rw [bind_eq_ok_iff]
  exact ⟨fun ⟨_, hx, hf⟩ => ⟨hx, hf⟩, fun ⟨hx, hf⟩ => ⟨(), hx, hf⟩⟩

theorem map_eq_ok_iff {x : Except ε α} {f : α → β} {b : β} :
    x.map f = .ok b ↔ ∃ a, x = .ok a ∧ f a = b := by
  cases x with
  | error e => simp [Except.map]
  | ok a => simp [Except.map]

theorem map_eq_bind (x : Except ε α) (f : α → β) : x.map f = x >>= fun a => .ok (f a) := by
  cases x <;> rfl

theorem bind_eq_error_iff {x : Except ε α} {f : α → Except ε β} {e : ε} :
    (x >>= f) = .error e ↔ x = .error e ∨ ∃ a, x = .ok a ∧ f a = .error e := by
  cases x with
  | error e' => simp [bind, Except.bind]
  | ok a => simp [bind, Except.bind]

theorem exists_eq_ok_of_check {x : Except ε α} {motive : α → Prop} [DecidablePred motive]
    (h : x.toOption.any (fun a => decide (motive a)) = true) : ∃ a, x = .ok a ∧ motive a := by
  cases x with
  | error e => cases h
  | ok a => exact ⟨a, rfl, of_decide_eq_true h⟩

theorem mapM_eq_ok_iff {f : α → Except ε β} :
    ∀ {l : List α} {l' : List β},
      l.mapM f = .ok l' ↔ List.Forall₂ (fun a b => f a = .ok b) l l'
  | [], l' => by
    rw [List.mapM_nil, List.forall₂_nil_left_iff]
    exact ⟨fun h => (Except.ok.inj h).symm, fun h => h ▸ rfl⟩
  | a :: l, l' => by
    rw [List.mapM_cons, bind_eq_ok_iff, List.forall₂_cons_left_iff]
    constructor
    · rintro ⟨b, hb, hrest⟩
      obtain ⟨bs, hbs, hl'⟩ := bind_eq_ok_iff.1 hrest
      exact ⟨b, bs, hb, mapM_eq_ok_iff.1 hbs, (Except.ok.inj hl').symm⟩
    · rintro ⟨b, bs, hb, hbs, rfl⟩
      exact ⟨b, hb, bind_eq_ok_iff.2 ⟨bs, mapM_eq_ok_iff.2 hbs, rfl⟩⟩

theorem mem_iff_of_mapM_eq_ok {f : α → Except ε β} {l : List α} {l' : List β}
    (h : l.mapM f = .ok l') {b : β} : b ∈ l' ↔ ∃ a ∈ l, f a = .ok b := by
  have h' := mapM_eq_ok_iff.1 h
  clear h
  induction h' with
  | nil => simp
  | cons hab _ ih =>
    rw [List.mem_cons, List.exists_mem_cons_iff, hab, Except.ok.injEq, eq_comm]
    exact or_congr_right ih

theorem exists_eq_ok_of_mapM_eq_ok {f : α → Except ε β} {l : List α} {l' : List β}
    (h : l.mapM f = .ok l') {a : α} (ha : a ∈ l) : ∃ b ∈ l', f a = .ok b := by
  have h' := mapM_eq_ok_iff.1 h
  clear h
  induction h' with
  | nil => exact absurd ha List.not_mem_nil
  | cons hab _ ih =>
    rcases List.mem_cons.1 ha with rfl | ha
    · exact ⟨_, List.mem_cons_self, hab⟩
    · obtain ⟨b, hb, hfab⟩ := ih ha
      exact ⟨b, List.mem_cons_of_mem _ hb, hfab⟩

theorem exists_mapM_eq_ok {f : α → Except ε β} :
    ∀ {l : List α}, (∀ a ∈ l, ∃ b, f a = .ok b) → ∃ l', l.mapM f = .ok l'
  | [], _ => ⟨[], rfl⟩
  | a :: l, h => by
    obtain ⟨b, hb⟩ := h a List.mem_cons_self
    obtain ⟨bs, hbs⟩ := exists_mapM_eq_ok fun x hx => h x (List.mem_cons_of_mem a hx)
    refine ⟨b :: bs, ?_⟩
    rw [List.mapM_cons, bind_eq_ok_iff]
    exact ⟨b, hb, bind_eq_ok_iff.2 ⟨bs, hbs, rfl⟩⟩

/-- Steps that agree element by element agree on the whole lists. -/
theorem mapM_eq_of_forall₂ {f : α → Except ε γ} {g : β → Except ε γ} {l : List α} {l' : List β}
    (h : List.Forall₂ (fun a b => f a = g b) l l') : l.mapM f = l'.mapM g := by
  induction h with
  | nil => rfl
  | cons hab _ ih => rw [List.mapM_cons, List.mapM_cons, hab, ih]

theorem filterMap_eq_of_forall₂ {f : α → Option γ} {g : β → Option γ} {l : List α} {l' : List β}
    (h : List.Forall₂ (fun a b => f a = g b) l l') : l.filterMap f = l'.filterMap g := by
  induction h with
  | nil => rfl
  | cons hab _ ih => rw [List.filterMap_cons, List.filterMap_cons, hab, ih]

theorem findSome?_eq_of_forall₂ {f : α → Option γ} {g : β → Option γ} {l : List α} {l' : List β}
    (h : List.Forall₂ (fun a b => f a = g b) l l') : l.findSome? f = l'.findSome? g := by
  induction h with
  | nil => rfl
  | cons hab _ ih => rw [List.findSome?_cons, List.findSome?_cons, hab, ih]

theorem forM_eq_ok_iff {f : α → Except ε Unit} :
    ∀ {l : List α}, l.forM f = .ok () ↔ ∀ a ∈ l, f a = .ok ()
  | [] => ⟨fun _ _ h => absurd h List.not_mem_nil, fun _ => rfl⟩
  | a :: l => by
    show (f a >>= fun _ => l.forM f) = .ok () ↔ _
    rw [bind_eq_ok_iff, List.forall_mem_cons]
    constructor
    · rintro ⟨u, ha, hl⟩
      exact ⟨ha, forM_eq_ok_iff.1 hl⟩
    · rintro ⟨ha, hl⟩
      exact ⟨(), ha, forM_eq_ok_iff.2 hl⟩

theorem exists_of_forM_eq_error {f : α → Except ε Unit} {e : ε} :
    ∀ {l : List α}, l.forM f = .error e → ∃ a ∈ l, f a = .error e
  | [], h => nomatch h
  | a :: l, h => by
    have hfail : (f a >>= fun _ => l.forM f) = .error e := h
    rcases bind_eq_error_iff.1 hfail with ha | ⟨u, -, hl⟩
    · exact ⟨a, List.mem_cons_self, ha⟩
    · obtain ⟨b, hb, hfail⟩ := exists_of_forM_eq_error hl
      exact ⟨b, List.mem_cons_of_mem a hb, hfail⟩

/-- A property that every step preserves holds at the end of the chain. -/
theorem foldlM_preserves {motive : β → Prop} {f : β → α → Except ε β} :
    ∀ {l : List α} {b b' : β},
      (∀ x a x', a ∈ l → motive x → f x a = .ok x' → motive x') →
      motive b → l.foldlM f b = .ok b' → motive b'
  | [], b, b', _, hb, h => by
    rw [List.foldlM_nil] at h
    exact Except.ok.inj h ▸ hb
  | a :: l, b, b', hstep, hb, h => by
    rw [List.foldlM_cons] at h
    obtain ⟨c, hc, hrest⟩ := bind_eq_ok_iff.1 h
    exact foldlM_preserves (fun x y x' hy => hstep x y x' (List.mem_cons_of_mem a hy))
      (hstep b a c List.mem_cons_self hb hc) hrest

/-- A property that one step gives and every step keeps holds at the end of the chain. -/
theorem foldlM_establishes {motive : β → Prop} {f : β → α → Except ε β} {a : α}
    (hgives : ∀ x x', f x a = .ok x' → motive x')
    (hkeeps : ∀ x y x', motive x → f x y = .ok x' → motive x') :
    ∀ {l : List α} {b b' : β}, a ∈ l → l.foldlM f b = .ok b' → motive b'
  | [], _, _, ha, _ => absurd ha List.not_mem_nil
  | c :: l, b, b', ha, h => by
    rw [List.foldlM_cons] at h
    obtain ⟨b₁, hc, hrest⟩ := bind_eq_ok_iff.1 h
    rcases List.mem_cons.1 ha with rfl | ha
    · exact foldlM_preserves (fun x y x' _ => hkeeps x y x') (hgives b b₁ hc) hrest
    · exact foldlM_establishes hgives hkeeps ha hrest

theorem exists_step_of_foldlM_eq_ok {f : β → α → Except ε β} :
    ∀ {l : List α} {b b' : β}, l.foldlM f b = .ok b' → ∀ a ∈ l, ∃ x x', f x a = .ok x'
  | [], _, _, _, a, ha => absurd ha List.not_mem_nil
  | c :: l, b, b', h, a, ha => by
    rw [List.foldlM_cons] at h
    obtain ⟨b₁, hc, hrest⟩ := bind_eq_ok_iff.1 h
    rcases List.mem_cons.1 ha with rfl | ha
    · exact ⟨b, b₁, hc⟩
    · exact exists_step_of_foldlM_eq_ok hrest a ha

theorem exists_of_foldlM_eq_error {f : β → α → Except ε β} {e : ε} :
    ∀ {l : List α} {b : β}, l.foldlM f b = .error e → ∃ a ∈ l, ∃ x, f x a = .error e
  | [], b, h => nomatch h
  | a :: l, b, h => by
    rw [List.foldlM_cons] at h
    rcases bind_eq_error_iff.1 h with ha | ⟨c, -, hrest⟩
    · exact ⟨a, List.mem_cons_self, b, ha⟩
    · obtain ⟨x, hx, hfail⟩ := exists_of_foldlM_eq_error hrest
      exact ⟨x, List.mem_cons_of_mem a hx, hfail⟩

/-! ### The first failure -/

def error? : Except ε α → Option ε
  | .error e => some e
  | .ok _ => none

theorem eq_error_iff {x : Except ε α} {e : ε} : x = .error e ↔ error? x = some e := by
  cases x <;> simp [error?]

theorem error?_eq_none_iff {x : Except ε α} : error? x = none ↔ ∃ a, x = .ok a := by
  cases x <;> simp [error?]

theorem error?_map (x : Except ε α) (f : α → β) : error? (x.map f) = error? x := by
  cases x <;> rfl

/-- A step behind which the failure is always the same. -/
theorem error?_bind_eq_or {x : Except ε α} {f : α → Except ε β} {o : Option ε}
    (h : ∀ a, error? (f a) = o) : error? (x >>= f) = (error? x).or o := by
  cases x with
  | error e => rfl
  | ok a => exact h a

/-- A step behind which nothing fails. -/
theorem error?_bind_of_ok {x : Except ε α} {f : α → Except ε β} (h : ∀ a, error? (f a) = none) :
    error? (x >>= f) = error? x := by
  rw [error?_bind_eq_or h, Option.or_none]

/-- Of steps for all elements the first that fails decides. -/
theorem error?_mapM (f : α → Except ε β) :
    ∀ l : List α, error? (l.mapM f) = l.findSome? fun a => error? (f a)
  | [] => rfl
  | a :: l => by
    rw [List.mapM_cons, List.findSome?_cons]
    cases f a with
    | error e => rfl
    | ok b =>
      show error? (l.mapM f >>= fun bs => pure (b :: bs)) = _
      rw [error?_bind_of_ok fun _ => rfl]
      exact error?_mapM f l

/-- Of checks of all elements the first that fails decides. -/
theorem error?_forM (f : α → Except ε Unit) :
    ∀ l : List α, error? (l.forM f) = l.findSome? fun a => error? (f a)
  | [] => rfl
  | a :: l => by
    show error? (f a >>= fun _ => l.forM f) = _
    rw [List.findSome?_cons, error?_bind_eq_or fun _ => error?_forM f l]
    cases error? (f a) <;> rfl

end VulkanFoundry
