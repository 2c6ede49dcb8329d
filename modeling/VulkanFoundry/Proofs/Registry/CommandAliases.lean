/-
# Where aliases of commands lead

An alias of a command may point at another alias, and of its target no more is checked
than that a command or an alias stands under the name. So no alias points at nothing,
but aliases may stand in a chain of any length, and they may stand in a circle that has
no command in it.

Following aliases is a walk with one way to go on, which ends where it comes to a
command. The names on it are finitely many. So a walk that ends nowhere comes back to
a name it had already, and an alias leads to a command if and only if it does not run
into such a circle.

Key theorems: `Registry.not_circle_of_leadsToCommand`,
`Registry.leadsToCommand_of_not_runsInCircle`, `Registry.command_alias_ends_iff`.
-/
import Mathlib.Data.Fintype.Card
import Mathlib.Data.Set.Finite.List
import VulkanFoundry.Proofs.Registry.Consistent

namespace VulkanFoundry
namespace Registry

def IsCommand (r : Registry) (name : String) : Prop := ∃ c, r.commands.get? name = some c

/-- The first name is that of an alias only, and the alias points at the second. -/
def PassesOn (r : Registry) (a b : String) : Prop :=
  ¬ r.IsCommand a ∧ ∃ x, r.commandAliases.get? a = some x ∧ x.target = b

/-- Following aliases from the name comes to a command. -/
def LeadsToCommand (r : Registry) (name : String) : Prop :=
  ∃ c, Relation.ReflTransGen r.PassesOn name c ∧ r.IsCommand c

/-- Following aliases from the name comes to a name that they lead back to. -/
def RunsInCircle (r : Registry) (name : String) : Prop :=
  ∃ b, Relation.ReflTransGen r.PassesOn name b ∧ Relation.TransGen r.PassesOn b b

/-- The target of the alias is a command, or an alias whose own target is one. -/
def EndsWithinOneHop (r : Registry) (a : Alias) : Prop :=
  r.IsCommand a.target ∨
    ∃ b, r.commandAliases.get? a.target = some b ∧ r.IsCommand b.target

variable {r : Registry} {name : String} {a b c : String}

/-! ### Walks -/

theorem PassesOn.unique (hb : r.PassesOn a b) (hc : r.PassesOn a c) : b = c := by
  obtain ⟨-, x, hx, rfl⟩ := hb
  obtain ⟨-, y, hy, rfl⟩ := hc
  rw [hx] at hy
  rw [Option.some.inj hy]

/-- A name from which a command is reached is not led back to. -/
theorem not_circle_of_leadsToCommand (h : Relation.ReflTransGen r.PassesOn a c)
    (hc : r.IsCommand c) : ¬ Relation.TransGen r.PassesOn a a := by
  induction h using Relation.ReflTransGen.head_induction_on with
  | refl =>
    intro hcircle
    obtain ⟨b, hstep, -⟩ := Relation.TransGen.head'_iff.1 hcircle
    exact hstep.1 hc
  | head hstep _ ih =>
    intro hcircle
    obtain ⟨b, hstep', hback⟩ := Relation.TransGen.head'_iff.1 hcircle
    obtain rfl := hstep.unique hstep'
    -- the next name is led back to as well
    exact ih (Relation.TransGen.tail' hback hstep)

theorem LeadsToCommand.of_reaches (h : r.LeadsToCommand a)
    (hab : Relation.ReflTransGen r.PassesOn a b) : r.LeadsToCommand b := by
  induction hab with
  | refl => exact h
  | tail _ hstep ih =>
    obtain ⟨c, hreach, hc⟩ := ih
    rcases Relation.ReflTransGen.cases_head hreach with rfl | ⟨d, hstep', hrest⟩
    · exact absurd hc hstep.1
    · obtain rfl := hstep.unique hstep'
      exact ⟨c, hrest, hc⟩

theorem LeadsToCommand.not_runsInCircle (h : r.LeadsToCommand a) : ¬ r.RunsInCircle a := by
  rintro ⟨b, hreach, hcircle⟩
  obtain ⟨c, hc, hcommand⟩ := h.of_reaches hreach
  exact not_circle_of_leadsToCommand hc hcommand hcircle

/-- The names that a walk comes to are finitely many. -/
theorem finite_reached (r : Registry) (name : String) :
    Finite {b // Relation.ReflTransGen r.PassesOn name b} := by
  have hlist : {b | Relation.ReflTransGen r.PassesOn name b} ⊆
      {b | b ∈ name :: r.commandAliases.values.map Alias.target} := by
    intro b hb
    rcases Relation.ReflTransGen.cases_tail hb with rfl | ⟨d, -, -, x, hx, rfl⟩
    · exact List.mem_cons_self
    · have hvalue : x ∈ r.commandAliases.values := NameMap.mem_values_iff.2 ⟨d, hx⟩
      exact List.mem_cons_of_mem _ (List.mem_map_of_mem hvalue)
  exact (List.finite_toSet (name :: r.commandAliases.values.map Alias.target)).subset hlist

/-- On finitely many points one cannot go on for ever without coming back. -/
theorem wellFounded_of_no_circle {α : Type} [Finite α] {step : α → α → Prop}
    (h : ∀ a, ¬ Relation.TransGen step a a) :
    WellFounded fun b a => Relation.TransGen step a b := by
  have : IsTrans α fun b a => Relation.TransGen step a b := ⟨fun _ _ _ hba hcb => hcb.trans hba⟩
  have : Std.Irrefl fun b a => Relation.TransGen step a b := ⟨h⟩
  exact Finite.wellFounded_of_trans_of_irrefl _

/-- **A walk that does not run in a circle comes to a command**, if it never comes to a
name that is not declared. -/
theorem leadsToCommand_of_not_runsInCircle
    (hdeclared : ∀ b, Relation.ReflTransGen r.PassesOn name b → r.HasCommand b)
    (hcircle : ¬ r.RunsInCircle name) : r.LeadsToCommand name := by
  have := finite_reached r name
  let step (a b : {b // Relation.ReflTransGen r.PassesOn name b}) : Prop := r.PassesOn a.1 b.1
  have hwf : WellFounded fun b a => Relation.TransGen step a b := wellFounded_of_no_circle
    fun b hb => hcircle ⟨b.1, b.2, hb.lift Subtype.val fun _ _ hstep => hstep⟩
  have hall : ∀ b : {b // Relation.ReflTransGen r.PassesOn name b}, r.LeadsToCommand b.1 := by
    intro b
    induction b using hwf.induction with
    | _ b ih =>
      by_cases hb : r.IsCommand b.1
      · exact ⟨b.1, .refl, hb⟩
      · -- only an alias stands under the name, so there is a next one
        obtain ⟨x, hx⟩ := (hdeclared b.1 b.2).resolve_left hb
        have hstep : r.PassesOn b.1 x.target := ⟨hb, x, hx, rfl⟩
        obtain ⟨c, hreach, hc⟩ := ih ⟨x.target, b.2.tail hstep⟩ (.single hstep)
        exact ⟨c, .head hstep hreach, hc⟩
  exact hall ⟨name, .refl⟩

/-! ### Loaded registries -/

/-- Following aliases never comes to a name under which nothing stands. -/
theorem Resolved.hasCommand_of_reaches (h : r.Resolved) (ha : r.HasCommand a)
    (hab : Relation.ReflTransGen r.PassesOn a b) : r.HasCommand b := by
  rcases Relation.ReflTransGen.cases_tail hab with rfl | ⟨d, -, -, x, hx, rfl⟩
  · exact ha
  · exact h.commandAliases d x hx

/-- **Which aliases lead to a command.** In a loaded registry every alias points at a
command or an alias. It comes to a command after at most one further hop unless two
more aliases follow it, and it comes to a command at all unless it runs in a circle. -/
theorem command_alias_ends_iff {text : String} (h : load text = .ok r) {x : Alias}
    (hx : r.commandAliases.get? name = some x) :
    r.HasCommand x.target ∧
      (r.EndsWithinOneHop x ↔ ¬ ∃ b c, r.PassesOn x.target b ∧ r.PassesOn b c) ∧
      (r.LeadsToCommand x.target ↔ ¬ r.RunsInCircle x.target) := by
  obtain ⟨doc, hdoc⟩ := exists_document_of_load h
  obtain ⟨s, -, -, hcheck⟩ := ofDocument_eq_ok_iff.1 hdoc
  have hresolved : r.Resolved := checkReferences_eq_ok_iff.1 hcheck
  have htarget : r.HasCommand x.target := hresolved.commandAliases name x hx
  refine ⟨htarget, ⟨?_, fun hpasses => ?_⟩, LeadsToCommand.not_runsInCircle, ?_⟩
  · rintro (hcommand | ⟨y, hy, hcommand⟩) ⟨b, c, hb, hc⟩
    · exact hb.1 hcommand
    · obtain rfl := hb.unique ⟨hb.1, y, hy, rfl⟩
      exact hc.1 hcommand
  · by_cases hcommand : r.IsCommand x.target
    · exact .inl hcommand
    · obtain ⟨y, hy⟩ := htarget.resolve_left hcommand
      refine .inr ⟨y, hy, ?_⟩
      by_contra hnot
      obtain ⟨z, hz⟩ := (hresolved.commandAliases _ y hy).resolve_left hnot
      exact hpasses ⟨y.target, z.target, ⟨hcommand, y, hy, rfl⟩, hnot, z, hz, rfl⟩
  · exact leadsToCommand_of_not_runsInCircle fun b hb => hresolved.hasCommand_of_reaches htarget hb

/-! ### A chain and a circle -/

def commandAliasEntry (name target : String) : String × Alias := (name, ⟨name, target⟩)

/-- Three aliases in a chain, of which the last points at a command. -/
def chainDocument : String := r#"<registry>
<types><type name="void"/></types>
<commands>
<command><proto><type>void</type> <name>vkEnd</name></proto></command>
<command name="vkEndNV" alias="vkEndEXT"/>
<command name="vkEndEXT" alias="vkEndKHR"/>
<command name="vkEndKHR" alias="vkEnd"/>
</commands>
</registry>"#

def chainRegistry : Registry where
  types := NameMap.ofList [("void", .external { name := "void", header := none, isCType := true })]
  commands := NameMap.ofList [("vkEnd", {
    name := "vkEnd", returnType := "void", params := [], successCodes := [], errorCodes := [],
    queues := [], bufferLevels := [], renderPass := none })]
  commandAliases := NameMap.ofList [commandAliasEntry "vkEndNV" "vkEndEXT",
    commandAliasEntry "vkEndEXT" "vkEndKHR", commandAliasEntry "vkEndKHR" "vkEnd"]

set_option maxRecDepth 20000 in
theorem load_chainDocument : load chainDocument = .ok chainRegistry := by
  rw [load_eq_loadChars (rfl : chainDocument = _)]
  decide +kernel

theorem passesOn_of_get? {target : String} (hnone : r.commands.get? name = none)
    (h : r.commandAliases.get? name = some ⟨name, target⟩) : r.PassesOn name target := by
  refine ⟨?_, _, h, rfl⟩
  rintro ⟨c, hc⟩
  rw [hnone] at hc
  cases hc

/-- The first alias of the chain comes to the command, but not within one hop. -/
theorem chain_ends_late : load chainDocument = .ok chainRegistry ∧
    chainRegistry.commandAliases.get? "vkEndNV" = some ⟨"vkEndNV", "vkEndEXT"⟩ ∧
    chainRegistry.HasCommand "vkEndEXT" ∧
    ¬ chainRegistry.EndsWithinOneHop ⟨"vkEndNV", "vkEndEXT"⟩ ∧
    ¬ chainRegistry.RunsInCircle "vkEndEXT" := by
  have hfirst : chainRegistry.commandAliases.get? "vkEndNV" = some ⟨"vkEndNV", "vkEndEXT"⟩ := by
    decide +kernel
  have hsecond : chainRegistry.PassesOn "vkEndEXT" "vkEndKHR" :=
    passesOn_of_get? (by decide +kernel) (by decide +kernel)
  have hthird : chainRegistry.PassesOn "vkEndKHR" "vkEnd" :=
    passesOn_of_get? (by decide +kernel) (by decide +kernel)
  have hend : chainRegistry.IsCommand "vkEnd" :=
    NameMap.contains_iff.1 (by decide +kernel)
  obtain ⟨hcommand, hwithin, hleads⟩ := command_alias_ends_iff load_chainDocument hfirst
  refine ⟨load_chainDocument, hfirst, hcommand, fun h => ?_, hleads.1 ?_⟩
  · exact hwithin.1 h ⟨_, _, hsecond, hthird⟩
  · exact ⟨_, .head hsecond (.single hthird), hend⟩

/-- Two aliases that point at each other. -/
def circleDocument : String := r#"<registry>
<commands>
<command name="vkA" alias="vkB"/>
<command name="vkB" alias="vkA"/>
</commands>
</registry>"#

def circleRegistry : Registry where
  commandAliases := NameMap.ofList [commandAliasEntry "vkA" "vkB", commandAliasEntry "vkB" "vkA"]

set_option maxRecDepth 20000 in
theorem load_circleDocument : load circleDocument = .ok circleRegistry := by
  rw [load_eq_loadChars (rfl : circleDocument = _)]
  decide +kernel

/-- **A circle of aliases is accepted**, and neither alias ends within one hop nor leads
to a command at all. -/
theorem circle_without_command : load circleDocument = .ok circleRegistry ∧
    circleRegistry.commandAliases.get? "vkA" = some ⟨"vkA", "vkB"⟩ ∧
    ¬ circleRegistry.EndsWithinOneHop ⟨"vkA", "vkB"⟩ ∧
    ¬ circleRegistry.LeadsToCommand "vkB" := by
  have hnone : ∀ name, ¬ circleRegistry.IsCommand name := fun name ⟨c, hc⟩ => nomatch hc
  refine ⟨load_circleDocument, by decide +kernel, ?_, ?_⟩
  · rintro (h | ⟨b, -, h⟩)
    · exact hnone _ h
    · exact hnone _ h
  · rintro ⟨c, -, hc⟩
    exact hnone c hc

end Registry
end VulkanFoundry
