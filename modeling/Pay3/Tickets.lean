import Mathlib.Data.List.Nodup
import Mathlib.Data.List.Perm.Basic
import Mathlib.Logic.Function.Basic

/-!
# Tickets

Values that are handed out once each. Whoever takes the next one holds it until
it is used or lost, and no value is ever held or used twice. `below` says which
values lie behind the next one to be handed out.
-/

variable {α : Type} {below below' : α → Prop} {used used' : List α} {held : ℕ → Option α} {t : ℕ}
  {x : α}

/-- **Tickets are handed out once**: those used and those held are all different
and below the next one. -/
structure Tickets (below : α → Prop) (used : List α) (held : ℕ → Option α) : Prop where
  used_nodup : used.Nodup
  used_below : ∀ x ∈ used, below x
  held_below : ∀ t x, held t = some x → below x
  held_fresh : ∀ t x, held t = some x → x ∉ used
  held_once : ∀ t t' x, held t = some x → held t' = some x → t = t'

theorem Tickets.perm (h : Tickets below used held) (hperm : used.Perm used') :
    Tickets below used' held where
  used_nodup := hperm.nodup_iff.mp h.used_nodup
  used_below := fun x hx => h.used_below x (hperm.mem_iff.mpr hx)
  held_below := h.held_below
  held_fresh := fun t x hx hmem => h.held_fresh t x hx (hperm.mem_iff.mpr hmem)
  held_once := h.held_once

/-- The next ticket is handed out. -/
theorem Tickets.take (h : Tickets below used held) (hup : ∀ y, below y → below' y)
    (hx : ¬ below x) (hx' : below' x) : Tickets below' used (Function.update held t (some x)) := by
  have hcases : ∀ t' y, Function.update held t (some x) t' = some y →
      (t' = t ∧ y = x) ∨ (t' ≠ t ∧ held t' = some y) := by
    intro t' y hy
    by_cases ht : t' = t
    · rw [ht, Function.update_self] at hy
      exact Or.inl ⟨ht, (Option.some.inj hy).symm⟩
    · rw [Function.update_of_ne ht] at hy
      exact Or.inr ⟨ht, hy⟩
  refine ⟨h.used_nodup, fun y hy => hup y (h.used_below y hy), fun t' y hy => ?_,
    fun t' y hy hmem => ?_, fun t' t'' y hy hy' => ?_⟩
  · rcases hcases t' y hy with ⟨-, rfl⟩ | ⟨-, hy⟩
    · exact hx'
    · exact hup y (h.held_below t' y hy)
  · rcases hcases t' y hy with ⟨-, rfl⟩ | ⟨-, hy⟩
    · exact hx (h.used_below y hmem)
    · exact h.held_fresh t' y hy hmem
  · rcases hcases t' y hy with ⟨ht, rfl⟩ | ⟨-, hy⟩ <;>
      rcases hcases t'' y hy' with ⟨ht', hyx⟩ | ⟨-, hy'⟩
    · exact ht.trans ht'.symm
    · exact absurd (h.held_below t'' y hy') hx
    · exact absurd (h.held_below t' y hy) (hyx ▸ hx)
    · exact h.held_once t' t'' y hy hy'

/-- A ticket that was held is used, or lost. -/
theorem Tickets.drop (h : Tickets below used held) :
    Tickets below (used ++ (held t).toList) (Function.update held t none) := by
  have hold : ∀ t' y, Function.update held t none t' = some y → t' ≠ t ∧ held t' = some y := by
    intro t' y hy
    by_cases ht : t' = t
    · rw [ht, Function.update_self] at hy
      cases hy
    · rw [Function.update_of_ne ht] at hy
      exact ⟨ht, hy⟩
  refine ⟨?_, fun y hy => ?_, fun t' y hy => h.held_below t' y (hold t' y hy).2,
    fun t' y hy hmem => ?_,
    fun t' t'' y hy hy' => h.held_once t' t'' y (hold t' y hy).2 (hold t'' y hy').2⟩
  · refine List.nodup_append'.mpr ⟨h.used_nodup, ?_, fun y hy hy' => ?_⟩
    · cases held t <;> simp
    · exact h.held_fresh t y (Option.mem_toList.mp hy') hy
  · rcases List.mem_append.mp hy with hy | hy
    · exact h.used_below y hy
    · exact h.held_below t y (Option.mem_toList.mp hy)
  · obtain ⟨hne, hy⟩ := hold t' y hy
    rcases List.mem_append.mp hmem with hmem | hmem
    · exact h.held_fresh t' y hy hmem
    · exact hne (h.held_once t' t y hy (Option.mem_toList.mp hmem))
