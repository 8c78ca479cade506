import Mathlib.Data.List.Induction

/-!
# What is begun and ended

Of a state that some actions begin and others end, only the last of these
actions counts (`foldl_iff_begun`).
-/

namespace ClockSync

/-- What was off is on after actions if and only if the last action that began
it was not followed by one that ends it. -/
theorem foldl_iff_begun {σ α : Type} (step : σ → α → σ) (on : σ → Prop)
    (begins : σ → α → Prop) (ends : α → Prop)
    (hstep : ∀ s act, on (step s act) ↔ begins s act ∨ on s ∧ ¬ ends act)
    {s : σ} (hoff : ¬ on s) (acts : List α) :
    on (acts.foldl step s) ↔
      ∃ before act later, acts = before ++ act :: later ∧
        begins (before.foldl step s) act ∧
        ∀ act ∈ later, ¬ ends act := by
  -- the last action decides, or leaves it to the actions before it
  induction acts using List.reverseRecOn with
  | nil => simp [hoff]
  | append_singleton acts act ih =>
    rw [List.foldl_append, List.foldl_cons, List.foldl_nil, hstep, ih]
    constructor
    · rintro (hbegins | ⟨⟨before, begun, later, rfl, hbegins, hlater⟩, hact⟩)
      · exact ⟨acts, act, [], rfl, hbegins, by simp⟩
      · refine ⟨before, begun, later ++ [act], by simp, hbegins, ?_⟩
        exact List.forall_mem_append.mpr ⟨hlater,
          List.forall_mem_singleton.mpr hact⟩
    · rintro ⟨before, begun, later, heq, hbegins, hlater⟩
      rcases List.eq_nil_or_concat later with rfl | ⟨later, last, rfl⟩
      · obtain ⟨rfl, hlast⟩ := List.append_inj' heq rfl
        cases hlast
        exact Or.inl hbegins
      · rw [List.concat_eq_append] at heq hlater
        obtain ⟨hfront, hlast⟩ := List.forall_mem_append.mp hlater
        rw [← List.cons_append, ← List.append_assoc] at heq
        obtain ⟨hacts, hact⟩ := List.append_inj' heq rfl
        cases hact
        exact Or.inr ⟨⟨before, begun, later, hacts, hbegins, hfront⟩,
          hlast act (List.mem_singleton_self act)⟩

end ClockSync
