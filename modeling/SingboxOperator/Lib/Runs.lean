import Mathlib.Data.List.Basic
import Mathlib.Logic.Relation
/-!
# Runs of a transition system

A run is the list of the transitions taken from a state. An invariant is
proved for the transitions that meet a condition, and holds along every run
all of whose transitions meet it.

Transitions that take a number down wherever an invariant holds come to an end
there, and a relation that does has no cycle.
-/

namespace SingboxOperator.Lib

variable {σ α : Type}

/-- The transitions of a run from `s₀`, each with the states before and after, and the state reached. -/
inductive Run (step : σ → α → σ → Prop) (s₀ : σ) : List (σ × α × σ) → σ → Prop
  | nil : Run step s₀ [] s₀
  | snoc {trace : List (σ × α × σ)} {s s' : σ} {a : α} (h : Run step s₀ trace s) (hs : step s a s') :
      Run step s₀ (trace ++ [(s, a, s')]) s'

namespace Run
variable {step : σ → α → σ → Prop} {s₀ s : σ} {trace : List (σ × α × σ)}

theorem step_of_mem (h : Run step s₀ trace s) : ∀ x ∈ trace, step x.1 x.2.1 x.2.2 := by
  induction h with
  | nil => simp
  | snoc _ hs ih =>
    intro x hx
    rcases List.mem_append.1 hx with hx | hx
    · exact ih x hx
    · rw [List.mem_singleton] at hx
      subst hx
      exact hs

theorem trans {s' : σ} {trace' : List (σ × α × σ)} (h : Run step s₀ trace s) (h' : Run step s trace' s') :
    Run step s₀ (trace ++ trace') s' := by
  induction h' with
  | nil => simpa using h
  | snoc _ hs ih =>
    rw [← List.append_assoc]
    exact ih.snoc hs

theorem single {s' : σ} {a : α} (h : step s a s') : Run step s [(s, a, s')] s' :=
  nil.snoc h

theorem eq_of_nil (h : Run step s₀ trace s) (hnil : trace = []) : s = s₀ := by
  cases h with
  | nil => rfl
  | snoc => simp at hnil

/-- A run takes its first transition and goes on from there. -/
theorem exists_step_of_map_eq_cons {a : α} {as : List α} (h : Run step s₀ trace s)
    (hmap : trace.map (·.2.1) = a :: as) :
    ∃ s₁ trace', step s₀ a s₁ ∧ Run step s₁ trace' s ∧ trace'.map (·.2.1) = as := by
  induction h generalizing as with
  | nil => simp at hmap
  | @snoc trace s s' b h hs ih =>
    rw [List.map_append] at hmap
    cases hl : trace.map (·.2.1) with
    | nil =>
      obtain rfl := h.eq_of_nil (List.map_eq_nil_iff.1 hl)
      rw [hl] at hmap
      obtain ⟨rfl, rfl⟩ := List.cons.inj hmap
      exact ⟨s', [], hs, .nil, rfl⟩
    | cons a' as' =>
      rw [hl, List.cons_append] at hmap
      obtain ⟨rfl, rfl⟩ := List.cons.inj hmap
      obtain ⟨s₁, trace', hfirst, hrest, hmap'⟩ := ih hl
      exact ⟨s₁, _, hfirst, hrest.snoc hs, by rw [List.map_append, hmap']⟩

/-- What every transition that meets `P` keeps holds in all states of a run of such transitions. -/
theorem invariant {I : σ → Prop} {P : σ → α → Prop} (h : Run step s₀ trace s) (hinit : I s₀)
    (hstep : ∀ s a s', step s a s' → P s a → I s → I s') (hP : ∀ x ∈ trace, P x.1 x.2.1) :
    I s ∧ ∀ x ∈ trace, I x.1 ∧ I x.2.2 := by
  induction h with
  | nil => exact ⟨hinit, by simp⟩
  | @snoc trace s s' a _ hs ih =>
    obtain ⟨hlast, hall⟩ := ih fun x hx => hP x (List.mem_append_left _ hx)
    have hnext := hstep s a s' hs (hP _ (List.mem_append_right _ (List.mem_singleton_self _))) hlast
    refine ⟨hnext, fun x hx => ?_⟩
    rcases List.mem_append.1 hx with hx | hx
    · exact hall x hx
    · rw [List.mem_singleton] at hx
      subst hx
      exact ⟨hlast, hnext⟩

/-- What holds after a transition of a run, and no later one undoes, holds in the end. -/
theorem kept {P : σ → α → Prop} {Q : σ → Prop} (h : Run step s₀ trace s)
    (hkeep : ∀ s a s', step s a s' → P s a → Q s → Q s') (hP : ∀ x ∈ trace, P x.1 x.2.1) {x : σ × α × σ}
    (hx : x ∈ trace) (hQ : Q x.2.2) : Q s := by
  induction h with
  | nil => cases hx
  | @snoc trace s s' a _ hs ih =>
    rcases List.mem_append.1 hx with hx | hx
    · have hlast := ih (fun y hy => hP y (List.mem_append_left _ hy)) hx
      exact hkeep s a s' hs (hP _ (List.mem_append_right _ (List.mem_singleton_self _))) hlast
    · rw [List.mem_singleton.1 hx] at hQ
      exact hQ

end Run

/-- Where every transition that meets `P` takes a number down, a run of such
transitions leads to a state in which none is left. -/
theorem exists_run_to_end {step : σ → α → σ → Prop} {I : σ → Prop} {P : σ → α → Prop} {rank : σ → ℕ}
    (hstep : ∀ s a s', step s a s' → P s a → I s → I s' ∧ rank s' < rank s) {s₀ : σ} (hinit : I s₀) :
    ∃ trace s, Run step s₀ trace s ∧ (∀ x ∈ trace, P x.1 x.2.1) ∧ ∀ a s', step s a s' → ¬ P s a := by
  induction hn : rank s₀ using Nat.strongRecOn generalizing s₀ with
  | ind n ih =>
    by_cases hend : ∃ a s', step s₀ a s' ∧ P s₀ a
    · obtain ⟨a, s₁, hs, hp⟩ := hend
      obtain ⟨hnext, hlt⟩ := hstep s₀ a s₁ hs hp hinit
      obtain ⟨trace, s, hrun, hP, hlast⟩ := ih (rank s₁) (hn ▸ hlt) hnext rfl
      refine ⟨(s₀, a, s₁) :: trace, s, (Run.single hs).trans hrun, List.forall_mem_cons.2 ⟨hp, hP⟩, hlast⟩
    · refine ⟨[], s₀, .nil, fun _ hx => absurd hx List.not_mem_nil, fun a s' hs hp => hend ⟨a, s', hs, hp⟩⟩

/-! ## Relations without cycles -/

section
open Relation
variable {r : σ → σ → Prop} {I : σ → Prop} {rank : σ → ℕ} {x y : σ}

theorem rank_lt_of_transGen (hstep : ∀ x y, I x → r x y → I y ∧ rank y < rank x) (hx : I x) (h : TransGen r x y) :
    I y ∧ rank y < rank x := by
  induction h with
  | single h => exact hstep _ _ hx h
  | tail _ h ih =>
    obtain ⟨hI, hlt⟩ := ih
    obtain ⟨hI', hlt'⟩ := hstep _ _ hI h
    exact ⟨hI', by omega⟩

theorem not_transGen_self_of_rank (hstep : ∀ x y, I x → r x y → I y ∧ rank y < rank x) (hx : I x)
    (h : ReflTransGen r x y) : ¬ TransGen r y y := by
  have hy : I y := by
    rcases reflTransGen_iff_eq_or_transGen.1 h with rfl | h
    · exact hx
    · exact (rank_lt_of_transGen hstep hx h).1
  intro hcycle
  exact absurd (rank_lt_of_transGen hstep hy hcycle).2 (Nat.lt_irrefl _)

end

end SingboxOperator.Lib
