import Mathlib.Data.List.Induction
import Mathlib.Tactic.Common

/-!
Runs of anything that moves step by step and may refuse a move.
-/

namespace SshTunnel

variable {σ μ : Type} {step : σ → μ → Option σ} {run : σ → List μ → Option σ} {s₀ s s' : σ} {m : μ} {ms ms' : List μ}

/-- What a run shows, where `f` tells what a move shows. -/
def shown {β : Type} (step : σ → μ → Option σ) (f : σ → μ → Option β) : σ → List μ → List β
  | _, [] => []
  | s, m :: ms => (f s m).toList ++ ((step s m).map fun s' => shown step f s' ms).getD []

/-- Moves are made in a row, as long as none is refused. -/
structure IsRun (step : σ → μ → Option σ) (run : σ → List μ → Option σ) : Prop where
  nil : ∀ s, run s [] = some s
  cons : ∀ s m ms, run s (m :: ms) = (step s m).bind fun s' => run s' ms

namespace IsRun

theorem append (h : IsRun step run) (s : σ) (ms ms' : List μ) :
    run s (ms ++ ms') = (run s ms).bind fun s' => run s' ms' := by
  induction ms generalizing s with
  | nil => rw [h.nil, List.nil_append, Option.bind_some]
  | cons m ms ih =>
    rw [List.cons_append, h.cons, h.cons]
    cases step s m with
    | none => rfl
    | some s₁ => exact ih s₁

/-- One more move. -/
theorem snoc (h : IsRun step run) (hrun : run s₀ ms = some s) (hs : step s m = some s') :
    run s₀ (ms ++ [m]) = some s' := by
  rw [h.append, hrun, Option.bind_some, h.cons, hs, Option.bind_some, h.nil]

/-- The last move of a run. -/
theorem snoc_inv (h : IsRun step run) (hrun : run s₀ (ms ++ [m]) = some s') :
    ∃ s, run s₀ ms = some s ∧ step s m = some s' := by
  rw [h.append] at hrun
  obtain ⟨s, hs, hrun⟩ := Option.bind_eq_some_iff.1 hrun
  rw [h.cons] at hrun
  obtain ⟨s₁, hstep, hrun⟩ := Option.bind_eq_some_iff.1 hrun
  rw [h.nil] at hrun
  obtain rfl := Option.some.inj hrun
  exact ⟨s, hs, hstep⟩

/-- Induction over a run from its end. -/
theorem induction (h : IsRun step run) {P : List μ → σ → Prop} (hinit : P [] s₀)
    (hstep : ∀ ms m s s', run s₀ ms = some s → P ms s → step s m = some s' → P (ms ++ [m]) s') :
    ∀ {ms : List μ} {s : σ}, run s₀ ms = some s → P ms s := by
  intro ms
  induction ms using List.reverseRecOn with
  | nil =>
    intro s hrun
    rw [h.nil] at hrun
    obtain rfl := Option.some.inj hrun
    exact hinit
  | append_singleton ms m ih =>
    intro s hrun
    obtain ⟨s₁, h₁, hs⟩ := h.snoc_inv hrun
    exact hstep ms m s₁ s h₁ (ih h₁) hs

theorem shown_snoc {β : Type} (h : IsRun step run) (f : σ → μ → Option β) (hrun : run s₀ ms = some s) :
    shown step f s₀ (ms ++ [m]) = shown step f s₀ ms ++ (f s m).toList := by
  induction ms generalizing s₀ with
  | nil =>
    rw [h.nil] at hrun
    obtain rfl := Option.some.inj hrun
    cases hs : step s₀ m with
    | none => simp [shown, hs]
    | some s' => simp [shown, hs]
  | cons m' ms ih =>
    rw [h.cons] at hrun
    obtain ⟨s₁, hs, hrun⟩ := Option.bind_eq_some_iff.1 hrun
    simp only [List.cons_append, shown, hs, Option.map_some, Option.getD_some, ih hrun, List.append_assoc]

end IsRun

theorem filterMap_snoc {α β : Type} (f : α → Option β) (l : List α) (a : α) :
    (l ++ [a]).filterMap f = l.filterMap f ++ (f a).toList := by
  rw [List.filterMap_append]
  cases h : f a with
  | none => simp [h]
  | some b => simp [h]

end SshTunnel
