import ArchosGpl.Lib.Machine
import Mathlib.Data.List.TakeDrop
import Mathlib.Data.Nat.Init
import Mathlib.Order.MinMax

/-!
# Infinite runs of a machine and weak fairness

A `Run` of a machine takes one input at each instant, or none: then the state stays as it is, so
that a run may come to rest. `Fair A` is weak fairness of a kind of input: one of them is taken
again and again, unless again and again none is possible.

* `Run.invariant`: what each step keeps holds at every instant.
* `Run.leads`: **the response rule**. While `P` holds, an input of `A` is possible; no step ends
  `P` or raises `v` before the goal `Q`; an input of `A` lowers `v`. Then `P` leads to `Q` in every
  run that is fair to `A`.
* `Run.waiting_leads`: **the response rule for what waits for one thing after another**.
* `Run.ofExec`: a finite run, at rest from its end on.
-/

namespace ArchosGpl.Lib

variable {σ ι : Type*}

/-- A run: the state at each instant and the input taken there. -/
structure Run (step : σ → ι → Option σ) where
  state : ℕ → σ
  input : ℕ → Option ι
  next : ∀ k, (match input k with
    | none => some (state k)
    | some i => step (state k) i) = some (state (k + 1))

variable {step : σ → ι → Option σ} {A : ι → Prop}

/-- Some input of `A` is possible. -/
def Enabled (step : σ → ι → Option σ) (A : ι → Prop) (s : σ) : Prop :=
  ∃ i, A i ∧ ∃ t, step s i = some t

namespace Run

variable (r : Run step)

variable {k : ℕ}

theorem rest (h : r.input k = none) : r.state (k + 1) = r.state k := by
  have hn := r.next k
  rw [h] at hn
  exact (Option.some.inj hn).symm

theorem took {i : ι} (h : r.input k = some i) : step (r.state k) i = some (r.state (k + 1)) := by
  have hn := r.next k
  rwa [h] at hn

/-- **What each step keeps holds at every later instant.** -/
theorem invariant {I : σ → Prop} (hstep : ∀ s i s', I s → step s i = some s' → I s')
    (hk : I (r.state k)) {m : ℕ} (hm : k ≤ m) : I (r.state m) := by
  induction m, hm using Nat.le_induction with
  | base => exact hk
  | succ m _ ih =>
    cases hi : r.input m with
    | none => rwa [r.rest hi]
    | some i => exact hstep _ i _ ih (r.took hi)

/-- Weak fairness to the inputs of `A`. -/
def Fair (A : ι → Prop) : Prop :=
  ∀ k, ∃ m ≥ k, (∃ i, r.input m = some i ∧ A i) ∨ ¬ Enabled step A (r.state m)

/-- While `W` holds, an input of `A` is to come: it comes, or `W` ends. -/
def Serves (W : σ → Prop) (A : ι → Prop) : Prop :=
  ∀ k, W (r.state k) → ∃ m ≥ k, (∃ i, r.input m = some i ∧ A i) ∨ ¬ W (r.state m)

theorem Fair.serves {W : σ → Prop} (hfair : r.Fair A) (hW : ∀ s, W s → Enabled step A s) :
    r.Serves W A := by
  intro k _
  obtain ⟨m, hm, hA | hdis⟩ := hfair k
  · exact ⟨m, hm, Or.inl hA⟩
  · exact ⟨m, hm, Or.inr fun h => hdis (hW _ h)⟩

variable {P : σ → Prop} {Q : ℕ → Prop}

theorem until_or {v : σ → ℕ}
    (hkeep : ∀ k, P (r.state k) → ¬ Q k → P (r.state (k + 1)) ∧ v (r.state (k + 1)) ≤ v (r.state k)) (hP : P (r.state k)) {m : ℕ} (hm : k ≤ m) :
    (∃ j ≥ k, Q j) ∨ P (r.state m) ∧ v (r.state m) ≤ v (r.state k) := by
  induction m, hm using Nat.le_induction with
  | base => exact Or.inr ⟨hP, le_rfl⟩
  | succ m hm ih =>
    rcases ih with hQ | ⟨hPm, hv⟩
    · exact Or.inl hQ
    · by_cases hQ : Q m
      · exact Or.inl ⟨m, hm, hQ⟩
      · obtain ⟨hPn, hvn⟩ := hkeep m hPm hQ
        exact Or.inr ⟨hPn, hvn.trans hv⟩

/-- **The response rule**: what keeps `P` until the goal `Q`, and gets nearer to it with each input
of `A`, leads to the goal in a run that serves `P` with `A`. -/
theorem served_leads (v : σ → ℕ) (hserves : r.Serves P A)
    (hkeep : ∀ k, P (r.state k) → ¬ Q k → P (r.state (k + 1)) ∧ v (r.state (k + 1)) ≤ v (r.state k))
    (hless : ∀ k i, P (r.state k) → ¬ Q k → r.input k = some i → A i →
      v (r.state (k + 1)) < v (r.state k)) (hP : P (r.state k)) : ∃ j ≥ k, Q j := by
  induction hn : v (r.state k) using Nat.strong_induction_on generalizing k with
  | _ n ih =>
    obtain ⟨m, hm, hm'⟩ := hserves k hP
    rcases r.until_or hkeep hP hm with hQ | ⟨hPm, hv⟩
    · exact hQ
    rcases hm' with ⟨i, hi, hA⟩ | hend
    · by_cases hQ : Q m
      · exact ⟨m, hm, hQ⟩
      have hlt := hless m i hPm hQ hi hA
      obtain ⟨j, hj, hQj⟩ := ih (v (r.state (m + 1))) (by omega) (hkeep m hPm hQ).1 rfl
      exact ⟨j, by omega, hQj⟩
    · exact absurd hPm hend

theorem leads (v : σ → ℕ) (hfair : r.Fair A) (henabled : ∀ s, P s → Enabled step A s)
    (hkeep : ∀ k, P (r.state k) → ¬ Q k → P (r.state (k + 1)) ∧ v (r.state (k + 1)) ≤ v (r.state k))
    (hless : ∀ k i, P (r.state k) → ¬ Q k → r.input k = some i → A i →
      v (r.state (k + 1)) < v (r.state k)) (hP : P (r.state k)) : ∃ j ≥ k, Q j :=
  r.served_leads v (Fair.serves r hfair henabled) hkeep hless hP

theorem Serves.mono {W W' : σ → Prop} (h : r.Serves W A) (hW : ∀ s, W' s → W s) :
    r.Serves W' A := by
  intro k hk
  obtain ⟨m, hm, hA | hend⟩ := h k (hW _ hk)
  · exact ⟨m, hm, Or.inl hA⟩
  · exact ⟨m, hm, Or.inr fun hm' => hend (hW _ hm')⟩

/-- **The response rule for what waits for one thing after another**: a step gets nearer to the goal
or goes on waiting for the same, and what is waited for comes. -/
theorem waiting_leads {κ : Type*} (v : σ → ℕ) (w : σ → κ) {A : κ → ι → Prop} (hserves : ∀ c, r.Serves (fun s => P s ∧ w s = c) (A c))
    (hkeep : ∀ k, P (r.state k) → ¬ Q k → P (r.state (k + 1)) ∧
      (v (r.state (k + 1)) < v (r.state k) ∨
        v (r.state (k + 1)) = v (r.state k) ∧ w (r.state (k + 1)) = w (r.state k)))
    (hless : ∀ k i, P (r.state k) → ¬ Q k → r.input k = some i → A (w (r.state k)) i →
      v (r.state (k + 1)) < v (r.state k)) (hP : P (r.state k)) : ∃ j ≥ k, Q j := by
  induction hn : v (r.state k) using Nat.strong_induction_on generalizing k with
  | _ n ih =>
    have hnear : ∃ j ≥ k, Q j ∨ P (r.state (j + 1)) ∧ v (r.state (j + 1)) < n := by
      refine r.served_leads (A := A (w (r.state k)))
        (P := fun s => (P s ∧ w s = w (r.state k)) ∧ v s = n) (fun _ => 0)
        (Serves.mono r (hserves _) fun _ h => h.1) ?_ ?_ ⟨⟨hP, rfl⟩, hn⟩
      · rintro j ⟨⟨hPj, hw⟩, hv⟩ hnot
        obtain ⟨hPn, hlt | ⟨heq, hwn⟩⟩ := hkeep j hPj fun hQ => hnot (Or.inl hQ)
        · exact absurd (Or.inr ⟨hPn, hv ▸ hlt⟩) hnot
        · exact ⟨⟨⟨hPn, hwn.trans hw⟩, heq.trans hv⟩, le_rfl⟩
      · rintro j i ⟨⟨hPj, hw⟩, hv⟩ hnot hi hA
        have hQ : ¬ Q j := fun hQ => hnot (Or.inl hQ)
        have hlt := hless j i hPj hQ hi (hw ▸ hA)
        exact absurd (Or.inr ⟨(hkeep j hPj hQ).1, hv ▸ hlt⟩) hnot
    obtain ⟨j, hj, hQ | ⟨hPj, hlt⟩⟩ := hnear
    · exact ⟨j, hj, hQ⟩
    · obtain ⟨m, hm, hQ⟩ := ih _ hlt hPj rfl
      exact ⟨m, by omega, hQ⟩

end Run

/-! ## A finite run, at rest from its end on -/

/-- The inputs `is` from `s`, then nothing. -/
def Run.ofExec (step : σ → ι → Option σ) (s : σ) (is : List ι)
    (h : (exec step s is).isSome = true) : Run step where
  state k := (exec step s (is.take k)).getD s
  input k := is[k]?
  next k := by
    obtain ⟨u, hu⟩ := Option.isSome_iff_exists.mp h
    rw [← List.take_append_drop k is] at hu
    obtain ⟨t, ht, hu⟩ := exec_append.mp hu
    rcases Nat.lt_or_ge k is.length with hk | hk
    · rw [List.drop_eq_getElem_cons hk] at hu
      obtain ⟨t', ht', -⟩ := exec_cons.mp hu
      rw [List.getElem?_eq_getElem hk, ht, Option.getD_some, List.take_succ_eq_append_getElem hk,
        exec_snoc.mpr ⟨t, ht, ht'⟩, Option.getD_some]
      exact ht'
    · rw [List.getElem?_eq_none hk, List.take_of_length_le hk,
        List.take_of_length_le (hk.trans (Nat.le_succ k))]

variable {is : List ι} {s : σ}

theorem Run.ofExec_along {P : σ → ι → Prop}
    (h : (exec step s is).isSome = true) (hP : Along step P s is) (k : ℕ) (i : ι)
    (hi : (Run.ofExec step s is h).input k = some i) : P ((Run.ofExec step s is h).state k) i := by
  obtain ⟨hk, hi⟩ := List.getElem?_eq_some_iff.mp hi
  obtain ⟨u, hu⟩ := Option.isSome_iff_exists.mp h
  rw [← List.take_append_drop k is] at hu hP
  obtain ⟨t, ht, hu⟩ := exec_append.mp hu
  have hat := (Along.append.mp hP).2 t ht
  rw [List.drop_eq_getElem_cons hk] at hat
  show P ((exec step s (is.take k)).getD s) i
  rw [ht, ← hi]
  exact hat.1

theorem Run.ofExec_fair {t : σ} (h : exec step s is = some t)
    (ht : ¬ Enabled step A t) : (Run.ofExec step s is (by rw [h]; rfl)).Fair A := by
  intro k
  refine ⟨max k is.length, le_max_left _ _, Or.inr ?_⟩
  show ¬ Enabled step A ((exec step s (is.take (max k is.length))).getD s)
  rwa [List.take_of_length_le (le_max_right _ _), h, Option.getD_some]

theorem Run.ofExec_serves {W : σ → Prop} {t : σ} (h : exec step s is = some t)
    (ht : ¬ W t) : (Run.ofExec step s is (by rw [h]; rfl)).Serves W A := by
  intro k _
  refine ⟨max k is.length, le_max_left _ _, Or.inr ?_⟩
  show ¬ W ((exec step s (is.take (max k is.length))).getD s)
  rwa [List.take_of_length_le (le_max_right _ _), h, Option.getD_some]

end ArchosGpl.Lib
