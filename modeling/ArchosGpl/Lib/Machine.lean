import Mathlib.Data.List.Basic
import Mathlib.Data.Option.Basic

/-!
# Runs of a machine with a partial step

A machine is a partial step function `step : σ → ι → Option σ`: `none` says that the input is not
possible in the state, or that its handler does not return. `exec` runs a list of inputs, `Along P`
says that every step of a run starts from a state and takes an input that satisfy `P`.

The rules: `exec_invariant` and `Along.invariant` (what each step keeps, the run keeps), the
`along_iff_` rules (the exact condition for a property of a run), `exec_defined_iff` (the same for a
run to be possible). `Leads` says that inputs of a given kind lead from one state to another.
-/

namespace ArchosGpl.Lib

variable {σ ι : Type*}

/-- Run the inputs in order. -/
def exec (step : σ → ι → Option σ) : σ → List ι → Option σ
  | s, [] => some s
  | s, i :: is => (step s i).bind fun s' => exec step s' is

/-- Every step of the run from `s` on `is` satisfies `P`. -/
def Along (step : σ → ι → Option σ) (P : σ → ι → Prop) : σ → List ι → Prop
  | _, [] => True
  | s, i :: is => P s i ∧ ∀ s', step s i = some s' → Along step P s' is

instance Along.decidable (step : σ → ι → Option σ) (P : σ → ι → Prop)
    [∀ s i, Decidable (P s i)] : (s : σ) → (is : List ι) → Decidable (Along step P s is)
  | _, [] => isTrue trivial
  | s, i :: is =>
    match h : step s i with
    | none => decidable_of_iff (P s i) (by simp [Along, h])
    | some t =>
      have := Along.decidable step P t is
      decidable_of_iff (P s i ∧ Along step P t is) (by simp [Along, h])

variable {step : σ → ι → Option σ} {P Q : σ → ι → Prop}

variable {is : List ι} {i : ι} {s s' : σ}

theorem exec_cons :
    exec step s (i :: is) = some s' ↔ ∃ t, step s i = some t ∧ exec step t is = some s' := by
  simp [exec, Option.bind_eq_some_iff]

theorem exec_append {js : List ι} :
    exec step s (is ++ js) = some s' ↔ ∃ t, exec step s is = some t ∧ exec step t js = some s' := by
  induction is generalizing s with
  | nil => simp [exec]
  | cons i is ih =>
    simp only [List.cons_append, exec_cons, ih]
    constructor
    · rintro ⟨t, ht, u, hu, hs⟩
      exact ⟨u, ⟨t, ht, hu⟩, hs⟩
    · rintro ⟨u, ⟨t, ht, hu⟩, hs⟩
      exact ⟨t, ht, u, hu, hs⟩

theorem exec_snoc :
    exec step s (is ++ [i]) = some s' ↔ ∃ t, exec step s is = some t ∧ step t i = some s' := by
  simp [exec_append, exec]

theorem Along.append {js : List ι} : Along step P s (is ++ js) ↔
      Along step P s is ∧ ∀ t, exec step s is = some t → Along step P t js := by
  induction is generalizing s with
  | nil => simp [Along, exec]
  | cons i is ih =>
    simp only [List.cons_append, Along, ih, exec_cons]
    constructor
    · rintro ⟨hP, h⟩
      refine ⟨⟨hP, fun t ht => (h t ht).1⟩, ?_⟩
      rintro u ⟨t, ht, hu⟩
      exact (h t ht).2 u hu
    · rintro ⟨⟨hP, h⟩, hjs⟩
      exact ⟨hP, fun t ht => ⟨h t ht, fun u hu => hjs u ⟨t, ht, hu⟩⟩⟩

theorem Along.mono (hPQ : ∀ s i, P s i → Q s i) (h : Along step P s is) : Along step Q s is := by
  induction is generalizing s with
  | nil => trivial
  | cons i is ih => exact ⟨hPQ s i h.1, fun t ht => ih (h.2 t ht)⟩

theorem Along.and (hP : Along step P s is) (hQ : Along step Q s is) :
    Along step (fun s i => P s i ∧ Q s i) s is := by
  induction is generalizing s with
  | nil => trivial
  | cons i is ih => exact ⟨⟨hP.1, hQ.1⟩, fun t ht => ih (hP.2 t ht) (hQ.2 t ht)⟩

theorem Along.of_forall {Q : ι → Prop} (h : ∀ i ∈ is, Q i) : Along step (fun _ i => Q i) s is := by
  induction is generalizing s with
  | nil => trivial
  | cons i is ih =>
    obtain ⟨hi, his⟩ := List.forall_mem_cons.mp h
    exact ⟨hi, fun _ _ => ih his⟩

/-- **A run is possible exactly if every step is**, where `P` says which steps are. -/
theorem exec_defined_iff (hP : ∀ s i, (∃ t, step s i = some t) ↔ P s i) :
    (∃ t, exec step s is = some t) ↔ Along step P s is := by
  induction is generalizing s with
  | nil => exact ⟨fun _ => trivial, fun _ => ⟨s, rfl⟩⟩
  | cons i is ih =>
    constructor
    · rintro ⟨u, hu⟩
      obtain ⟨t, ht, he⟩ := exec_cons.mp hu
      refine ⟨(hP s i).mp ⟨t, ht⟩, fun t' ht' => ?_⟩
      cases ht.symm.trans ht'
      exact ih.mp ⟨u, he⟩
    · rintro ⟨hi, ha⟩
      obtain ⟨t, ht⟩ := (hP s i).mpr hi
      obtain ⟨u, hu⟩ := ih.mpr (ha t ht)
      exact ⟨u, exec_cons.mpr ⟨t, ht, hu⟩⟩

variable {I : σ → Prop}

/-- **What each step keeps, the run keeps.** -/
theorem exec_invariant (hstep : ∀ s i s', I s → step s i = some s' → I s') (hs : I s) (he : exec step s is = some s') : I s' := by
  induction is generalizing s with
  | nil =>
    cases he
    exact hs
  | cons i is ih =>
    obtain ⟨t, ht, he'⟩ := exec_cons.mp he
    exact ih (hstep s i t hs ht) he'

theorem Along.invariant (hstep : ∀ s i s', I s → P s i → step s i = some s' → I s')
    (hs : I s) (ha : Along step P s is) (he : exec step s is = some s') : I s' := by
  induction is generalizing s with
  | nil =>
    cases he
    exact hs
  | cons i is ih =>
    obtain ⟨t, ht, he'⟩ := exec_cons.mp he
    exact ih (hstep s i t hs ha.1 ht) (ha.2 t ht) he'

/-- **The invariant rule with the inputs so far**: a property of history and state that holds of
the empty history and is kept by each step holds after every run. -/
theorem Along.history {I : List ι → σ → Prop}
    (hstep : ∀ h s i s', I h s → P s i → step s i = some s' → I (h ++ [i]) s') (hs : I [] s) (ha : Along step P s is)
    (he : exec step s is = some s') : I is s' := by
  suffices gen : ∀ (is h : List ι) (s : σ), I h s → Along step P s is →
      exec step s is = some s' → I (h ++ is) s' by simpa using gen is [] s hs ha he
  intro is
  induction is with
  | nil =>
    intro h s hs _ he
    cases he
    simpa using hs
  | cons i is ih =>
    intro h s hs ha he
    obtain ⟨t, ht, he'⟩ := exec_cons.mp he
    have := ih (h ++ [i]) t (hstep h s i t hs ha.1 ht) (ha.2 t ht) he'
    simpa using this

variable {S : σ → Prop}

/-- **The exact condition for a property that an invariant implies**: for inputs in `D`, a step in
`P` keeps the invariant, and a step outside `P` breaks the property. -/
theorem along_iff_of_invariant {D : ι → Prop} (hIS : ∀ s, I s → S s)
    (hkeep : ∀ s i s', I s → D i → P s i → step s i = some s' → I s')
    (hbreak : ∀ s i s', I s → D i → ¬ P s i → step s i = some s' → ¬ S s') (hs : I s) (hD : ∀ i ∈ is, D i) (he : exec step s is = some s') :
    (∀ js t, js <+: is → exec step s js = some t → S t) ↔ Along step P s is := by
  induction is generalizing s with
  | nil =>
    refine ⟨fun _ => trivial, fun _ js t hjs ht => ?_⟩
    obtain rfl := List.prefix_nil.mp hjs
    cases ht
    exact hIS s hs
  | cons i is ih =>
    obtain ⟨u, hu, he'⟩ := exec_cons.mp he
    obtain ⟨hi, his⟩ := List.forall_mem_cons.mp hD
    constructor
    · intro h
      have hP : P s i := by
        by_contra hn
        exact hbreak s i u hs hi hn hu
          (h [i] u (List.prefix_append [i] is) (exec_cons.mpr ⟨u, hu, rfl⟩))
      refine ⟨hP, fun t ht => ?_⟩
      cases hu.symm.trans ht
      refine (ih (hkeep s i u hs hi hP hu) his he').mp fun js t hjs ht => ?_
      exact h (i :: js) t (List.cons_prefix_cons.mpr ⟨rfl, hjs⟩) (exec_cons.mpr ⟨u, hu, ht⟩)
    · rintro ⟨hP, ha⟩ js t hjs ht
      cases js with
      | nil =>
        cases ht
        exact hIS s hs
      | cons j js =>
        obtain ⟨rfl, hpre⟩ := List.cons_prefix_cons.mp hjs
        obtain ⟨v, hv, ht⟩ := exec_cons.mp ht
        cases hu.symm.trans hv
        exact (ih (hkeep s j u hs hi hP hu) his he').mpr (ha u hu) js t hpre ht

/-- **The exact condition where a step outside `P` is possible and breaks the property at once**:
no run has to be possible to its end. -/
theorem along_iff_of_breaks (hIS : ∀ s, I s → S s)
    (hkeep : ∀ s i s', I s → P s i → step s i = some s' → I s')
    (hbreak : ∀ s i, I s → ¬ P s i → ∃ s', step s i = some s' ∧ ¬ S s')
    (hs : I s) :
    (∀ js t, js <+: is → exec step s js = some t → S t) ↔ Along step P s is := by
  constructor
  · intro h
    induction is generalizing s with
    | nil => trivial
    | cons i is ih =>
      have hP : P s i := by
        by_contra hn
        obtain ⟨u, hu, hwrong⟩ := hbreak s i hs hn
        exact hwrong (h [i] u (List.prefix_append [i] is) (exec_cons.mpr ⟨u, hu, rfl⟩))
      refine ⟨hP, fun u hu => ih (hkeep s i u hs hP hu) fun js t hjs ht => ?_⟩
      exact h (i :: js) t (List.cons_prefix_cons.mpr ⟨rfl, hjs⟩) (exec_cons.mpr ⟨u, hu, ht⟩)
  · rintro h js t ⟨rest, rfl⟩ ht
    exact hIS t (Along.invariant hkeep hs (Along.append.mp h).1 ht)

/-- **The exact condition where a step outside `P` is not wrong yet**: it leads to a state that
stays doomed as long as no state is wrong, and the run ends in a state that is not doomed. -/
theorem along_iff_of_doomed {B : σ → Prop} (hIS : ∀ s, I s → S s)
    (hkeep : ∀ s i s', I s → P s i → step s i = some s' → I s')
    (hbreak : ∀ s i s', I s → ¬ P s i → step s i = some s' → S s' → B s')
    (hdoom : ∀ s i s', B s → step s i = some s' → S s' → B s')
    (hs : I s) (he : exec step s is = some s') (hend : B s' → ¬ S s') :
    (∀ js t, js <+: is → exec step s js = some t → S t) ↔ Along step P s is := by
  have hstays : ∀ is s, B s → exec step s is = some s' →
      ¬ ∀ js t, js <+: is → exec step s js = some t → S t := by
    intro is
    induction is with
    | nil =>
      intro s hB he h
      obtain rfl := Option.some.inj he
      exact hend hB (h [] s List.nil_prefix rfl)
    | cons i is ih =>
      intro s hB he h
      obtain ⟨u, hu, he'⟩ := exec_cons.mp he
      have hS : S u := h [i] u (List.prefix_append [i] is) (exec_cons.mpr ⟨u, hu, rfl⟩)
      refine ih u (hdoom s i u hB hu hS) he' fun js t hjs ht => ?_
      exact h (i :: js) t (List.cons_prefix_cons.mpr ⟨rfl, hjs⟩) (exec_cons.mpr ⟨u, hu, ht⟩)
  induction is generalizing s with
  | nil =>
    refine ⟨fun _ => trivial, fun _ js t hjs ht => ?_⟩
    obtain rfl := List.prefix_nil.mp hjs
    obtain rfl := Option.some.inj ht
    exact hIS s hs
  | cons i is ih =>
    obtain ⟨u, hu, he'⟩ := exec_cons.mp he
    constructor
    · intro h
      have hrest : ∀ js t, js <+: is → exec step u js = some t → S t := fun js t hjs ht =>
        h (i :: js) t (List.cons_prefix_cons.mpr ⟨rfl, hjs⟩) (exec_cons.mpr ⟨u, hu, ht⟩)
      have hP : P s i := by
        by_contra hn
        have hS : S u := hrest [] u List.nil_prefix rfl
        exact hstays is u (hbreak s i u hs hn hu hS) he' hrest
      refine ⟨hP, fun t ht => ?_⟩
      obtain rfl := Option.some.inj (hu.symm.trans ht)
      exact (ih (hkeep s i u hs hP hu) he').mp hrest
    · rintro ⟨hP, ha⟩ js t hjs ht
      cases js with
      | nil =>
        obtain rfl := Option.some.inj ht
        exact hIS s hs
      | cons j js =>
        obtain ⟨rfl, hpre⟩ := List.cons_prefix_cons.mp hjs
        obtain ⟨v, hv, ht⟩ := exec_cons.mp ht
        obtain rfl := Option.some.inj (hu.symm.trans hv)
        exact (ih (hkeep s j u hs hP hu) he').mpr (ha u hu) js t hpre ht

/-- **Where a step keeps the invariant exactly if it satisfies `P`**, the invariant holds in every
state of a run exactly if every step of the run satisfies `P`. -/
theorem along_iff_prefixes {J : σ → Prop} (hJ : ∀ s i s', J s → step s i = some s' → J s')
    (hstep : ∀ s i s', J s → I s → step s i = some s' → (I s' ↔ P s i))
    (hj : J s) (hs : I s) (he : exec step s is = some s') :
    (∀ js t, js <+: is → exec step s js = some t → I t) ↔ Along step P s is :=
  along_iff_of_invariant (I := fun s => J s ∧ I s) (D := fun _ => True) (fun _ h => h.2)
    (fun s i s' h _ hP ht => ⟨hJ s i s' h.1 ht, (hstep s i s' h.1 h.2 ht).mpr hP⟩)
    (fun s i s' h _ hP ht hI => hP ((hstep s i s' h.1 h.2 ht).mp hI)) ⟨hj, hs⟩
    (fun _ _ => trivial) he

/-- **What an invariant gives at each step holds along the run**, where the steps in `P` keep it. -/
theorem Along.of_invariant (hstep : ∀ s i, I s → P s i → Q s i ∧ ∀ s', step s i = some s' → I s')
    (hs : I s) (h : Along step P s is) : Along step Q s is := by
  induction is generalizing s with
  | nil => trivial
  | cons i is ih =>
    obtain ⟨hQ, hnext⟩ := hstep s i hs h.1
    exact ⟨hQ, fun t ht => ih (hnext t ht) (h.2 t ht)⟩

/-- **Two properties of the steps that an invariant makes equivalent** hold along the same runs. -/
theorem along_congr_of_invariant (hiff : ∀ s i, I s → (P s i ↔ Q s i))
    (hkeep : ∀ s i s', I s → Q s i → step s i = some s' → I s') (hs : I s) :
    Along step P s is ↔ Along step Q s is := by
  constructor
  · refine Along.of_invariant (fun s i hI hP => ?_) hs
    have hQ := (hiff s i hI).mp hP
    exact ⟨hQ, fun t ht => hkeep s i t hI hQ ht⟩
  · refine Along.of_invariant (fun s i hI hQ => ?_) hs
    exact ⟨(hiff s i hI).mpr hQ, fun t ht => hkeep s i t hI hQ ht⟩

/-! ## Inputs of a kind -/

/-- Some inputs of `own` lead from `s` to `t`. -/
def Leads (step : σ → ι → Option σ) (own : List ι) (s t : σ) : Prop :=
  ∃ is ⊆ own, exec step s is = some t

variable {own : List ι}

theorem Leads.refl (s : σ) : Leads step own s s := ⟨[], List.nil_subset _, rfl⟩

theorem Leads.head {t u : σ} (hi : i ∈ own) (hs : step s i = some t)
    (h : Leads step own t u) : Leads step own s u := by
  obtain ⟨is, his, he⟩ := h
  exact ⟨i :: is, List.cons_subset.mpr ⟨hi, his⟩, exec_cons.mpr ⟨t, hs, he⟩⟩

theorem Leads.trans {t u : σ} (h : Leads step own s t) (h' : Leads step own t u) :
    Leads step own s u := by
  obtain ⟨is, his, he⟩ := h
  obtain ⟨js, hjs, he'⟩ := h'
  exact ⟨is ++ js, List.append_subset.mpr ⟨his, hjs⟩, exec_append.mpr ⟨t, he, he'⟩⟩

/-!
## Progress by a measure

A machine may wait for a tick, an input that comes from outside. `exec_done_of_measure`: if each
step ends the waiting or keeps it without a greater measure, and each tick lowers the measure, the
waiting is over in every run with more ticks than the measure. Other inputs may come in between, in
any number and order.
-/

section Progress

variable {σ ι : Type*} {step : σ → ι → Option σ} {W : σ → Prop} {R : σ → σ → Prop} {tick : ι → Bool}
  {m : σ → ℕ}

/-- **A run with more ticks than the measure ends the waiting**: `R s t` says that it ended between
the states `s` and `t`. -/
theorem exec_done_of_measure
    (hstep : ∀ s i t, W s → step s i = some t → R s t ∨ (W t ∧ m t + (tick i).toNat ≤ m s))
    (hbefore : ∀ s i t u, step s i = some t → R t u → R s u)
    (hafter : ∀ s t i u, R s t → step t i = some u → R s u) {s t : σ} {is : List ι} (hs : W s)
    (he : exec step s is = some t) (hticks : m s < is.countP tick) : R s t := by
  induction is generalizing s with
  | nil => exact absurd hticks (Nat.not_lt_zero _)
  | cons i is ih =>
    obtain ⟨u, hu, he'⟩ := exec_cons.mp he
    rcases hstep s i u hs hu with hdone | ⟨hu', hle⟩
    · exact exec_invariant (I := R s) (fun t j t' hR hj => hafter s t j t' hR hj) hdone he'
    · refine hbefore s i u t hu (ih hu' he' ?_)
      cases hi : tick i with
      | false =>
        rw [List.countP_cons_of_neg (by simp [hi])] at hticks
        rw [hi] at hle
        exact Nat.lt_of_le_of_lt hle hticks
      | true =>
        rw [List.countP_cons_of_pos hi] at hticks
        rw [hi] at hle
        exact Nat.lt_of_succ_le (Nat.le_trans hle (Nat.le_of_lt_succ hticks))

end Progress

end ArchosGpl.Lib
