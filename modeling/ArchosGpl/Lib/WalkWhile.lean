import Mathlib.Data.List.Basic

/-!
# Steps taken while a test holds

`WalkWhile p next x l y`: from `x`, the steps pass through the states of `l`, which satisfy `p`,
and end in `y`, which does not. The walk is determined by its start (`unique`), it exists where a
measure falls (`exists_of_measure`), and **the walks of two tests with the same step are compared
by their lengths** (`eq_of_length`) **or by the tests along one of them** (`of_forall`).
-/

namespace ArchosGpl.Lib

/-- The steps from a state, as long as the test holds. -/
inductive WalkWhile {σ : Type*} (p : σ → Prop) (next : σ → σ) : σ → List σ → σ → Prop
  | stop {x : σ} (h : ¬ p x) : WalkWhile p next x [] x
  | go {x y : σ} {l : List σ} (h : p x) (hl : WalkWhile p next (next x) l y) :
      WalkWhile p next x (x :: l) y

namespace WalkWhile

variable {σ : Type*} {p q : σ → Prop} {next : σ → σ} {x y z : σ} {l m : List σ}

theorem forall_mem (h : WalkWhile p next x l y) : ∀ e ∈ l, p e := by
  induction h with
  | stop => exact fun _ he => nomatch he
  | go hx _ ih => exact List.forall_mem_cons.mpr ⟨hx, ih⟩

theorem not_end (h : WalkWhile p next x l y) : ¬ p y := by
  induction h with
  | stop h => exact h
  | go _ _ ih => exact ih

theorem eq_of_length (h : WalkWhile p next x l y) (h' : WalkWhile q next x m z)
    (hlen : l.length = m.length) : l = m ∧ y = z := by
  induction h generalizing m with
  | stop =>
    cases h' with
    | stop => exact ⟨rfl, rfl⟩
    | go => cases hlen
  | go _ _ ih =>
    cases h' with
    | stop => cases hlen
    | go _ hl' =>
      obtain ⟨rfl, rfl⟩ := ih hl' (Nat.succ.inj hlen)
      exact ⟨rfl, rfl⟩

theorem unique (h : WalkWhile p next x l y) (h' : WalkWhile p next x m z) : l = m ∧ y = z := by
  induction h generalizing m with
  | stop hx =>
    cases h' with
    | stop => exact ⟨rfl, rfl⟩
    | go hx' => exact absurd hx' hx
  | go hx _ ih =>
    cases h' with
    | stop hx' => exact absurd hx hx'
    | go _ hl' =>
      obtain ⟨rfl, rfl⟩ := ih hl'
      exact ⟨rfl, rfl⟩

theorem of_forall (h : WalkWhile p next x l y) (hq : ∀ e ∈ l, q e) (hend : ¬ q y) :
    WalkWhile q next x l y := by
  induction h with
  | stop => exact .stop hend
  | go _ _ ih =>
    obtain ⟨hx, hl⟩ := List.forall_mem_cons.mp hq
    exact .go hx (ih hl hend)

theorem exists_of_measure (μ : σ → ℕ) (hμ : ∀ x, p x → μ (next x) < μ x) (x : σ) :
    ∃ l y, WalkWhile p next x l y := by
  obtain ⟨n, hn⟩ : ∃ n, n = μ x := ⟨_, rfl⟩
  induction n using Nat.strongRecOn generalizing x with
  | ind n ih =>
    by_cases hx : p x
    · obtain ⟨l, y, hl⟩ := ih (μ (next x)) (hn ▸ hμ x hx) (next x) rfl
      exact ⟨x :: l, y, .go hx hl⟩
    · exact ⟨[], x, .stop hx⟩

/-- The last state passed leads to the end, the ones before it to states that are passed. -/
theorem of_concat {e : σ} (h : WalkWhile p next x (m ++ [e]) y) :
    y = next e ∧ ∀ d ∈ m, p (next d) := by
  induction m generalizing x with
  | nil =>
    cases h with
    | go _ hl =>
      cases hl
      exact ⟨rfl, fun _ hd => nomatch hd⟩
  | cons a m ih =>
    cases h with
    | go _ hl =>
      obtain ⟨hy, hm⟩ := ih hl
      refine ⟨hy, List.forall_mem_cons.mpr ⟨?_, hm⟩⟩
      cases m with
      | nil | cons b m =>
        cases hl with
        | go ha _ => exact ha

end WalkWhile

end ArchosGpl.Lib
