import Mathlib.Data.List.Induction

/-!
# Items put into batches

Items come one by one. An item joins the open batch if it fits, else it opens the next one and the
batch before it is closed; a flush closes the open batch. Where items are not to be put together
(`alone`), an item is closed at once.

* **Nothing is lost, doubled or reordered** (`batch_flatten`).
* **What holds of a single item and is kept by one that fits** holds of every batch
  (`batch_forall`).
-/

namespace ArchosGpl.Lib

variable {α : Type*}

/-- An item comes, or the open batch is to be closed. -/
inductive BatchCmd (α : Type*)
  | push (x : α)
  | flush

/-- The closed batches, and the open one (`[]` for none). -/
structure Batches (α : Type*) where
  closed : List (List α)
  cur : List α

/-- The items among the commands. -/
def pushed : List (BatchCmd α) → List α
  | [] => []
  | .push x :: cs => x :: pushed cs
  | .flush :: cs => pushed cs

theorem pushed_append (cs ds : List (BatchCmd α)) : pushed (cs ++ ds) = pushed cs ++ pushed ds := by
  induction cs with
  | nil => rfl
  | cons c cs ih =>
    cases c with
    | push x => exact congrArg (x :: ·) ih
    | flush => exact ih

namespace Batches

variable (fits : List α → α → Bool) (alone : Bool)

/-- An item comes. -/
def push (b : Batches α) (x : α) : Batches α :=
  if b.cur = [] then
    if alone then { b with closed := b.closed ++ [[x]] } else { b with cur := [x] }
  else if fits b.cur x then { b with cur := b.cur ++ [x] }
  else ⟨b.closed ++ [b.cur], [x]⟩

/-- The open batch is closed. -/
def flush (b : Batches α) : Batches α :=
  if b.cur = [] then b else ⟨b.closed ++ [b.cur], []⟩

def step (b : Batches α) : BatchCmd α → Batches α
  | .push x => b.push fits alone x
  | .flush => b.flush

/-- The batches of some commands. -/
def run (cs : List (BatchCmd α)) : Batches α := cs.foldl (step fits alone) ⟨[], []⟩

variable {fits alone} {b : Batches α}

theorem run_snoc (cs : List (BatchCmd α)) (c : BatchCmd α) :
    run fits alone (cs ++ [c]) = (run fits alone cs).step fits alone c := by
  rw [run, List.foldl_append]
  rfl

theorem step_flatten (c : BatchCmd α) : (b.step fits alone c).closed.flatten ++
    (b.step fits alone c).cur = b.closed.flatten ++ b.cur ++ pushed [c] := by
  cases c with
  | push x =>
    rw [step, push]
    split
    next hnil => split <;> simp [hnil, pushed]
    next => split <;> simp [pushed]
  | flush =>
    rw [step, flush]
    split
    next hnil => simp [hnil, pushed]
    next => simp [pushed]

/-- **The batches are the items**, in their order. -/
theorem batch_flatten (cs : List (BatchCmd α)) :
    (run fits alone cs).closed.flatten ++ (run fits alone cs).cur = pushed cs := by
  induction cs using List.reverseRecOn with
  | nil => rfl
  | append_singleton cs c ih => rw [run_snoc, step_flatten, ih, pushed_append]

/-- **What holds of one item and is kept by one that fits** holds of every batch. -/
theorem batch_forall {P : List α → Prop} (hone : ∀ x, P [x])
    (hfits : ∀ g x, g ≠ [] → P g → fits g x = true → P (g ++ [x])) (cs : List (BatchCmd α)) :
    (∀ g ∈ (run fits alone cs).closed, P g) ∧
      ((run fits alone cs).cur ≠ [] → P (run fits alone cs).cur) := by
  induction cs using List.reverseRecOn with
  | nil => exact ⟨nofun, fun h => absurd rfl h⟩
  | append_singleton cs c ih =>
    obtain ⟨hclosed, hcur⟩ := ih
    have hsnoc : ∀ g, P g → ∀ g' ∈ (run fits alone cs).closed ++ [g], P g' := by
      intro g hg g' hg'
      rcases List.mem_append.mp hg' with hg' | hg'
      · exact hclosed g' hg'
      · rw [List.mem_singleton.mp hg']
        exact hg
    rw [run_snoc]
    cases c with
    | push x =>
      rw [step, push]
      split
      next hnil =>
        split
        · exact ⟨hsnoc _ (hone x), hcur⟩
        · exact ⟨hclosed, fun _ => hone x⟩
      next hne =>
        split
        next hf => exact ⟨hclosed, fun _ => hfits _ x hne (hcur hne) hf⟩
        next => exact ⟨hsnoc _ (hcur hne), fun _ => hone x⟩
    | flush =>
      rw [step, flush]
      split
      next => exact ⟨hclosed, hcur⟩
      next hne => exact ⟨hsnoc _ (hcur hne), fun h => absurd rfl h⟩

end Batches

end ArchosGpl.Lib
