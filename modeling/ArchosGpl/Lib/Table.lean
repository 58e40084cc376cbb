import Mathlib.Data.List.Basic
import Mathlib.Data.Option.Basic
import Mathlib.Logic.Function.Basic

/-!
# Tables with a checked index, and loops that write them

A table of `size` entries is a function of the index, read and written through `entryAt` and
`modifyAt`: an index from `size` on is no entry, and the access is `none`.

`Writes f ok hits v` says all that a step of such a loop does: where its element is `ok` it applies
`v` to the entries it hits, and elsewhere it leaves the table. **A loop of such steps** is
`Writes.foldlM`, and where the writes overwrite each other, an entry is what **the last write that
hits it** leaves (`foldl_overwrite`).
-/

namespace ArchosGpl.Lib

variable {α β : Type*}

/-- Read entry `i` of a table of `size` entries. -/
def entryAt (size : ℕ) (T : ℕ → α) (i : ℕ) : Option α :=
  if i < size then some (T i) else none

/-- Change entry `i` of a table of `size` entries. -/
def modifyAt (size : ℕ) (T : ℕ → α) (i : ℕ) (v : α → α) : Option (ℕ → α) :=
  if i < size then some (Function.update T i (v (T i))) else none

theorem entryAt_eq_some {size i : ℕ} {T : ℕ → α} {a : α} :
    entryAt size T i = some a ↔ i < size ∧ T i = a := by
  simp [entryAt]

theorem modifyAt_eq_some {size i : ℕ} {T U : ℕ → α} {v : α → α} :
    modifyAt size T i v = some U ↔ i < size ∧ U = Function.update T i (v (T i)) := by
  simp [modifyAt, eq_comm]

/-- Apply `v` to the entries that are hit. -/
def paint (hits : ℕ → Bool) (v : α → α) (T : ℕ → α) : ℕ → α :=
  fun i => if hits i then v (T i) else T i

/-- A step that fails unless its element is `ok`, and else applies `v` to what the element hits. -/
def Writes (f : (ℕ → α) → β → Option (ℕ → α)) (ok : β → Prop) (hits : β → ℕ → Bool)
    (v : β → α → α) : Prop :=
  ∀ T b U, f T b = some U ↔ ok b ∧ U = paint (hits b) (v b) T

variable {f : (ℕ → α) → β → Option (ℕ → α)} {ok : β → Prop} {hits : β → ℕ → Bool}
  {v : β → α → α}

/-- The writes of `l` that hit entry `i`, one after the other. -/
def applied (hits : β → ℕ → Bool) (v : β → α → α) (l : List β) (T : ℕ → α) : ℕ → α :=
  fun i => (l.filter (hits · i)).foldl (fun a b => v b a) (T i)

theorem applied_cons (b : β) (l : List β) (T : ℕ → α) :
    applied hits v (b :: l) T = applied hits v l (paint (hits b) (v b) T) := by
  funext i
  simp only [applied, paint]
  by_cases hi : hits b i
  · rw [List.filter_cons, if_pos hi, List.foldl_cons, if_pos hi]
  · rw [List.filter_cons, if_neg hi, if_neg hi]

/-- **A loop of writes**: every element must be `ok`. -/
theorem Writes.foldlM (h : Writes f ok hits v) {l : List β} {T U : ℕ → α} :
    l.foldlM f T = some U ↔ (∀ b ∈ l, ok b) ∧ U = applied hits v l T := by
  induction l generalizing T with
  | nil =>
    have : applied hits v [] T = T := rfl
    simp [this, eq_comm]
  | cons b l ih =>
    simp only [List.foldlM_cons, Option.bind_eq_bind, Option.bind_eq_some_iff, h T b, ih,
      List.forall_mem_cons, applied_cons]
    constructor
    · rintro ⟨_, ⟨hb, rfl⟩, hl, rfl⟩
      exact ⟨⟨hb, hl⟩, rfl⟩
    · rintro ⟨⟨hb, hl⟩, rfl⟩
      exact ⟨_, ⟨hb, rfl⟩, hl, rfl⟩

/-- **The last of the writes that overwrite each other** decides. -/
theorem foldl_overwrite (hv : ∀ b c a, v b (v c a) = v b a) (l : List β) (a : α) :
    l.foldl (fun a b => v b a) a = (l.getLast?.map (v · a)).getD a := by
  induction l generalizing a with
  | nil => rfl
  | cons b l ih =>
    rw [List.foldl_cons, ih, List.getLast?_cons]
    cases l.getLast? with
    | none => rfl
    | some c => exact hv c b a

theorem writes_modifyAt (size : ℕ) (key : β → ℕ) (v : β → α → α) :
    Writes (fun T b => modifyAt size T (key b) (v b)) (key · < size) (fun b i => key b = i) v := by
  intro T b U
  have hpaint : Function.update T (key b) (v b (T (key b))) =
      paint (fun i => key b = i) (v b) T := by
    funext i
    by_cases hi : i = key b
    · subst hi
      simp [paint]
    · simp [paint, Function.update_of_ne hi, Ne.symm hi]
  rw [modifyAt_eq_some, hpaint]

theorem Writes.guarded (h : Writes f ok hits v) (p : β → Prop) [DecidablePred p] :
    Writes (fun T b => if p b then f T b else some T) (fun b => p b → ok b)
      (fun b i => p b && hits b i) v := by
  intro T b U
  by_cases hb : p b
  · simp [hb, h T b U]
  · have hT : paint (fun _ => false) (v b) T = T := rfl
    simp [hb, hT, eq_comm]

theorem Writes.loop {v : α → α} (h : Writes f ok hits fun _ => v) (hv : ∀ a, v (v a) = v a)
    {l : List β} {T U : ℕ → α} :
    l.foldlM f T = some U ↔ (∀ b ∈ l, ok b) ∧ U = paint (fun i => l.any (hits · i)) v T := by
  have hlast : applied hits (fun _ => v) l T = paint (fun i => l.any (hits · i)) v T := by
    funext i
    simp only [applied, paint, foldl_overwrite (fun _ _ a => hv a), List.getLast?_filter]
    cases hf : l.reverse.find? (hits · i) with
    | none =>
      have : l.any (hits · i) = false := by
        simpa using hf
      simp [this]
    | some b =>
      have : l.any (hits · i) = true := by
        have hb := List.find?_some (p := fun x => hits x i) hf
        exact List.any_eq_true.mpr ⟨b, by simpa using List.mem_of_find?_eq_some hf, hb⟩
      simp [this]
  rw [h.foldlM, hlast]

end ArchosGpl.Lib
