import Mathlib.Data.List.Basic
import Mathlib.Data.List.Induction

/-!
# Traces of events

A trace is the list of the events so far, the last one at its end. `Answered R A` says that every
event of `R` is followed by one of `A`, `Each R` that every event is in relation `R` with what
precedes it, `Before M P` that what precedes an event of `M` satisfies `P`, and `since M` is the
part of the trace after the last event of `M`. Each comes with the rule for one more event at the
end.
-/

namespace ArchosGpl.Lib

variable {α : Type*}

theorem snoc_split {l p q : List α} {a e : α} (h : l ++ [e] = p ++ a :: q) :
    (l = p ∧ e = a ∧ q = []) ∨ ∃ q', q = q' ++ [e] ∧ l = p ++ a :: q' := by
  rcases List.eq_nil_or_concat q with rfl | ⟨q', b, rfl⟩
  · obtain ⟨hl, he⟩ := List.append_inj' h rfl
    exact Or.inl ⟨hl, (List.cons.inj he).1, rfl⟩
  · rw [List.concat_eq_append, ← List.cons_append, ← List.append_assoc] at h
    obtain ⟨hl, he⟩ := List.append_inj' h rfl
    obtain rfl := (List.cons.inj he).1
    exact Or.inr ⟨q', List.concat_eq_append, hl⟩

/-! ## Requests and answers -/

/-- Every event of `R` is followed by one of `A`. -/
def Answered (R A : α → Prop) (l : List α) : Prop :=
  ∀ p a q, l = p ++ a :: q → R a → ∃ b ∈ q, A b

variable {R A : α → Prop} {l : List α} {e : α}

theorem answered_nil : Answered R A ([] : List α) := by
  rintro p a q h
  exact absurd h.symm (List.append_ne_nil_of_right_ne_nil p (List.cons_ne_nil a q))

theorem Answered.of_answer (he : A e) (hr : ¬ R e) : Answered R A (l ++ [e]) := by
  rintro p a q h ha
  rcases snoc_split h with ⟨-, rfl, -⟩ | ⟨q', rfl, -⟩
  · exact absurd ha hr
  · exact ⟨e, List.mem_append_right q' (List.mem_singleton_self e), he⟩

theorem Answered.snoc (h : Answered R A l) (hr : ¬ R e) : Answered R A (l ++ [e]) := by
  rintro p a q hl ha
  rcases snoc_split hl with ⟨-, rfl, -⟩ | ⟨q', rfl, hl'⟩
  · exact absurd ha hr
  · obtain ⟨b, hb, hA⟩ := h p a q' hl' ha
    exact ⟨b, List.mem_append_left _ hb, hA⟩

theorem Answered.append {q : List α} (h : Answered R A l) (hq : ∀ e ∈ q, ¬ R e) :
    Answered R A (l ++ q) := by
  induction q generalizing l with
  | nil => rwa [List.append_nil]
  | cons e q ih =>
    obtain ⟨he, hq⟩ := List.forall_mem_cons.mp hq
    rw [← List.singleton_append, ← List.append_assoc]
    exact ih (h.snoc he) hq

/-! ## What precedes an event -/

/-- Every event is in relation `R` with the events before it. -/
def Each (R : List α → α → Prop) (l : List α) : Prop :=
  ∀ p a q, l = p ++ a :: q → R p a

theorem each_nil {R : List α → α → Prop} : Each R [] := by
  rintro p a q h
  exact absurd h.symm (List.append_ne_nil_of_right_ne_nil p (List.cons_ne_nil a q))

theorem Each.last {R : List α → α → Prop} (h : Each R l) {a : α} (ha : l.getLast? = some a) :
    R l.dropLast a :=
  h l.dropLast a [] (List.dropLast_append_getLast? a ha).symm

theorem each_snoc {R : List α → α → Prop} : Each R (l ++ [e]) ↔ Each R l ∧ R l e := by
  constructor
  · intro h
    refine ⟨fun p a q hl => h p a (q ++ [e]) ?_, h l e [] rfl⟩
    rw [hl, List.append_assoc, List.cons_append]
  · rintro ⟨h, he⟩ p a q hl
    rcases snoc_split hl with ⟨rfl, rfl, -⟩ | ⟨q', -, hl'⟩
    · exact he
    · exact h p a q' hl'

/-- The events before an event of `M` satisfy `P`. -/
def Before (M : α → Prop) (P : List α → Prop) (l : List α) : Prop :=
  ∀ p a q, l = p ++ a :: q → M a → P p

variable {M : α → Prop} {P : List α → Prop}

theorem before_nil : Before M P ([] : List α) := by
  rintro p a q h
  exact absurd h.symm (List.append_ne_nil_of_right_ne_nil p (List.cons_ne_nil a q))

theorem Before.snoc (h : Before M P l) (he : M e → P l) : Before M P (l ++ [e]) := by
  rintro p a q hl ha
  rcases snoc_split hl with ⟨rfl, rfl, -⟩ | ⟨q', rfl, hl'⟩
  · exact he ha
  · exact h p a q' hl' ha

theorem Before.append {q : List α} (h : Before M P l) (hq : ∀ e ∈ q, ¬ M e) :
    Before M P (l ++ q) := by
  induction q generalizing l with
  | nil => rwa [List.append_nil]
  | cons e q ih =>
    obtain ⟨he, hq⟩ := List.forall_mem_cons.mp hq
    rw [← List.singleton_append, ← List.append_assoc]
    exact ih (h.snoc fun hm => absurd hm he) hq

/-! ## The part after the last event of a kind -/

/-- The events after the last one of `M`, all of them if there is none. -/
def since (M : α → Bool) (l : List α) : List α :=
  l.foldl (fun acc e => if M e then [] else acc ++ [e]) []

variable {M : α → Bool}

theorem since_snoc (M : α → Bool) (l : List α) (e : α) :
    since M (l ++ [e]) = if M e then [] else since M l ++ [e] := by
  unfold since
  rw [List.foldl_append]
  rfl

@[simp] theorem since_snoc_of_mark (h : M e = true) : since M (l ++ [e]) = [] := by
  rw [since_snoc, if_pos h]

@[simp] theorem since_snoc_of_other (h : M e = false) : since M (l ++ [e]) = since M l ++ [e] := by
  rw [since_snoc, h]
  rfl

theorem mem_of_mem_since {a : α} (h : a ∈ since M l) : a ∈ l := by
  induction l using List.reverseRecOn with
  | nil => exact h
  | append_singleton l b ih =>
    rw [since_snoc] at h
    split at h
    · cases h
    · rcases List.mem_append.mp h with h | h
      · exact List.mem_append_left _ (ih h)
      · exact List.mem_append_right _ h

theorem since_append {q : List α} (hq : ∀ e ∈ q, M e = false) :
    since M (l ++ q) = since M l ++ q := by
  induction q using List.reverseRecOn with
  | nil => rw [List.append_nil, List.append_nil]
  | append_singleton q b ih =>
    rw [← List.append_assoc, since_snoc_of_other (hq b (by simp)),
      ih fun c hc => hq c (List.mem_append_left _ hc), List.append_assoc]

theorem Answered.of_since (hR : ∀ e, M e = true → ¬ R e) (h : ∀ e ∈ since M l, ¬ R e) :
    Answered R (fun e => M e = true) l := by
  induction l using List.reverseRecOn with
  | nil => exact answered_nil
  | append_singleton l b ih =>
    cases hb : M b with
    | true => exact .of_answer hb (hR b hb)
    | false =>
      rw [since_snoc_of_other hb] at h
      exact (ih fun e he => h e (List.mem_append_left _ he)).snoc (h b (by simp))

/-- What follows an event of `M` without another one is the part since the last event of `M`. -/
theorem since_eq {p q : List α} {a : α} (ha : M a = true) (hq : ∀ b ∈ q, M b = false) :
    since M (p ++ a :: q) = q := by
  rw [← List.singleton_append, ← List.append_assoc, since_append hq, since_snoc_of_mark ha,
    List.nil_append]

end ArchosGpl.Lib
