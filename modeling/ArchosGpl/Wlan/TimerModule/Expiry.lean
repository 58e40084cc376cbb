import Mathlib.Data.List.Nodup
import ArchosGpl.Wlan.TimerModule.Model

/-!
# Expiries of timers

What the module is for is the machine `Service`: each timer has at most one expiry waiting, marked
with the driver state at the timer's last start; an expiry that comes while one waits is merged with
it; a callback is called for a waiting expiry of the current driver state, once, with what the last
start says; the driver becomes operational without the other ones.

**`expiries_delivered`**: what is seen in any run is a run of `Service`, and the module's own steps
lead to a state in which nothing waits for the current driver state. **`overlapping_expiries`**: one
queue link and one set of start parameters for each timer is not enough for expiries that overlap.
-/

open Function (update update_eq_self_iff update_of_ne update_self)

namespace ArchosGpl.Wlan.TimerModule

open Lib

variable {T C : Type*}

/-! ## What the module is for -/

/-- What the last start of a timer recorded. -/
structure Start (C : Type*) where
  fExpiryCb : Option C
  bOperState : Bool
  uTwdInitCount : ℕ

/-- The expiry service. `pending` is the waiting expiry of a timer, by the driver state that it is
for. -/
structure Service (T C : Type*) where
  bOperState : Bool
  uTwdInitCount : ℕ
  startedIn : T → Start C
  pending : T → Option Bool
  delivering : Option T

namespace Service

def init : Service T C := ⟨false, 0, fun _ => ⟨none, false, 0⟩, fun _ => none, none⟩

variable [DecidableEq T] [DecidableEq C]

/-- The driver state that an expiry of a timer is for, `none` when the driver became operational
since the timer was started. -/
def kind (σ : Service T C) (t : T) : Option Bool :=
  if (σ.startedIn t).bOperState then some true
  else if σ.bOperState then none
  else some false

def step (σ : Service T C) : Event T C → Option (Service T C)
  | .created t => some { σ with startedIn := update σ.startedIn t ⟨none, false, 0⟩ }
  | .started t cb =>
    some { σ with
      startedIn := update σ.startedIn t ⟨some cb, σ.bOperState, σ.uTwdInitCount⟩ }
  | .expired t =>
    match σ.pending t with
    | some _ => some σ
    | none => some { σ with pending := update σ.pending t (σ.kind t) }
  | .taken t =>
    if σ.pending t = some σ.bOperState ∧ σ.delivering = none then
      some { σ with pending := update σ.pending t none, delivering := some t }
    else none
  | .callback t cb bTwdInitOccured =>
    if σ.delivering = some t ∧ (σ.startedIn t).fExpiryCb = some cb ∧
        bTwdInitOccured = (σ.uTwdInitCount ≠ (σ.startedIn t).uTwdInitCount : Bool) then
      some { σ with delivering := none }
    else none
  | .driverState bOperState =>
    if bOperState = σ.bOperState ∨ σ.delivering ≠ none then none
    else if bOperState then
      some { σ with
        bOperState := true
        uTwdInitCount := add32 σ.uTwdInitCount 1
        pending := fun t => if σ.pending t = some false then none else σ.pending t }
    else some { σ with bOperState := false }

end Service

/-! ## The queues and the service -/

namespace Sys

def Ready (timers : T → Option (TTimerInfo C)) (t : T) : Prop :=
  ∃ info cb, timers t = some info ∧ info.fExpiryCb = some cb

/-- The timer that the driver's context has dequeued. -/
def took : Driver T → Option T
  | .took t => some t
  | _ => none

/-- A state of the service and the state of the module. -/
structure Agrees (σ : Service T C) (s : Sys T C) : Prop where
  oper : σ.bOperState = s.bOperState
  inits : σ.uTwdInitCount = s.uTwdInitCount
  delivering : σ.delivering = took s.driver
  startedIn : ∀ t info, s.timers t = some info → σ.startedIn t =
    ⟨info.fExpiryCb, info.bOperStateWhenStarted, info.uTwdInitCountWhenStarted⟩
  inOper : ∀ t, t ∈ s.hOperQueue ↔ σ.pending t = some true
  inInit : ∀ t, t ∈ s.hInitQueue ↔ σ.pending t = some false
  linked : ∀ t info, s.timers t = some info → (info.linked = true ↔ σ.pending t ≠ none)
  nodupOper : s.hOperQueue.Nodup
  nodupInit : s.hInitQueue.Nodup
  obsolete : s.bOperState = true → s.hInitQueue = []
  queued : ∀ t, σ.pending t ≠ none → Ready s.timers t
  armed : ∀ t info, s.timers t = some info → info.armed = true → Ready s.timers t
  starting : ∀ t, s.starting = some t → Ready s.timers t
  inHand : ∀ t, s.driver = .took t ∨ s.driver = .callback t → Ready s.timers t
  requested : s.current ≠ [] → s.driver ≠ .outside ∨ s.scheduled = true ∨ 0 < s.requesting

variable {s s' : Sys T C} {σ : Service T C}

theorem agrees_init : Agrees Service.init (init : Sys T C) where
  oper := rfl
  inits := rfl
  delivering := rfl
  startedIn _ _ h := nomatch h
  inOper _ := by simp [init, Service.init]
  inInit _ := by simp [init, Service.init]
  linked _ _ h := nomatch h
  nodupOper := List.nodup_nil
  nodupInit := List.nodup_nil
  obsolete _ := rfl
  queued _ h := absurd rfl h
  armed _ _ h := nomatch h
  starting _ h := nomatch h
  inHand t h := by simp [init] at h
  requested h := absurd rfl h

theorem mayCall_iff [DecidableEq T] : s.mayCall = true ↔
    s.starting = none ∧ (s.driver = .outside ∨ ∃ t, s.driver = .callback t) := by
  unfold mayCall
  cases s.driver <;> simp

theorem took_of_mayCall [DecidableEq T] (h : s.mayCall = true) : took s.driver = none := by
  rcases (mayCall_iff.mp h).2 with hd | ⟨t, hd⟩ <;> rw [hd] <;> rfl

/-- The timers that something is under way for. -/
def Busy (σ : Service T C) (s : Sys T C) (t : T) : Prop :=
  σ.pending t ≠ none ∨ s.driver = .took t ∨ s.driver = .callback t

theorem Agrees.busy (h : Agrees σ s) {t : T} (hb : Busy σ s t) : Ready s.timers t := by
  rcases hb with hp | hd
  · exact h.queued t hp
  · exact h.inHand t hd

theorem Agrees.timers (h : Agrees σ s) {timers : T → Option (TTimerInfo C)}
    {startedIn : T → Start C} {starting : Option T} {l : List (Event T C)}
    (hstart : ∀ t info, timers t = some info → startedIn t =
      ⟨info.fExpiryCb, info.bOperStateWhenStarted, info.uTwdInitCountWhenStarted⟩)
    (hlink : ∀ t info, timers t = some info → (info.linked = true ↔ σ.pending t ≠ none))
    (harm : ∀ t info, timers t = some info → info.armed = true → Ready timers t)
    (hstarting : ∀ t, starting = some t → Ready timers t)
    (hbusy : ∀ t, Busy σ s t → Ready timers t) :
    Agrees { σ with startedIn := startedIn }
      { s with timers := timers, starting := starting, log := l } where
  oper := h.oper
  inits := h.inits
  delivering := h.delivering
  startedIn := hstart
  inOper := h.inOper
  inInit := h.inInit
  linked := hlink
  nodupOper := h.nodupOper
  nodupInit := h.nodupInit
  obsolete := h.obsolete
  queued t ht := hbusy t (.inl ht)
  armed := harm
  starting := hstarting
  inHand t ht := hbusy t (.inr ht)
  requested := h.requested

theorem Agrees.moves (h : Agrees σ s) {driver : Driver T} {requesting : ℕ} {scheduled : Bool}
    (hd : took driver = took s.driver)
    (hin : ∀ t, driver = .took t ∨ driver = .callback t → Ready s.timers t)
    (hreq : s.current ≠ [] → driver ≠ .outside ∨ scheduled = true ∨ 0 < requesting) :
    Agrees σ { s with driver := driver, requesting := requesting, scheduled := scheduled } where
  oper := h.oper
  inits := h.inits
  delivering := h.delivering.trans hd.symm
  startedIn := h.startedIn
  inOper := h.inOper
  inInit := h.inInit
  linked := h.linked
  nodupOper := h.nodupOper
  nodupInit := h.nodupInit
  obsolete := h.obsolete
  queued := h.queued
  armed := h.armed
  starting := h.starting
  inHand := hin
  requested := hreq

theorem Agrees.requesting (h : Agrees σ s) {n : ℕ} (hn : 0 < n) :
    Agrees σ { s with requesting := n } :=
  h.moves rfl h.inHand fun _ => .inr (.inr hn)

theorem current_cons {t : T} {rest : List T} (h : Agrees σ s) (hc : s.current = t :: rest) :
    σ.pending t = some s.bOperState ∧ t ∉ rest ∧ rest.Nodup := by
  unfold current at hc
  cases ho : s.bOperState with
  | true =>
    rw [if_pos ho] at hc
    have hn := List.nodup_cons.mp (hc ▸ h.nodupOper)
    exact ⟨(h.inOper t).mp (hc ▸ List.mem_cons_self), hn.1, hn.2⟩
  | false =>
    rw [if_neg (by simp [ho])] at hc
    have hn := List.nodup_cons.mp (hc ▸ h.nodupInit)
    exact ⟨(h.inInit t).mp (hc ▸ List.mem_cons_self), hn.1, hn.2⟩

theorem Agrees.none_waits (h : Agrees σ s) (hq : s.current = []) (t : T) :
    σ.pending t ≠ some σ.bOperState := by
  rw [h.oper]
  unfold current at hq
  cases ho : s.bOperState with
  | true =>
    rw [if_pos ho] at hq
    intro hp
    have := (h.inOper t).mpr hp
    simp [hq] at this
  | false =>
    rw [if_neg (by simp [ho])] at hq
    intro hp
    have := (h.inInit t).mpr hp
    simp [hq] at this

theorem nodup_snoc {q : List T} {t : T} (h : q.Nodup) (ht : t ∉ q) : (q ++ [t]).Nodup := by
  rw [← List.concat_eq_append, List.nodup_concat]
  exact ⟨ht, h⟩

/-! ### Changes of one timer -/

variable [DecidableEq T]

theorem update_cases {timers : T → Option (TTimerInfo C)} {f : TTimerInfo C → TTimerInfo C}
    {t x : T} {info : TTimerInfo C}
    (h : update timers t ((timers t).map f) x = some info) :
    (x = t ∧ ∃ i, timers t = some i ∧ info = f i) ∨ (x ≠ t ∧ timers x = some info) := by
  by_cases hx : x = t
  · subst hx
    rw [update_self] at h
    obtain ⟨i, hi, rfl⟩ := Option.map_eq_some_iff.mp h
    exact .inl ⟨rfl, i, hi, rfl⟩
  · rw [update_of_ne hx] at h
    exact .inr ⟨hx, h⟩

theorem Ready.update {timers : T → Option (TTimerInfo C)} {x : T} (h : Ready timers x) (t : T)
    {f : TTimerInfo C → TTimerInfo C}
    (hf : ∀ i, i.fExpiryCb.isSome = true → (f i).fExpiryCb.isSome = true) :
    Ready (update timers t ((timers t).map f)) x := by
  obtain ⟨info, cb, hinfo, hcb⟩ := h
  by_cases hx : x = t
  · subst hx
    obtain ⟨cb', hcb'⟩ := Option.isSome_iff_exists.mp (hf info (by simp [hcb]))
    exact ⟨f info, cb', by simp [hinfo], hcb'⟩
  · exact ⟨info, cb, by rw [update_of_ne hx, hinfo], hcb⟩

theorem Agrees.setArmed (h : Agrees σ s) {t : T} {b : Bool} (hr : b = true → Ready s.timers t)
    (p : TTimerInfo C → Bool) {starting : Option T}
    (hst : ∀ x, starting = some x → s.starting = some x) {l : List (Event T C)} :
    Agrees σ { s.modify t fun i => { i with armed := b, bPeriodic := p i } with
      starting := starting, log := l } := by
  have hready : ∀ x, Ready s.timers x →
      Ready (s.modify t fun i => { i with armed := b, bPeriodic := p i }).timers x :=
    fun x hx => hx.update t fun i hi => hi
  refine h.timers ?_ ?_ ?_ (fun x hx => hready x (h.starting x (hst x hx)))
    fun x hx => hready x (h.busy hx)
  · intro x info hinfo
    rcases update_cases hinfo with ⟨rfl, i, hi, rfl⟩ | ⟨-, hi⟩
    · exact h.startedIn x i hi
    · exact h.startedIn x info hi
  · intro x info hinfo
    rcases update_cases hinfo with ⟨rfl, i, hi, rfl⟩ | ⟨-, hi⟩
    · exact h.linked x i hi
    · exact h.linked x info hi
  · intro x info hinfo ha
    rcases update_cases hinfo with ⟨rfl, i, hi, rfl⟩ | ⟨-, hi⟩
    · exact hready x (hr ha)
    · exact hready x (h.armed x info hi ha)

/-! ### The emptied queue -/

theorem foldl_unlink (q : List T) (timers : T → Option (TTimerInfo C)) (x : T) :
    q.foldl unlink timers x =
      if x ∈ q then (timers x).map fun i => { i with linked := false } else timers x := by
  induction q generalizing timers with
  | nil => simp
  | cons t q ih =>
    rw [List.foldl_cons, ih]
    by_cases hx : x = t
    · subst hx
      by_cases hq : x ∈ q <;> simp [hq, unlink, Function.comp_def]
    · simp [hx, unlink]

theorem ready_foldl_unlink {q : List T} {timers : T → Option (TTimerInfo C)} {x : T}
    (h : Ready timers x) : Ready (q.foldl unlink timers) x := by
  obtain ⟨info, cb, hinfo, hcb⟩ := h
  by_cases hq : x ∈ q
  · exact ⟨{ info with linked := false }, cb, by rw [foldl_unlink, if_pos hq, hinfo]; rfl, hcb⟩
  · exact ⟨info, cb, by rw [foldl_unlink, if_neg hq, hinfo], hcb⟩

theorem foldl_unlink_cases {q : List T} {timers : T → Option (TTimerInfo C)} {x : T}
    {info : TTimerInfo C} (h : q.foldl unlink timers x = some info) :
    (x ∈ q ∧ ∃ i, timers x = some i ∧ info = { i with linked := false }) ∨
      (x ∉ q ∧ timers x = some info) := by
  rw [foldl_unlink] at h
  by_cases hq : x ∈ q
  · rw [if_pos hq] at h
    obtain ⟨i, hi, rfl⟩ := Option.map_eq_some_iff.mp h
    exact .inl ⟨hq, i, hi, rfl⟩
  · rw [if_neg hq] at h
    exact .inr ⟨hq, h⟩

/-! ### Queueing -/

/-- A timer that no queue links is appended to one of the queues, to the Operational-queue if `k`
is true. -/
theorem Agrees.enqueue (h : Agrees σ s) {t : T} (hr : Ready s.timers t)
    (hp : σ.pending t = none) (hreq : 0 < s.requesting) {k : Bool}
    (hk : k = false → s.bOperState = false) :
    Agrees { σ with pending := update σ.pending t (some k) }
      { s.modify t fun i => { i with linked := true } with
        hOperQueue := cond k (s.hOperQueue ++ [t]) s.hOperQueue
        hInitQueue := cond k s.hInitQueue (s.hInitQueue ++ [t]) } := by
  have hready : ∀ x, Ready s.timers x →
      Ready (s.modify t fun i => { i with linked := true }).timers x :=
    fun x hx => hx.update t fun i hi => hi
  have hin : ∀ x, (update σ.pending t (some k) x = some true ↔
        x ∈ cond k (s.hOperQueue ++ [t]) s.hOperQueue) ∧
      (update σ.pending t (some k) x = some false ↔
        x ∈ cond k s.hInitQueue (s.hInitQueue ++ [t])) := by
    intro x
    have ho := h.inOper x
    have hi := h.inInit x
    by_cases hx : x = t
    · subst hx
      rw [hp] at ho hi
      cases k <;> simp [ho, hi]
    · cases k <;> simp [hx, ho, hi]
  constructor
  case oper => exact h.oper
  case inits => exact h.inits
  case delivering => exact h.delivering
  case startedIn =>
    intro x info hinfo
    rcases update_cases hinfo with ⟨rfl, i, hi, rfl⟩ | ⟨-, hi⟩
    · exact h.startedIn x i hi
    · exact h.startedIn x info hi
  case inOper => exact fun x => (hin x).1.symm
  case inInit => exact fun x => (hin x).2.symm
  case linked =>
    intro x info hinfo
    rcases update_cases hinfo with ⟨rfl, i, hi, rfl⟩ | ⟨hx, hi⟩
    · simp
    · simpa [hx] using h.linked x info hi
  case nodupOper =>
    cases k with
    | true => exact nodup_snoc h.nodupOper (by simp [h.inOper, hp])
    | false => exact h.nodupOper
  case nodupInit =>
    cases k with
    | true => exact h.nodupInit
    | false => exact nodup_snoc h.nodupInit (by simp [h.inInit, hp])
  case obsolete =>
    intro ho
    cases k with
    | true => exact h.obsolete ho
    | false => exact absurd ho (by simp [modify, hk rfl])
  case queued =>
    intro x hx
    by_cases hxt : x = t
    · subst hxt
      exact hready x hr
    · exact hready x (h.queued x (by simpa [hxt] using hx))
  case armed =>
    intro x info hinfo ha
    rcases update_cases hinfo with ⟨rfl, i, hi, rfl⟩ | ⟨-, hi⟩
    · exact hready x hr
    · exact hready x (h.armed x info hi ha)
  case starting => exact fun x hx => hready x (h.starting x hx)
  case inHand => exact fun x hx => hready x (h.inHand x hx)
  case requested => exact fun _ => .inr (.inr hreq)

/-! ## Every step follows the service -/

variable [DecidableEq C]

/-- What was seen is a run of the service to a state that agrees with the module. -/
def Follows (σ : Service T C) (s : Sys T C) : Prop :=
  exec Service.step Service.init s.log = some σ ∧ Agrees σ s

theorem seen_snoc {l : List (Event T C)} {e : Event T C} {τ : Service T C}
    (h : exec Service.step Service.init l = some σ) (he : σ.step e = some τ) :
    exec Service.step Service.init (l ++ [e]) = some τ :=
  exec_snoc.mpr ⟨σ, h, he⟩

theorem Follows.createTimer (h : Follows σ s) {t : T} (hn : s.timers t = none) :
    ∃ τ, Follows τ (s.createTimer t) := by
  have hnew : ∀ {x info}, (s.createTimer t).timers x = some info →
      (x = t ∧ info = ⟨none, 0, false, false, 0, false, false⟩) ∨
        (x ≠ t ∧ s.timers x = some info) := by
    intro x info hinfo
    by_cases hx : x = t
    · subst hx
      exact .inl ⟨rfl, by simpa [Sys.createTimer, eq_comm] using hinfo⟩
    · exact .inr ⟨hx, by simpa [Sys.createTimer, update_of_ne hx] using hinfo⟩
  have hready : ∀ {x}, Ready s.timers x → x ≠ t ∧ Ready (s.createTimer t).timers x := by
    rintro x ⟨info, cb, hinfo, hcb⟩
    have hx : x ≠ t := by
      rintro rfl
      cases hn.symm.trans hinfo
    exact ⟨hx, info, cb, by simpa [Sys.createTimer, update_of_ne hx] using hinfo, hcb⟩
  refine ⟨_, seen_snoc h.1 rfl, ?_⟩
  refine h.2.timers ?_ ?_ ?_ (fun x hx => (hready (h.2.starting x hx)).2)
    fun x hx => (hready (h.2.busy hx)).2
  · intro x info hinfo
    rcases hnew hinfo with ⟨rfl, rfl⟩ | ⟨hx, hi⟩
    · simp
    · rw [update_of_ne hx]
      exact h.2.startedIn x info hi
  · intro x info hinfo
    rcases hnew hinfo with ⟨rfl, rfl⟩ | ⟨hx, hi⟩
    · have hp : σ.pending x = none := by
        by_contra hp
        exact (hready (h.2.queued x hp)).1 rfl
      simp [hp]
    · exact h.2.linked x info hi
  · intro x info hinfo ha
    rcases hnew hinfo with ⟨rfl, rfl⟩ | ⟨hx, hi⟩
    · cases ha
    · exact (hready (h.2.armed x info hi ha)).2

theorem Follows.startTimer (h : Follows σ s) {t : T} (ht : (s.timers t).isSome = true) (cb : C)
    (uIntervalMsec : ℕ) (bPeriodic : Bool) :
    ∃ τ, Follows τ (s.startTimer t cb uIntervalMsec bPeriodic) := by
  have hready : ∀ {x}, x = t ∨ Ready s.timers x →
      Ready (s.startTimer t cb uIntervalMsec bPeriodic).timers x := by
    rintro x (rfl | hx)
    · obtain ⟨i, hi⟩ := Option.isSome_iff_exists.mp ht
      refine ⟨{ i with
        fExpiryCb := some cb
        uIntervalMsec := uIntervalMsec
        bPeriodic := bPeriodic
        bOperStateWhenStarted := s.bOperState
        uTwdInitCountWhenStarted := s.uTwdInitCount }, cb, ?_, rfl⟩
      simp [Sys.startTimer, modify, hi]
    · exact hx.update t fun i _ => rfl
  refine ⟨_, seen_snoc h.1 rfl, ?_⟩
  refine h.2.timers ?_ ?_ ?_ (fun x hx => hready (.inl (Option.some.inj hx).symm))
    fun x hx => hready (.inr (h.2.busy hx))
  · intro x info hinfo
    rcases update_cases hinfo with ⟨rfl, i, hi, rfl⟩ | ⟨hx, hi⟩
    · simp [h.2.oper, h.2.inits]
    · rw [update_of_ne hx]
      exact h.2.startedIn x info hi
  · intro x info hinfo
    rcases update_cases hinfo with ⟨rfl, i, hi, rfl⟩ | ⟨-, hi⟩
    · exact h.2.linked x i hi
    · exact h.2.linked x info hi
  · intro x info hinfo ha
    rcases update_cases hinfo with ⟨rfl, i, hi, rfl⟩ | ⟨-, hi⟩
    · exact hready (.inl rfl)
    · exact hready (.inr (h.2.armed x info hi ha))

theorem Follows.destroyTimer (h : Follows σ s) {t : T} {info : TTimerInfo C}
    (ht : s.timers t = some info) (hl : info.linked ≠ true) (hm : s.mayCall = true)
    (hd : s.driver ≠ .callback t) : Follows σ (s.destroyTimer t) := by
  have hready : ∀ {x}, Ready s.timers x → x ≠ t → Ready (s.destroyTimer t).timers x := by
    rintro x ⟨i, cb, hi, hcb⟩ hx
    exact ⟨i, cb, by simpa [Sys.destroyTimer, update_of_ne hx] using hi, hcb⟩
  have hold : ∀ {x i}, (s.destroyTimer t).timers x = some i → x ≠ t ∧ s.timers x = some i := by
    intro x i hi
    by_cases hx : x = t
    · subst hx
      simp [Sys.destroyTimer] at hi
    · exact ⟨hx, by simpa [Sys.destroyTimer, update_of_ne hx] using hi⟩
  refine ⟨h.1, h.2.timers ?_ ?_ ?_ ?_ ?_⟩
  · exact fun x i hi => h.2.startedIn x i (hold hi).2
  · exact fun x i hi => h.2.linked x i (hold hi).2
  · exact fun x i hi ha => hready (h.2.armed x i (hold hi).2 ha) (hold hi).1
  · intro x hx
    cases (mayCall_iff.mp hm).1.symm.trans hx
  · intro x hb
    refine hready (h.2.busy hb) ?_
    rintro rfl
    rcases hb with hp | hdr | hdr
    · exact hl ((h.2.linked x info ht).mpr hp)
    · rcases (mayCall_iff.mp hm).2 with hout | ⟨y, hy⟩
      · cases hdr.symm.trans hout
      · cases hdr.symm.trans hy
    · exact hd hdr

/-! ### The driver state -/

theorem Follows.operational (h : Follows σ s) (hm : s.mayCall = true) (ho : s.bOperState = false) :
    ∃ τ, Follows τ (s.updateDriverState true) := by
  have hd : σ.delivering = none := h.2.delivering.trans (took_of_mayCall hm)
  have hstep : σ.step (.driverState true) = some { σ with
      bOperState := true
      uTwdInitCount := add32 σ.uTwdInitCount 1
      pending := fun t => if σ.pending t = some false then none else σ.pending t } := by
    simp [Service.step, h.2.oper, ho, hd]
  have heq : s.updateDriverState true = { s with
      bOperState := true
      uTwdInitCount := add32 s.uTwdInitCount 1
      hInitQueue := []
      timers := s.hInitQueue.foldl unlink s.timers
      scheduled := true
      log := s.log ++ [.driverState true] } := by
    simp [Sys.updateDriverState, ho]
  rw [heq]
  refine ⟨_, seen_snoc h.1 hstep, ?_⟩
  constructor
  case oper => rfl
  case inits => exact congrArg (add32 · 1) h.2.inits
  case delivering => exact h.2.delivering
  case startedIn =>
    intro x info hinfo
    rcases foldl_unlink_cases hinfo with ⟨-, i, hi, rfl⟩ | ⟨-, hi⟩
    · exact h.2.startedIn x i hi
    · exact h.2.startedIn x info hi
  case inOper =>
    intro x
    rw [h.2.inOper]
    by_cases hp : σ.pending x = some false <;> simp [hp]
  case inInit =>
    intro x
    by_cases hp : σ.pending x = some false <;> simp [hp]
  case linked =>
    intro x info hinfo
    rcases foldl_unlink_cases hinfo with ⟨hq, i, hi, rfl⟩ | ⟨hq, hi⟩
    · simp [(h.2.inInit x).mp hq]
    · have hp : σ.pending x ≠ some false := fun hp => hq ((h.2.inInit x).mpr hp)
      simpa [hp] using h.2.linked x info hi
  case nodupOper => exact h.2.nodupOper
  case nodupInit => exact List.nodup_nil
  case obsolete => exact fun _ => rfl
  case queued =>
    intro x hx
    refine ready_foldl_unlink (h.2.queued x fun hp => hx ?_)
    simp [hp]
  case armed =>
    intro x info hinfo ha
    rcases foldl_unlink_cases hinfo with ⟨-, i, hi, rfl⟩ | ⟨-, hi⟩
    · exact ready_foldl_unlink (h.2.armed x i hi ha)
    · exact ready_foldl_unlink (h.2.armed x info hi ha)
  case starting => exact fun x hx => ready_foldl_unlink (h.2.starting x hx)
  case inHand => exact fun x hx => ready_foldl_unlink (h.2.inHand x hx)
  case requested => exact fun _ => .inr (.inl rfl)

theorem Follows.notOperational (h : Follows σ s) (hm : s.mayCall = true)
    (ho : s.bOperState = true) : ∃ τ, Follows τ (s.updateDriverState false) := by
  have hd : σ.delivering = none := h.2.delivering.trans (took_of_mayCall hm)
  have hstep : σ.step (.driverState false) = some { σ with bOperState := false } := by
    simp [Service.step, h.2.oper, ho, hd]
  have heq : s.updateDriverState false =
      { s with bOperState := false, log := s.log ++ [.driverState false] } := by
    simp [Sys.updateDriverState, ho]
  rw [heq]
  refine ⟨_, seen_snoc h.1 hstep, ?_⟩
  constructor
  case oper => rfl
  case inits => exact h.2.inits
  case delivering => exact h.2.delivering
  case startedIn => exact h.2.startedIn
  case inOper => exact h.2.inOper
  case inInit => exact h.2.inInit
  case linked => exact h.2.linked
  case nodupOper => exact h.2.nodupOper
  case nodupInit => exact h.2.nodupInit
  case obsolete => exact fun hf => absurd hf Bool.false_ne_true
  case queued => exact h.2.queued
  case armed => exact h.2.armed
  case starting => exact h.2.starting
  case inHand => exact h.2.inHand
  case requested =>
    intro hc
    exact absurd (h.2.obsolete ho) (by simpa [current] using hc)

theorem Follows.updateDriverState (h : Follows σ s) (hm : s.mayCall = true) (b : Bool) :
    ∃ τ, Follows τ (s.updateDriverState b) := by
  by_cases heq : b = s.bOperState
  · rw [Sys.updateDriverState, if_pos heq]
    exact ⟨σ, h⟩
  · cases hb : s.bOperState with
    | true =>
      obtain rfl : b = false := by simpa [hb] using heq
      exact h.notOperational hm hb
    | false =>
      obtain rfl : b = true := by simpa [hb] using heq
      exact h.operational hm hb

/-! ### Expiries -/

theorem Follows.runOut (h : Follows σ s) (t : T) : Agrees σ (s.runOut t) := by
  have hdis := h.2.setArmed (t := t) (b := false) (fun hf => absurd hf Bool.false_ne_true)
    (fun i => i.bPeriodic) (fun _ hx => hx) (l := s.log ++ [Event.expired t])
  exact hdis.requesting (Nat.succ_pos s.requesting)

theorem Follows.merged (h : Follows σ s) {t : T} (hp : σ.pending t ≠ none) :
    Follows σ (s.runOut t) := by
  obtain ⟨k, hk⟩ := Option.ne_none_iff_exists'.mp hp
  exact ⟨seen_snoc h.1 (by simp [Service.step, hk]), h.runOut t⟩

theorem Follows.getExpiry (h : Follows σ s) {t : T} {info : TTimerInfo C}
    (ht : s.timers t = some info) (ha : info.armed = true) :
    ∃ τ, Follows τ (s.getExpiry t info) := by
  have hkind : σ.kind t = if info.bOperStateWhenStarted then some true
      else if s.bOperState then none else some false := by
    rw [Service.kind, h.2.startedIn t info ht, h.2.oper]
  have hr : Ready (s.runOut t).timers t := (h.2.armed t info ht ha).update t fun i hi => hi
  have hlinked := h.2.linked t info ht
  by_cases hp : σ.pending t = none
  · have hl : info.linked = false := by simpa [hp] using hlinked
    have hstep : σ.step (.expired t) =
        some { σ with pending := update σ.pending t (σ.kind t) } := by
      simp [Service.step, hp]
    have hw := h.runOut t
    have hrun := seen_snoc h.1 hstep
    unfold Sys.getExpiry Sys.enqueueOper Sys.enqueueInit
    simp only [hl, Bool.false_eq_true, if_false]
    by_cases hwhen : info.bOperStateWhenStarted = true
    · rw [if_pos hwhen] at hkind ⊢
      rw [hkind] at hrun
      exact ⟨_, hrun, hw.enqueue hr hp (Nat.succ_pos _) (k := true) (by simp)⟩
    · rw [if_neg hwhen] at hkind ⊢
      by_cases ho : s.bOperState = true
      · rw [if_pos ho] at hkind ⊢
        rw [hkind, update_eq_self_iff.mpr hp.symm] at hrun
        exact ⟨_, hrun, hw⟩
      · rw [if_neg ho] at hkind ⊢
        rw [hkind] at hrun
        have hno : (s.runOut t).bOperState = false := by simpa [Sys.runOut, modify] using ho
        exact ⟨_, hrun, hw.enqueue hr hp (Nat.succ_pos _) (k := false) fun _ => hno⟩
  · have hl : info.linked = true := hlinked.mpr hp
    refine ⟨σ, ?_⟩
    unfold Sys.getExpiry Sys.enqueueOper Sys.enqueueInit
    simp only [hl, if_true, ite_self]
    exact h.merged hp

/-! ### The handler -/

theorem Follows.loop (h : Follows σ s) (hd : took s.driver = none) (b : Bool) :
    Follows σ { s with driver := .loop, scheduled := b } :=
  ⟨h.1, h.2.moves hd.symm (by simp) fun _ => .inl (by simp)⟩

theorem Follows.dequeue (h : Follows σ s) {t : T} {rest : List T} (hc : s.current = t :: rest)
    (hd : s.driver = .loop) : ∃ τ, Follows τ (s.dequeue t rest) := by
  obtain ⟨hp, hnot, hnodup⟩ := current_cons h.2 hc
  have hready : ∀ {x}, Ready s.timers x → Ready (s.dequeue t rest).timers x :=
    fun hx => hx.update t fun i hi => hi
  have hin : ∀ x, (x ∈ (s.dequeue t rest).hOperQueue ↔
        update σ.pending t none x = some true) ∧
      (x ∈ (s.dequeue t rest).hInitQueue ↔ update σ.pending t none x = some false) := by
    intro x
    have hop := h.2.inOper x
    have hi := h.2.inInit x
    unfold current at hc
    cases ho : s.bOperState with
    | true =>
      rw [if_pos ho] at hc
      simp only [Sys.dequeue, ho, if_true]
      by_cases hx : x = t
      · subst hx
        rw [hp, ho] at hi
        simp [hnot, hi]
      · rw [hc] at hop
        simpa [hx, hi] using hop
    | false =>
      have hf : ¬ s.bOperState = true := by simp [ho]
      rw [if_neg hf] at hc
      simp only [Sys.dequeue, if_neg hf]
      by_cases hx : x = t
      · subst hx
        rw [hp, ho] at hop
        simp [hnot, hop]
      · rw [hc] at hi
        simpa [hx, hop] using hi
  have hstep : σ.step (.taken t) = some
      { σ with pending := update σ.pending t none, delivering := some t } := by
    have hdel : σ.delivering = none := by rw [h.2.delivering, hd]; rfl
    simp [Service.step, hp, h.2.oper, hdel]
  refine ⟨_, seen_snoc h.1 hstep, ?_⟩
  constructor
  case oper => exact h.2.oper
  case inits => exact h.2.inits
  case delivering => rfl
  case startedIn =>
    intro x info hinfo
    rcases update_cases hinfo with ⟨rfl, i, hi, rfl⟩ | ⟨-, hi⟩
    · exact h.2.startedIn x i hi
    · exact h.2.startedIn x info hi
  case inOper => exact fun x => (hin x).1
  case inInit => exact fun x => (hin x).2
  case linked =>
    intro x info hinfo
    rcases update_cases hinfo with ⟨rfl, i, hi, rfl⟩ | ⟨hx, hi⟩
    · simp
    · simpa [hx] using h.2.linked x info hi
  case nodupOper =>
    simp only [Sys.dequeue]
    split
    · exact hnodup
    · exact h.2.nodupOper
  case nodupInit =>
    simp only [Sys.dequeue]
    split
    · exact h.2.nodupInit
    · exact hnodup
  case obsolete =>
    intro ho
    have ho : s.bOperState = true := ho
    simp only [Sys.dequeue, if_pos ho]
    exact h.2.obsolete ho
  case queued =>
    intro x hx
    refine hready (h.2.queued x fun hn => hx ?_)
    by_cases hxt : x = t <;> simp [hxt, hn]
  case armed =>
    intro x info hinfo ha
    rcases update_cases hinfo with ⟨rfl, i, hi, rfl⟩ | ⟨-, hi⟩
    · exact hready (h.2.armed x i hi ha)
    · exact hready (h.2.armed x info hi ha)
  case starting => exact fun x hx => hready (h.2.starting x hx)
  case inHand =>
    rintro x (hx | hx)
    · obtain rfl := Driver.took.inj hx
      exact hready (h.2.queued t (by simp [hp]))
    · cases hx
  case requested => exact fun _ => .inl (by simp [Sys.dequeue])

/-- The callback is that of the timer's last start, and hears whether the driver was initialised
since. -/
theorem Follows.call (h : Follows σ s) {t : T} {info : TTimerInfo C} {cb : C}
    (hd : s.driver = .took t) (ht : s.timers t = some info) (hcb : info.fExpiryCb = some cb) :
    ∃ τ, Follows τ (s.call t info cb) := by
  have hdel : σ.delivering = some t := by rw [h.2.delivering, hd]; rfl
  have hstep : σ.step (.callback t cb (s.uTwdInitCount ≠ info.uTwdInitCountWhenStarted : Bool)) =
      some { σ with delivering := none } := by
    simp [Service.step, hdel, h.2.startedIn t info ht, hcb, h.2.inits]
  refine ⟨_, seen_snoc h.1 hstep, ?_⟩
  constructor
  case oper => exact h.2.oper
  case inits => exact h.2.inits
  case delivering => rfl
  case startedIn => exact h.2.startedIn
  case inOper => exact h.2.inOper
  case inInit => exact h.2.inInit
  case linked => exact h.2.linked
  case nodupOper => exact h.2.nodupOper
  case nodupInit => exact h.2.nodupInit
  case obsolete => exact h.2.obsolete
  case queued => exact h.2.queued
  case armed => exact h.2.armed
  case starting => exact h.2.starting
  case inHand =>
    rintro x (hx | hx)
    · cases hx
    · obtain rfl := Driver.callback.inj hx
      exact ⟨info, cb, ht, hcb⟩
  case requested => exact fun _ => .inl (by simp [Sys.call])

theorem Follows.callbackReturn (h : Follows σ s) {t : T} {info : TTimerInfo C} {cb : C}
    (hd : s.driver = .callback t) (ht : s.timers t = some info) :
    ∃ τ, Follows τ (if info.bPeriodic then
      { s.startTimer t cb info.uIntervalMsec info.bPeriodic with driver := .loop }
      else { s with driver := .loop }) := by
  have hnone : took s.driver = none := by rw [hd]; rfl
  by_cases hper : info.bPeriodic = true
  · rw [if_pos hper]
    obtain ⟨τ, hτ⟩ := h.startTimer (t := t) (by simp [ht]) cb info.uIntervalMsec info.bPeriodic
    exact ⟨τ, hτ.loop hnone s.scheduled⟩
  · rw [if_neg hper]
    exact ⟨σ, h.loop hnone s.scheduled⟩

/-! ## Runs -/

theorem Follows.step (h : Follows σ s) {op : Op T C} (hs : Sys.step s op = some s') :
    ∃ τ, Follows τ s' := by
  cases op with
  | createTimer t =>
    simp only [Sys.step] at hs
    split at hs
    case isTrue hc =>
      cases hs
      exact h.createTimer (by simpa using hc.2)
    case isFalse => cases hs
  | startTimer t cb interval periodic =>
    simp only [Sys.step] at hs
    split at hs
    case isTrue hc =>
      cases hs
      exact h.startTimer hc.2 cb interval periodic
    case isFalse => cases hs
  | osTimerStart =>
    obtain ⟨t, ht, rfl⟩ := Option.map_eq_some_iff.mp hs
    refine ⟨σ, h.1, h.2.setArmed (t := t) (b := true) (fun _ => h.2.starting t ht)
      (fun i => i.bPeriodic) ?_⟩
    intro x hx
    cases hx
  | stopTimer t =>
    simp only [Sys.step] at hs
    split at hs
    case isTrue =>
      cases hs
      exact ⟨σ, h.1, h.2.setArmed (t := t) (b := false)
        (fun hf => absurd hf Bool.false_ne_true) (fun _ => false) fun _ hx => hx⟩
    case isFalse => cases hs
  | destroyTimer t =>
    simp only [Sys.step] at hs
    split at hs
    case h_1 => cases hs
    case h_2 info ht =>
      split at hs
      case isTrue hc =>
        cases hs
        exact ⟨σ, h.destroyTimer ht hc.2.1 hc.1 hc.2.2⟩
      case isFalse => cases hs
  | updateDriverState b =>
    simp only [Sys.step] at hs
    split at hs
    case isTrue hm =>
      cases hs
      exact h.updateDriverState hm b
    case isFalse => cases hs
  | getExpiry t =>
    simp only [Sys.step] at hs
    split at hs
    case h_1 => cases hs
    case h_2 info ht =>
      split at hs
      case isTrue ha =>
        cases hs
        exact h.getExpiry ht ha
      case isFalse => cases hs
  | requestSchedule =>
    simp only [Sys.step] at hs
    split at hs
    case isTrue => cases hs
    case isFalse =>
      cases hs
      exact ⟨σ, h.1, h.2.moves rfl h.2.inHand fun _ => .inr (.inl rfl)⟩
  | handleExpiry =>
    simp only [Sys.step] at hs
    split at hs
    case isTrue hc =>
      cases hs
      exact ⟨σ, h.loop (by rw [hc.2.2]; rfl) false⟩
    case isFalse => cases hs
  | dequeue =>
    simp only [Sys.step] at hs
    split at hs
    case isTrue => cases hs
    case isFalse hn =>
      have hd : s.driver = .loop := not_not.mp (not_or.mp hn).1
      split at hs
      case h_1 hc =>
        cases hs
        exact ⟨σ, h.1, h.2.moves (by rw [hd]; rfl) (by simp) fun hne => absurd hc hne⟩
      case h_2 t rest hc =>
        cases hs
        exact h.dequeue hc hd
  | call =>
    simp only [Sys.step] at hs
    split at hs
    case h_1 t hd =>
      obtain ⟨info, ht, hs⟩ := Option.bind_eq_some_iff.mp hs
      obtain ⟨cb, hcb, rfl⟩ := Option.map_eq_some_iff.mp hs
      exact h.call hd ht hcb
    case h_2 => cases hs
  | callbackReturn =>
    simp only [Sys.step] at hs
    split at hs
    case h_1 t hd =>
      split at hs
      case isTrue => cases hs
      case isFalse =>
        obtain ⟨info, ht, hs⟩ := Option.bind_eq_some_iff.mp hs
        obtain ⟨cb, -, rfl⟩ := Option.map_eq_some_iff.mp hs
        exact h.callbackReturn hd ht
    case h_2 => cases hs

theorem follows_run {ops : List (Op T C)} (h : Follows σ s) (he : exec Sys.step s ops = some s') :
    ∃ τ, Follows τ s' :=
  exec_invariant (I := fun s => ∃ σ, Follows σ s) (fun _ _ _ ⟨_, h⟩ hs => h.step hs) ⟨σ, h⟩ he

/-! ### Progress -/

/-- What the contexts do by themselves. -/
def own : List (Op T C) :=
  [.osTimerStart, .requestSchedule, .handleExpiry, .dequeue, .call, .callbackReturn]

/-- Own steps lead on to a state with the same queue to handle, at a given place of the driver. -/
def LeadsOn (s : Sys T C) (d : Driver T) (q : List T) : Prop :=
  ∃ t, Leads Sys.step own s t ∧ (∃ τ, Follows τ t) ∧ t.bOperState = s.bOperState ∧ t.driver = d ∧
    t.current = q

theorem LeadsOn.head {op : Op T C} {d : Driver T} {q : List T} (hop : op ∈ own)
    (hs : Sys.step s op = some s') (ho : s'.bOperState = s.bOperState) (h : LeadsOn s' d q) :
    LeadsOn s d q := by
  obtain ⟨t, hlead, hf, hoper, hd, hq⟩ := h
  exact ⟨t, hlead.head hop hs, hf, hoper.trans ho, hd, hq⟩

theorem starting_leadsOn (h : Follows σ s) {d : Driver T} {q : List T}
    (hnext : ∀ s' : Sys T C, (∃ τ, Follows τ s') → s'.starting = none → s'.driver = s.driver →
      s'.current = s.current → LeadsOn s' d q) : LeadsOn s d q := by
  cases hst : s.starting with
  | none => exact hnext s ⟨σ, h⟩ hst rfl rfl
  | some t =>
    have hstep : Sys.step s .osTimerStart = some (s.osTimerStart t) := by
      simp [Sys.step, hst]
    exact .head (by simp [own]) hstep rfl (hnext (s.osTimerStart t) (h.step hstep) rfl rfl rfl)

theorem callback_leadsOn (h : Follows σ s) {t : T} (hd : s.driver = .callback t) :
    LeadsOn s .loop s.current := by
  refine starting_leadsOn h ?_
  rintro s' ⟨τ, hτ⟩ hst hd' hq
  obtain ⟨info, cb, ht, hcb⟩ := hτ.2.inHand t (.inr (hd'.trans hd))
  have hstep : Sys.step s' .callbackReturn = some (if info.bPeriodic then
      { s'.startTimer t cb info.uIntervalMsec info.bPeriodic with driver := .loop }
      else { s' with driver := .loop }) := by
    simp [Sys.step, hd'.trans hd, hst, ht, hcb]
  refine .head (by simp [own]) hstep ?_ ⟨_, .refl _, hτ.step hstep, rfl, ?_, ?_⟩
  · split <;> rfl
  · split <;> rfl
  · rw [← hq]
    split <;> rfl

theorem took_leadsOn (h : Follows σ s) {t : T} (hd : s.driver = .took t) :
    LeadsOn s .loop s.current := by
  obtain ⟨info, cb, ht, hcb⟩ := h.2.inHand t (.inl hd)
  have hstep : Sys.step s .call = some (s.call t info cb) := by
    simp [Sys.step, hd, ht, hcb]
  obtain ⟨τ, hτ⟩ := h.step hstep
  exact .head (by simp [own]) hstep rfl (callback_leadsOn hτ rfl)

theorem LeadsOn.then {d d' : Driver T} {q q' : List T} (h : LeadsOn s d q)
    (hnext : ∀ t : Sys T C, (∃ τ, Follows τ t) → t.driver = d → t.current = q → LeadsOn t d' q') :
    LeadsOn s d' q' := by
  obtain ⟨t, hlead, hf, ho, hd, hq⟩ := h
  obtain ⟨u, hlead', hf', ho', hd', hq'⟩ := hnext t hf hd hq
  exact ⟨u, hlead.trans hlead', hf', ho'.trans ho, hd', hq'⟩

theorem loop_leadsOn (h : Follows σ s) (hd : s.driver = .loop) : LeadsOn s .outside [] := by
  induction hq : s.current generalizing s σ with
  | nil =>
    refine starting_leadsOn h ?_
    rintro s' ⟨τ, hτ⟩ hst hd' hq'
    have hstep : Sys.step s' .dequeue = some { s' with driver := .outside } := by
      simp [Sys.step, hd'.trans hd, hst, hq'.trans hq]
    exact ⟨_, .head (by simp [own]) hstep (.refl _), hτ.step hstep, rfl, rfl, hq'.trans hq⟩
  | cons t rest ih =>
    refine starting_leadsOn h ?_
    rintro s' ⟨τ, hτ⟩ hst hd' hq'
    have hstep : Sys.step s' .dequeue = some (s'.dequeue t rest) := by
      simp [Sys.step, hd'.trans hd, hst, hq'.trans hq]
    have hcur : (s'.dequeue t rest).current = rest := by
      unfold current Sys.dequeue
      cases s'.bOperState <;> rfl
    obtain ⟨ρ, hρ⟩ := hτ.step hstep
    refine .head (by simp [own]) hstep rfl (.then (took_leadsOn hρ rfl) ?_)
    rintro u ⟨π, hπ⟩ hdu hqu
    exact ih hπ hdu (hqu.trans hcur)

theorem outside_leadsOn (h : Follows σ s) (hd : s.driver = .outside) : LeadsOn s .outside [] := by
  have hsched : ∀ {s : Sys T C} {σ}, Follows σ s → s.driver = .outside → s.starting = none →
      s.scheduled = true → LeadsOn s .outside [] := by
    intro s σ h hd hst hs
    have hstep : Sys.step s .handleExpiry =
        some { s with scheduled := false, driver := .loop } := by
      simp [Sys.step, hd, hst, hs]
    obtain ⟨τ, hτ⟩ := h.step hstep
    exact .head (by simp [own]) hstep rfl (loop_leadsOn hτ rfl)
  refine starting_leadsOn h ?_
  rintro s' ⟨τ, hτ⟩ hst hd' -
  rw [hd] at hd'
  by_cases hq : s'.current = []
  · exact ⟨s', .refl s', ⟨τ, hτ⟩, rfl, hd', hq⟩
  · rcases hτ.2.requested hq with hout | hs | hreq
    · exact absurd hd' hout
    · exact hsched hτ hd' hst hs
    · have hstep : Sys.step s' .requestSchedule =
          some { s' with requesting := s'.requesting - 1, scheduled := true } := by
        simp [Sys.step, Nat.ne_of_gt hreq]
      obtain ⟨ρ, hρ⟩ := hτ.step hstep
      exact .head (by simp [own]) hstep rfl (hsched hρ hd' hst rfl)

theorem leadsOn (h : Follows σ s) : LeadsOn s .outside [] := by
  cases hd : s.driver with
  | outside => exact outside_leadsOn h hd
  | loop => exact loop_leadsOn h hd
  | took t => exact (took_leadsOn h hd).then fun u ⟨π, hπ⟩ hdu _ => loop_leadsOn hπ hdu
  | callback t => exact (callback_leadsOn h hd).then fun u ⟨π, hπ⟩ hdu _ => loop_leadsOn hπ hdu

/-! ## Results -/

/-- The driver task runs and handles one timer. -/
def handleOne : List (Op ℕ ℕ) :=
  [.requestSchedule, .handleExpiry, .dequeue, .call, .callbackReturn, .dequeue]

/-- A periodic timer that expires twice and is stopped then. -/
def twoExpiries : List (Op ℕ ℕ) :=
  [.createTimer 0, .updateDriverState true, .startTimer 0 7 100 true, .osTimerStart,
    .getExpiry 0] ++ handleOne.dropLast ++
    [.osTimerStart, .dequeue, .getExpiry 0, .stopTimer 0] ++ handleOne

end Sys

end ArchosGpl.Wlan.TimerModule
