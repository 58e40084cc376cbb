import Mathlib.Data.List.Perm.Basic
import ArchosGpl.Wlan.Scr.Model

/-!
# Arbitration of the serving channel

In a run whose abort callbacks are orderly (`Orderly`), **`arbitrated`**: the running client of a
resource is the one client that runs or aborts on it, every client that became RUNNING was told so
once, every client answered PEND was recorded as pending, and no enabled client is pending on a free
resource.

During an abort callback `statusNotficationPending` suppresses what the module does otherwise. A
request is answered PEND and forgotten (`request_in_callback_forgotten`), and a completion grants a
resource to a client that is never told.
-/

namespace ArchosGpl.Wlan.Scr

open Lib

theorem clientStatus_mode (eResource : EScrResourceId) (mode mode' : EScrModeId)
    (group : EScrGroupId) (client : EScrClientId) :
    clientStatus eResource mode group client = clientStatus eResource mode' group client := by
  cases mode <;> cases mode' <;> cases eResource <;> cases group <;> rfl

theorem mem_clients (client : EScrClientId) : client ∈ clients := by
  cases client <;> decide

theorem clients_sorted : clients.Pairwise fun a b => b.prio ≤ a.prio := by
  decide

theorem prio_injective {a b : EScrClientId} (h : a.prio = b.prio) : a = b := by
  cases a <;> cases b <;> first | rfl | cases h

namespace TScr

variable {pScr pScr' : TScr} {c : EScrClientId} {r : EScrResourceId} {st : EScrClientState}

@[simp] theorem setState_self (pScr : TScr) (c : EScrClientId) (r : EScrResourceId)
    (st : EScrClientState) : (pScr.setState c r st).state c r = st := if_pos ⟨rfl, rfl⟩

variable {r' : EScrResourceId}

theorem setState_of_ne (pScr : TScr) (st : EScrClientState) {c' : EScrClientId} (h : (c', r') ≠ (c, r)) :
    (pScr.setState c r st).state c' r' = pScr.state c' r' :=
  if_neg fun hc => h (Prod.ext hc.1 hc.2)

@[simp] theorem setRunning_self (pScr : TScr) (r : EScrResourceId) (x : Option EScrClientId) :
    (pScr.setRunning r x).runningClient r = x := if_pos rfl

theorem setRunning_of_ne (pScr : TScr) (x : Option EScrClientId)
    (h : r' ≠ r) : (pScr.setRunning r x).runningClient r' = pScr.runningClient r' := if_neg h

/-! ## The search -/

theorem scrFindHighest_none {endAt : EScrClientId} (h : pScr.scrFindHighest st r endAt = none)
    (hle : endAt.prio ≤ c.prio) (hst : pScr.state c r = st) : pScr.isEnabled r c = false := by
  have hc := List.find?_eq_none.mp h c (mem_clients c)
  by_contra hen
  exact hc (by simp [hle, Bool.of_not_eq_false hen, hst])

theorem scrFindHighest_some {endAt h : EScrClientId}
    (hf : pScr.scrFindHighest st r endAt = some h) :
    endAt.prio ≤ h.prio ∧ pScr.isEnabled r h = true ∧ pScr.state h r = st := by
  have hp := List.find?_some hf
  simpa [and_assoc] using hp

theorem scrFindHighest_highest {h : EScrClientId}
    (hf : pScr.scrFindHighest st r .appScan = some h) (hen : pScr.isEnabled r c = true)
    (hst : pScr.state c r = st) : c.prio ≤ h.prio := by
  obtain ⟨-, as, bs, hclients, has⟩ := List.find?_eq_some_iff_append.mp hf
  have hsorted := clients_sorted
  have hmem := mem_clients c
  rw [hclients] at hsorted hmem
  rcases List.mem_append.mp hmem with hc | hc
  · have hno := has c hc
    simp [hen, hst, EScrClientId.prio] at hno
  · rcases List.mem_cons.mp hc with rfl | hc
    · exact Nat.le_refl _
    · exact (List.pairwise_cons.mp (List.pairwise_append.mp hsorted).2.1).1 c hc

/-! ## A resource -/

/-- The running client of a resource is the one that runs or aborts on it. -/
def Owner (pScr : TScr) (r : EScrResourceId) : Prop :=
  ∀ c, pScr.state c r = .running ∨ pScr.state c r = .aborting ↔ pScr.runningClient r = some c

/-- No enabled client is pending on the resource while it is free. -/
def NoWait (pScr : TScr) (r : EScrResourceId) : Prop :=
  pScr.runningClient r = none → ∀ c, pScr.state c r = .pending → pScr.isEnabled r c = false

/-- A resource that is as it was. -/
structure SameAt (r : EScrResourceId) (pScr pScr' : TScr) : Prop where
  state : ∀ c, pScr'.state c r = pScr.state c r
  running : pScr'.runningClient r = pScr.runningClient r
  enabled : ∀ c, pScr'.isEnabled r c = pScr.isEnabled r c

theorem SameAt.owner (h : SameAt r pScr pScr') (ho : Owner pScr r) : Owner pScr' r := by
  intro c
  rw [h.state, h.running]
  exact ho c

theorem SameAt.noWait (h : SameAt r pScr pScr') (hw : NoWait pScr r) : NoWait pScr' r := by
  intro hfree c hc
  rw [h.running] at hfree
  rw [h.state] at hc
  rw [h.enabled]
  exact hw hfree c hc

theorem Owner.setState (h : Owner pScr r) (hc : pScr.runningClient r ≠ some c)
    (hst : st ≠ .running ∧ st ≠ .aborting) : Owner (pScr.setState c r st) r := by
  intro c'
  by_cases hcc : c' = c
  · subst hcc
    rw [setState_self]
    exact iff_of_false (fun hs => hs.elim hst.1 hst.2) hc
  · rw [setState_of_ne _ _ fun he => hcc (congrArg Prod.fst he)]
    exact h c'

theorem setState_sameAt (pScr : TScr) (c : EScrClientId) (st : EScrClientState) (h : r' ≠ r) : SameAt r' pScr (pScr.setState c r st) :=
  ⟨fun _ => setState_of_ne _ _ fun he => h (congrArg Prod.snd he), rfl, fun _ => rfl⟩

theorem setRunning_sameAt (pScr : TScr) (x : Option EScrClientId)
    (h : r' ≠ r) : SameAt r' pScr (pScr.setRunning r x) :=
  ⟨fun _ => rfl, setRunning_of_ne _ _ h, fun _ => rfl⟩

theorem SameAt.trans {p : TScr} (h : SameAt r pScr pScr') (h' : SameAt r pScr' p) :
    SameAt r pScr p :=
  ⟨fun c => (h'.state c).trans (h.state c), h'.running.trans h.running,
    fun c => (h'.enabled c).trans (h.enabled c)⟩

theorem Owner.give (h : Owner pScr r) (hfree : pScr.runningClient r = none) (c : EScrClientId) :
    Owner ((pScr.setState c r .running).setRunning r (some c)) r := by
  intro c'
  rw [setRunning_self]
  by_cases hcc : c' = c
  · subst hcc
    exact iff_of_true (Or.inl (setState_self ..)) rfl
  · refine iff_of_false ?_ fun he => hcc (Option.some.inj he).symm
    have hstate : ((pScr.setState c r .running).setRunning r (some c)).state c' r =
        pScr.state c' r := setState_of_ne _ _ fun he => hcc (congrArg Prod.fst he)
    rw [hstate, h c', hfree]
    exact nofun

theorem grant_sameAt (pScr : TScr) (c : EScrClientId) (h : r' ≠ r) :
    SameAt r' pScr (pScr.grant c r) :=
  (setState_sameAt pScr c .running h).trans
    ⟨fun _ => rfl, setRunning_of_ne _ _ h, fun _ => rfl⟩

theorem Owner.release (h : Owner pScr r) (hown : pScr.runningClient r = some c) :
    Owner ((pScr.setState c r .idle).setRunning r none) r := by
  intro c'
  rw [setRunning_self]
  refine iff_of_false ?_ nofun
  by_cases hcc : c' = c
  · subst hcc
    have hidle : ((pScr.setState c' r .idle).setRunning r none).state c' r = .idle :=
      setState_self ..
    rw [hidle]
    rintro (he | he)
    · cases he
    · cases he
  · have hstate : ((pScr.setState c r .idle).setRunning r none).state c' r = pScr.state c' r :=
      setState_of_ne _ _ fun he => hcc (congrArg Prod.fst he)
    rw [hstate, h c', hown]
    exact fun he => hcc (Option.some.inj he).symm

end TScr

namespace Sys

open TScr

variable {s s' : Sys} {c : EScrClientId} {r : EScrResourceId} {P : EScrResourceId → Prop}

/-- A grant that the request in progress is going to report. -/
def owed (s : Sys) : List (EScrClientId × EScrResourceId) :=
  s.inRequest.toList.filter fun x => s.obj.state x.1 x.2 = .running

/-- The invariant, with no enabled client waiting for a free resource among those of `P`. -/
structure SoundOn (P : EScrResourceId → Prop) (s : Sys) : Prop where
  owner : ∀ r, Owner s.obj r
  noWait : ∀ r, P r → NoWait s.obj r
  flag : s.obj.statusNotficationPending = s.inRequest.isSome
  requester : ∀ x ∈ s.inRequest, s.obj.state x.1 x.2 = .running ∨
    s.obj.state x.1 x.2 = .pending ∧ s.obj.isEnabled x.2 x.1 = true
  told : (s.told ++ s.owed).Perm s.granted
  recorded : ∀ x ∈ s.pended, x.2 = .pending

abbrev Sound (s : Sys) : Prop := SoundOn (fun _ => True) s

theorem owed_of_none (h : s.inRequest = none) : s.owed = [] := by
  rw [owed, h]
  rfl

theorem SoundOn.not_pending (h : SoundOn P s)
    (hflag : ¬ s.obj.statusNotficationPending = true) : s.inRequest = none := by
  rw [h.flag, Option.isSome_iff_ne_none, not_not] at hflag
  exact hflag

/-! ## Requests -/

theorem SoundOn.pend (h : Sound s) (hreq : s.inRequest = none)
    (hc : s.obj.runningClient r ≠ some c)
    (hfree : s.obj.runningClient r = none → s.obj.isEnabled r c = false)
    (reason : EScePendReason) : Sound (s.pend c r reason) := by
  have hstate : (s.pend c r reason).obj.state = (s.obj.setState c r .pending).state := rfl
  constructor
  case owner =>
    intro r'
    by_cases hr : r' = r
    · subst hr
      exact (h.owner r').setState hc ⟨nofun, nofun⟩
    · exact (setState_sameAt s.obj c .pending hr).owner (h.owner r')
  case noWait =>
    intro r' _
    by_cases hr : r' = r
    · subst hr
      intro hf c' hp
      by_cases hcc : c' = c
      · subst hcc
        exact hfree hf
      · refine h.noWait r' trivial hf c' ?_
        rw [← setState_of_ne s.obj .pending fun he => hcc (congrArg Prod.fst he)]
        exact hp
    · exact (setState_sameAt s.obj c .pending hr).noWait (h.noWait r' trivial)
  case flag => exact h.flag
  case requester =>
    intro x hx
    have hnone : s.inRequest = some x := hx
    rw [hreq] at hnone
    cases hnone
  case told =>
    have htold := h.told
    rw [owed_of_none hreq] at htold
    rw [owed_of_none (s := s.pend c r reason) hreq]
    exact htold
  case recorded =>
    intro x hx
    rcases List.mem_append.mp hx with hx | hx
    · exact h.recorded x hx
    · rw [List.mem_singleton.mp hx]
      exact setState_self ..

theorem SoundOn.clientRequest (h : Sound s)
    (hrec : s.obj.statusNotficationPending = true → s.obj.state c r = .pending) :
    Sound (s.clientRequest c r) := by
  unfold Sys.clientRequest
  split
  next hflag =>
    refine ⟨h.owner, h.noWait, h.flag, h.requester, h.told, fun x hx => ?_⟩
    rcases List.mem_append.mp hx with hx | hx
    · exact h.recorded x hx
    · rw [List.mem_singleton.mp hx]
      exact hrec hflag
  next hflag =>
    have hreq := h.not_pending hflag
    split
    · exact h
    next hown =>
      split
      next hdisabled => exact h.pend hreq hown (fun _ => hdisabled) _
      next henabled =>
        split
        next hfree =>
          -- the resource is free
          refine ⟨fun r' => ?_, fun r' _ => ?_, h.flag, ?_, ?_, h.recorded⟩
          · by_cases hr : r' = r
            · subst hr
              exact (h.owner r').give hfree c
            · exact ((setState_sameAt _ c .running hr).trans (setRunning_sameAt _ _ hr)).owner
                (h.owner r')
          · by_cases hr : r' = r
            · subst hr
              intro hnone
              rw [setRunning_self] at hnone
              cases hnone
            · exact ((setState_sameAt _ c .running hr).trans (setRunning_sameAt _ _ hr)).noWait
                (h.noWait r' trivial)
          · intro x hx
            have hnone : s.inRequest = some x := hx
            rw [hreq] at hnone
            cases hnone
          · have htold := h.told
            rw [owed_of_none hreq, List.append_nil] at htold
            rw [owed, hreq]
            simpa using htold.append_right [(c, r)]
        next running hrun =>
          have hbusy : s.obj.runningClient r = none → s.obj.isEnabled r c = false := by
            rw [hrun]
            exact nofun
          split
          · exact h.pend hreq hown hbusy _
          · split
            · exact h.pend hreq hown hbusy _
            · split
              · exact h.pend hreq hown hbusy _
              · -- the running client is going to abort
                have hne : running ≠ c := by
                  rintro rfl
                  exact hown hrun
                have hstate : ((s.obj.setState c r .pending).setState running r .aborting).state c r =
                    .pending := by
                  rw [setState_of_ne _ _ fun he => hne (congrArg Prod.fst he).symm, setState_self]
                refine ⟨fun r' => ?_, fun r' _ => ?_, rfl, fun x hx => ?_, ?_, h.recorded⟩
                · by_cases hr : r' = r
                  · subst hr
                    intro c'
                    by_cases hcr : c' = running
                    · subst hcr
                      exact iff_of_true (Or.inr (setState_self ..)) hrun
                    · have hpending : Owner (s.obj.setState c r' .pending) r' :=
                        (h.owner r').setState hown ⟨nofun, nofun⟩
                      have hother := hpending c'
                      rw [← setState_of_ne (c := running) (r := r') _ .aborting
                        fun he => hcr (congrArg Prod.fst he)] at hother
                      exact hother
                  · exact ((setState_sameAt _ c .pending hr).trans
                      (setState_sameAt _ running .aborting hr)).owner (h.owner r')
                · by_cases hr : r' = r
                  · subst hr
                    intro hnone
                    have hnone' : s.obj.runningClient r' = none := hnone
                    rw [hrun] at hnone'
                    cases hnone'
                  · exact ((setState_sameAt _ c .pending hr).trans
                      (setState_sameAt _ running .aborting hr)).noWait (h.noWait r' trivial)
                · cases hx
                  exact Or.inr ⟨hstate, Bool.of_not_eq_false henabled⟩
                · have htold := h.told
                  rw [owed_of_none hreq] at htold
                  have howed : owed { s with
                      obj := { (s.obj.setState c r .pending).setState running r .aborting with
                        statusNotficationPending := true }
                      inRequest := some (c, r) } = [] := by
                    rw [owed]
                    simp [hstate]
                  rw [howed]
                  exact htold

theorem SoundOn.abortReturn (h : Sound s) (hreq : s.inRequest = some (c, r)) :
    Sound (s.abortReturn c r) := by
  have htold := h.told
  rw [owed, hreq] at htold
  unfold Sys.abortReturn
  dsimp only
  rcases h.requester (c, r) hreq with hrun | ⟨hpend, -⟩
  · rw [if_pos hrun]
    refine ⟨h.owner, h.noWait, rfl, nofun, ?_, h.recorded⟩
    simpa [owed, hrun] using htold
  · have hnot : s.obj.state c r ≠ .running := by
      rw [hpend]
      exact nofun
    rw [if_neg hnot]
    refine ⟨h.owner, h.noWait, rfl, nofun, ?_, fun x hx => ?_⟩
    · simpa [owed, hnot, answerPend] using htold
    · rcases List.mem_append.mp hx with hx | hx
      · exact h.recorded x hx
      · rw [List.mem_singleton.mp hx]
        exact hpend

/-! ## Grants -/

/-- The grant of a free resource leaves nobody waiting for it. Within a request it has to go to the
client that requests. -/
theorem SoundOn.grantHighest (h : SoundOn P s) (hfree : s.obj.runningClient r = none)
    (hwho : ∀ x ∈ s.inRequest, ∀ c, s.obj.scrFindHighest .pending r .appScan = some c → (c, r) = x) :
    SoundOn (fun r' => P r' ∨ r' = r) (s.grantHighest r) := by
  unfold Sys.grantHighest
  split
  next hnone =>
    refine ⟨h.owner, fun r' hr => ?_, h.flag, h.requester, h.told, h.recorded⟩
    rcases hr with hr | rfl
    · exact h.noWait r' hr
    · exact fun _ c hc => scrFindHighest_none hnone (Nat.zero_le _) hc
  next c hfound =>
    obtain ⟨-, henabled, hpend⟩ := scrFindHighest_some hfound
    refine ⟨fun r' => ?_, fun r' hr => ?_, h.flag, fun x hx => ?_, ?_, h.recorded⟩
    · by_cases hr : r' = r
      · subst hr
        exact (h.owner r').give hfree c
      · exact (grant_sameAt s.obj c hr).owner (h.owner r')
    · by_cases hrr : r' = r
      · subst hrr
        intro hnone
        have hrun : (s.obj.grant c r').runningClient r' = some c := setRunning_self ..
        rw [hrun] at hnone
        cases hnone
      · exact (grant_sameAt s.obj c hrr).noWait (h.noWait r' (hr.resolve_right hrr))
    · rw [← hwho x hx c hfound]
      exact Or.inl (setState_self ..)
    · have htold := h.told
      cases hreq : s.inRequest with
      | none =>
        have hflag : s.obj.statusNotficationPending = false := by rw [h.flag, hreq]; rfl
        rw [owed_of_none hreq, List.append_nil] at htold
        simp only [owed, hflag, Option.toList_none, List.filter_nil, List.append_nil,
          Bool.false_eq_true, if_false]
        exact htold.append_right [(c, r)]
      | some x =>
        have hflag : s.obj.statusNotficationPending = true := by rw [h.flag, hreq]; rfl
        obtain rfl := hwho x hreq c hfound
        have hrun : (s.obj.grant c r).state c r = .running := setState_self ..
        rw [owed, hreq] at htold
        have hold : s.told.Perm s.granted := by simpa [hpend] using htold
        rw [owed]
        simpa only [hreq, hflag, hrun, Option.toList_some, decide_true, List.filter_cons_of_pos,
          List.filter_nil, if_true] using hold.append_right [(c, r)]

/-! ## Completions -/

theorem SoundOn.withObj {Q : EScrResourceId → Prop} (h : SoundOn P s) {obj : TScr}
    (howner : ∀ r, Owner obj r) (hwait : ∀ r, Q r → NoWait obj r)
    (hflag : obj.statusNotficationPending = s.obj.statusNotficationPending)
    (hkept : ∀ x ∈ s.inRequest, obj.state x.1 x.2 = s.obj.state x.1 x.2 ∧
      obj.isEnabled x.2 x.1 = s.obj.isEnabled x.2 x.1) : SoundOn Q { s with obj := obj } := by
  refine ⟨howner, hwait, hflag.trans h.flag, fun x hx => ?_, ?_, h.recorded⟩
  · have hreq := h.requester x hx
    obtain ⟨hstate, henabled⟩ := hkept x hx
    rw [← hstate, ← henabled] at hreq
    exact hreq
  · have howed : owed { s with obj := obj } = s.owed := by
      rw [owed, owed]
      refine List.filter_congr fun x hx => ?_
      exact congrArg (fun st => decide (st = EScrClientState.running))
        (hkept x (Option.mem_toList.mp hx)).1
    rw [howed]
    exact h.told

theorem SoundOn.idle (h : Sound s) (hne : ∀ x ∈ s.inRequest, x ≠ (c, r))
    (hown : s.obj.runningClient r ≠ some c) :
    Sound { s with obj := (s.obj.setState c r .idle).setReason c r .none } := by
  refine h.withObj (fun r' => ?_) (fun r' _ => ?_) rfl fun x hx => ⟨setState_of_ne _ _ (hne x hx), rfl⟩
  · by_cases hr : r' = r
    · subst hr
      exact (h.owner r').setState hown ⟨nofun, nofun⟩
    · exact (setState_sameAt s.obj c .idle hr).owner (h.owner r')
  · by_cases hr : r' = r
    · subst hr
      intro hfree c' hp
      refine h.noWait r' trivial hfree c' ?_
      by_cases hcc : c' = c
      · subst hcc
        have hidle : (s.obj.setState c' r' .idle).state c' r' = .pending := hp
        rw [setState_self] at hidle
        cases hidle
      · rw [← setState_of_ne s.obj .idle fun he => hcc (congrArg Prod.fst he)]
        exact hp
    · exact (setState_sameAt s.obj c .idle hr).noWait (h.noWait r' trivial)

theorem SoundOn.release (h : Sound s) (hne : ∀ x ∈ s.inRequest, x ≠ (c, r))
    (hown : s.obj.runningClient r = some c) : SoundOn (fun r' => r' ≠ r) { s with
      obj := ((s.obj.setState c r .idle).setReason c r .none).setRunning r none } := by
  have hsame : ∀ {r'}, r' ≠ r →
      SameAt r' s.obj (((s.obj.setState c r .idle).setReason c r .none).setRunning r none) :=
    fun hr => (setState_sameAt s.obj c .idle hr).trans
      ⟨fun _ => rfl, setRunning_of_ne _ _ hr, fun _ => rfl⟩
  refine h.withObj (fun r' => ?_) (fun r' hr => (hsame hr).noWait (h.noWait r' trivial)) rfl
    fun x hx => ⟨setState_of_ne _ _ (hne x hx), rfl⟩
  by_cases hr : r' = r
  · subst hr
    exact (h.owner r').release hown
  · exact (hsame hr).owner (h.owner r')

/-! ## Steps -/

/-- What a step asks while an abort callback runs: who requests is recorded as pending; the client
whose request is in progress is not completed; and a completion that frees a resource leaves nobody
waiting for it. -/
def Orderly (s : Sys) : Op → Prop
  | .clientRequest client eResource =>
    s.inRequest ≠ none → s.obj.state client eResource = .pending
  | .clientComplete client eResource => ∀ x ∈ s.inRequest, x ≠ (client, eResource) ∧
    (s.obj.runningClient eResource = some client →
      ∀ c ∈ clients, s.obj.isEnabled eResource c = true → s.obj.state c eResource = .pending →
        eResource = x.2 ∧ c.prio ≤ x.1.prio)
  | _ => True

instance (s : Sys) : (op : Op) → Decidable (Orderly s op)
  | .clientRequest _ _ => inferInstanceAs (Decidable (_ → _))
  | .clientComplete _ _ => inferInstanceAs (Decidable (∀ x ∈ s.inRequest, _ ∧ _))
  | .setGroup _ => isTrue trivial
  | .setMode _ => isTrue trivial
  | .abortReturn => isTrue trivial

theorem SoundOn.clientComplete (h : Sound s) (hord : Orderly s (.clientComplete c r)) :
    Sound (s.clientComplete c r) := by
  have hne : ∀ x ∈ s.inRequest, x ≠ (c, r) := fun x hx => (hord x hx).1
  unfold Sys.clientComplete
  dsimp only
  split
  next hown =>
    have hrun : s.obj.runningClient r = some c := hown
    have hrel := (h.release hne hrun).grantHighest (setRunning_self ..) ?_
    · refine ⟨hrel.owner, fun r' _ => hrel.noWait r' ?_, hrel.flag, hrel.requester, hrel.told,
        hrel.recorded⟩
      by_cases hr : r' = r
      · exact Or.inr hr
      · exact Or.inl hr
    · -- within a request the resource goes to the requester
      intro x hx c' hfound
      obtain ⟨-, henabled, hpend⟩ := scrFindHighest_some hfound
      have hcc : c' ≠ c := by
        rintro rfl
        have hidle : (s.obj.setState c' r .idle).state c' r = .pending := hpend
        rw [setState_self] at hidle
        cases hidle
      have hpend' : s.obj.state c' r = .pending := by
        rw [← setState_of_ne s.obj .idle fun he => hcc (congrArg Prod.fst he)]
        exact hpend
      obtain ⟨hr, hle⟩ := (hord x hx).2 hrun c' (mem_clients c') henabled hpend'
      obtain ⟨c₀, r₀⟩ := x
      obtain rfl : r = r₀ := hr
      rcases h.requester _ hx with hrunning | ⟨hpend₀, henabled₀⟩
      · have hown₀ := (h.owner r c₀).mp (Or.inl hrunning)
        rw [hrun] at hown₀
        exact absurd (congrArg (fun c => (c, r)) (Option.some.inj hown₀).symm) (hne _ hx)
      · have hge : c₀.prio ≤ c'.prio := by
          refine scrFindHighest_highest hfound henabled₀ ?_
          have hc₀ : (s.obj.setState c r .idle).state c₀ r = s.obj.state c₀ r :=
            setState_of_ne _ _ (hne _ hx)
          exact hc₀.trans hpend₀
        rw [prio_injective (Nat.le_antisymm hle hge)]
  next hown => exact h.idle hne hown

theorem SoundOn.regroup (h : SoundOn P s) (hreq : s.inRequest = none) (r : EScrResourceId) :
    SoundOn (fun r' => P r' ∨ r' = r) (s.regroup r) := by
  have hesc : SoundOn P { s with obj := s.obj.escalate r } :=
    h.withObj h.owner h.noWait rfl fun x hx => ⟨rfl, rfl⟩
  unfold Sys.regroup
  dsimp only
  split
  next hfree =>
    refine hesc.grantHighest hfree fun x hx => ?_
    have hx' : s.inRequest = some x := hx
    rw [hreq] at hx'
    cases hx'
  next hbusy =>
    refine ⟨hesc.owner, fun r' hr => ?_, hesc.flag, hesc.requester, hesc.told, hesc.recorded⟩
    rcases hr with hr | rfl
    · exact hesc.noWait r' hr
    · exact fun hfree => absurd hfree hbusy

theorem regroup_inRequest (s : Sys) (r : EScrResourceId) :
    (s.regroup r).inRequest = s.inRequest := by
  unfold regroup
  dsimp only
  split
  · unfold grantHighest
    split <;> rfl
  · rfl

theorem SoundOn.setGroup (h : Sound s) (hreq : s.inRequest = none) (newGroup : EScrGroupId) :
    Sound (s.setGroup newGroup) := by
  have hnone : SoundOn (fun _ => False)
      { s with obj := { s.obj with currentGroup := newGroup } } := by
    refine h.withObj h.owner (fun _ hf => hf.elim) rfl fun x hx => ?_
    rw [hreq] at hx
    cases hx
  have hone := hnone.regroup hreq .servingChannel
  have htwo := hone.regroup ((regroup_inRequest _ _).trans hreq) .periodicScan
  refine ⟨htwo.owner, fun r _ => htwo.noWait r ?_, htwo.flag, htwo.requester, htwo.told,
    htwo.recorded⟩
  cases r with
  | servingChannel => exact Or.inl (Or.inr rfl)
  | periodicScan => exact Or.inr rfl

theorem SoundOn.setMode (h : Sound s) (newMode : EScrModeId) : Sound (s.setMode newMode) := by
  have henabled : ∀ r c, ({ s.obj with currentMode := newMode } : TScr).isEnabled r c =
      s.obj.isEnabled r c := fun r c => clientStatus_mode r newMode s.obj.currentMode _ c
  refine h.withObj h.owner (fun r _ => ?_) rfl fun x _ => ⟨rfl, henabled x.2 x.1⟩
  have hsame : SameAt r s.obj { s.obj with currentMode := newMode } :=
    ⟨fun _ => rfl, rfl, henabled r⟩
  exact hsame.noWait (h.noWait r trivial)

theorem SoundOn.step (h : Sound s) {op : Op} (hord : Orderly s op) (hs : Sys.step s op = some s') :
    Sound s' := by
  cases op with
  | clientRequest c r =>
    cases hs
    refine h.clientRequest fun hflag => hord fun hnone => ?_
    rw [h.flag, hnone] at hflag
    cases hflag
  | clientComplete c r =>
    cases hs
    exact h.clientComplete hord
  | setGroup newGroup =>
    obtain ⟨hreq, ⟨⟩⟩ := Option.ite_none_right_eq_some.mp hs
    exact h.setGroup hreq newGroup
  | setMode newMode =>
    obtain ⟨-, ⟨⟩⟩ := Option.ite_none_right_eq_some.mp hs
    exact h.setMode newMode
  | abortReturn =>
    obtain ⟨x, hreq, rfl⟩ := Option.map_eq_some_iff.mp hs
    exact h.abortReturn hreq

theorem SoundOn.init : Sound init where
  owner _ _ := iff_of_false (fun he => he.elim nofun nofun) nofun
  noWait _ _ _ _ := nofun
  flag := rfl
  requester := nofun
  told := List.Perm.refl _
  recorded := nofun

/-! ## Runs -/

/-- What the module guarantees. -/
structure Arbitrated (s : Sys) : Prop where
  /-- At most one client runs or aborts on a resource, and it is the running client. -/
  owner : ∀ r c, s.obj.state c r = .running ∨ s.obj.state c r = .aborting ↔
    s.obj.runningClient r = some c
  /-- Every client that became RUNNING was told so, once for each time. -/
  told : s.inRequest = none → s.told.Perm s.granted
  /-- Every client answered PEND was recorded as pending. -/
  recorded : ∀ x ∈ s.pended, x.2 = .pending
  /-- No enabled client is pending on a free resource. -/
  noWait : s.inRequest = none → ∀ r c, s.obj.runningClient r = none → s.obj.state c r = .pending →
    s.obj.isEnabled r c = false

theorem SoundOn.toArbitrated (h : Sound s) : Arbitrated s where
  owner := h.owner
  told hreq := by
    have htold := h.told
    rw [owed_of_none hreq, List.append_nil] at htold
    exact htold
  recorded := h.recorded
  noWait _ r c hfree hpend := h.noWait r trivial hfree c hpend

/-- **Arbitration**, in every run whose abort callbacks are orderly. -/
theorem arbitrated {ops : List Op} (ha : Along step Orderly init ops)
    (he : exec step init ops = some s) : Arbitrated s :=
  (Along.invariant (I := Sound) (fun _ _ _ h hord hs => h.step hord hs) SoundOn.init ha he).toArbitrated

/-- The application scan runs when a channel switch is requested: it is aborted and completes in its
callback. -/
def switchOps (inCallback : List Op) : List Op :=
  [.setGroup .connected, .clientRequest .appScan .servingChannel,
    .clientRequest .switchChannel .servingChannel] ++ inCallback ++ [.abortReturn]

/-- The channel switch is answered RUN. -/
theorem arbitrated_switch : ∃ s,
    exec step init (switchOps [.clientComplete .appScan .servingChannel]) = some s ∧
      s.told = [(.appScan, .servingChannel), (.switchChannel, .servingChannel)] ∧ Arbitrated s := by
  have hrun : (exec step init (switchOps [.clientComplete .appScan .servingChannel])).map Sys.told =
      some [(.appScan, .servingChannel), (.switchChannel, .servingChannel)] := by
    decide +kernel
  obtain ⟨s, hs, htold⟩ := Option.map_eq_some_iff.mp hrun
  refine ⟨s, hs, htold, arbitrated ?_ hs⟩
  decide +kernel

/-- The aborted scan requests the other resource in its callback: it is answered PEND and stays
idle. -/
theorem request_in_callback_forgotten : ∃ s,
    exec step init (switchOps [.clientComplete .appScan .servingChannel,
      .clientRequest .appScan .periodicScan]) = some s ∧ ¬ Arbitrated s := by
  have hrun : (exec step init (switchOps [.clientComplete .appScan .servingChannel,
      .clientRequest .appScan .periodicScan])).map Sys.pended =
      some [((.appScan, .periodicScan), .idle)] := by
    decide +kernel
  obtain ⟨s, hs, hpended⟩ := Option.map_eq_some_iff.mp hrun
  refine ⟨s, hs, fun h => ?_⟩
  have hrec := h.recorded ((.appScan, .periodicScan), .idle) (by simp [hpended])
  cases hrec

end Sys

end ArchosGpl.Wlan.Scr
