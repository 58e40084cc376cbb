import ArchosGpl.Lib.Trace
import ArchosGpl.Wlan.CmdMBox.Model

/-!
# Results go to the command they belong to

A step is `Settled` if it sends no command while the bus or the firmware is still busy with an
earlier one, which only a restart can have left there.

Results:
* **`results_pair`**: in every run of settled steps, each result the queue takes is that of the
  outstanding command, has been read, and is copied with the length asked for; and the timer runs
  exactly while a command is outstanding and neither its interrupt nor its time-out came.
* **`late_completion`**: after a restart, an interrupt of the earlier command completes the new one
  before it was executed; and a command that timed out is outstanding without a timer.
-/

namespace ArchosGpl.Wlan.CmdMBox

open Lib

/-- A command that was sent and is not completed: its number, the length to read for it, and whether
a completion interrupt or the time-out came since. -/
structure Pending where
  no : ℕ
  uReadLen : UInt32
  seen : Bool
  expired : Bool
  deriving DecidableEq

/-- The timer is due. -/
def Pending.waits (p : Pending) : Bool := !p.seen && !p.expired

/-- The command that was sent last, unless it is completed or given up by a restart, after one more
event. -/
def Event.outstanding (o : Option Pending) : Event → Option Pending
  | .sent no uReadLen => some ⟨no, uReadLen, false, false⟩
  | .completed => o.map fun p => { p with seen := true }
  | .timeOut => o.map fun p => { p with expired := true }
  | .result _ => none
  | .restarted => none
  | _ => o

/-- The command that was sent last, unless it is completed or given up by a restart. -/
def outstanding (log : List Event) : Option Pending := log.foldl Event.outstanding none

@[simp] theorem outstanding_snoc (log : List Event) (e : Event) :
    outstanding (log ++ [e]) = e.outstanding (outstanding log) := by
  simp [outstanding]

/-- A result that the queue takes is that of the outstanding command, has been read, and is copied
with the length asked for. -/
def Pairs (log : List Event) : Event → Prop
  | .result r => ∃ p ∈ outstanding log, r.owner = some p.no ∧ r.answered = true ∧
      ∀ len ∈ r.copied, len = p.uReadLen
  | _ => True

namespace Sys

variable {s t : Sys} {sync : Bool × Bool}

/-- The timer runs exactly while it is due. -/
def TimerDue (s : Sys) : Prop :=
  s.cmdMboxTimer = true ↔ ∃ p ∈ outstanding s.log, p.waits = true

/-- Neither the bus nor the firmware has anything left to do for a command. -/
def Quiet (s : Sys) : Prop := s.bus = [] ∧ s.todo = [] ∧ s.raised = 0

instance (s : Sys) : Decidable s.Quiet := inferInstanceAs (Decidable (_ ∧ _))

/-- Where the outstanding command is: on the bus, at the firmware, before its interrupt, or with its
result on the bus. -/
inductive Stage (s : Sys) (no : ℕ) : Prop
  | writing (len : UInt32) (hbus : s.bus = [.write len, .trigger]) (hcmd : s.cmd.owner = some no)
      (htodo : s.todo = []) (hraised : s.raised = 0)
  | triggering (hbus : s.bus = [.trigger]) (hmbox : s.mbox.owner = some no) (htodo : s.todo = [])
      (hraised : s.raised = 0)
  | executing (c : CommandT) (hbus : s.bus = []) (htodo : s.todo = [c])
      (howner : c.owner = some no) (hraised : s.raised = 0)
  | executed (hbus : s.bus = []) (htodo : s.todo = []) (hmbox : s.mbox.owner = some no)
      (hans : s.mbox.answered = true) (hraised : s.raised = 1)
  | reading (hbus : s.bus = [.read s.uReadLen]) (htodo : s.todo = [])
      (hmbox : s.mbox.owner = some no) (hans : s.mbox.answered = true) (hraised : s.raised = 0)
      (htimer : s.cmdMboxTimer = false)

/-- The command `p` is outstanding. -/
structure Sent (s : Sys) (p : Pending) : Prop where
  inProgress : s.bCmdInProgress = true
  readLen : s.uReadLen = p.uReadLen + headerLen
  fits : p.uReadLen.toNat ≤ maxCmdParams
  outstanding : outstanding s.log = some p
  nonempty : 0 < s.uNumberOfCommandInQueue
  stage : s.Stage p.no

/-- No command is outstanding, and the timer is stopped. -/
structure Free (s : Sys) : Prop where
  inProgress : s.bCmdInProgress = false
  timer : s.cmdMboxTimer = false
  outstanding : outstanding s.log = none

structure Inv (s : Sys) : Prop where
  timer : s.TimerDue
  pairs : Each Pairs s.log
  idle : s.state = .idle → s.Free ∧ s.uNumberOfCommandInQueue = 0
  wait : s.state = .waitForCompletion →
    (∃ p, s.Sent p) ∨ (s.inCallback = some .complete ∧ s.Free ∧ s.Quiet)

theorem state_cases (s : Sys) : s.state = .idle ∨ s.state = .waitForCompletion := by
  cases s.state with
  | idle => exact Or.inl rfl
  | waitForCompletion => exact Or.inr rfl

theorem Free.timerDue (h : s.Free) : s.TimerDue := by
  simp [TimerDue, h.timer, h.outstanding]

/-! ## Sending -/

theorem sendCommand_of_inProgress (h : s.bCmdInProgress = true) (node : CmdQueueNode)
    (w l : UInt32) : s.sendCommand sync node w l = s := by
  rw [sendCommand, if_pos h]

theorem Inv.sendCommand_of_inProgress (hi : s.Inv) (h : s.bCmdInProgress = true)
    (node : CmdQueueNode) (w l : UInt32) : (s.sendCommand sync node w l).Inv := by
  rw [Sys.sendCommand_of_inProgress h]
  exact hi

theorem sent_sendCommand (sync : Bool × Bool) (hf : s.Free) (hq : s.Quiet)
    (hn : 0 < s.uNumberOfCommandInQueue) (node : CmdQueueNode) (w l : UInt32)
    (hl : l.toNat ≤ maxCmdParams) :
    (s.sendCommand sync node w l).Sent ⟨node.no, l, false, false⟩ ∧
      (s.sendCommand sync node w l).cmdMboxTimer = true := by
  obtain ⟨hb, ht, hr⟩ := hq
  obtain ⟨now, trig⟩ := sync
  have hout : ∀ log, outstanding (log ++ [Event.sent node.no l]) =
      some ⟨node.no, l, false, false⟩ := fun log => by simp [Event.outstanding]
  cases now with
  | false =>
    simp only [sendCommand, hf.inProgress, transact, hb, note]
    exact ⟨⟨rfl, rfl, hl, hout _, hn, .writing _ rfl rfl ht hr⟩, rfl⟩
  | true =>
    cases trig with
    | false =>
      simp only [sendCommand, hf.inProgress, transact, perform, hb, note]
      exact ⟨⟨rfl, rfl, hl, hout _, hn, .triggering rfl rfl ht hr⟩, rfl⟩
    | true =>
      simp only [sendCommand, hf.inProgress, transact, perform, hb, ht, note]
      exact ⟨⟨rfl, rfl, hl, hout _, hn, .executing _ rfl rfl rfl hr⟩, rfl⟩

theorem sendCommand_state (node : CmdQueueNode) (w l : UInt32) :
    (s.sendCommand sync node w l).state = s.state := by
  simp only [sendCommand, transact]
  split
  · rfl
  · split <;> split <;> rfl

theorem sendCommand_log (h : s.bCmdInProgress = false) (node : CmdQueueNode) (w l : UInt32) :
    (s.sendCommand sync node w l).log = s.log ++ [.sent node.no l] := by
  simp only [sendCommand, h, transact]
  split
  · contradiction
  · split <;> split <;> rfl

theorem lens_fits (node : CmdQueueNode) : (CmdQueueNode.lens node).2.toNat ≤ maxCmdParams := by
  unfold CmdQueueNode.lens
  split
  · exact node.fits
  · exact node.fits
  · exact Nat.zero_le _

theorem run_of_idle (h : s.state = .idle) :
    s.run sync = ({ s with state := .waitForCompletion, bAwake := true } : Sys).sendCommand sync
      (s.aCmdQueue s.head) (CmdQueueNode.lens (s.aCmdQueue s.head)).1
      (CmdQueueNode.lens (s.aCmdQueue s.head)).2 := by
  rw [run, h]

theorem run_of_wait (h : s.state = .waitForCompletion) : s.run sync = s := by
  rw [run, h]

theorem inv_run_of_wait (h : s.Inv) (hs : s.state = .waitForCompletion) : (s.run sync).Inv := by
  rw [run_of_wait hs]
  exact h

theorem inv_run (hs : s.state = .idle) (hp : Each Pairs s.log) (hf : s.Free) (hq : s.Quiet)
    (hn : 0 < s.uNumberOfCommandInQueue) : (s.run sync).Inv := by
  rw [run_of_idle hs]
  generalize hs' : ({ s with state := .waitForCompletion, bAwake := true } : Sys) = t
  have hf' : t.Free := by
    subst hs'
    exact ⟨hf.inProgress, hf.timer, hf.outstanding⟩
  have hq' : t.Quiet := by
    subst hs'
    exact hq
  have hn' : 0 < t.uNumberOfCommandInQueue := by
    subst hs'
    exact hn
  have hw : t.state = .waitForCompletion := by
    subst hs'
    rfl
  have hp' : Each Pairs t.log := by
    subst hs'
    exact hp
  have hfit := lens_fits (s.aCmdQueue s.head)
  generalize s.aCmdQueue s.head = node at hfit ⊢
  generalize (CmdQueueNode.lens node).1 = w
  generalize (CmdQueueNode.lens node).2 = l at hfit ⊢
  obtain ⟨hsent, htimer⟩ := sent_sendCommand sync hf' hq' hn' node w l hfit
  have hst : (t.sendCommand sync node w l).state = .waitForCompletion :=
    (sendCommand_state node w l).trans hw
  refine ⟨?_, ?_, fun h => ?_, fun _ => Or.inl ⟨_, hsent⟩⟩
  · exact ⟨fun _ => ⟨_, hsent.outstanding, rfl⟩, fun _ => htimer⟩
  · rw [sendCommand_log hf'.inProgress]
    exact each_snoc.mpr ⟨hp', trivial⟩
  · rw [hst] at h
    cases h

/-! ## Results -/

theorem outstanding_called (log : List Event) (r : Report) (no : ℕ) (own : Bool) (st : CbStatus) :
    outstanding (log ++ [.result r, .called no own st]) = none := by
  simp [outstanding, Event.outstanding]

theorem each_called {log : List Event} {r : Report} {no : ℕ} {own : Bool} {st : CbStatus}
    (h : Each Pairs log) (hr : Pairs log (.result r)) :
    Each Pairs (log ++ [.result r, .called no own st]) := by
  rw [← List.singleton_append, ← List.append_assoc]
  exact each_snoc.mpr ⟨each_snoc.mpr ⟨h, hr⟩, trivial⟩

theorem inv_transferComplete_idle (hs : s.state = .idle) (hp : Each Pairs s.log)
    (ht : s.cmdMboxTimer = false) (ho : outstanding s.log = none)
    (hn : s.uNumberOfCommandInQueue = 0) : s.transferComplete.Inv := by
  have he : s.transferComplete = ({ s with bCmdInProgress := false } : Sys).note .noSuchEvent := by
    simp only [transferComplete, complete, hs]
  rw [he]
  have hf : (({ s with bCmdInProgress := false } : Sys).note .noSuchEvent).Free :=
    ⟨rfl, ht, (outstanding_snoc _ _).trans ho⟩
  refine ⟨hf.timerDue, each_snoc.mpr ⟨hp, trivial⟩, fun _ => ⟨hf, hn⟩, fun h => ?_⟩
  cases hs.symm.trans h

theorem inv_transferComplete (hs : s.state = .waitForCompletion) (hp : Each Pairs s.log)
    (ht : s.cmdMboxTimer = false) (hq : s.Quiet) {p : Pending} (ho : outstanding s.log = some p)
    (hl : s.uReadLen = p.uReadLen + headerLen) (hown : s.result.owner = some p.no)
    (hans : s.result.answered = true) : s.transferComplete.Inv := by
  have hpair : ∀ node, Pairs s.log (.result (s.report node)) := by
    intro node
    refine ⟨p, ho, hown, hans, fun len hlen => ?_⟩
    simp only [report] at hlen
    split at hlen
    · cases hlen
      rw [hl, UInt32.add_sub_cancel]
    · cases hlen
  simp only [transferComplete, complete, hs]
  refine ⟨Free.timerDue ⟨rfl, ht, outstanding_called ..⟩, each_called hp (hpair _), fun h => ?_,
    fun _ => Or.inr ⟨rfl, ⟨rfl, ht, outstanding_called ..⟩, hq⟩⟩
  cases h

theorem not_lt_headerLen {l : UInt32} (hl : l.toNat ≤ maxCmdParams) :
    ¬ l + headerLen < headerLen := by
  rw [UInt32.lt_iff_toNat_lt, UInt32.toNat_add]
  have hlen : headerLen.toNat = 4 := rfl
  have hmax : maxCmdParams = 610 := rfl
  omega

theorem perform_read (s : Sys) (len : UInt32) :
    ∃ c, s.perform (.read len) = { s with result := c } := by
  simp only [perform]
  split
  · exact ⟨s.result, rfl⟩
  · exact ⟨_, rfl⟩

theorem result_of_read {p : Pending} (hl : s.uReadLen = p.uReadLen + headerLen)
    (hfit : p.uReadLen.toNat ≤ maxCmdParams) (hmbox : s.mbox.owner = some p.no)
    (hans : s.mbox.answered = true) : ∃ c, s.perform (.read s.uReadLen) = { s with result := c } ∧
      c.owner = some p.no ∧ c.answered = true := by
  simp only [perform]
  rw [if_neg (hl ▸ not_lt_headerLen hfit)]
  exact ⟨_, rfl, hmbox, hans⟩

theorem commandComplete_cases (s : Sys) (now : Bool) :
    let t : Sys := { s with cmdMboxTimer := false, log := s.log ++ [.completed] }
    (s.bus = [] ∧ s.commandComplete now = (t.perform (.read t.uReadLen)).transferComplete) ∨
      s.commandComplete now = { t with bus := t.bus ++ [.read t.uReadLen] } := by
  simp only [commandComplete, transact]
  split
  · rename_i heq
    split at heq
    · rename_i hb
      obtain ⟨-, rfl⟩ := Prod.mk.inj heq
      exact Or.inl ⟨hb.1, rfl⟩
    · cases heq
  · rename_i heq
    split at heq
    · cases heq
    · obtain ⟨-, rfl⟩ := Prod.mk.inj heq
      exact Or.inr rfl

theorem inv_commandComplete (h : s.Inv) (hcb : s.inCallback = none) (hr : s.raised ≠ 0)
    (now : Bool) : (({ s with raised := s.raised - 1 } : Sys).commandComplete now).Inv := by
  have hp : Each Pairs (s.log ++ [.completed]) := each_snoc.mpr ⟨h.pairs, trivial⟩
  rcases s.state_cases with hst | hst
  · obtain ⟨hf, hn⟩ := h.idle hst
    have ho : outstanding (s.log ++ [.completed]) = none := by
      simp [hf.outstanding, Event.outstanding]
    rcases commandComplete_cases { s with raised := s.raised - 1 } now with ⟨-, he⟩ | he
    · rw [he]
      obtain ⟨c, hc⟩ := perform_read { s with
        raised := s.raised - 1, cmdMboxTimer := false, log := s.log ++ [.completed] } s.uReadLen
      rw [hc]
      exact inv_transferComplete_idle hst hp rfl ho hn
    · rw [he]
      refine ⟨Free.timerDue ⟨hf.inProgress, rfl, ho⟩, hp, fun _ => ⟨⟨hf.inProgress, rfl, ho⟩, hn⟩,
        fun hw => ?_⟩
      cases hst.symm.trans hw
  · rcases h.wait hst with ⟨p, hs⟩ | ⟨hin, -, -⟩
    · have ho : outstanding (s.log ++ [.completed]) = some { p with seen := true } := by
        simp [hs.outstanding, Event.outstanding]
      cases hs.stage with
      | writing _ _ _ _ h0 | triggering _ _ _ h0 | executing _ _ _ _ h0 | reading _ _ _ _ h0 _ =>
        exact absurd h0 hr
      | executed hbus htodo hmbox hans h1 =>
        have h0 : s.raised - 1 = 0 := by rw [h1]
        rcases commandComplete_cases { s with raised := s.raised - 1 } now with ⟨-, he⟩ | he
        · rw [he]
          obtain ⟨c, hc, hown, hans'⟩ := result_of_read (p := p) (s := { s with
            raised := s.raised - 1, cmdMboxTimer := false, log := s.log ++ [.completed] })
            hs.readLen hs.fits hmbox hans
          rw [hc]
          exact inv_transferComplete hst hp rfl ⟨hbus, htodo, h0⟩ ho hs.readLen hown hans'
        · rw [he]
          refine ⟨?_, hp, fun hi => ?_, fun _ => Or.inl ⟨{ p with seen := true },
            hs.inProgress, hs.readLen, hs.fits, ho, hs.nonempty,
            .reading ?_ htodo hmbox hans h0 rfl⟩⟩
          · simp [TimerDue, ho, Pending.waits]
          · cases hst.symm.trans hi
          · change s.bus ++ _ = _
            rw [hbus]
            rfl
    · rw [hcb] at hin
      cases hin

/-! ## The other steps -/

/-- `t` differs from `s` in nothing that the invariant is about, but for events that send and report
nothing, and for commands that are queued while another one is outstanding. -/
structure Keeps (s t : Sys) : Prop where
  timer : t.cmdMboxTimer = s.cmdMboxTimer
  inProgress : t.bCmdInProgress = s.bCmdInProgress
  readLen : t.uReadLen = s.uReadLen
  state : t.state = s.state
  cmd : t.cmd = s.cmd
  bus : t.bus = s.bus
  mbox : t.mbox = s.mbox
  todo : t.todo = s.todo
  raised : t.raised = s.raised
  outstanding : outstanding t.log = outstanding s.log
  pairs : Each Pairs s.log → Each Pairs t.log
  count : s.uNumberOfCommandInQueue ≤ t.uNumberOfCommandInQueue
  empty : s.state = .idle → t.uNumberOfCommandInQueue = s.uNumberOfCommandInQueue

theorem Stage.congr {no : ℕ} (h : s.Stage no) (hl : t.uReadLen = s.uReadLen)
    (hc : t.cmd = s.cmd) (hb : t.bus = s.bus) (hm : t.mbox = s.mbox) (ht : t.todo = s.todo)
    (hr : t.raised = s.raised) (htm : s.cmdMboxTimer = false → t.cmdMboxTimer = false) :
    t.Stage no := by
  cases h with
  | writing len hbus hcmd htodo hraised =>
    exact .writing len (hb.trans hbus) (hc ▸ hcmd) (ht.trans htodo) (hr.trans hraised)
  | triggering hbus hmbox htodo hraised =>
    exact .triggering (hb.trans hbus) (hm ▸ hmbox) (ht.trans htodo) (hr.trans hraised)
  | executing c hbus htodo howner hraised =>
    exact .executing c (hb.trans hbus) (ht.trans htodo) howner (hr.trans hraised)
  | executed hbus htodo hmbox hans hraised =>
    exact .executed (hb.trans hbus) (ht.trans htodo) (hm ▸ hmbox) (hm ▸ hans) (hr.trans hraised)
  | reading hbus htodo hmbox hans hraised htimer =>
    exact .reading (hl ▸ hb.trans hbus) (ht.trans htodo) (hm ▸ hmbox) (hm ▸ hans)
      (hr.trans hraised) (htm htimer)

theorem Free.keeps (h : s.Free) (hk : Keeps s t) : t.Free where
  inProgress := hk.inProgress.trans h.inProgress
  timer := hk.timer.trans h.timer
  outstanding := hk.outstanding.trans h.outstanding

theorem Sent.keeps {p : Pending} (h : s.Sent p) (hk : Keeps s t) : t.Sent p where
  inProgress := hk.inProgress.trans h.inProgress
  readLen := hk.readLen.trans h.readLen
  fits := h.fits
  outstanding := hk.outstanding.trans h.outstanding
  nonempty := Nat.lt_of_lt_of_le h.nonempty hk.count
  stage := h.stage.congr hk.readLen hk.cmd hk.bus hk.mbox hk.todo hk.raised
    hk.timer.trans

theorem TimerDue.keeps (h : s.TimerDue) (hk : Keeps s t) : t.TimerDue := by
  unfold TimerDue
  rw [hk.timer, hk.outstanding]
  exact h

theorem Inv.keeps (h : s.Inv) (hk : Keeps s t)
    (hcb : s.inCallback = some .complete → t.inCallback = some .complete) : t.Inv where
  timer := h.timer.keeps hk
  pairs := hk.pairs h.pairs
  idle ht := by
    have hs := hk.state.symm.trans ht
    obtain ⟨hf, hn⟩ := h.idle hs
    exact ⟨hf.keeps hk, (hk.empty hs).trans hn⟩
  wait ht := by
    rcases h.wait (hk.state.symm.trans ht) with ⟨p, hs⟩ | ⟨hin, hf, hb, htodo, hr⟩
    · exact Or.inl ⟨p, hs.keeps hk⟩
    · exact Or.inr ⟨hcb hin, hf.keeps hk, hk.bus.trans hb, hk.todo.trans htodo,
        hk.raised.trans hr⟩

theorem keeps_note {e : Event} (ho : e.outstanding (outstanding s.log) = outstanding s.log)
    (hp : Pairs s.log e) : Keeps s (s.note e) :=
  ⟨rfl, rfl, rfl, rfl, rfl, rfl, rfl, rfl, rfl, (outstanding_snoc _ _).trans ho,
    fun h => each_snoc.mpr ⟨h, hp⟩, Nat.le_refl _, fun _ => rfl⟩

theorem keeps_calls (s : Sys) (n : ℕ) : Keeps s { s with calls := n } :=
  ⟨rfl, rfl, rfl, rfl, rfl, rfl, rfl, rfl, rfl, rfl, id, Nat.le_refl _, fun _ => rfl⟩

theorem keeps_enabled (s : Sys) (b : Bool) : Keeps s { s with bMboxEnabled := b } :=
  ⟨rfl, rfl, rfl, rfl, rfl, rfl, rfl, rfl, rfl, rfl, id, Nat.le_refl _, fun _ => rfl⟩

theorem keeps_endReconfig (s : Sys) (i : ℕ) : Keeps s (s.endReconfig i) := by
  unfold endReconfig
  split
  · exact ⟨rfl, rfl, rfl, rfl, rfl, rfl, rfl, rfl, rfl, outstanding_snoc _ _,
      fun h => each_snoc.mpr ⟨h, trivial⟩, Nat.le_refl _, fun _ => rfl⟩
  · exact ⟨rfl, rfl, rfl, rfl, rfl, rfl, rfl, rfl, rfl, rfl, id, Nat.le_refl _, fun _ => rfl⟩

theorem inv_push {dbg : Bool} {r : Request} (h : s.Inv)
    (hq : s.bMboxEnabled = true → s.state = .idle → s.Quiet) : (s.push dbg sync r).Inv := by
  unfold push
  split
  · rename_i hen
    split
    · exact h.keeps (keeps_note rfl trivial) id
    · have hp : Each Pairs (s.log ++ [.queued s.calls]) := each_snoc.mpr ⟨h.pairs, trivial⟩
      have ho : outstanding (s.log ++ [.queued s.calls]) = outstanding s.log :=
        outstanding_snoc _ _
      rcases s.state_cases with hst | hst
      · obtain ⟨hf, hn⟩ := h.idle hst
        rw [if_pos (by rw [hn])]
        exact inv_run hst hp ⟨hf.inProgress, hf.timer, ho.trans hf.outstanding⟩ (hq hen hst)
          (Nat.succ_pos _)
      · have hk : Inv { s with
            aCmdQueue := Function.update s.aCmdQueue s.tail { r with no := s.calls }
            tail := if s.tail + 1 = queueDepth then 0 else s.tail + 1
            uNumberOfCommandInQueue := s.uNumberOfCommandInQueue + 1
            log := s.log ++ [.queued s.calls] } :=
          h.keeps ⟨rfl, rfl, rfl, rfl, rfl, rfl, rfl, rfl, rfl, ho, fun _ => hp, Nat.le_succ _,
            fun hi => by cases hst.symm.trans hi⟩ id
        dsimp only
        split
        · exact inv_run_of_wait hk hst
        · exact hk
  · exact h.keeps (keeps_note rfl trivial) id

theorem inv_queueCommand {dbg : Bool} {r : Request} (h : s.Inv)
    (hq : s.bErrorFlag = false → s.bMboxEnabled = true → s.state = .idle → s.Quiet) :
    (s.queueCommand dbg sync r).Inv := by
  unfold queueCommand
  split
  · have hr : (s.note (.refused s.calls)).Inv := h.keeps (keeps_note rfl trivial) id
    exact hr.keeps (keeps_calls _ _) id
  · rename_i he
    exact (inv_push h (hq (eq_false_of_ne_true he))).keeps (keeps_calls _ _) id

/-- The queue goes on after a callback: it sends its next command, unless the callback restarted the
driver and queued one. -/
theorem inv_afterComplete (h : s.Inv) : (s.afterComplete sync).Inv := by
  unfold afterComplete
  dsimp only
  rcases s.state_cases with hst | hst
  · obtain ⟨hf, hn⟩ := h.idle hst
    rw [if_neg (by simp [hn])]
    have hf' : Free { s with state := .idle, inCallback := none, bAwake := false } :=
      ⟨hf.inProgress, hf.timer, hf.outstanding⟩
    exact ⟨hf'.timerDue, h.pairs, fun _ => ⟨hf', hn⟩, fun hw => by cases hw⟩
  · rcases h.wait hst with ⟨p, hs⟩ | ⟨-, hf, hq⟩
    · have hk : Keeps s { s with state := .waitForCompletion, inCallback := none, bAwake := true } :=
        ⟨rfl, rfl, rfl, hst.symm, rfl, rfl, rfl, rfl, rfl, rfl, id, Nat.le_refl _, fun _ => rfl⟩
      have hi : Inv { s with state := .waitForCompletion, inCallback := none, bAwake := true } :=
        ⟨h.timer.keeps hk, h.pairs, fun hi => (by cases hi), fun _ => Or.inl ⟨p, hs.keeps hk⟩⟩
      rw [if_pos hs.nonempty, run_of_idle rfl]
      exact hi.sendCommand_of_inProgress hs.inProgress ..
    · split
      · rename_i hn
        exact inv_run rfl h.pairs ⟨hf.inProgress, hf.timer, hf.outstanding⟩ hq hn
      · rename_i hn
        have hf' : Free { s with state := .idle, inCallback := none, bAwake := false } :=
          ⟨hf.inProgress, hf.timer, hf.outstanding⟩
        exact ⟨hf'.timerDue, h.pairs, fun _ => ⟨hf', Nat.eq_zero_of_not_pos hn⟩,
          fun hw => by cases hw⟩

theorem saveNodes_eq (s : Sys) (first n : ℕ) : ∃ q k,
    s.saveNodes first n = { s with aRecoveryQueue := q, uNumberOfRecoveryNodes := k } := by
  induction n generalizing s first with
  | zero => exact ⟨s.aRecoveryQueue, s.uNumberOfRecoveryNodes, rfl⟩
  | succ n ih =>
    obtain ⟨q, k, he⟩ := ih (s.saveNode first) (if first + 1 = queueDepth then 0 else first + 1)
    refine ⟨q, k, he.trans ?_⟩
    unfold saveNode
    dsimp only
    split <;> rfl

theorem inv_restart (h : s.Inv) : s.restart.Inv := by
  unfold restart
  dsimp only
  obtain ⟨q, k, he⟩ := saveNodes_eq { s with
    cmdMboxTimer := false, bCmdInProgress := false, uReadLen := 0, uWriteLen := 0, state := .idle
    bAwake := false, uNumberOfRecoveryNodes := 0 } s.head s.uNumberOfCommandInQueue
  rw [he]
  have ho : outstanding (s.log ++ [.restarted]) = none := outstanding_snoc _ _
  exact ⟨Free.timerDue ⟨rfl, rfl, ho⟩, each_snoc.mpr ⟨h.pairs, trivial⟩,
    fun _ => ⟨⟨rfl, rfl, ho⟩, rfl⟩, fun hw => by cases hw⟩

theorem inv_timeOut (h : s.Inv) (ht : s.timeOut = some t) : t.Inv := by
  unfold timeOut at ht
  split at ht
  · rename_i hrun
    obtain rfl := Option.some.inj ht
    have hp : Each Pairs (s.log ++ [.timeOut]) := each_snoc.mpr ⟨h.pairs, trivial⟩
    obtain ⟨p, hp', -⟩ := h.timer.mp hrun
    have ho : outstanding (s.log ++ [.timeOut]) = some { p with expired := true } := by
      rw [outstanding_snoc, Option.mem_def.mp hp']
      rfl
    refine ⟨by simp [TimerDue, ho, Pending.waits], hp, fun hi => ?_, fun hw => ?_⟩
    · have hf := (h.idle hi).1.timer
      rw [hrun] at hf
      cases hf
    · rcases h.wait hw with ⟨p', hs⟩ | ⟨-, hf, -⟩
      · obtain rfl := Option.some.inj (hs.outstanding.symm.trans hp')
        exact Or.inl ⟨{ p' with expired := true }, hs.inProgress, hs.readLen, hs.fits, ho,
          hs.nonempty, hs.stage.congr rfl rfl rfl rfl rfl rfl fun _ => rfl⟩
      · have hf := hf.timer
        rw [hrun] at hf
        cases hf
  · cases ht

theorem Inv.move (h : s.Inv) {bus : List Txn} {mbox : CommandT} {todo : List CommandT}
    {raised : ℕ} (hst : ∀ no, s.Stage no →
      Stage { s with bus := bus, mbox := mbox, todo := todo, raised := raised } no)
    (hq : ¬ s.Quiet) : Inv { s with bus := bus, mbox := mbox, todo := todo, raised := raised } where
  timer := h.timer
  pairs := h.pairs
  idle hi := by
    obtain ⟨hf, hn⟩ := h.idle hi
    exact ⟨⟨hf.inProgress, hf.timer, hf.outstanding⟩, hn⟩
  wait hw := by
    rcases h.wait hw with ⟨p, hs⟩ | ⟨-, -, hq'⟩
    · exact Or.inl ⟨p, hs.inProgress, hs.readLen, hs.fits, hs.outstanding, hs.nonempty,
        hst p.no hs.stage⟩
    · exact absurd hq' hq

theorem inv_txnDone {dbg : Bool} (h : s.Inv) (ht : step dbg s .txnDone = some t) : t.Inv := by
  simp only [step] at ht
  split at ht
  · cases ht
  · rename_i len bus hbus
    split at ht
    · rename_i hcb
      cases ht
      rcases s.state_cases with hst | hst
      · obtain ⟨hf, hn⟩ := h.idle hst
        obtain ⟨c, hc⟩ := perform_read { s with bus := bus } len
        rw [hc]
        exact inv_transferComplete_idle hst h.pairs hf.timer hf.outstanding hn
      · rcases h.wait hst with ⟨p, hs⟩ | ⟨hin, -, -⟩
        · cases hs.stage with
          | writing _ hbus' | triggering hbus' | executing _ hbus' | executed hbus' =>
            cases hbus.symm.trans hbus'
          | reading hbus' htodo hmbox hans hraised htimer =>
            obtain ⟨hr, rfl⟩ := List.cons.inj (hbus.symm.trans hbus')
            obtain rfl := Txn.read.inj hr
            obtain ⟨c, hc, hown, hans'⟩ := result_of_read (s := { s with bus := [] }) hs.readLen
              hs.fits hmbox hans
            rw [hc]
            exact inv_transferComplete hst h.pairs htimer ⟨rfl, htodo, hraised⟩ hs.outstanding
              hs.readLen hown hans'
        · rw [hcb] at hin
          cases hin
    · cases ht
  · rename_i txn bus hnr hbus
    cases ht
    have hq : ¬ s.Quiet := fun hq => by cases hbus.symm.trans hq.1
    cases txn with
    | write len =>
      refine h.move (fun no hs => ?_) hq
      cases hs with
      | writing _ hbus' hcmd htodo hraised =>
        obtain ⟨-, rfl⟩ := List.cons.inj (hbus.symm.trans hbus')
        exact .triggering rfl hcmd htodo hraised
      | triggering hbus' | executing _ hbus' | executed hbus' | reading hbus' =>
        cases hbus.symm.trans hbus'
    | trigger =>
      refine h.move (fun no hs => ?_) hq
      cases hs with
      | writing _ hbus' | executing _ hbus' | executed hbus' | reading hbus' =>
        cases hbus.symm.trans hbus'
      | triggering hbus' hmbox htodo hraised =>
        obtain ⟨-, rfl⟩ := List.cons.inj (hbus.symm.trans hbus')
        refine .executing s.mbox rfl ?_ hmbox hraised
        rw [htodo]
        rfl
    | read len => exact absurd rfl (hnr len)

theorem inv_execute (h : s.Inv) {status : CommandStatus} {parameters : ℕ → UInt8}
    (ht : s.execute status parameters = some t) : t.Inv := by
  unfold execute at ht
  split at ht
  · cases ht
  · rename_i c todo htodo
    cases ht
    refine h.move (fun no hs => ?_) fun hq => by cases htodo.symm.trans hq.2.1
    cases hs with
    | writing _ _ _ htodo' | triggering _ _ htodo' | executed _ htodo' | reading _ htodo' =>
      cases htodo.symm.trans htodo'
    | executing d hbus htodo' howner hraised =>
      obtain ⟨rfl, rfl⟩ := List.cons.inj (htodo.symm.trans htodo')
      exact .executed hbus rfl howner rfl (congrArg (· + 1) hraised)

end Sys

/-- The step sends no command while the bus or the firmware is still busy with an earlier one. -/
def Settled (s : Sys) : Op → Prop
  | .sendCommand _ _ =>
    s.bErrorFlag = false → s.bMboxEnabled = true → s.state = .idle → s.Quiet
  | _ => True

instance (s : Sys) : (op : Op) → Decidable (Settled s op)
  | .sendCommand _ _ => inferInstanceAs (Decidable (_ → _))
  | .enableMbox => isTrue trivial
  | .disableMbox => isTrue trivial
  | .restart => isTrue trivial
  | .endReconfig => isTrue trivial
  | .commandComplete _ => isTrue trivial
  | .timeOut => isTrue trivial
  | .resume _ => isTrue trivial
  | .txnDone => isTrue trivial
  | .execute _ _ => isTrue trivial

open Sys in
theorem inv_step {dbg : Bool} {s t : Sys} {op : Op} (h : s.Inv) (hop : Settled s op)
    (ht : step dbg s op = some t) : t.Inv := by
  cases op with
  | sendCommand r sync =>
    cases ht
    exact inv_queueCommand h hop
  | enableMbox =>
    cases ht
    exact h.keeps (keeps_enabled s true) id
  | disableMbox =>
    cases ht
    exact h.keeps (keeps_enabled s false) id
  | restart =>
    cases ht
    exact inv_restart h
  | endReconfig =>
    simp only [step, Option.ite_none_right_eq_some] at ht
    obtain ⟨hcb, ⟨⟩⟩ := ht
    exact h.keeps (keeps_endReconfig s 0) fun hc => by cases hcb.symm.trans hc
  | commandComplete now =>
    simp only [step, Option.ite_none_right_eq_some] at ht
    obtain ⟨⟨hcb, hr⟩, ⟨⟩⟩ := ht
    exact inv_commandComplete h hcb hr now
  | timeOut =>
    simp only [step, Option.ite_none_right_eq_some] at ht
    exact inv_timeOut h ht.2
  | resume sync =>
    simp only [step, resume] at ht
    split at ht
    · cases ht
    · cases ht
      exact inv_afterComplete h
    · rename_i i hcb
      cases ht
      exact h.keeps (keeps_endReconfig s _) fun hc => by cases hcb.symm.trans hc
  | txnDone => exact inv_txnDone h ht
  | execute status parameters => exact inv_execute h ht

theorem inv_init : init.Inv where
  timer := by simp [Sys.TimerDue, init, outstanding]
  pairs := each_nil
  idle _ := ⟨⟨rfl, rfl, rfl⟩, rfl⟩
  wait h := by cases h

/-- **Results pair with commands**: in every run of settled steps, each result the queue takes is
that of the outstanding command, was read after the firmware left it, and is copied with the length
asked for; and the timer runs exactly while a command waits for its interrupt or its time-out. -/
theorem results_pair {dbg : Bool} {ops : List Op} {s : Sys} (he : exec (step dbg) init ops = some s)
    (hs : Along (step dbg) Settled init ops) : Each Pairs s.log ∧ s.TimerDue := by
  have h := Along.invariant (fun _ _ _ hi hop ht => inv_step hi hop ht) inv_init hs he
  exact ⟨h.pairs, h.timer⟩

/-- An interrogation that reads eight bytes. -/
def interrogation : Request := ⟨.interrogate, fun _ => 0, 8, true, true, by decide⟩

/-- The bus reads its result later. -/
def readLater : List Op :=
  [.enableMbox, .sendCommand interrogation (true, true), .execute .success fun _ => 1,
    .commandComplete false, .txnDone, .resume (true, true)]

theorem results_pair_readLater : ∃ s, exec (step false) init readLater = some s ∧
    Each Pairs s.log ∧ s.TimerDue ∧ s.result.answered = true := by
  have h : (exec (step false) init readLater).any (fun s => s.result.answered) = true := by
    decide +kernel
  obtain ⟨s, he, hans⟩ := (Option.any_eq_true _ _).mp h
  obtain ⟨hp, ht⟩ := results_pair he (by decide +kernel)
  exact ⟨s, he, hp, ht, hans⟩

/-- **A late interrupt completes the next command**: the driver restarts when the firmware has
executed a command, and sends another one before it handles the interrupt. And a command that timed
out is outstanding without a timer. -/
theorem late_completion :
    (∃ s, exec (step false) init [.enableMbox, .sendCommand interrogation (true, true),
      .execute .success fun _ => 1, .restart, .sendCommand interrogation (true, true),
      .commandComplete true] = some s ∧ ¬ Each Pairs s.log) ∧
    ∃ s, exec (step false) init [.enableMbox, .sendCommand interrogation (true, true), .timeOut] =
      some s ∧ s.cmdMboxTimer = false ∧ ∃ p ∈ outstanding s.log, p.seen = false := by
  refine ⟨⟨_, rfl, fun h => ?_⟩, ⟨_, rfl, rfl, _, rfl, rfl⟩⟩
  obtain ⟨-, -, -, hans, -⟩ := h [_, _, _, _, _, _] (.result _) [_] rfl
  cases hans

end ArchosGpl.Wlan.CmdMBox
