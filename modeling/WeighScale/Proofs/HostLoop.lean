import WeighScale.Demo
import WeighScale.Proofs.Progress
import WeighScale.Proofs.Sessions
import WeighScale.Proofs.Wire.Grammar

set_option autoImplicit false

/-! # A session with one device

What a session with one device comes to. The device reports once for every frame, and between two
frames it waits until the chip is done with the next conversion, so the callback of its `n`th
report is known beforehand (`Circuit.callbacksTo`). As long as the session goes on (`Ongoing`) its
callbacks are those of the reports so far and those of the way to the next one, and the device was
disabled exactly if the target was reached before. One callback takes an ongoing session to an
ongoing one, or to one that is over (`Ongoing.serve`); so every session is one of the two
(`run_ongoing`), and which of them can be told from the number of callbacks it may serve.
-/

namespace WeighScale

/-! ## The callbacks of the reports -/

namespace Circuit

variable (circuit : Circuit)

/-- The callbacks up to the `n`th report: `n` frames, and before each of them but the first the
readings that find the chip at work. -/
def callbacksTo (n : Nat) : Nat :=
  n * circuit.gain.frameLength + (n - 1) * (circuit.busy - 1)

theorem callbacksTo_succ {n : Nat} (h : 0 < n) :
    circuit.callbacksTo (n + 1)
      = circuit.callbacksTo n + ((circuit.busy - 1) + circuit.gain.frameLength) := by
  obtain ⟨m, rfl⟩ := Nat.exists_eq_add_one_of_ne_zero (Nat.ne_of_gt h)
  simp only [callbacksTo, Nat.add_sub_cancel, Nat.add_mul, Nat.one_mul]
  omega

theorem callbacksTo_strictMono : StrictMono circuit.callbacksTo := by
  refine strictMono_nat_of_lt_succ fun n => ?_
  have hframe := circuit.frameLength_pos
  rcases Nat.eq_zero_or_pos n with rfl | hpos
  · rw [callbacksTo, callbacksTo]
    omega
  · rw [circuit.callbacksTo_succ hpos]
    omega

/-- The circuit as a device of a session. -/
def fixture (endstop : Int32) : Fixture where
  oid := circuit.oid.toUInt32
  dout := circuit.dout
  sck := circuit.sck
  gain := circuit.request.gain
  invert := circuit.request.invert.toUInt32
  endstop := endstop.toUInt32
  chip := circuit.plan

end Circuit

/-! ## The messages -/

namespace Fixture

open Wire.Request

variable {ids : Wire.Ids} (circuit : Circuit) (endstop : Int32)

theorem decode_configureBody :
    decode ids ((circuit.fixture endstop).configureBody ids) = .ok (.configure circuit.request) :=
  decode_configureValues ids circuit.request

theorem decode_enableBody (hids : ids.query ≠ ids.configure) (h : endstop < 0 ∨ endstop ≤ 255) :
    decode ids ((circuit.fixture endstop).enableBody ids)
      = .ok (.query ⟨circuit.oid, true, endstopOf endstop⟩) :=
  decode_queryValues hids circuit.oid 1 h

theorem decode_disableBody (hids : ids.query ≠ ids.configure) :
    decode ids ((circuit.fixture endstop).disableBody ids)
      = .ok (.query ⟨circuit.oid, false, none⟩) :=
  decode_queryValues hids circuit.oid 0 (Or.inl (by decide : (-1 : Int32) < 0))

end Fixture

/-- The plan of a session with the device of one circuit: there is room for it, its messages can be
told apart, its conversions take a reading at least, and it is to report at least once. -/
structure SessionPlan.Hosts (plan : SessionPlan) (circuit : Circuit) (endstop : Int32) : Prop where
  ids : plan.ids.query ≠ plan.ids.configure
  capacity : 0 < plan.capacity
  fixtures : plan.fixtures = [circuit.fixture endstop]
  endstop : endstop < 0 ∨ endstop ≤ 255
  busy : 0 < circuit.busy
  target : 0 < plan.target
  script : plan.script = []

namespace Session

variable {plan : SessionPlan} {circuit : Circuit} {endstop : Int32} {session : Session}

theorem handle_of_decode (session : Session) {ids : Wire.Ids} {body : List UInt8}
    {request : Wire.Request} (h : Wire.Request.decode ids body = .ok request) :
    session.handle ids body
      = settle
          { session with
            scale := (session.scale.perform request session.now).2
            handled :=
              ⟨body, (session.scale.perform request session.now).1⟩ :: session.handled } := by
  rw [handle, Scale.receive, h]

theorem followScript_nil (hscript : plan.script = []) (session : Session) :
    session.followScript plan = session := by
  rw [followScript, hscript]
  rfl

/-- Nobody is told to stop too early, or twice. -/
theorem disableWhenDone_of_early (h : session.disabled = true ∨ session.sent < plan.target) :
    session.disableWhenDone plan = session := by
  refine if_pos ?_
  rw [Bool.or_eq_true, decide_eq_true_eq]
  exact h

theorem disableWhenDone_of_due (hplan : plan.Hosts circuit endstop)
    (hdisabled : session.disabled = false) (hsent : plan.target ≤ session.sent) :
    session.disableWhenDone plan
      = settle
          { session with
            disabled := true
            scale := (session.scale.query ⟨circuit.oid, false, none⟩ session.now).2
            handled :=
              ⟨(circuit.fixture endstop).disableBody plan.ids,
                  (session.scale.query ⟨circuit.oid, false, none⟩ session.now).1⟩
                :: session.handled } := by
  have hdue : (session.disabled || decide (session.sent < plan.target)) = false := by
    rw [hdisabled, Bool.false_or, decide_eq_false_iff_not, Nat.not_lt]
    exact hsent
  rw [disableWhenDone, hdue, if_neg Bool.false_ne_true, hplan.fixtures]
  exact handle_of_decode _ (Fixture.decode_disableBody circuit endstop hplan.ids)

/-! ## Turns of the loop -/

/-- The device of the session has a callback to come. The callbacks so far and those until the next
report are together those up to that report. The device was disabled if the reports up to the
target took less than `begun` callbacks. -/
structure Ongoing (circuit : Circuit) (target begun : Nat) (session : Session) : Prop where
  device : ∃ device chip clock, session.scale.Single circuit device chip [clock]
    ∧ Aligned circuit device chip ∧ device.active = !session.disabled
    ∧ session.calls + circuit.left device.frame chip = circuit.callbacksTo (session.sent + 1)
  sent_le : session.sent ≤ target
  disabled : session.disabled = decide (circuit.callbacksTo target < begun)
  handled : ∀ message ∈ session.handled, message.result = .ok ()

/-- The device of the session was disabled and has sent its last report. -/
structure Over (circuit : Circuit) (target : Nat) (session : Session) : Prop where
  pending : session.scale.rig.timers.pending = []
  calls : session.calls = circuit.callbacksTo (target + 1)
  sent : session.sent = target + 1
  disabled : session.disabled = true
  handled : ∀ message ∈ session.handled, message.result = .ok ()

namespace Ongoing

variable {target begun : Nat}

/-- The last report is behind, and the next one is ahead. -/
theorem between (h : Ongoing circuit target begun session) :
    circuit.callbacksTo session.sent ≤ session.calls
      ∧ session.calls < circuit.callbacksTo (session.sent + 1) := by
  obtain ⟨device, chip, clock, -, haligned, -, hcount⟩ := h.device
  have hpos := haligned.left_pos
  have hle := haligned.left_le
  refine ⟨?_, by omega⟩
  rcases Nat.eq_zero_or_pos session.sent with hzero | hsome
  · rw [hzero, Circuit.callbacksTo]
    omega
  · rw [circuit.callbacksTo_succ hsome] at hcount
    omega

/-- The target was reached if the callbacks are as many as its reports take. -/
theorem target_le_iff (h : Ongoing circuit target begun session) :
    target ≤ session.sent ↔ circuit.callbacksTo target ≤ session.calls := by
  obtain ⟨hbehind, hahead⟩ := h.between
  constructor
  · intro hle
    exact Nat.le_trans (circuit.callbacksTo_strictMono.monotone hle) hbehind
  · intro hle
    have hlt := Nat.lt_of_le_of_lt hle hahead
    exact Nat.le_of_lt_succ (circuit.callbacksTo_strictMono.lt_iff_lt.mp hlt)

/-- **The device is disabled when the target is reached**, before the next callback. -/
theorem disableWhenDone (h : Ongoing circuit plan.target session.calls session)
    (hplan : plan.Hosts circuit endstop) :
    Ongoing circuit plan.target (session.calls + 1) (session.disableWhenDone plan)
      ∧ (session.disableWhenDone plan).calls = session.calls := by
  have hreached : circuit.callbacksTo plan.target < session.calls + 1
      ↔ plan.target ≤ session.sent := by
    rw [h.target_le_iff, Nat.lt_succ_iff]
  cases hdisabled : session.disabled with
  | true =>
      -- it was disabled in an earlier turn
      have hearlier := h.disabled.symm.trans hdisabled
      rw [decide_eq_true_eq] at hearlier
      rw [disableWhenDone_of_early (Or.inl hdisabled)]
      refine ⟨⟨h.device, h.sent_le, ?_, h.handled⟩, rfl⟩
      rw [hdisabled, decide_eq_true (Nat.lt_succ_of_lt hearlier)]
  | false =>
      by_cases hsent : session.sent < plan.target
      · rw [disableWhenDone_of_early (Or.inr hsent)]
        refine ⟨⟨h.device, h.sent_le, ?_, h.handled⟩, rfl⟩
        rw [hdisabled, decide_eq_false (hreached.not.mpr (Nat.not_le.mpr hsent))]
      · have hdue : plan.target ≤ session.sent := Nat.not_lt.mp hsent
        obtain ⟨device, chip, clock, hsingle, haligned, -, hcount⟩ := h.device
        obtain ⟨hok, hquiet⟩ := hsingle.disable none session.now
        rw [disableWhenDone_of_due hplan hdisabled hdue]
        refine ⟨⟨⟨_, chip, clock, hquiet.forget, haligned.disable none, rfl, hcount⟩, h.sent_le, ?_,
          ?_⟩, rfl⟩
        · exact (decide_eq_true (hreached.mpr hdue)).symm
        · exact List.forall_mem_cons.mpr ⟨hok, h.handled⟩

/-- **A callback** goes on with the session, or ends it. -/
theorem serve (h : Ongoing circuit plan.target (session.calls + 1) session)
    (hplan : plan.Hosts circuit endstop) :
    ∃ timer, session.scale.rig.timers.next? = some timer
      ∧ (session.serve plan timer).calls = session.calls + 1
      ∧ (Ongoing circuit plan.target (session.calls + 1) (session.serve plan timer)
        ∨ Over circuit plan.target (session.serve plan timer)) := by
  obtain ⟨device, chip, clock, hsingle, haligned, hactive, hcount⟩ := h.device
  have hprogress := hsingle.serve haligned hplan.busy clock plan.ids true
  have hdue : session.disabled = true ↔ plan.target ≤ session.sent := by
    rw [h.disabled, decide_eq_true_eq, h.target_le_iff, Nat.lt_succ_iff]
  have hnext : session.scale.rig.timers.next? = some ⟨circuit.oid, clock⟩ :=
    Timers.next?_of_singleton hsingle.pending
  refine ⟨_, hnext, rfl, ?_⟩
  have hsent : (session.serve plan ⟨circuit.oid, clock⟩).sent
      = session.sent + ((session.scale.serve ⟨circuit.oid, clock⟩ clock).rig.deliver plan.ids
          true).1 := rfl
  generalize ((session.scale.serve ⟨circuit.oid, clock⟩ clock).rig.deliver plan.ids true).1 = sent
    at hprogress hsent
  cases hprogress with
  | closer next moved later hsingle haligned hkept hleft =>
      refine Or.inl ⟨⟨next, moved, later, hsingle.forget, haligned, hkept.trans hactive, ?_⟩, ?_,
        h.disabled, h.handled⟩
      · rw [hsent]
        show session.calls + 1 + _ = _
        rw [← hcount, ← hleft]
        omega
      · rw [hsent]
        exact h.sent_le
  | sent next moved later hsingle haligned hon hwas hleft hfull =>
      -- the device goes on, so the target was not reached before this report
      have hbefore : session.sent < plan.target := by
        rw [hwas, eq_comm, Bool.not_eq_true'] at hactive
        rw [← Nat.not_le, ← hdue, hactive]
        exact Bool.false_ne_true
      refine Or.inl ⟨⟨next, moved, later, hsingle.forget, haligned, ?_, ?_⟩, ?_, h.disabled,
        h.handled⟩
      · exact hon.trans (hwas.symm.trans hactive)
      · rw [hsent, circuit.callbacksTo_succ (Nat.succ_pos _), ← hcount, hleft, hfull]
        rfl
      · rw [hsent]
        exact hbefore
  | last hwas hleft hdone =>
      have hdisabled : session.disabled = true := by
        rw [hwas, eq_comm, Bool.not_eq_false'] at hactive
        exact hactive
      have hlast : session.sent = plan.target := Nat.le_antisymm h.sent_le (hdue.mp hdisabled)
      refine Or.inr ⟨hdone, ?_, ?_, hdisabled, h.handled⟩
      · rw [← hlast, ← hcount, hleft]
        rfl
      · rw [hsent, hlast]

end Ongoing

/-- Nothing happens any more once the session is over. -/
theorem Over.run (h : Over circuit plan.target session) (hscript : plan.script = []) (limit : Nat) :
    run plan limit session = session := by
  cases limit with
  | zero => rfl
  | succ limit =>
      have hnone : session.scale.rig.timers.next? = none := Timers.next?_of_nil h.pending
      rw [Session.run, followScript_nil hscript, disableWhenDone_of_early (Or.inl h.disabled),
        hnone]

/-- **A session goes on or is over.** -/
theorem run_ongoing (hplan : plan.Hosts circuit endstop) (limit : Nat)
    (h : Ongoing circuit plan.target session.calls session) :
    Ongoing circuit plan.target (session.calls + limit) (run plan limit session)
        ∧ (run plan limit session).calls = session.calls + limit
      ∨ Over circuit plan.target (run plan limit session)
        ∧ (run plan limit session).calls ≤ session.calls + limit := by
  induction limit generalizing session with
  | zero => exact Or.inl ⟨h, rfl⟩
  | succ limit ih =>
      -- a turn disables the device first, if that is due, and then serves its callback
      obtain ⟨htold, hsame⟩ := h.disableWhenDone hplan
      rw [← hsame] at htold
      obtain ⟨timer, hnext, hcalls, hserved⟩ := htold.serve hplan
      have hturn : run plan (limit + 1) session
          = run plan limit ((session.disableWhenDone plan).serve plan timer) := by
        rw [run, followScript_nil hplan.script, hnext]
      have hadd : session.calls + (limit + 1)
          = ((session.disableWhenDone plan).serve plan timer).calls + limit := by
        rw [hcalls, hsame]
        omega
      rw [hturn, hadd]
      rcases hserved with hgoes | hover
      · rw [← hcalls] at hgoes
        exact ih hgoes
      · rw [hover.run hplan.script]
        exact Or.inr ⟨hover, Nat.le_add_right _ _⟩

/-- **A session begins** with the first report a frame away. -/
theorem start_ongoing (hplan : plan.Hosts circuit endstop) :
    Ongoing circuit plan.target 0 (start plan) ∧ (start plan).calls = 0 := by
  have hstart : start plan
      = (((bare plan).mount (circuit.fixture endstop)).handle plan.ids
          ((circuit.fixture endstop).configureBody plan.ids)).handle plan.ids
            ((circuit.fixture endstop).enableBody plan.ids) := by
    rw [start, hplan.fixtures]
    rfl
  rw [hstart, handle_of_decode _ (Fixture.decode_configureBody circuit endstop),
    handle_of_decode _ (Fixture.decode_enableBody circuit endstop hplan.ids hplan.endstop)]
  have hcapacity : ((bare plan).mount (circuit.fixture endstop)).scale.capacity = plan.capacity :=
    Handoff.capacity_clear _
  have hboard : ((bare plan).mount (circuit.fixture endstop)).scale.rig.board
      = circuit.solo.bench (fun _ => .start circuit.plan) 0 0 := rfl
  obtain ⟨hconfigured, device, hsingle, hcoupled, hframe⟩ :=
    Scale.single_configure rfl (hcapacity ▸ hplan.capacity) hboard
      (congrArg Handoff.clear hcapacity.symm) rfl
  obtain ⟨henabled, device, clock, hsingle, haligned, hactive, hleft⟩ :=
    hsingle.forget.enable hcoupled hframe (Wire.Request.endstopOf endstop) plan.now
  refine ⟨⟨⟨device, _, clock, hsingle.forget, haligned, hactive, ?_⟩, Nat.zero_le _, ?_, ?_⟩, rfl⟩
  · show 0 + _ = circuit.callbacksTo 1
    rw [hleft, Circuit.callbacksTo]
    omega
  · exact (decide_eq_false (Nat.not_lt_zero _)).symm
  · exact List.forall_mem_cons.mpr ⟨henabled, List.forall_mem_cons.mpr
      ⟨hconfigured, fun _ h => (List.not_mem_nil h).elim⟩⟩

/-- How a session with one device comes to its end. With `frame` the half-cycles of a frame, and
`busy` the readings that a conversion takes, the device reports for the `n`th time with callback
`n * frame + (n - 1) * (busy - 1)`. Up to the target there is always a callback left. The device is
disabled when the target is reached and not before; then there are `(busy - 1) + frame` callbacks
more and one more report, and no callback is left. No message of the host is refused. The reports
are the messages that were sent, and the host can read each of them. -/
theorem reaches_and_drains (plan : SessionPlan) (circuit : Circuit) (endstop : Int32)
    (hplan : plan.Hosts circuit endstop) (limit : Nat) :
    let frame := 48 + 2 * circuit.gain.pulses
    let reached := plan.target * frame + (plan.target - 1) * (circuit.busy - 1)
    let ended := reached + ((circuit.busy - 1) + frame)
    let session := run plan limit (start plan)
    (limit < reached → session.calls = limit ∧ session.sent < plan.target
        ∧ session.scale.rig.timers.pending ≠ [])
      ∧ (reached ≤ limit → limit < ended → session.calls = limit ∧ session.sent = plan.target
        ∧ session.scale.rig.timers.pending ≠ [])
      ∧ (ended ≤ limit → session.calls = ended ∧ session.sent = plan.target + 1
        ∧ session.scale.rig.timers.pending = [])
      ∧ session.disabled = decide (reached < limit)
      ∧ (∀ message ∈ session.handled, message.result = .ok ())
      ∧ (session.journal.filterMap fun entry => entry.2.sent?).length = session.sent
      ∧ (session.readings plan.ids).length = session.sent := by
  intro frame reached ended session
  have hcounted := counts_readings plan limit
  have hreached : reached = circuit.callbacksTo plan.target := rfl
  have hended : ended = circuit.callbacksTo (plan.target + 1) :=
    (circuit.callbacksTo_succ hplan.target).symm
  have hlonger : reached < ended := by
    rw [hreached, hended]
    exact circuit.callbacksTo_strictMono (Nat.lt_succ_self _)
  obtain ⟨hstart, hzero⟩ := start_ongoing hplan
  rw [← hzero] at hstart
  have hrun := run_ongoing hplan limit hstart
  rw [hzero, Nat.zero_add] at hrun
  rcases hrun with ⟨hon, hcalls⟩ | ⟨hover, hcalls⟩
  · obtain ⟨device, chip, clock, hsingle, -⟩ := hon.device
    have hpending : session.scale.rig.timers.pending ≠ [] := by
      rw [hsingle.pending]
      exact List.cons_ne_nil _ _
    have hdue := hon.target_le_iff
    rw [hcalls, ← hreached] at hdue
    have hbefore : limit < ended := by
      rw [hended, ← hcalls]
      exact Nat.lt_of_lt_of_le hon.between.2
        (circuit.callbacksTo_strictMono.monotone (Nat.succ_le_succ hon.sent_le))
    refine ⟨fun hlt => ⟨hcalls, ?_, hpending⟩, fun hle _ => ⟨hcalls, ?_, hpending⟩, fun hle => ?_,
      hon.disabled, hon.handled, hcounted⟩
    · rw [← Nat.not_le, hdue, Nat.not_le]
      exact hlt
    · exact Nat.le_antisymm hon.sent_le (hdue.mpr hle)
    · omega
  · have hcount : session.calls = ended := hover.calls.trans hended.symm
    have hle : ended ≤ limit := hcount ▸ hcalls
    refine ⟨fun hlt => ?_, fun _ hlt => ?_, fun _ => ⟨hcount, hover.sent, hover.pending⟩, ?_,
      hover.handled, hcounted⟩
    · omega
    · omega
    · rw [hover.disabled, decide_eq_true (Nat.lt_of_lt_of_le hlonger hle)]

/-- The converter of the demonstration. -/
def demoCircuit : Circuit where
  oid := 0
  dout := 4
  sck := 5
  gain := .a128
  polarity := .normal
  first := 0x001234
  others := [0xffff00, 0x800000, 0x7fffff]
  busy := Demo.busy

/-- The demonstration reports for the fourth time with callback 206, and is over after 258. -/
theorem reaches_and_drains_demo :
    Demo.plan.Hosts demoCircuit 7
      ∧ (run Demo.plan 205 (start Demo.plan)).sent < 4
      ∧ (run Demo.plan 206 (start Demo.plan)).sent = 4
      ∧ Demo.session.calls = 258 ∧ Demo.session.sent = 5
      ∧ Demo.session.scale.rig.timers.pending = [] := by
  have hplan : Demo.plan.Hosts demoCircuit 7 :=
    ⟨by decide, by decide, rfl, by decide, by decide, by decide, rfl⟩
  obtain ⟨hbefore, -⟩ := reaches_and_drains Demo.plan demoCircuit 7 hplan 205
  obtain ⟨-, hreached, -⟩ := reaches_and_drains Demo.plan demoCircuit 7 hplan 206
  obtain ⟨-, -, hended, -⟩ := reaches_and_drains Demo.plan demoCircuit 7 hplan Demo.callbacks
  rw [Demo.session]
  exact ⟨hplan, (hbefore (by decide)).2.1, (hreached (by decide) (by decide)).2.1,
    hended (Nat.le_of_ble_eq_true rfl)⟩

end Session

end WeighScale
