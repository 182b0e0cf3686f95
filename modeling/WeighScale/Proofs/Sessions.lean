import WeighScale.Session
import WeighScale.Proofs.Past
import WeighScale.Proofs.Timekeeping

set_option autoImplicit false

/-! # Sessions as runs

A session keeps records of its own: it moves the effects of its scale to a journal and counts what
was sent. With the effects put back (`Session.recalled`) its scale is one that has gone through a
run. Installing a device puts a chip on its pins and sends two messages. From then on the session
sends messages, serves callbacks that are to come and delivers the samples after each, and does
nothing else (`recalled_run`). So whatever all operations keep holds in every session
(`holds_in_session`).

* `one_callback_in_session`: in a session, too, every device has at most one callback to come.
* `heard_run`: the session counts the messages it has sent, and each is a reading that the host
  can read.
-/

namespace WeighScale

open Scale (Operation Occurrence)

/-- What installing the device does to a scale. -/
def Fixture.installation (fixture : Fixture) (ids : Wire.Ids) (now : Clock) :
    List (Occurrence Bench) :=
  [.arrange fun bench => bench.mount fixture.dout fixture.sck (.start fixture.chip),
    .operate (.message ids (fixture.configureBody ids) now),
    .operate (.message ids (fixture.enableBody ids) now)]

namespace Session

/-! ## What is done to the scale -/

/-- The scale of a session, with all effects of the session in its trace. -/
def recalled (session : Session) : Scale Bench :=
  session.scale.withPast (session.journal.map Prod.snd)

theorem recalled_settle (session : Session) : session.settle.recalled = session.recalled := by
  have hjournal : session.settle.journal.map Prod.snd
      = session.scale.rig.trace ++ session.journal.map Prod.snd := by
    rw [settle, List.map_append, List.map_map]
    exact congrArg (· ++ _) (List.map_id _)
  rw [recalled, hjournal]
  rfl

theorem recalled_handle (session : Session) (ids : Wire.Ids) (body : List UInt8) :
    (session.handle ids body).recalled
      = session.recalled.apply (.message ids body session.now) := by
  rw [handle, recalled_settle, recalled, recalled, Scale.apply_withPast]
  rfl

theorem recalled_handleAll (session : Session) (ids : Wire.Ids) (bodies : List (List UInt8)) :
    (session.handleAll ids bodies).recalled
      = session.recalled.after (bodies.map fun body => .message ids body session.now) := by
  induction bodies generalizing session with
  | nil => rfl
  | cons body bodies ih =>
      -- the clock of the session is the same for all of them
      have hnow : (session.handle ids body).now = session.now := rfl
      have hothers := ih (session.handle ids body)
      rw [recalled_handle, hnow] at hothers
      exact hothers

theorem recalled_install (session : Session) (ids : Wire.Ids) (fixture : Fixture) :
    (session.install ids fixture).recalled
      = session.recalled.beyond (fixture.installation ids session.now) := by
  rw [install, recalled_handleAll]
  rfl

theorem recalled_start (plan : SessionPlan) :
    (start plan).recalled
      = (Scale.start .empty plan.delays plan.capacity).beyond
          (plan.fixtures.flatMap (·.installation plan.ids plan.now)) := by
  have hinstalled (fixtures : List Fixture) (session : Session) (hnow : session.now = plan.now) :
      (fixtures.foldl (fun session fixture => session.install plan.ids fixture) session).recalled
        = session.recalled.beyond (fixtures.flatMap (·.installation plan.ids plan.now)) := by
    induction fixtures generalizing session with
    | nil => rfl
    | cons fixture fixtures ih =>
        rw [List.foldl_cons, ih (session.install plan.ids fixture) hnow, recalled_install, hnow,
          List.flatMap_cons, Scale.beyond_append]
  exact hinstalled plan.fixtures (bare plan) rfl

/-- The messages that the host sends before the next callback. -/
def messages (session : Session) (plan : SessionPlan) : List (List UInt8) :=
  (if session.disabled || decide (session.sent < plan.target) then []
    else plan.fixtures.map fun fixture => fixture.disableBody plan.ids)
  ++ (plan.script.filter fun entry => entry.1 == session.calls).map Prod.snd

/-- The session with these messages sent. -/
def told (session : Session) (plan : SessionPlan) : Session :=
  (session.disableWhenDone plan).followScript plan

theorem recalled_told (session : Session) (plan : SessionPlan) :
    (session.told plan).recalled
      = session.recalled.after
          ((session.messages plan).map fun body => .message plan.ids body session.now) := by
  have hkept (session : Session) (bodies : List (List UInt8)) :
      (session.handleAll plan.ids bodies).now = session.now
        ∧ (session.handleAll plan.ids bodies).calls = session.calls := by
    induction bodies generalizing session with
    | nil => exact ⟨rfl, rfl⟩
    | cons body bodies ih => exact ih (session.handle plan.ids body)
  rw [told, followScript, recalled_handleAll, messages, disableWhenDone]
  split
  · rfl
  · rw [recalled_handleAll, (hkept _ _).1, (hkept _ _).2, List.map_append, Scale.after_append]
    rfl

/-- A turn: the messages are sent, and then the next callback is served, if there is one. -/
theorem run_succ (plan : SessionPlan) (limit : Nat) (session : Session) :
    run plan (limit + 1) session
      = match (session.told plan).scale.rig.timers.next? with
        | none => session.told plan
        | some timer => run plan limit ((session.told plan).serve plan timer) :=
  rfl

/-- What the session does, in this many turns at most. -/
def operations (plan : SessionPlan) : Nat → Session → List Operation
  | 0, _ => []
  | limit + 1, session =>
      (session.messages plan).map (fun body => .message plan.ids body session.now)
        ++ match (session.told plan).scale.rig.timers.next? with
          | none => []
          | some timer =>
              .serve timer timer.clock :: .deliver plan.ids true
                :: operations plan limit ((session.told plan).serve plan timer)

theorem apply_serve (session : Session) {timer : Timer}
    (h : session.scale.rig.timers.next? = some timer) :
    session.recalled.apply (.serve timer timer.clock)
      = session.recalled.serve timer timer.clock :=
  -- a callback that is served is one of those to come
  if_pos (Timers.next?_mem h)

theorem recalled_serve (session : Session) (plan : SessionPlan) {timer : Timer}
    (h : session.scale.rig.timers.next? = some timer) :
    (session.serve plan timer).recalled
      = session.recalled.after [.serve timer timer.clock, .deliver plan.ids true] := by
  have hserved := Scale.serve_withPast session.scale (session.journal.map Prod.snd) timer
    timer.clock
  rw [serve, recalled_settle]
  calc _ = ((session.scale.serve timer timer.clock).apply (.deliver plan.ids true)).withPast
            (session.journal.map Prod.snd) := rfl
    _ = (session.recalled.serve timer timer.clock).apply (.deliver plan.ids true) := by
        rw [recalled, hserved, Scale.apply_withPast]
    _ = (session.recalled.apply (.serve timer timer.clock)).apply (.deliver plan.ids true) := by
        rw [session.apply_serve h]

theorem recalled_run_from (plan : SessionPlan) (limit : Nat) (session : Session) :
    (run plan limit session).recalled
      = session.recalled.after (operations plan limit session) := by
  induction limit generalizing session with
  | zero => rfl
  | succ limit ih =>
      rw [run_succ, operations, Scale.after_append, ← recalled_told]
      cases hnext : (session.told plan).scale.rig.timers.next? with
      | none => rfl
      | some timer =>
          dsimp only
          rw [ih, recalled_serve _ _ hnext]
          rfl

/-- **A session is a run of its scale**: the devices are installed one after another, and from then
on there are messages of the host, callbacks that are to come, and deliveries. -/
theorem recalled_run (plan : SessionPlan) (limit : Nat) :
    (run plan limit (start plan)).recalled
      = (Scale.start .empty plan.delays plan.capacity).beyond
          (plan.fixtures.flatMap (·.installation plan.ids plan.now)
            ++ (operations plan limit (start plan)).map .operate) := by
  rw [recalled_run_from, recalled_start, Scale.beyond_append, Scale.beyond_operate]

/-! ## What holds in every session -/

/-- **What every operation keeps**, and whatever happens on the lines, holds in every session. -/
theorem holds_in_session (holds : Scale Bench → Prop) (plan : SessionPlan) (limit : Nat)
    (hstart : holds (Scale.start .empty plan.delays plan.capacity))
    (hoperate : ∀ scale operation, holds scale → holds (scale.apply operation))
    (harrange : ∀ scale change, holds scale → holds (scale.rewired change)) :
    holds (run plan limit (start plan)).recalled := by
  have hdone (operation : Operation) (scale : Scale Bench) (h : holds scale) :
      holds (scale.meet (.operate operation)) := hoperate scale operation h
  have harranged (change : Bench → Bench) (scale : Scale Bench) (h : holds scale) :
      holds (scale.meet (.arrange change)) := harrange scale change h
  rw [recalled_run, Scale.beyond]
  refine List.foldlRecOn _ _ hstart fun scale hscale occurrence hmem => ?_
  rcases List.mem_append.mp hmem with hinstalled | hturn
  · obtain ⟨fixture, -, hof⟩ := List.mem_flatMap.mp hinstalled
    rcases List.mem_cons.mp hof with rfl | hmessage
    · exact harranged _ scale hscale
    · rcases List.mem_pair.mp hmessage with rfl | rfl <;> exact hdone _ scale hscale
  · obtain ⟨operation, -, rfl⟩ := List.mem_map.mp hturn
    exact hdone operation scale hscale

/-- What each device knows about its callbacks is right, and no two devices have the same oid. -/
def Punctual (scale : Scale Bench) : Prop :=
  scale.Distinct ∧ ∀ oid, Scale.Timed (scale.device? oid) (scale.due oid)

theorem punctual_in_session (plan : SessionPlan) (limit : Nat) :
    Punctual (run plan limit (start plan)).recalled := by
  refine holds_in_session Punctual plan limit ?_ ?_ fun _ _ h => h
  · exact ⟨List.nodup_nil, Scale.timed_start Bench.empty plan.delays plan.capacity⟩
  · intro scale operation h
    exact ⟨h.1.apply operation, fun oid =>
      (h.2 oid).touched (Scale.touched_apply operation (h.2 oid).once)⟩

/-- **One callback for each device.** In every session, whatever its plan and however far it has
gone, a device has at most one callback to come, and one that is running has exactly one, at the
clock it knows. -/
theorem one_callback_in_session (plan : SessionPlan) (limit : Nat) :
    let scale := (run plan limit (start plan)).scale
    (∀ oid, (scale.due oid).length ≤ 1)
      ∧ ∀ device ∈ scale.devices, device.running = true →
          scale.due device.oid = [device.waketime] := by
  intro scale
  obtain ⟨hdistinct, htimed⟩ := punctual_in_session plan limit
  exact ⟨fun oid => (htimed oid).once, fun device hmem hrunning =>
    (htimed device.oid).awaited device (hdistinct.device?_of_mem hmem) hrunning⟩

/-! ## What the host has got -/

/-- The host has got as many messages as the session has counted, and each of them is a reading. -/
structure Heard (ids : Wire.Ids) (session : Session) : Prop where
  settled : session.scale.rig.trace = []
  sent : ∃ readings : List Wire.Reading,
    session.recalled.rig.sent = readings.map (·.body ids) ∧ readings.length = session.sent

namespace Heard

variable {ids : Wire.Ids} {session : Session}

theorem handle (h : Heard ids session) (body : List UInt8) :
    Heard ids (session.handle ids body) where
  settled := rfl
  sent := by
    have hsent : (session.handle ids body).recalled.rig.sent = session.recalled.rig.sent := by
      rw [recalled_handle]
      show (session.recalled.receive ids body session.now).2.rig.sent = _
      unfold Scale.receive
      split
      · rfl
      · exact Scale.sent_perform ..
    rw [hsent]
    exact h.sent

theorem handleAll (h : Heard ids session) (bodies : List (List UInt8)) :
    Heard ids (session.handleAll ids bodies) := by
  induction bodies generalizing session with
  | nil => exact h
  | cons body bodies ih => exact ih (h.handle body)

theorem told {plan : SessionPlan} (h : Heard plan.ids session) :
    Heard plan.ids (session.told plan) := by
  have hdisabled : Heard plan.ids (session.disableWhenDone plan) := by
    unfold disableWhenDone
    split
    · exact h
    · have hsame : Heard plan.ids { session with disabled := true } := ⟨h.settled, h.sent⟩
      exact hsame.handleAll _
  exact hdisabled.handleAll _

theorem install (h : Heard ids session) (fixture : Fixture) :
    Heard ids (session.install ids fixture) := by
  have hmounted : Heard ids (session.mount fixture) := ⟨h.settled, h.sent⟩
  exact hmounted.handleAll _

/-- A turn sends the samples that were pending after the callback. -/
theorem serve {plan : SessionPlan} (h : Heard plan.ids session) {timer : Timer}
    (hnext : session.scale.rig.timers.next? = some timer) :
    Heard plan.ids (session.serve plan timer) where
  settled := rfl
  sent := by
    obtain ⟨readings, hsent, hcount⟩ := h.sent
    let served := session.scale.serve timer timer.clock
    have hrecalled : session.recalled.serve timer timer.clock
        = served.withPast (session.journal.map Prod.snd) := Scale.serve_withPast ..
    refine ⟨readings ++ served.rig.handoff.samples.map Sample.reading, ?_, ?_⟩
    · rw [recalled_serve session plan hnext]
      show (Rig.deliver (session.recalled.apply (.serve timer timer.clock)).rig _ true).2.sent = _
      rw [Rig.sent_deliver, session.apply_serve hnext, Scale.sent_serve, hsent, hrecalled,
        List.map_append, List.map_map]
      rfl
    · show _ = session.sent + (served.rig.deliver plan.ids true).1
      rw [Rig.deliver_eq, List.length_append, List.length_map, hcount]

end Heard

theorem heard_start (plan : SessionPlan) : Heard plan.ids (start plan) := by
  have hbare : Heard plan.ids (bare plan) := ⟨rfl, [], rfl, rfl⟩
  exact List.foldlRecOn _ _ hbare fun session h fixture _ => h.install fixture

/-- **Every session** counts what the host has got. -/
theorem heard_run (plan : SessionPlan) (limit : Nat) {session : Session}
    (h : Heard plan.ids session) : Heard plan.ids (run plan limit session) := by
  induction limit generalizing session with
  | zero => exact h
  | succ limit ih =>
      rw [run_succ]
      cases hnext : (session.told plan).scale.rig.timers.next? with
      | none => exact h.told
      | some timer => exact ih (h.told.serve hnext)

theorem Heard.sent_journal {ids : Wire.Ids} {session : Session} (h : Heard ids session) :
    session.recalled.rig.sent
      = session.journal.reverse.filterMap fun entry => entry.2.sent? := by
  have htrace : session.recalled.rig.trace = session.journal.map Prod.snd :=
    congrArg (· ++ _) h.settled
  rw [Rig.sent, Rig.effects, htrace, ← List.map_reverse, List.filterMap_map]
  rfl

/-- **The host counts what it can read.** In every session, whatever its plan and however far it
has gone, the readings that are counted are as many as the messages in the journal, and the host
can read every one of these. -/
theorem counts_readings (plan : SessionPlan) (limit : Nat) :
    let session := run plan limit (start plan)
    (session.journal.filterMap fun entry => entry.2.sent?).length = session.sent
      ∧ (session.readings plan.ids).length = session.sent := by
  intro session
  have hheard : Heard plan.ids session := heard_run plan limit (heard_start plan)
  obtain ⟨readings, hsent, hcount⟩ := hheard.sent
  rw [hheard.sent_journal] at hsent
  constructor
  · have hlength := congrArg List.length hsent
    rw [List.filterMap_reverse, List.length_reverse, List.length_map] at hlength
    exact hlength.trans hcount
  · have hread : (session.readings plan.ids).map Prod.snd = readings := by
      calc (session.readings plan.ids).map Prod.snd
          = (session.journal.reverse.filterMap fun entry => entry.2.sent?).filterMap
              fun body => (Wire.Reading.decode plan.ids body).toOption := by
            rw [Session.readings, List.map_filterMap, List.filterMap_filterMap]
            refine List.filterMap_congr fun entry _ => ?_
            rw [Option.map_map, reading?]
            exact congrFun Option.map_id _
        _ = readings.filterMap some := by
            rw [hsent, List.filterMap_map]
            refine List.filterMap_congr fun reading _ => ?_
            rw [Function.comp_apply, reading.decode_body_self]
            rfl
        _ = readings := List.filterMap_some
    rw [← hcount, ← hread, List.length_map]

end Session

end WeighScale
