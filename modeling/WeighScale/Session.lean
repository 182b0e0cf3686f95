import WeighScale.Bench
import WeighScale.Delivery
import WeighScale.Scale

set_option autoImplicit false

/-! # Sessions

A session runs a scale against chips on a test bench, the way a host and its timers would:
configure and enable every device, then serve the callbacks one after another in the order of
the timers, and deliver the samples after each. Once enough readings have come in, every
device is disabled, once; the session ends when no callback is left, or when it has served as
many as it may.

Messages can also be sent at any point by a script, which tells the number of callbacks served
before each.
-/

namespace WeighScale

/-- A device of a session: the fields of its messages, and the chip it is wired to. -/
structure Fixture where
  oid : UInt32
  dout : Pin
  sck : Pin
  gain : UInt32
  invert : UInt32
  endstop : UInt32
  chip : ChipPlan
  deriving Repr

namespace Fixture

def configureBody (fixture : Fixture) (ids : Wire.Ids) : List UInt8 :=
  [ids.configure, fixture.oid, fixture.dout, fixture.sck, fixture.gain, fixture.invert].flatMap
    Wire.Integer.encode

def enableBody (fixture : Fixture) (ids : Wire.Ids) : List UInt8 :=
  [ids.query, fixture.oid, 1, fixture.endstop].flatMap Wire.Integer.encode

/-- The message that disables the device and unlinks it from its endstop. -/
def disableBody (fixture : Fixture) (ids : Wire.Ids) : List UInt8 :=
  [ids.query, fixture.oid, 0, -1].flatMap Wire.Integer.encode

end Fixture

structure SessionPlan where
  ids : Wire.Ids
  delays : Delays
  capacity : Nat
  fixtures : List Fixture
  /-- The readings after which the devices are disabled. -/
  target : Nat
  /-- Messages, each with the number of callbacks served before it. -/
  script : List (Nat × List UInt8)
  now : Clock

/-- A message that the scale was given, and what came of it. -/
structure Handled where
  body : List UInt8
  result : Except RequestError Unit

/-- The state of a session: its scale and clock, how many callbacks were served and readings sent,
whether the devices were disabled, and records of the rest, the latest entry first. -/
structure Session where
  scale : Scale Bench
  now : Clock
  calls : Nat
  sent : Nat
  disabled : Bool
  handled : List Handled
  /-- The callbacks served, each with the clock it was served at. -/
  served : List Timer
  /-- The effects, each with the number of callbacks served by then. -/
  journal : List (Nat × Effect)

namespace Session

/-- Moves the effects from the trace of the rig to the journal. -/
def settle (session : Session) : Session :=
  let rig := session.scale.rig
  { session with
    scale := session.scale.onRig rig.forget
    journal := rig.trace.map (fun effect => (session.calls, effect)) ++ session.journal }

/-- Gives the scale a message. -/
def handle (session : Session) (ids : Wire.Ids) (body : List UInt8) : Session :=
  let outcome := session.scale.receive ids body session.now
  settle { session with
    scale := outcome.2
    handled := ⟨body, outcome.1⟩ :: session.handled }

def handleAll (session : Session) (ids : Wire.Ids) (bodies : List (List UInt8)) : Session :=
  bodies.foldl (fun session body => session.handle ids body) session

/-- Puts the chip of a fixture on its pins. -/
def mount (session : Session) (fixture : Fixture) : Session :=
  let rig := session.scale.rig
  let board := rig.board.mount fixture.dout fixture.sck (.start fixture.chip)
  { session with scale := session.scale.onRig { rig with board } }

def install (session : Session) (ids : Wire.Ids) (fixture : Fixture) : Session :=
  (session.mount fixture).handleAll ids [fixture.configureBody ids, fixture.enableBody ids]

/-- The session before its devices are installed. -/
def bare (plan : SessionPlan) : Session where
  scale := Scale.start .empty plan.delays plan.capacity
  now := plan.now
  calls := 0
  sent := 0
  disabled := false
  handled := []
  served := []
  journal := []

/-- The session with all devices installed and no callback served. -/
def start (plan : SessionPlan) : Session :=
  plan.fixtures.foldl (fun session fixture => session.install plan.ids fixture) (bare plan)

/-- Disables every device, if enough readings have come in and it was not done before. -/
def disableWhenDone (session : Session) (plan : SessionPlan) : Session :=
  if session.disabled || decide (session.sent < plan.target) then session
  else
    -- every device is told, also one that could not be configured
    handleAll { session with disabled := true } plan.ids
      (plan.fixtures.map fun fixture => fixture.disableBody plan.ids)

/-- Sends the messages that the script has at this point. -/
def followScript (session : Session) (plan : SessionPlan) : Session :=
  session.handleAll plan.ids
    ((plan.script.filter fun entry => entry.1 == session.calls).map Prod.snd)

/-- Serves a callback at the clock at which it is due, and delivers the samples. -/
def serve (session : Session) (plan : SessionPlan) (timer : Timer) : Session :=
  let scale := session.scale.serve timer timer.clock
  let delivered := scale.rig.deliver plan.ids true
  settle { session with
    scale := scale.onRig delivered.2
    now := timer.clock
    calls := session.calls + 1
    sent := session.sent + delivered.1
    served := timer :: session.served }

/-- Serves at most so many callbacks, with the messages due before each. -/
def run (plan : SessionPlan) : Nat → Session → Session
  | 0, session => session
  | limit + 1, session =>
      let session := (session.disableWhenDone plan).followScript plan
      match session.scale.rig.timers.next? with
      | none => session
      | some timer => run plan limit (session.serve plan timer)

/-- The reading in an effect, if the effect is that it was sent. -/
def reading? (ids : Wire.Ids) (effect : Effect) : Option Wire.Reading :=
  effect.sent?.bind fun body => (Wire.Reading.decode ids body).toOption

/-- The readings sent, each with the number of the callback after which it was. -/
def readings (session : Session) (ids : Wire.Ids) : List (Nat × Wire.Reading) :=
  session.journal.reverse.filterMap fun entry =>
    (reading? ids entry.2).map fun reading => (entry.1, reading)

end Session

end WeighScale
