import WeighScale.Bench
import WeighScale.Proofs.Pending
import WeighScale.Proofs.Touch

set_option autoImplicit false

/-! # Requests that fail

Several things may be wrong with a message at once. They are listed here in the order in which
they are looked for (`Scale.faults`), each said on its own: what is wrong with the body, with the
gain, with the polarity, with the room in the table and with each of the lines. The first of them
decides the failure, and a message with which nothing is wrong succeeds (`receive_result`).

A message that fails leaves nothing half done. If no call of the board has failed, none was made,
and the scale is as it was. If a line fails while a device is configured, no device has changed, not
even the one that was to be replaced. If the clock line fails while a device is enabled, its
callbacks are cancelled already, so the device is stopped, and nothing else has changed.
-/

namespace WeighScale

/-! ## The first fault decides -/

/-- What comes of several things that may be wrong: the first one that is decides. -/
def decided {ε : Type} (faults : List (Option ε)) : Except ε Unit :=
  match faults.findSome? id with
  | some e => .error e
  | none => .ok ()

section Decided

variable {ε δ : Type}

theorem decided_append (faults more : List (Option ε)) :
    decided (faults ++ more)
      = match decided faults with
        | .error e => .error e
        | .ok () => decided more := by
  unfold decided
  rw [List.findSome?_append]
  cases faults.findSome? id <;> rfl

theorem decided_eq_ok_iff {faults : List (Option ε)} :
    decided faults = .ok () ↔ ∀ fault ∈ faults, fault = none := by
  have hnone : faults.findSome? id = none ↔ ∀ fault ∈ faults, fault = none :=
    List.findSome?_eq_none_iff
  rw [← hnone, decided]
  cases faults.findSome? id with
  | none => simp
  | some e => simp

theorem decided_map (f : ε → δ) (faults : List (Option ε)) :
    decided (faults.map (Option.map f)) = (decided faults).mapError f := by
  induction faults with
  | nil => rfl
  | cons fault faults ih =>
      cases fault with
      | none => exact ih
      | some e => rfl

end Decided

variable {β : Type} [Board β]

/-- What fails when the lines of a device are claimed and its clock line is raised. Each call is
asked for on the board that the one before it left. -/
def attachFaults (board : β) (dout sck : Pin) : List (Option PinFault) :=
  let claimed := Board.setupInput board dout .down
  let driven := Board.setupOutput claimed.board sck true
  let raised := Board.drive driven.board sck true
  [claimed.fault, driven.fault, raised.fault]

namespace Device

theorem result_attach (device : Device) (rig : Rig β) :
    (device.attach rig).1 = decided (attachFaults rig.board device.dout device.sck) := by
  unfold attach attachFaults powerDown Rig.setupInput Rig.setupOutput Rig.drive
  dsimp only [Rig.note]
  cases (Board.setupInput rig.board device.dout .down).fault with
  | some fault => rfl
  | none =>
      dsimp only [Rig.unlessFault]
      generalize (Board.setupInput rig.board device.dout .down).board = claimed
      cases (Board.setupOutput claimed device.sck true).fault with
      | some fault => rfl
      | none =>
          dsimp only
          generalize (Board.setupOutput claimed device.sck true).board = driven
          cases (Board.drive driven device.sck true).fault <;> rfl

/-- The one thing that may go wrong with a query. -/
theorem result_query (device : Device) (enable : Bool) (endstop : Option UInt8) (now : Clock)
    (rig : Rig β) :
    (device.query enable endstop now rig).result
      = decided [if enable then (Board.drive rig.board device.sck false).fault else none] := by
  cases enable with
  | false => rfl
  | true =>
      show (device.enable endstop now rig).result = _
      unfold Device.enable Rig.drive Rig.cancel
      dsimp only [Rig.note]
      cases (Board.drive rig.board device.sck false).fault <;> rfl

end Device

namespace Scale

/-! ## What may be wrong -/

/-- There is no gain with this code. -/
def gainFault? (code : UInt32) : Option RequestError :=
  if code = 1 ∨ code = 2 ∨ code = 3 then none else some (.noGain code)

/-- There is no polarity with this factor. -/
def polarityFault? (sign : Int32) : Option RequestError :=
  if sign = 1 ∨ sign = -1 then none else some (.noPolarity sign)

omit [Board β] in
/-- The oid is new, and there is no room for one more device. -/
def roomFault? (scale : Scale β) (oid : UInt8) : Option RequestError :=
  if (scale.device? oid).isSome ∨ scale.devices.length < scale.capacity then none else some .noRoom

/-- What may be wrong with a request to configure a device. -/
def configureFaults (scale : Scale β) (request : Wire.Configure) : List (Option RequestError) :=
  [gainFault? request.gain, polarityFault? request.invert, scale.roomFault? request.oid]
    ++ (attachFaults scale.rig.board request.dout request.sck).map (Option.map .pin)

/-- What may be wrong with a request to start or stop sampling. Stopping leaves the lines alone. -/
def queryFaults (scale : Scale β) (request : Wire.Query) : List (Option RequestError) :=
  match scale.device? request.oid with
  | none => [some (.noDevice request.oid)]
  | some device =>
      [(if request.enable then (Board.drive scale.rig.board device.sck false).fault else none).map
        .pin]

/-- What may be wrong with a message. -/
def faults (scale : Scale β) (ids : Wire.Ids) (body : List UInt8) : List (Option RequestError) :=
  match Wire.Request.decode ids body with
  | .error e => [some (.unreadable e)]
  | .ok (.configure request) => scale.configureFaults request
  | .ok (.query request) => scale.queryFaults request

theorem gainFault?_eq (code : UInt32) :
    gainFault? code
      = match Gain.ofCode? code with
        | some _ => none
        | none => some (.noGain code) := by
  unfold gainFault? Gain.ofCode?
  split_ifs <;> simp_all

theorem polarityFault?_eq (sign : Int32) :
    polarityFault? sign
      = match Polarity.ofSign? sign with
        | some _ => none
        | none => some (.noPolarity sign) := by
  unfold polarityFault? Polarity.ofSign?
  split_ifs <;> simp_all

omit [Board β] in
theorem roomFault?_eq (scale : Scale β) (oid : UInt8) :
    scale.roomFault? oid
      = match scale.slotFor oid with
        | .ok _ => none
        | .error e => some e := by
  unfold roomFault? slotFor
  cases scale.device? oid with
  | some device => rfl
  | none =>
      by_cases hroom : scale.devices.length < scale.capacity
      · simp [hroom]
      · simp [hroom]

omit [Board β] in
/-- Whether the device asked for can be had at all. -/
theorem wanted_decided (scale : Scale β) (request : Wire.Configure) :
    (scale.wanted request).map (fun _ => ())
      = decided [gainFault? request.gain, polarityFault? request.invert,
          scale.roomFault? request.oid] := by
  rw [gainFault?_eq, polarityFault?_eq, roomFault?_eq, wanted, settings]
  cases Gain.ofCode? request.gain with
  | none => rfl
  | some gain =>
      cases Polarity.ofSign? request.invert with
      | none => rfl
      | some polarity =>
          dsimp only
          cases scale.slotFor request.oid <;> rfl

omit [Board β] in
/-- The lines take no part in it. -/
theorem wanted_ne_pin {scale : Scale β} {request : Wire.Configure} {fault : PinFault} :
    scale.wanted request ≠ .error (.pin fault) := by
  intro h
  have hdecided := scale.wanted_decided request
  rw [h] at hdecided
  unfold gainFault? polarityFault? roomFault? at hdecided
  split_ifs at hdecided <;> cases hdecided

theorem result_attach_wanted {scale : Scale β} {request : Wire.Configure} {device : Device}
    (h : scale.wanted request = .ok device) :
    (device.attach scale.rig).1
      = decided (attachFaults scale.rig.board request.dout request.sck) := by
  obtain ⟨hdout, hsck⟩ := lines_wanted h
  rw [Device.result_attach, hdout, hsck]

theorem configure_result (scale : Scale β) (request : Wire.Configure) :
    (scale.configure request).1 = decided (scale.configureFaults request) := by
  have hway := scale.configured_configure request
  have hwanted := scale.wanted_decided request
  rw [configureFaults, decided_append, ← hwanted, decided_map]
  generalize scale.configure request = outcome at hway ⊢
  cases hway with
  | refused e hrefused => rw [hrefused]; rfl
  | failed device fault hdevice hattach =>
      rw [hdevice, ← result_attach_wanted hdevice, hattach]
      rfl
  | added device line hdevice hattach =>
      rw [hdevice, ← result_attach_wanted hdevice, hattach]
      rfl

theorem query_result_of_some {scale : Scale β} {request : Wire.Query} {device : Device}
    (now : Clock) (h : scale.device? request.oid = some device) :
    (scale.query request now).1 = (scale.queried device request now).result.mapError .pin := by
  rw [query, h, queried]
  dsimp only
  cases (device.query request.enable request.endstop now scale.rig).result <;> rfl

theorem query_result (scale : Scale β) (request : Wire.Query) (now : Clock) :
    (scale.query request now).1 = decided (scale.queryFaults request) := by
  unfold queryFaults
  cases hfound : scale.device? request.oid with
  | none =>
      rw [query_of_none now hfound]
      rfl
  | some device =>
      rw [query_result_of_some now hfound, queried, Device.result_query, ← decided_map]
      rfl

/-- **The first thing that is wrong with a message decides its failure**, and one with which
nothing is wrong succeeds. -/
theorem receive_result (scale : Scale β) (ids : Wire.Ids) (body : List UInt8) (now : Clock) :
    (scale.receive ids body now).1 = decided (scale.faults ids body) := by
  unfold receive faults
  cases Wire.Request.decode ids body with
  | error e => rfl
  | ok request =>
      cases request with
      | configure request => exact scale.configure_result request
      | query request => exact scale.query_result request now

/-! ## What a failure leaves -/

/-- At most the board has changed, and the record of the calls that were made on it. -/
structure SparesTable (scale after : Scale β) : Prop where
  delays : after.delays = scale.delays
  devices : after.devices = scale.devices
  handoff : after.rig.handoff = scale.rig.handoff
  timers : after.rig.timers = scale.rig.timers

/-- The device was stopped with its frame cleared, and has no callback to come. Nothing else has
changed, except for the board and the record of the calls. -/
structure Halts (scale : Scale β) (device : Device) (after : Scale β) : Prop where
  delays : after.delays = scale.delays
  devices : after.devices = scale.devices.map fun other =>
    if other.oid = device.oid then
      { device with frame := ⟨0, 0⟩, active := false, running := false }
    else other
  handoff : after.rig.handoff = scale.rig.handoff
  due_self : after.due device.oid = []
  due_ne : ∀ oid, oid ≠ device.oid → after.due oid = scale.due oid

theorem sparesTable_configure {scale : Scale β} {request : Wire.Configure} {e : RequestError}
    (h : (scale.configure request).1 = .error e) :
    (∃ fault, e = .pin fault) ∧ SparesTable scale (scale.configure request).2
      ∨ (∀ fault, e ≠ .pin fault) ∧ (scale.configure request).2 = scale := by
  have hway := scale.configured_configure request
  generalize scale.configure request = outcome at h hway ⊢
  cases hway with
  | refused e' hwanted =>
      refine Or.inr ⟨?_, rfl⟩
      rintro fault rfl
      obtain rfl := Except.error.inj h
      exact wanted_ne_pin hwanted
  | failed device fault =>
      refine Or.inl ⟨⟨fault, (Except.error.inj h).symm⟩, rfl, rfl, ?_, ?_⟩
      · exact device.handoff_attach scale.rig
      · exact timers_attach device scale.rig
  | added => cases h

/-- A query fails with the device halted. -/
theorem halts_query {scale : Scale β} {request : Wire.Query} {device : Device} {now : Clock}
    {e : RequestError} (hfound : scale.device? request.oid = some device)
    (h : (scale.query request now).1 = .error e) :
    (∃ fault, e = .pin fault) ∧ Halts scale device (scale.query request now).2 := by
  obtain ⟨rig, hlogged, hafter⟩ := query_eq_of_some now hfound
  have hdue (oid : UInt8) : ((scale.query request now).2).due oid
      = (scale.queried device request now).rig.timers.due oid := by
    rw [hafter, due, rig_onRig, hlogged.timers]
  rw [query_result_of_some now hfound] at h
  -- disabling never fails, so the query was to enable the device
  cases henable : request.enable with
  | false =>
      rw [queried, Device.query, henable, if_neg Bool.false_ne_true] at h
      cases h
  | true =>
      have hqueried : scale.queried device request now
          = device.enable request.endstop now scale.rig := by
        rw [queried, Device.query, henable, if_pos rfl]
      have hway := device.enabled_enable request.endstop now scale.rig
      rw [hqueried] at h hdue hlogged hafter
      generalize device.enable request.endstop now scale.rig = outcome
        at h hway hdue hlogged hafter
      cases hway with
      | armed => cases h
      | refused fault =>
          refine ⟨⟨fault, (Except.error.inj h).symm⟩, ?_, ?_, ?_, ?_, ?_⟩
          · rw [hafter]
            rfl
          · rw [hafter]
            rfl
          · rw [hafter]
            exact hlogged.handoff
          · rw [hdue, Rig.timers_drive, Rig.timers_cancel, Timers.due_cancel_self]
          · intro oid hne
            rw [hdue, Rig.timers_drive, Rig.timers_cancel, Timers.due_cancel_ne _ hne, due]

/-- **A message that fails leaves nothing half done.** Whatever the scale, the message and the
board, the first thing that is wrong with the message decides its failure. Unless a line has failed,
the scale is as it was, and no call of the board was made. If a line has failed while a device was
to be configured, then no device, no slot and no callback has changed; if it has failed while a
device was to be enabled, then that device is stopped before a frame, without a callback to come,
and nothing else has changed. -/
theorem failed_message_undoes (scale : Scale β) (ids : Wire.Ids) (body : List UInt8)
    (now : Clock) :
    let handled := scale.receive ids body now
    handled.1 = decided (scale.faults ids body)
      ∧ ∀ e, handled.1 = .error e →
          match e with
          | .pin _ =>
              (∃ request, Wire.Request.decode ids body = .ok (.configure request)
                ∧ SparesTable scale handled.2)
              ∨ ∃ request device, Wire.Request.decode ids body = .ok (.query request)
                ∧ scale.device? request.oid = some device ∧ Halts scale device handled.2
          | _ => handled.2 = scale := by
  intro handled
  refine ⟨scale.receive_result ids body now, ?_⟩
  intro e h
  cases hdecode : Wire.Request.decode ids body with
  | error inner =>
      have hhandled : handled = (.error (.unreadable inner), scale) := by
        show scale.receive ids body now = _
        rw [receive, hdecode]
      rw [hhandled] at h ⊢
      cases h
      rfl
  | ok request =>
      have hhandled : handled = scale.perform request now := by
        show scale.receive ids body now = _
        rw [receive, hdecode]
      rw [hhandled] at h ⊢
      cases request with
      | configure request =>
          rcases sparesTable_configure h with ⟨⟨fault, rfl⟩, hspares⟩ | ⟨hne, hsame⟩
          · exact Or.inl ⟨request, rfl, hspares⟩
          · cases e with
            | pin fault => exact absurd rfl (hne fault)
            | _ => exact hsame
      | query request =>
          cases hfound : scale.device? request.oid with
          | none =>
              rw [perform, query_of_none now hfound] at h ⊢
              cases h
              rfl
          | some device =>
              obtain ⟨⟨fault, rfl⟩, hhalts⟩ := halts_query hfound h
              exact Or.inr ⟨request, device, rfl, hfound, hhalts⟩

/-- A device that was enabled and is in the middle of a frame, and whose clock line fails from then
on. -/
def faltering : Scale Bench :=
  let scale := (start Bench.empty .standard 1).after
    [.request (.configure ⟨1, 4, 5, 1, 1⟩) 0, .request (.query ⟨1, true, none⟩) 0,
      .serve ⟨1, 200⟩ 200, .serve ⟨1, 240⟩ 240, .serve ⟨1, 280⟩ 280]
  let board := (scale.rig.board.setFault .setLow 5 true).setFault .setHigh 5 true
  scale.onRig { scale.rig with board }

/-- It is to be enabled again, to be configured again, and to be configured with everything
wrong. -/
theorem failed_message_undoes_faltering :
    (faltering.receive .standard [71, 1, 1, 4] 300).1 = .error (.pin .setLow)
      ∧ (∃ device, faltering.device? 1 = some device ∧ device.frame.halfCycles = 3
          ∧ Halts faltering device (faltering.receive .standard [71, 1, 1, 4] 300).2)
      ∧ (faltering.receive .standard [70, 1, 4, 5, 2, 1] 300).1 = .error (.pin .setHigh)
      ∧ SparesTable faltering (faltering.receive .standard [70, 1, 4, 5, 2, 1] 300).2
      ∧ (faltering.receive .standard [70, 2, 4, 5, 9, 9] 300).1 = .error (.noGain 9)
      ∧ (faltering.receive .standard [70, 2, 4, 5, 9, 9] 300).2 = faltering := by
  have hquery : Wire.Request.decode .standard [71, 1, 1, 4] = .ok (.query ⟨1, true, some 4⟩) := by
    decide
  have hconfigure : Wire.Request.decode .standard [70, 1, 4, 5, 2, 1]
      = .ok (.configure ⟨1, 4, 5, 2, 1⟩) := by decide
  have henable : (faltering.receive .standard [71, 1, 1, 4] 300).1 = .error (.pin .setLow) := by
    decide +kernel
  have hagain : (faltering.receive .standard [70, 1, 4, 5, 2, 1] 300).1
      = .error (.pin .setHigh) := by decide +kernel
  have hwrong : (faltering.receive .standard [70, 2, 4, 5, 9, 9] 300).1 = .error (.noGain 9) := by
    decide +kernel
  refine ⟨henable, ?_, hagain, ?_, hwrong, ?_⟩
  · rcases (failed_message_undoes faltering .standard [71, 1, 1, 4] 300).2 _ henable with
      ⟨request, hdecode, -⟩ | ⟨request, device, hdecode, hfound, hhalts⟩
    · cases hquery.symm.trans hdecode
    · cases hquery.symm.trans hdecode
      have hframe : (faltering.device? 1).map (·.frame.halfCycles) = some 3 := by decide +kernel
      rw [hfound] at hframe
      exact ⟨device, hfound, Option.some.inj hframe, hhalts⟩
  · rcases (failed_message_undoes faltering .standard [70, 1, 4, 5, 2, 1] 300).2 _ hagain with
      ⟨-, -, hspares⟩ | ⟨request, device, hdecode, -⟩
    · exact hspares
    · cases hconfigure.symm.trans hdecode
  · exact (failed_message_undoes faltering .standard [70, 2, 4, 5, 9, 9] 300).2 _ hwrong

end Scale

end WeighScale
