import WeighScale.Proofs.Callbacks
import WeighScale.Proofs.Table

set_option autoImplicit false

/-! # The latest sample and the samples handed over

A callback that ends a frame does two things with the sample: the device remembers it as its
latest one, and hands it over to be sent. Between the two the clock line is lowered. A line that
fails there leaves a sample that is the latest one and is never sent, and stops the device
(`Shown.alone`); this is the only way in which the two come apart.

Seen over a run, the latest sample is that of the last frame that came to its end since the oid
was configured, whereas the samples handed over are those of the frames whose end has lowered the
clock line. So the latest sample is the last one handed over exactly where the last end of a
frame did so, or has given the same value as the last one that did (`latest_agrees_iff`).
-/

namespace WeighScale

namespace Device

/-! ## The end of a frame -/

/-- How a frame came to its end: the sample that it gave, and whether that was handed over. -/
structure Ending where
  value : Int32
  handedOver : Bool
  deriving DecidableEq, Repr

variable {β : Type} [Board β]

/-- The end of the frame in flight, if this is what a callback comes to. Its sample is handed over
once the clock line is low. -/
def ending? (device : Device) (rig : Rig β) : Option Ending :=
  match (rig.read device.dout).1 with
  | .error _ => none
  | .ok high =>
      if (device.frame.advance high).isOver device.gain then
        some
          { value := (device.frame.advance high).value device.polarity
            handedOver := ((device.seen rig).drive device.sck false).1.toBool }
      else none

omit [Board β] in
/-- What becomes of the latest sample, and the samples handed over at the same time. -/
inductive Shown (device : Device) : Option Ending → Device → List Sample → Prop
  /-- No frame came to its end, and no sample was handed over. -/
  | nothing (after : Device) (hlatest : after.latest = device.latest) :
      Shown device none after []
  /-- A sample became the latest one and was handed over, as one step. -/
  | together (after : Device) : Shown device (some ⟨after.latest, true⟩) after [after.sample]
  /-- A sample became the latest one, was not handed over, and the device has stopped. -/
  | alone (after : Device) (hactive : after.active = false) (hrunning : after.running = false) :
      Shown device (some ⟨after.latest, false⟩) after []

theorem wokenFor_seen (device : Device) (rig : Rig β) (oid : UInt8) :
    (device.seen rig).wokenFor oid = rig.wokenFor oid := Rig.wokenFor_note_of_none _ rfl oid

theorem wokenFor_drive (device : Device) (rig : Rig β) (high : Level) (oid : UInt8) :
    ((device.seen rig).drive device.sck high).2.wokenFor oid = rig.wokenFor oid :=
  (Rig.wokenFor_note_of_none _ rfl oid).trans (device.wokenFor_seen rig oid)

/-- **A callback** shows a sample in one of these ways, and it does so at the end of a frame
only. -/
theorem shown_timed (device : Device) (now : Clock) (rig : Rig β) :
    ∃ handed,
      (device.callback now rig).rig.wokenFor device.oid = rig.wokenFor device.oid ++ handed
        ∧ Shown device (device.ending? rig) (device.timed now rig).2 handed := by
  have hway := device.called_callback now rig
  unfold timed ending?
  generalize device.callback now rig = outcome at hway ⊢
  cases hway with
  | unread fault hread =>
      rw [hread]
      exact ⟨[], by simpa using device.wokenFor_seen rig _, .nothing _ rfl⟩
  | waited hread hframe =>
      rw [hread]
      dsimp only
      rw [isOver_advance_of_start hframe]
      exact ⟨[], by simpa using device.wokenFor_seen rig _, .nothing _ rfl⟩
  | clocked high hread _ hover | stuck high fault hread _ hover =>
      rw [hread]
      dsimp only
      rw [hover]
      exact ⟨[], by simpa using device.wokenFor_drive rig _ _, .nothing _ rfl⟩
  | delivered high hread _ hover hdrive =>
      have hlatest : (device.finished high now).latest
          = (device.frame.advance high).value device.polarity :=
        congrArg Sample.value (device.sample_finished high now)
      have hoid : (device.finished high now).sample.oid = device.oid :=
        device.oid_finished high now
      rw [hread]
      dsimp only
      rw [hover, if_pos rfl, hdrive, ← hlatest]
      refine ⟨[(device.finished high now).sample], ?_, .together _⟩
      rw [Rig.wokenFor_wake, if_pos hoid, device.wokenFor_drive]
  | withheld high fault hread _ hover hdrive =>
      rw [hread]
      dsimp only
      rw [hover, if_pos rfl, hdrive]
      -- the sample has become the latest one before the line is found to fail
      have hshown : Shown device _ _ _ :=
        .alone (device.completed ((device.frame.advance high).value device.polarity)).stop rfl rfl
      exact ⟨[], by simpa using device.wokenFor_drive rig _ _, hshown⟩

end Device

namespace Scale

open Device (Ending Shown)

variable {β : Type} [Board β]

/-! ## What an event is to the samples of a device -/

/-- Whether the event configures this oid. -/
def configures (scale : Scale β) (oid : UInt8) : Event → Bool
  | .operate operation => scale.touch oid operation == .configured
  | _ => false

/-- The end of a frame that the event brings about for the device with this oid. -/
def endingBy (scale : Scale β) (oid : UInt8) : Event → Option Ending
  | .callback other _ =>
      if other = oid then (scale.device? oid).bind fun device => device.ending? scale.rig
      else none
  | .operate (.serve timer _) =>
      if timer ∈ scale.rig.timers.pending ∧ timer.oid = oid then
        (scale.device? oid).bind fun device => device.ending? scale.rig
      else none
  | _ => none

/-- The samples that the device with this oid hands over in the event. What something else puts
into a slot does not come from the device. -/
def handedBy (scale : Scale β) (oid : UInt8) (event : Event) : List Sample :=
  if event.isForeignWake then []
  else ((scale.step event).rig.wokenFor oid).drop (scale.rig.wokenFor oid).length

theorem handedBy_of_append {scale : Scale β} {oid : UInt8} {event : Event} {handed : List Sample}
    (hevent : event.isForeignWake = false)
    (h : (scale.step event).rig.wokenFor oid = scale.rig.wokenFor oid ++ handed) :
    scale.handedBy oid event = handed := by
  rw [handedBy, hevent, if_neg Bool.false_ne_true, h, List.drop_left]

theorem handedBy_of_same {scale : Scale β} {oid : UInt8} {event : Event}
    (hevent : event.isForeignWake = false)
    (h : (scale.step event).rig.wokenFor oid = scale.rig.wokenFor oid) :
    scale.handedBy oid event = [] :=
  handedBy_of_append hevent (h.trans (List.append_nil _).symm)

/-- What an event is to the device that has this oid after it. -/
inductive Told (scale : Scale β) (oid : UInt8) (event : Event) (after : Device) : Prop
  /-- The oid was configured, and the device has no sample yet. -/
  | anew (hconfigures : scale.configures oid event = true) (hlatest : after.latest = 0)
      (hhanded : scale.handedBy oid event = [])
  /-- The device was there before. -/
  | shown (device : Device) (hconfigures : scale.configures oid event = false)
      (hfound : scale.device? oid = some device)
      (hshown : Shown device (scale.endingBy oid event) after (scale.handedBy oid event))

/-- A request changes the latest sample only by configuring the oid. -/
theorem latest_perform (scale : Scale β) (request : Wire.Request) (now : Clock) {oid : UInt8}
    {after : Device} (hafter : (scale.perform request now).2.device? oid = some after) :
    scale.touchOfRequest oid now request = .configured ∧ after.latest = 0
      ∨ scale.touchOfRequest oid now request ≠ .configured
        ∧ ∃ device, scale.device? oid = some device ∧ after.latest = device.latest := by
  have htouched := scale.touched_perform request oid now
  have hserved := scale.touchOfRequest_ne_served oid now request
  rw [hafter] at htouched
  generalize scale.touchOfRequest oid now request = touch at htouched hserved ⊢
  generalize scale.device? oid = found at htouched ⊢
  generalize scale.due oid = clocks, (scale.perform request now).2.due oid = clocks' at htouched
  cases htouched with
  | nothing => exact .inr ⟨Touch.noConfusion, after, rfl, rfl⟩
  | configured _ huntouched => exact .inl ⟨rfl, huntouched.latest⟩
  | disabled device _ hfound | armed device _ _ hfound | refused device hfound =>
      exact .inr ⟨Touch.noConfusion, device, hfound, rfl⟩
  | again | done => exact absurd rfl (hserved _)

theorem told_of_perform {scale : Scale β} {oid : UInt8} {operation : Operation}
    (request : Wire.Request) (now : Clock) {after : Device}
    (happly : scale.apply operation = (scale.perform request now).2)
    (htouch : scale.touch oid operation = scale.touchOfRequest oid now request)
    (hending : scale.endingBy oid (.operate operation) = none)
    (hafter : (scale.apply operation).device? oid = some after) :
    scale.Told oid (.operate operation) after := by
  have hhanded : scale.handedBy oid (.operate operation) = [] := by
    refine handedBy_of_same rfl ?_
    rw [step, happly]
    exact scale.wokenFor_perform request now oid
  rw [happly] at hafter
  rcases scale.latest_perform request now hafter with
    ⟨hconfigured, hlatest⟩ | ⟨hother, device, hfound, hlatest⟩
  · refine .anew ?_ hlatest hhanded
    rw [configures, htouch, hconfigured]
    rfl
  · refine .shown device ?_ hfound ?_
    · rw [configures, htouch]
      exact beq_false_of_ne hother
    · rw [hending, hhanded]
      exact .nothing after hlatest

/-- An event that leaves the device alone. -/
theorem told_of_same {scale : Scale β} {oid : UInt8} {event : Event} {after : Device}
    (hconfigures : scale.configures oid event = false)
    (hending : scale.endingBy oid event = none)
    (hhanded : scale.handedBy oid event = [])
    (hsame : (scale.step event).device? oid = scale.device? oid)
    (hafter : (scale.step event).device? oid = some after) : scale.Told oid event after := by
  refine .shown after hconfigures (hsame.symm.trans hafter) ?_
  rw [hending, hhanded]
  exact .nothing after rfl

/-- A callback of the device itself. The timers take no part in it, so it does not matter whether
they have asked for it. -/
theorem told_of_callback {scale : Scale β} {oid : UInt8} {event : Event} {after : Device}
    (now : Clock) (timers : Timers) (hevent : event.isForeignWake = false)
    (hconfigures : scale.configures oid event = false)
    (hending : scale.endingBy oid event
      = (scale.device? oid).bind fun device => device.ending? scale.rig)
    (hself : (scale.step event).device? oid
      = ((scale.onRig { scale.rig with timers }).callback oid now).2.device? oid)
    (hwoken : (scale.step event).rig.wokenFor oid
      = ((scale.onRig { scale.rig with timers }).callback oid now).2.rig.wokenFor oid)
    (hafter : (scale.step event).device? oid = some after) : scale.Told oid event after := by
  cases hfound : scale.device? oid with
  | none =>
      have hnone : (scale.onRig { scale.rig with timers }).device? oid = none := hfound
      rw [hself, callback_of_none now hnone, hnone] at hafter
      cases hafter
  | some device =>
      have hsome : (scale.onRig { scale.rig with timers }).device? oid = some device := hfound
      obtain ⟨-, hcalled, -, hlogged⟩ := callback_of_some now hsome
      obtain ⟨handed, hput, hshown⟩ := device.shown_timed now { scale.rig with timers }
      rw [oid_of_device? hfound] at hput
      have hhanded : scale.handedBy oid event = handed :=
        handedBy_of_append hevent (hwoken.trans ((hlogged.wokenFor oid).trans hput))
      obtain rfl : (device.timed now { scale.rig with timers }).2 = after :=
        Option.some.inj (hcalled.symm.trans (hself.symm.trans hafter))
      refine .shown device hconfigures hfound ?_
      rw [hending, hfound, hhanded]
      exact hshown

/-- A callback of another device. -/
theorem callback_ne (scale : Scale β) (now : Clock) {oid other : UInt8} (h : oid ≠ other) :
    (scale.callback other now).2.device? oid = scale.device? oid
      ∧ (scale.callback other now).2.rig.wokenFor oid = scale.rig.wokenFor oid := by
  cases hfound : scale.device? other with
  | none =>
      rw [callback_of_none now hfound]
      exact ⟨rfl, rfl⟩
  | some device =>
      obtain ⟨-, -, hothers, hlogged⟩ := callback_of_some now hfound
      have hoid : oid ≠ device.oid := by
        rw [oid_of_device? hfound]
        exact h
      refine ⟨hothers oid h, ?_⟩
      rw [hlogged.wokenFor, device.wokenFor_callback_ne now scale.rig hoid]

/-- **One step**: an event configures the oid, or it shows a sample in one of the ways listed. -/
theorem told_step (scale : Scale β) (oid : UInt8) (event : Event) {after : Device}
    (hafter : (scale.step event).device? oid = some after) : scale.Told oid event after := by
  cases event with
  | wake slot sample => exact told_of_same rfl rfl (if_pos rfl) rfl hafter
  | visit ids probe slot =>
      refine told_of_same rfl rfl (handedBy_of_same rfl ?_) rfl hafter
      show (scale.rig.visit ids probe slot).2.wokenFor oid = _
      rw [Rig.visit_eq]
      exact Rig.wokenFor_of_announced rfl oid
  | callback other now =>
      by_cases hoid : other = oid
      · subst hoid
        exact told_of_callback now scale.rig.timers rfl rfl (if_pos rfl) rfl rfl hafter
      · obtain ⟨hsame, hwoken⟩ := scale.callback_ne now (Ne.symm hoid)
        exact told_of_same rfl (if_neg hoid) (handedBy_of_same rfl hwoken) hsame hafter
  | operate operation =>
      cases operation with
      | request request now => exact told_of_perform request now rfl rfl rfl hafter
      | message ids body now =>
          cases hdecode : Wire.Request.decode ids body with
          | error e =>
              have hsame : scale.step (.operate (.message ids body now)) = scale := by
                rw [step, apply, receive, hdecode]
              refine told_of_same ?_ rfl (handedBy_of_same rfl ?_) ?_ hafter
              · rw [configures, touch, hdecode]
                rfl
              · rw [hsame]
              · rw [hsame]
          | ok request =>
              refine told_of_perform request now ?_ ?_ rfl hafter
              · rw [apply, receive, hdecode]
              · rw [touch, hdecode]
      | deliver ids probe =>
          exact told_of_same rfl rfl
            (handedBy_of_same rfl (scale.rig.wokenFor_deliver ids probe oid)) rfl hafter
      | serve timer now =>
          by_cases hserved : timer ∈ scale.rig.timers.pending ∧ timer.oid = oid
          · obtain ⟨hmem, rfl⟩ := hserved
            have hstep : scale.step (.operate (.serve timer now)) = scale.serve timer now :=
              if_pos hmem
            have hback (scale : Scale β) (next : Next) :
                (scale.putBack timer.oid next).rig.wokenFor timer.oid
                  = scale.rig.wokenFor timer.oid := by
              cases next <;> rfl
            refine told_of_callback now (scale.rig.timers.remove timer) rfl ?_
              (if_pos ⟨hmem, rfl⟩) ?_ ?_ hafter
            · rw [configures, touch, if_pos ⟨hmem, rfl⟩]
              rfl
            · rw [hstep, serve_eq, device?_putBack]
              rfl
            · rw [hstep, serve_eq, hback]
              rfl
          · -- the callback is of another device, or it is not to come at all
            have hother : (scale.step (.operate (.serve timer now))).device? oid
                  = scale.device? oid
                ∧ (scale.step (.operate (.serve timer now))).rig.wokenFor oid
                  = scale.rig.wokenFor oid := by
              show (if _ then _ else _ : Scale β).device? oid = _
                ∧ (if _ then _ else _ : Scale β).rig.wokenFor oid = _
              split
              · next hmem =>
                  have hne : timer.oid ≠ oid := fun heq => hserved ⟨hmem, heq⟩
                  refine ⟨(scale.serve_ne now (Ne.symm hne)).1, ?_⟩
                  rw [wokenFor_serve, if_neg hne, List.append_nil]
              · exact ⟨rfl, rfl⟩
            refine told_of_same ?_ (if_neg hserved) (handedBy_of_same rfl hother.2) hother.1 hafter
            rw [configures, touch, if_neg hserved]
            rfl

/-! ## Runs -/

/-- A scale, and what has come of the samples of one device since its oid was configured. -/
structure Logbook (β : Type) where
  scale : Scale β
  /-- The frames that came to their ends. -/
  endings : List Ending
  /-- The samples handed over. -/
  samples : List Sample

/-- The logbook after one more occurrence. It is begun anew when the oid is configured. -/
def Logbook.next (oid : UInt8) (logbook : Logbook β) (occurrence : Occurrence β) : Logbook β :=
  let scale := logbook.scale
  match occurrence with
  | .arrange _ => { logbook with scale := scale.meet occurrence }
  | .event event =>
      if scale.configures oid event then ⟨scale.meet occurrence, [], []⟩
      else
        { scale := scale.meet occurrence
          endings := logbook.endings ++ (scale.endingBy oid event).toList
          samples := logbook.samples ++ scale.handedBy oid event }

theorem Logbook.scale_next (oid : UInt8) (logbook : Logbook β) (occurrence : Occurrence β) :
    (logbook.next oid occurrence).scale = logbook.scale.meet occurrence := by
  cases occurrence with
  | arrange change => rfl
  | event event =>
      rw [next]
      split <;> rfl

/-- The logbook of a run, from a scale with no devices. -/
def logbook (board : β) (delays : Delays) (capacity : Nat) (oid : UInt8)
    (occurrences : List (Occurrence β)) : Logbook β :=
  occurrences.foldl (Logbook.next oid) ⟨start board delays capacity, [], []⟩

/-- The last of some values, or zero if there is none. -/
def lastValue (values : List Int32) : Int32 := values.getLastD 0

@[simp] theorem lastValue_concat (values : List Int32) (value : Int32) :
    lastValue (values ++ [value]) = value := by
  rw [lastValue, List.getLastD_eq_getLast?, List.getLast?_concat]
  rfl

namespace Logbook

variable (logbook : Logbook β)

/-- The values of the frames that came to their ends. -/
def completed : List Int32 := logbook.endings.map Ending.value

/-- The values of the samples handed over. -/
def reported : List Int32 := logbook.samples.map Sample.value

/-- The logbook is that of this device. -/
structure Fits (device : Device) : Prop where
  latest : device.latest = lastValue logbook.completed
  reported : logbook.reported = (logbook.endings.filter Ending.handedOver).map Ending.value

variable {logbook}

/-- **One occurrence.** -/
theorem fits_next {oid : UInt8}
    (h : ∀ device, logbook.scale.device? oid = some device → logbook.Fits device)
    (occurrence : Occurrence β) {after : Device}
    (hafter : (logbook.next oid occurrence).scale.device? oid = some after) :
    (logbook.next oid occurrence).Fits after := by
  rw [scale_next] at hafter
  cases occurrence with
  | arrange change => exact ⟨(h after hafter).latest, (h after hafter).reported⟩
  | event event =>
      cases logbook.scale.told_step oid event hafter with
      | anew hconfigures hlatest =>
          rw [next, if_pos hconfigures]
          exact ⟨hlatest, rfl⟩
      | shown device hconfigures hfound hshown =>
          obtain ⟨hlatest, hreported⟩ := h device hfound
          rw [next, hconfigures, if_neg Bool.false_ne_true]
          generalize logbook.scale.endingBy oid event = ending at hshown ⊢
          generalize logbook.scale.handedBy oid event = handed at hshown ⊢
          cases hshown with
          | nothing _ hsame =>
              refine ⟨?_, ?_⟩
              · simpa [completed, hsame] using hlatest
              · simpa [Logbook.reported] using hreported
          | together =>
              refine ⟨?_, ?_⟩
              · simp [completed]
              · simpa [Logbook.reported, Device.sample] using hreported
          | alone =>
              refine ⟨?_, ?_⟩
              · simp [completed]
              · simpa [Logbook.reported] using hreported

omit [Board β] in
/-- The latest sample is the last one handed over, unless the last frame has come to its end
without. -/
theorem Fits.agrees_iff {device : Device} (h : logbook.Fits device) :
    device.latest = lastValue logbook.reported
      ↔ ∀ ending ∈ logbook.endings.getLast?,
          ending.handedOver = false → ending.value = lastValue logbook.reported := by
  obtain ⟨hlatest, hreported⟩ := h
  rw [hlatest, hreported, completed]
  rcases List.eq_nil_or_concat logbook.endings with hnone | ⟨endings, last, hendings⟩
  · simp [hnone]
  · rw [hendings, List.concat_eq_append, List.getLast?_concat, List.map_append, List.map_singleton,
      lastValue_concat, List.filter_append, List.map_append]
    cases hhanded : last.handedOver with
    | false => simp [hhanded]
    | true => simp [hhanded]

end Logbook

/-- **A whole run.** -/
theorem fits_logbook (board : β) (delays : Delays) (capacity : Nat) (oid : UInt8)
    (occurrences : List (Occurrence β)) {device : Device}
    (hfound : (logbook board delays capacity oid occurrences).scale.device? oid = some device) :
    (logbook board delays capacity oid occurrences).Fits device := by
  induction occurrences using List.reverseRecOn generalizing device with
  | nil => cases hfound
  | append_singleton occurrences occurrence ih =>
      rw [logbook, List.foldl_append] at hfound ⊢
      exact Logbook.fits_next (fun _ => ih) occurrence hfound

/-- **The latest sample of a device**, at any time in any run with lines that fail whenever they
like, is the one of the last frame that came to its end since the oid was configured, or zero.
The samples handed over since then are those of the ends that have lowered the clock line. So the
latest sample is the last one handed over, or zero, exactly if the last end of a frame has lowered
the clock line or has given that value all the same. In each event that follows, a sample becomes
the latest one and is handed over together, or neither happens, or a sample becomes the latest one
alone, which takes a clock line that fails at the end of a frame and stops the device. -/
theorem latest_agrees_iff (board : β) (delays : Delays) (capacity : Nat) (oid : UInt8)
    (occurrences : List (Occurrence β)) {device : Device}
    (hfound : (logbook board delays capacity oid occurrences).scale.device? oid = some device) :
    let logbook := logbook board delays capacity oid occurrences
    device.latest = lastValue logbook.completed
      ∧ logbook.reported = (logbook.endings.filter Ending.handedOver).map Ending.value
      ∧ (device.latest = lastValue logbook.reported
          ↔ ∀ ending ∈ logbook.endings.getLast?,
              ending.handedOver = false → ending.value = lastValue logbook.reported)
      ∧ ∀ event after, (logbook.scale.step event).device? oid = some after →
          logbook.scale.Told oid event after := by
  intro logbook
  have hfits : logbook.Fits device := fits_logbook board delays capacity oid occurrences hfound
  exact ⟨hfits.latest, hfits.reported, hfits.agrees_iff, fun event _ =>
    logbook.scale.told_step oid event⟩

/-- A device is configured and enabled, and reads a frame with the value 4660. Before the last
half-cycle its clock line fails. -/
def cutOff : List (Occurrence Bench) :=
  [.event (.operate (.request (.configure ⟨1, 11, 21, 1, 1⟩) 0)),
    .event (.operate (.request (.query ⟨1, true, some 3⟩) 0))]
    ++ (List.range 49).flatMap (fun i =>
        [.arrange fun bench => bench.setLine 11 (i % 2 == 1 && (4660).testBit (23 - i / 2)),
          .event (.callback 1 0)])
    ++ [.arrange fun bench => bench.setFault .setLow 21 true, .event (.callback 1 0)]

/-- The latest sample is 4660, and no sample was handed over. -/
theorem latest_of_cutOff :
    let logbook := logbook Bench.empty .standard 1 1 cutOff
    (logbook.scale.device? 1).map Device.latest = some 4660
      ∧ logbook.scale.rig.wokenFor 1 = []
      ∧ logbook.scale.rig.handoff.pending? 0 = none := by
  decide +kernel

/-- The frame has come to its end, and the device has stopped without a report. -/
theorem latest_agrees_iff_cutOff :
    let logbook := logbook Bench.empty .standard 1 1 cutOff
    ∃ device, logbook.scale.device? 1 = some device
      ∧ logbook.endings = [⟨4660, false⟩]
      ∧ device.latest = lastValue logbook.completed
      ∧ device.latest ≠ lastValue logbook.reported
      ∧ device.running = false := by
  intro logbook
  have hrunning : (logbook.scale.device? 1).map Device.running = some false := by decide +kernel
  obtain ⟨device, hfound, hstopped⟩ := Option.map_eq_some_iff.mp hrunning
  have hendings : logbook.endings = [⟨4660, false⟩] := by decide +kernel
  obtain ⟨hlatest, hreported, hagrees, -⟩ :=
    latest_agrees_iff Bench.empty .standard 1 1 cutOff hfound
  refine ⟨device, hfound, hendings, hlatest, fun heq => ?_, hstopped⟩
  -- nothing was reported, so the sample of the last end would have to be zero
  have hzero := hagrees.mp heq ⟨4660, false⟩ (by rw [hendings]; rfl) rfl
  rw [hreported, hendings] at hzero
  exact absurd hzero (by decide)

end Scale

end WeighScale
