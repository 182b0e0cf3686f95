import WeighScale.Bench
import WeighScale.Proofs.Callbacks
import WeighScale.Proofs.Waveform

set_option autoImplicit false

/-! # How sampling ends

A device that is told to stop does not stop at once: its callbacks go on until the frame in
flight has come to its end. If there is no frame in flight, one more begins as soon as a
conversion is ready. The last half-cycle hands its sample over and asks for no other callback;
a line that fails ends the callbacks at once, and then no sample is handed over (`WindsDown`).

What is in the frame register when the device is told to stop are the levels of the last
callbacks before (`InFlight`). None of them is lost: the sample is that of the levels before and
after together.
-/

namespace WeighScale

namespace Device

/-! ## One callback -/

/-- The callback goes by without a fault or a sample, and another one is to come. -/
def Goes (exchange : Call × Response) : Prop :=
  (∃ clock, exchange.2.result = .ok (some (.again clock)))
    ∧ ∀ effect ∈ exchange.2.effects, effect.fault? = none ∧ effect.woken? = none

variable {β : Type} [Board β] {device current : Device} {rig : Rig β} {calls : List Call}

omit [Board β] in
/-- A frame may as well be told from the device that is in it. -/
theorem Within.refresh (h : Within device calls current) : Within current calls current where
  renewed := rfl
  frame := h.frame
  ready := h.ready
  unfinished := h.gain ▸ h.unfinished

/-- A callback changes neither the endstop nor whether sampling goes on. -/
theorem linked_callback (device : Device) (now : Clock) (rig : Rig β) :
    (device.callback now rig).device.endstop = device.endstop
      ∧ (device.callback now rig).device.active = device.active := by
  have hway := device.called_callback now rig
  generalize device.callback now rig = outcome at hway ⊢
  cases hway with
  | delivered high =>
      refine ⟨?_, active_finished device high now⟩
      unfold finished settle
      split <;> rfl
  | unread | waited | clocked | stuck | withheld => exact ⟨rfl, rfl⟩

/-- Neither changes in a guarded callback, except that a device that fails does not go on. -/
theorem linked_step (device : Device) (rig : Rig β) (now : Clock) :
    (device.step rig (.callback now true)).device.endstop = device.endstop
      ∧ (device.active = false →
          (device.step rig (.callback now true)).device.active = false) := by
  obtain ⟨hendstop, hactive⟩ := device.linked_callback now rig.forget
  rw [step]
  split
  · exact ⟨hendstop, hactive.trans⟩
  · exact ⟨hendstop, fun _ => rfl⟩

/-- The callback of a device that was told to stop: it goes by, or the frame goes on by one call,
or it is the last one. -/
inductive Winding (device : Device) (calls : List Call) (call : Call)
    (outcome : Outcome (Option Next) β) : Prop
  /-- No conversion is ready. -/
  | waits (hempty : calls = []) (hhigh : call.high = true)
      (hgoes : Goes (call, outcome.response)) (hnext : Within device [] outcome.device)
  /-- The frame goes on. -/
  | clocks (hgoes : Goes (call, outcome.response))
      (hnext : Within device (calls ++ [call]) outcome.device)
  /-- The frame ends, and its sample is handed over. -/
  | ends (hready : Ready (calls ++ [call]))
      (hlength : calls.length + 1 = device.gain.frameLength)
      (hresult : outcome.result = .ok (some .done))
      (heffects : outcome.rig.effects
        = [.read device.dout call.high none, .drive device.sck false none,
            .wake device.slot (device.sampleOf (calls ++ [call]) call)])
  /-- A line has failed. -/
  | fails (hresult : outcome.result = .ok (some .done))
      (hfault : ∃ effect ∈ outcome.rig.effects, effect.fault?.isSome = true)
      (hsamples : outcome.rig.effects.filterMap Effect.woken? = [])

/-- A callback that fails is the last one, and hands nothing over. -/
theorem Winding.of_error {now : Clock} {fault : PinFault} {call : Call}
    (h : (current.callback now rig.forget).result = .error fault) :
    Winding device calls call (current.step rig (.callback now true)) := by
  obtain ⟨effect, hmem, hfault⟩ := fault_of_callback h
  have hnone : (current.step rig (.callback now true)).rig.effects.filterMap Effect.woken? = [] := by
    by_contra hsome
    have hhanded : handed (current.step rig (.callback now true)).rig.effects ≠ 0 := fun hzero =>
      hsome (List.eq_nil_of_length_eq_zero hzero)
    have hcalm := ok_of_calm (calm_of_handed hhanded)
    obtain ⟨next, hok⟩ := hcalm
    cases h.symm.trans hok
  have hstep : current.step rig (.callback now true)
      = ⟨.ok (some .done), (current.callback now rig.forget).device.stop,
          (current.callback now rig.forget).rig.log (.stopped current.oid fault)⟩ := by
    rw [step, h]
    rfl
  refine .fails (by rw [hstep]) ⟨effect, ?_, by rw [hfault]; rfl⟩ hnone
  rw [hstep]
  exact List.mem_reverse.mpr (List.mem_cons_of_mem _ hmem)

/-- **One callback** of a device in a frame, whatever the lines do. -/
theorem Within.winds (h : Within device calls current) (hactive : current.active = false)
    (rig : Rig β) (now : Clock) :
    Winding device calls (current.meets now (Board.read rig.board current.dout).1)
      (current.step rig (.callback now true)) := by
  cases hresult : (current.callback now rig.forget).result with
  | error fault => exact .of_error hresult
  | ok next =>
      have hcalm : (current.step rig (.callback now true)).Calm := by
        rw [step_callback_of_ok hresult]
        exact calm_of_ok hresult
      rcases h.callback (calm_callback hcalm) with
        ⟨rfl, hhigh, hresponse, hnext⟩ | ⟨hready, hresponse, ⟨hlength, hnext⟩ | ⟨hlength, -⟩⟩
      · refine .waits rfl hhigh ?_ hnext
        rw [Goes, hresponse]
        exact ⟨⟨_, rfl⟩, by simp [awaiting, Effect.fault?, Effect.woken?]⟩
      · refine .clocks ?_ hnext
        rw [Goes, hresponse, inFrame, if_pos hlength]
        exact ⟨⟨_, rfl⟩, by simp [Effect.fault?, Effect.woken?]⟩
      · -- sampling does not go on after the frame
        have hend : ¬calls.length + 1 < device.gain.frameLength := by omega
        rw [inFrame, if_neg hend] at hresponse
        have hdone : (current.meets now (Board.read rig.board current.dout).1).active = false :=
          hactive
        refine .ends hready hlength ?_ (congrArg Response.effects hresponse)
        rw [hdone] at hresponse
        exact congrArg Response.result hresponse

/-! ## The callbacks that are left -/

/-- How the callbacks of a device go on from the time it is told to stop, in a frame that has
begun with the calls `before`; which samples they hand over; and whether they have come to their
end. -/
inductive WindsDown (device : Device) (before : List Call) :
    List (Call × Response) → List Sample → Bool → Prop
  /-- The end is still to come. -/
  | going (exchanges : List (Call × Response)) (hgoes : ∀ exchange ∈ exchanges, Goes exchange) :
      WindsDown device before exchanges [] false
  /-- The last callback has failed. -/
  | failed (exchanges : List (Call × Response)) (last : Call × Response)
      (hgoes : ∀ exchange ∈ exchanges, Goes exchange)
      (hresult : last.2.result = .ok (some .done))
      (hfault : ∃ effect ∈ last.2.effects, effect.fault?.isSome = true)
      (hsamples : last.2.effects.filterMap Effect.woken? = []) :
      WindsDown device before (exchanges ++ [last]) [] true
  /-- The last callback has brought the frame to its end. If there was no frame in flight, one
  has begun after some waits. -/
  | finished (waits frame : List (Call × Response)) (last : Call × Response)
      (hgoes : ∀ exchange ∈ waits ++ frame, Goes exchange)
      (hwaits : ∀ exchange ∈ waits, before = [] ∧ exchange.1.high = true)
      (hready : Ready (before ++ frame.map Prod.fst ++ [last.1]))
      (hlength : before.length + frame.length + 1 = device.gain.frameLength)
      (hactive : last.1.active = false)
      (hresult : last.2.result = .ok (some .done))
      (heffects : last.2.effects
        = [.read device.dout last.1.high none, .drive device.sck false none,
            .wake device.slot (device.sampleOf (before ++ frame.map Prod.fst ++ [last.1]) last.1)]) :
      WindsDown device before (waits ++ frame ++ [last])
        [device.sampleOf (before ++ frame.map Prod.fst ++ [last.1]) last.1] true

theorem samplesOf_append (exchanges more : List (Call × Response)) :
    samplesOf (exchanges ++ more) = samplesOf exchanges ++ samplesOf more :=
  List.flatMap_append

theorem samplesOf_of_goes {exchanges : List (Call × Response)}
    (h : ∀ exchange ∈ exchanges, Goes exchange) : samplesOf exchanges = [] :=
  List.flatMap_eq_nil_iff.mpr fun exchange hmem =>
    List.filterMap_eq_nil_iff.mpr fun effect heffect => ((h exchange hmem).2 effect heffect).2

theorem WindsDown.samplesOf_eq {before : List Call} {exchanges : List (Call × Response)}
    {samples : List Sample} {ended : Bool} (h : WindsDown device before exchanges samples ended) :
    samplesOf exchanges = samples := by
  have hone (last : Call × Response) :
      samplesOf [last] = last.2.effects.filterMap Effect.woken? := List.append_nil _
  cases h with
  | going exchanges hgoes => exact samplesOf_of_goes hgoes
  | failed exchanges last hgoes _ _ hsamples =>
      rw [samplesOf_append, samplesOf_of_goes hgoes, hone, hsamples]
      rfl
  | finished waits frame last hgoes _ _ _ _ _ heffects =>
      rw [samplesOf_append, samplesOf_of_goes hgoes, hone, heffects]
      rfl

/-- The callbacks since the device was told to stop are waits and then calls of a frame, and the
device is in that frame. -/
structure Underway (device : Device) (before : List Call) (waits frame : List (Call × Response))
    (current : Device) : Prop where
  goes : ∀ exchange ∈ waits ++ frame, Goes exchange
  waits : ∀ exchange ∈ waits, before = [] ∧ exchange.1.high = true
  within : Within device (before ++ frame.map Prod.fst) current
  active : current.active = false

/-- **The next callback** is one more of those, or the last one. -/
theorem Underway.callback {before : List Call} {waits frame : List (Call × Response)}
    (h : Underway device before waits frame current) (rig : Rig β) (now : Clock) :
    let call := current.meets now (Board.read rig.board current.dout).1
    let outcome := current.step rig (.callback now true)
    ((∃ clock, outcome.result = .ok (some (.again clock)))
        ∧ ∃ waits' frame', waits' ++ frame' = waits ++ frame ++ [(call, outcome.response)]
          ∧ Underway device before waits' frame' outcome.device)
      ∨ outcome.result = .ok (some .done)
        ∧ ∃ samples,
            WindsDown device before (waits ++ frame ++ [(call, outcome.response)]) samples true := by
  intro call outcome
  have hway : Winding device (before ++ frame.map Prod.fst) call outcome :=
    h.within.winds h.active rig now
  have hactive : outcome.device.active = false := (current.linked_step rig now).2 h.active
  have hgoes (hcall : Goes (call, outcome.response)) :
      ∀ exchange ∈ waits ++ frame ++ [(call, outcome.response)], Goes exchange :=
    List.forall_mem_append.mpr ⟨h.goes, List.forall_mem_singleton.mpr hcall⟩
  generalize outcome = outcome at hway hactive hgoes ⊢
  cases hway with
  | waits hempty hhigh hcall hnext =>
      -- there is no frame in flight yet
      obtain ⟨rfl, hframe⟩ := List.append_eq_nil_iff.mp hempty
      obtain rfl := List.map_eq_nil_iff.mp hframe
      refine Or.inl ⟨hcall.1, _, [], List.append_nil _, ?_, ?_, hnext, hactive⟩
      · rw [List.append_nil]
        exact hgoes hcall
      · rw [List.append_nil]
        refine List.forall_mem_append.mpr ⟨h.waits, List.forall_mem_singleton.mpr ⟨rfl, hhigh⟩⟩
  | clocks hcall hnext =>
      refine Or.inl ⟨hcall.1, waits, frame ++ [(call, outcome.response)],
        (List.append_assoc ..).symm, ?_, h.waits, ?_, hactive⟩
      · rw [← List.append_assoc]
        exact hgoes hcall
      · rw [List.map_append, ← List.append_assoc]
        exact hnext
  | ends hready hlength hresult heffects =>
      rw [List.length_append, List.length_map] at hlength
      exact Or.inr ⟨hresult, _, .finished waits frame (call, outcome.response) h.goes h.waits hready
        hlength h.active hresult heffects⟩
  | fails hresult hfault hsamples =>
      exact Or.inr ⟨hresult, _, .failed (waits ++ frame) (call, outcome.response) h.goes hresult
        hfault hsamples⟩

/-! ## The frame in flight -/

/-- The last ones of these calls are those of the frame that the device is in. -/
def InFlight (device : Device) (met : List Call) : Prop :=
  ∃ earlier before, met = earlier ++ before ∧ Within device before device

omit [Board β] in
theorem inFlight_of_start (h : device.frame = .start) (met : List Call) : InFlight device met :=
  ⟨met, [], (List.append_nil met).symm, .of_start rfl h⟩

omit [Board β] in
theorem InFlight.of_same {met : List Call} (h : InFlight device met) {next : Device}
    (hrenewed : next.renewed = device.renewed) (hframe : next.frame = device.frame) :
    InFlight next met := by
  obtain ⟨earlier, before, hmet, hwithin⟩ := h
  exact ⟨earlier, before, hmet, (hwithin.of_same hrenewed hframe).refresh⟩

/-- A callback that asks for another one is the next call of the frame in flight, if there is
one after it. -/
theorem InFlight.callback {met : List Call} (h : InFlight device met) {now clock : Clock}
    (hresult : (device.step rig (.callback now true)).result = .ok (some (.again clock))) :
    InFlight (device.step rig (.callback now true)).device
      (met ++ [device.meets now (Board.read rig.board device.dout).1]) := by
  obtain ⟨earlier, before, rfl, hwithin⟩ := h
  have hcalm : (device.step rig (.callback now true)).Calm := by
    cases hcallback : (device.callback now rig.forget).result with
    | ok next =>
        rw [step_callback_of_ok hcallback]
        exact calm_of_ok hcallback
    | error fault =>
        rw [step, hcallback] at hresult
        cases hresult
  rcases hwithin.callback (calm_callback hcalm) with
    ⟨-, -, -, hnext⟩ | ⟨-, -, ⟨-, hnext⟩ | ⟨-, hnext⟩⟩
  · exact ⟨_, [], (List.append_nil _).symm, hnext.refresh⟩
  · exact ⟨earlier, _, List.append_assoc .., hnext.refresh⟩
  · exact ⟨_, [], (List.append_nil _).symm, hnext.refresh⟩

end Device

namespace Scale

variable {β : Type} [Board β]

/-- The calls of the device with this oid in a run. -/
def calls (scale : Scale β) (oid : UInt8) (operations : List Operation) : List Device.Call :=
  (scale.exchanges oid operations).map Prod.fst

/-- A callback of the device is made only if one is to come. -/
theorem due_of_served {found found' : Option Device} {clocks clocks' : List Clock} {next : Next}
    (ht : Touched found clocks (.served next) found' clocks') : clocks ≠ [] := by
  cases ht with
  | again | done | unknown => assumption

/-- What an operation that is no callback of the device makes of the frame in flight. -/
theorem inFlight_touched {found found' : Option Device} {clocks clocks' : List Clock}
    {touch : Touch} {met : List Device.Call} (ht : Touched found clocks touch found' clocks')
    (hnot : ∀ next, touch ≠ .served next)
    (h : clocks ≠ [] → ∃ device, found = some device ∧ device.InFlight met)
    (hdue : clocks' ≠ []) : ∃ device, found' = some device ∧ device.InFlight met := by
  cases ht with
  | nothing => exact h hdue
  | configured device huntouched =>
      exact ⟨device, rfl, Device.inFlight_of_start huntouched.frame met⟩
  | disabled device endstop hfound =>
      obtain ⟨same, hsame, hflight⟩ := h hdue
      obtain rfl : device = same := Option.some.inj (hfound.symm.trans hsame)
      exact ⟨_, rfl, hflight.of_same rfl rfl⟩
  | armed device endstop now => exact ⟨_, rfl, Device.inFlight_of_start rfl met⟩
  | refused => exact absurd rfl hdue
  | again | done | unknown => exact absurd rfl (hnot _)

/-- **One operation** keeps the account of the frame in flight, as long as a callback is to
come. -/
theorem inFlight_apply {scale : Scale β} {oid : UInt8} {operation : Operation}
    {met : List Device.Call} (hone : (scale.due oid).length ≤ 1)
    (h : scale.due oid ≠ [] → ∃ device, scale.device? oid = some device ∧ device.InFlight met)
    (hdue : (scale.apply operation).due oid ≠ []) :
    ∃ device, (scale.apply operation).device? oid = some device
      ∧ device.InFlight (met ++ (scale.exchange? oid operation).toList.map Prod.fst) := by
  have ht := touched_apply operation hone
  by_cases hserved : ∃ next, scale.touch oid operation = .served next
  · obtain ⟨next, htouch⟩ := hserved
    rw [htouch] at ht
    obtain ⟨device, hfound, hflight⟩ := h (due_of_served ht)
    obtain ⟨now, hexchange, hresult, hself⟩ := apply_of_served hfound htouch
    refine ⟨_, hself, ?_⟩
    rw [hexchange]
    cases next with
    | again clock => exact hflight.callback hresult
    | done =>
        generalize (scale.apply operation).due oid = clocks at ht hdue
        generalize (scale.apply operation).device? oid = found at ht
        cases ht with
        | done | unknown => exact absurd rfl hdue
  · have hnot := not_exists.mp hserved
    rw [exchange?_of_not_served hnot, Option.toList_none, List.map_nil, List.append_nil]
    exact inFlight_touched ht hnot h hdue

theorem exchanges_singleton (scale : Scale β) (oid : UInt8) (operation : Operation) :
    scale.exchanges oid [operation] = (scale.exchange? oid operation).toList :=
  List.append_nil _

/-- **The frame in flight** of a device that is to be called are its last calls. -/
theorem inFlight_after (board : β) (delays : Delays) (capacity : Nat)
    (operations : List Operation) (oid : UInt8)
    (hdue : ((start board delays capacity).after operations).due oid ≠ []) :
    ∃ device, ((start board delays capacity).after operations).device? oid = some device
      ∧ device.InFlight ((start board delays capacity).calls oid operations) := by
  induction operations using List.reverseRecOn with
  | nil => exact absurd rfl hdue
  | append_singleton operations operation ih =>
      have hone := (timed_after board delays capacity operations oid).once
      rw [after_concat] at hdue ⊢
      rw [calls, exchanges_append, List.map_append, exchanges_singleton]
      exact inFlight_apply hone ih hdue

/-! ## The run after the query -/

/-- Where a device stands that was told to stop, with the callbacks it has had since: it has one
callback to come, or has come to its end and has none. -/
inductive Stage (device : Device) (before : List Device.Call)
    (exchanges : List (Device.Call × Device.Response)) : Option Device → List Clock → Prop
  | underway (waits frame : List (Device.Call × Device.Response)) (current : Device)
      (clock : Clock) (hexchanges : exchanges = waits ++ frame)
      (h : device.Underway before waits frame current) :
      Stage device before exchanges (some current) [clock]
  | ended (samples : List Sample) (current : Device)
      (h : device.WindsDown before exchanges samples true) (hrunning : current.running = false) :
      Stage device before exchanges (some current) []

/-- Whether the device is made to begin anew. -/
def Touch.renews : Touch → Bool
  | .configured | .armed | .refused => true
  | _ => false

section

variable {device : Device} {before : List Device.Call}
  {exchanges : List (Device.Call × Device.Response)}

theorem Stage.once {found : Option Device} {clocks : List Clock}
    (h : Stage device before exchanges found clocks) : clocks.length ≤ 1 := by
  cases h <;> simp

/-- What a stage says of the samples, of the device and of its callbacks to come. -/
theorem Stage.outcome {found : Option Device} {clocks : List Clock}
    (h : Stage device before exchanges found clocks) :
    ∃ samples ended, device.WindsDown before exchanges samples ended
      ∧ Device.samplesOf exchanges = samples
      ∧ ∃ last, found = some last
        ∧ if ended then last.running = false ∧ clocks = [] else clocks.length = 1 := by
  cases h with
  | underway waits frame current clock hexchanges h =>
      subst hexchanges
      exact ⟨[], false, .going _ h.goes, Device.samplesOf_of_goes h.goes, current, rfl, rfl⟩
  | ended samples current h hrunning =>
      exact ⟨samples, true, h, h.samplesOf_eq, current, rfl, hrunning, rfl⟩

/-- The stage of a device that was just told to stop. -/
theorem Stage.of_disabled {clocks : List Clock} (hwithin : device.Within before device)
    (hdue : clocks ≠ []) (hone : clocks.length ≤ 1) (endstop : Option UInt8) :
    Stage device before [] (some (device.disable endstop)) clocks := by
  obtain ⟨clock, rfl⟩ := List.length_eq_one_iff.mp
    (Nat.le_antisymm hone (List.length_pos_iff.mpr hdue))
  refine .underway [] [] _ clock rfl ⟨by simp, by simp, ?_, rfl⟩
  rw [List.map_nil, List.append_nil]
  exact hwithin.of_same rfl rfl

/-- What an operation that is no callback of the device makes of its stage. -/
theorem Stage.touched {found found' : Option Device} {clocks clocks' : List Clock}
    {touch : Touch} (h : Stage device before exchanges found clocks)
    (ht : Touched found clocks touch found' clocks') (hnot : ∀ next, touch ≠ .served next)
    (hrenews : touch.renews = false) : Stage device before exchanges found' clocks' := by
  cases ht with
  | nothing => exact h
  | disabled current endstop hfound =>
      subst hfound
      cases h with
      | underway waits frame _ clock hexchanges h =>
          exact .underway waits frame _ clock hexchanges
            ⟨h.goes, h.waits, h.within.of_same rfl rfl, rfl⟩
      | ended samples _ h hrunning => exact .ended samples _ h hrunning
  | configured | armed | refused => cases hrenews
  | again | done | unknown => exact absurd rfl (hnot _)

/-- **One operation** takes the device from stage to stage. -/
theorem Stage.apply {scale : Scale β} {oid : UInt8} {operation : Operation}
    (h : Stage device before exchanges (scale.device? oid) (scale.due oid))
    (hrenews : (scale.touch oid operation).renews = false) :
    Stage device before (exchanges ++ (scale.exchange? oid operation).toList)
      ((scale.apply operation).device? oid) ((scale.apply operation).due oid) := by
  have ht := touched_apply operation h.once
  by_cases hserved : ∃ next, scale.touch oid operation = .served next
  · obtain ⟨next, htouch⟩ := hserved
    rw [htouch] at ht
    have hdue := due_of_served ht
    generalize hfound : scale.device? oid = found at h ht
    generalize scale.due oid = clocks at h ht hdue
    cases h with
    | ended => exact absurd rfl hdue
    | underway waits frame current clock hexchanges h =>
        obtain ⟨now, hexchange, hresult, hself⟩ := apply_of_served hfound htouch
        rw [hself] at ht ⊢
        rw [hexchange, Option.toList_some, hexchanges]
        generalize (scale.apply operation).due oid = clocks at ht ⊢
        rcases h.callback scale.rig now with
          ⟨⟨clock, hagain⟩, waits, frame, hmore, hnext⟩ | ⟨hdone, samples, hlast⟩
        · rw [hresult] at hagain
          cases hagain
          cases ht with
          | again => exact .underway waits frame _ clock hmore.symm hnext
        · rw [hresult] at hdone
          cases hdone
          cases ht with
          | done _ _ _ _ hrunning => exact .ended samples _ hlast hrunning
  · have hnot := not_exists.mp hserved
    rw [exchange?_of_not_served hnot, Option.toList_none, List.append_nil]
    exact h.touched ht hnot hrenews

/-- **Every operation** does, as long as the device is not made to begin anew. -/
theorem Stage.after {scale : Scale β} {oid : UInt8} {later : List Operation}
    (h : Stage device before exchanges (scale.device? oid) (scale.due oid))
    (hrenews : ∀ touch ∈ scale.touches oid later, touch.renews = false) :
    Stage device before (exchanges ++ scale.exchanges oid later)
      ((scale.after later).device? oid) ((scale.after later).due oid) := by
  induction later generalizing scale exchanges with
  | nil =>
      rw [Scale.exchanges, List.append_nil]
      exact h
  | cons operation later ih =>
      obtain ⟨hfirst, hothers⟩ := List.forall_mem_cons.mp hrenews
      rw [Scale.exchanges, ← List.append_assoc]
      exact ih (h.apply hfirst) hothers

/-- An operation that is no query leaves the device its endstop. -/
theorem Stage.endstop_apply {scale : Scale β} {oid : UInt8} {operation : Operation}
    {endstop : Option UInt8}
    (h : Stage device before exchanges (scale.device? oid) (scale.due oid))
    (hendstop : ∀ current, scale.device? oid = some current → current.endstop = endstop)
    (hrenews : (scale.touch oid operation).renews = false)
    (hquiet : scale.touch oid operation ≠ .disabled) :
    (∀ exchange ∈ (scale.exchange? oid operation).toList, exchange.1.endstop = endstop)
      ∧ ∀ current, (scale.apply operation).device? oid = some current →
          current.endstop = endstop := by
  have ht := touched_apply operation h.once
  by_cases hserved : ∃ next, scale.touch oid operation = .served next
  · obtain ⟨next, htouch⟩ := hserved
    rw [htouch] at ht
    obtain ⟨current, hfound⟩ : ∃ current, scale.device? oid = some current := by
      generalize scale.device? oid = found at h
      generalize scale.due oid = clocks at h
      cases h with
      | underway _ _ current | ended _ current => exact ⟨current, rfl⟩
    obtain ⟨now, hexchange, -, hself⟩ := apply_of_served hfound htouch
    rw [hexchange, hself]
    refine ⟨List.forall_mem_singleton.mpr (hendstop current hfound), ?_⟩
    rintro _ ⟨⟩
    exact (current.linked_step scale.rig now).1.trans (hendstop current hfound)
  · have hnot := not_exists.mp hserved
    rw [exchange?_of_not_served hnot]
    refine ⟨fun _ hmem => absurd hmem List.not_mem_nil, ?_⟩
    generalize (scale.apply operation).device? oid = found at ht ⊢
    generalize (scale.apply operation).due oid = clocks at ht
    generalize scale.touch oid operation = touch at ht hrenews hquiet hnot
    cases ht with
    | nothing => exact hendstop
    | disabled => exact absurd rfl hquiet
    | configured | armed | refused => cases hrenews
    | again | done | unknown => exact absurd rfl (hnot _)

/-- As long as no query is made, every callback finds the same endstop. -/
theorem Stage.endstop {scale : Scale β} {oid : UInt8} {endstop : Option UInt8}
    {later : List Operation}
    (h : Stage device before exchanges (scale.device? oid) (scale.due oid))
    (hendstop : ∀ current, scale.device? oid = some current → current.endstop = endstop)
    (hrenews : ∀ touch ∈ scale.touches oid later, touch.renews = false)
    (hquiet : Touch.disabled ∉ scale.touches oid later) :
    ∀ exchange ∈ scale.exchanges oid later, exchange.1.endstop = endstop := by
  induction later generalizing scale exchanges with
  | nil => exact fun _ hmem => absurd hmem List.not_mem_nil
  | cons operation later ih =>
      obtain ⟨hfirst, hothers⟩ := List.forall_mem_cons.mp hrenews
      obtain ⟨hnow, hlater⟩ := not_or.mp (mt List.mem_cons.mpr hquiet)
      obtain ⟨hcall, hnext⟩ := h.endstop_apply hendstop hfirst (Ne.symm hnow)
      exact List.forall_mem_append.mpr ⟨hcall, ih (h.apply hfirst) hnext hothers hlater⟩

end

/-- The query that tells a device to stop. -/
theorem query_disable {scale : Scale β} {oid : UInt8} {device : Device} (endstop : Option UInt8)
    (now : Clock) (hfound : scale.device? oid = some device) :
    scale.query ⟨oid, false, endstop⟩ now
      = (.ok (), (scale.replace (device.disable endstop)).onRig
          (scale.rig.log (.queried oid false endstop))) := by
  rw [Scale.query, hfound]
  rfl

/-- **A device that is told to stop does so gracefully.** Take any device with a callback to
come, after any run, and tell it to stop. The query calls neither the board nor the timers and
changes nothing of the device but its endstop and that it is to go on. However the run goes on
from there, as long as the oid is neither enabled nor configured, the callbacks of the device
wind down: all but the last go by, and the last one hands over the only sample, that of the
levels before and after the query together, or fails and hands over none. Either way it stops
the device and leaves no callback to come. -/
theorem winds_down (board : β) (delays : Delays) (capacity : Nat) (operations : List Operation)
    (oid : UInt8) (endstop : Option UInt8) (now : Clock)
    (hdue : ((start board delays capacity).after operations).due oid ≠ []) :
    let begun := start board delays capacity
    let scale := begun.after operations
    let query : Wire.Query := ⟨oid, false, endstop⟩
    let stopped := scale.apply (.request (.query query) now)
    ∃ device earlier before,
      scale.device? oid = some device
        ∧ begun.calls oid operations = earlier ++ before
        ∧ before.length = device.frame.halfCycles
        ∧ scale.query query now
            = (.ok (),
                (scale.replace { device with endstop := endstop, active := false }).onRig
                  (scale.rig.log (.queried oid false endstop)))
        ∧ ∀ later, (∀ touch ∈ stopped.touches oid later, touch.renews = false) →
            ∃ samples ended,
              device.WindsDown before (stopped.exchanges oid later) samples ended
                ∧ (stopped.after later).rig.wokenFor oid = stopped.rig.wokenFor oid ++ samples
                ∧ (∃ last, (stopped.after later).device? oid = some last
                    ∧ if ended then
                        last.running = false ∧ (stopped.after later).due oid = []
                      else ((stopped.after later).due oid).length = 1)
                ∧ (Touch.disabled ∉ stopped.touches oid later →
                    ∀ exchange ∈ stopped.exchanges oid later, exchange.1.endstop = endstop) := by
  intro begun scale query stopped
  obtain ⟨device, hfound, earlier, before, hcalls, hwithin⟩ :=
    inFlight_after board delays capacity operations oid hdue
  have hquery := query_disable endstop now hfound
  have hstopped : stopped
      = (scale.replace (device.disable endstop)).onRig
          (scale.rig.log (.queried oid false endstop)) := congrArg Prod.snd hquery
  have hself : stopped.device? oid = some (device.disable endstop) := by
    have hoid := oid_of_device? hfound
    have hold : scale.device? (device.disable endstop).oid = some device := hoid.symm ▸ hfound
    rw [hstopped, device?_onRig, ← hoid]
    exact device?_replace_self hold
  have hstage : Stage device before [] (stopped.device? oid) (stopped.due oid) := by
    rw [hself, hstopped]
    exact .of_disabled hwithin hdue (timed_after board delays capacity operations oid).once endstop
  refine ⟨device, earlier, before, hfound, hcalls, hwithin.halfCycles.symm, hquery,
    fun later hrenews => ?_⟩
  obtain ⟨samples, ended, hwinds, hsamples, hlast⟩ := (hstage.after hrenews).outcome
  refine ⟨samples, ended, hwinds, ?_, hlast, fun hquiet =>
    hstage.endstop (fun current hcurrent => ?_) hrenews hquiet⟩
  · rw [stopped.wokenFor_after oid later]
    exact congrArg _ hsamples
  · obtain rfl := Option.some.inj (hself.symm.trans hcurrent)
    rfl

/-- A scale for one device, with a chip on lines 2 and 3. -/
def balance : Scale Bench :=
  start (Bench.empty.mount 2 3 (.start ⟨[4660], by decide, 3, 1⟩)) ⟨900, 4, 20⟩ 1

/-- The callback with this number in the first frame after enabling at clock 5. -/
def halfCycle (i : Nat) : Operation :=
  .serve ⟨7, UInt32.ofNat (25 + 4 * i)⟩ (UInt32.ofNat (25 + 4 * i))

/-- The device is in the middle of its first frame. -/
def opening : List Operation :=
  [.request (.configure ⟨7, 2, 3, 1, 1⟩) 0, .request (.query ⟨7, true, some 1⟩) 5]
    ++ (List.range 21).map halfCycle

/-- The device in the middle of its first frame is told to stop. -/
def halted : Scale Bench := (balance.after opening).apply (.request (.query ⟨7, false, none⟩) 110)

/-- The rest of the frame, with a pass of the main loop in it. -/
def closing : List Operation :=
  (List.range 9).map (fun i => halfCycle (21 + i)) ++ [.deliver ⟨70, 71, 72⟩ true]
    ++ (List.range 20).map fun i => halfCycle (30 + i)

/-- Nothing is lost of the conversion in flight. -/
theorem winds_down_midway :
    (balance.after opening).due 7 = [109]
      ∧ (∀ touch ∈ halted.touches 7 closing, touch.renews = false)
      ∧ Touch.disabled ∉ halted.touches 7 closing
      ∧ ∃ (device : Device) (before : List Device.Call) (samples : List Sample),
          device.WindsDown before (halted.exchanges 7 closing) samples true
            ∧ before.length = 21
            ∧ (∀ exchange ∈ halted.exchanges 7 closing, exchange.1.endstop = none)
            ∧ samples.map Sample.value = [4660] := by
  have hdue : (balance.after opening).due 7 = [109] := by decide +kernel
  have hrenews : ∀ touch ∈ halted.touches 7 closing, touch.renews = false := by decide +kernel
  have hquiet : Touch.disabled ∉ halted.touches 7 closing := by decide +kernel
  obtain ⟨device, earlier, before, hfound, -, hlength, -, hlater⟩ :=
    winds_down (Bench.empty.mount 2 3 (.start ⟨[4660], by decide, 3, 1⟩)) ⟨900, 4, 20⟩ 1 opening 7
      none 110 (List.ne_nil_of_mem (hdue ▸ List.mem_singleton_self 109))
  obtain ⟨samples, ended, hwinds, hwoken, ⟨last, -, hlast⟩, hendstop⟩ := hlater closing hrenews
  have hplace : ((balance.after opening).device? 7).map (·.frame.halfCycles) = some 21 := by
    decide +kernel
  have hnone : halted.rig.wokenFor 7 = [] := by decide +kernel
  have hvalue : ((halted.after closing).rig.wokenFor 7).map Sample.value = [4660] := by
    decide +kernel
  have hover : (halted.after closing).due 7 = [] := by decide +kernel
  change (balance.after opening).device? 7 = some device at hfound
  change (halted.after closing).rig.wokenFor 7 = halted.rig.wokenFor 7 ++ samples at hwoken
  change if ended then _ ∧ _ else ((halted.after closing).due 7).length = 1 at hlast
  rw [hfound] at hplace
  rw [hwoken, hnone] at hvalue
  rw [hover] at hlast
  cases ended with
  | false => cases hlast
  | true =>
      exact ⟨hdue, hrenews, hquiet, device, before, samples, hwinds,
        hlength.trans (Option.some.inj hplace), hendstop hquiet, hvalue⟩

end Scale

end WeighScale
