import WeighScale.Proofs.Readings
import WeighScale.Proofs.Sampling
import WeighScale.Proofs.Touch

set_option autoImplicit false

/-! # Acquisition on a rack

The invariant of a run on the bench of a rack (`Tracked`). It says for every circuit that its
device is coupled to its chip, and how far the chip has come: one conversion for each reading
that was sent, and the rising edges of the frames that were cut short. Between two moves all
slots are clear, so no sample is ever replaced by the next one before it is sent.

Whatever happens moves one circuit at most (`Tracked.move`): a configure request the first time
it is made, a query, and a callback with the delivery after it.
-/

namespace WeighScale

variable {rack : Rack} {circuit : Circuit}

namespace Scale

/-! ## The invariant -/

/-- What there is of a circuit: nothing yet, or a device coupled to the chip. It has sent `n`
readings, and has lost the rising edges of the frames that were cut short. -/
inductive Linked (circuit : Circuit) (capacity : Nat) :
    Nat → Nat → Option Device → List Clock → Chip → Prop
  | absent : Linked circuit capacity 0 0 none [] (.start circuit.plan)
  | present (n lost : Nat) (device : Device) (clocks : List Clock) (chip : Chip)
      (hcoupled : Coupled circuit (n * circuit.plan.period + lost) device chip)
      (hslot : device.slot < capacity) (hpoised : clocks ≠ [] → device.Poised chip) :
      Linked circuit capacity n lost (some device) clocks chip

/-- A scale on the bench of a rack, between two moves, with the readings it has sent and the
rising edges that each device has lost. -/
structure Tracked (rack : Rack) (ids : Wire.Ids) (lost : UInt8 → Nat) (scale : Scale Bench)
    (chips : Circuit → Chip) (readings : List Wire.Reading) : Prop where
  board : ∃ inputs outputs, scale.rig.board = rack.bench chips inputs outputs
  handoff : scale.rig.handoff = .clear scale.capacity
  sent : scale.rig.sent = readings.map (·.body ids)
  known : ∀ oid device, scale.device? oid = some device →
    ∃ circuit ∈ rack.circuits, circuit.oid = oid
  linked : ∀ circuit ∈ rack.circuits,
    Linked circuit scale.capacity (readingsOf circuit.oid readings).length (lost circuit.oid)
      (scale.device? circuit.oid) (scale.due circuit.oid) (chips circuit)

variable {ids : Wire.Ids} {lost after : UInt8 → Nat} {scale next : Scale Bench}
  {chips : Circuit → Chip} {readings : List Wire.Reading}

theorem tracked_start (rack : Rack) (delays : Delays) (capacity : Nat) (ids : Wire.Ids) :
    Tracked rack ids (fun _ => 0) (start rack.start delays capacity)
      (fun circuit => .start circuit.plan) [] where
  board := ⟨0, 0, rfl⟩
  handoff := by
    show Handoff.clear capacity = .clear (Handoff.clear capacity).capacity
    rw [Handoff.capacity_clear]
  sent := rfl
  known _ _ h := by cases h
  linked _ _ := .absent

/-- **A move of one circuit** leaves all others as they are. -/
theorem Tracked.move (h : Tracked rack ids lost scale chips readings)
    (hmem : circuit ∈ rack.circuits) (chip : Chip) (more : Option Wire.Reading)
    (hboard : ∃ inputs outputs,
      next.rig.board = rack.bench (Function.update chips circuit chip) inputs outputs)
    (hhandoff : next.rig.handoff = .clear scale.capacity)
    (hsent : next.rig.sent = scale.rig.sent ++ more.toList.map (·.body ids))
    (hmore : ∀ reading ∈ more, reading.oid = circuit.oid)
    (hothers : ∀ oid, oid ≠ circuit.oid →
      next.device? oid = scale.device? oid ∧ next.due oid = scale.due oid)
    (hlost : ∀ oid, oid ≠ circuit.oid → after oid = lost oid)
    (hself : Linked circuit scale.capacity
      (readingsOf circuit.oid readings ++ more.toList).length (after circuit.oid)
      (next.device? circuit.oid) (next.due circuit.oid) chip) :
    Tracked rack ids after next (Function.update chips circuit chip)
      (readings ++ more.toList) := by
  have hcapacity : next.capacity = scale.capacity := by
    rw [capacity, hhandoff, Handoff.capacity_clear]
  refine ⟨hboard, hhandoff.trans (by rw [hcapacity]), ?_, ?_, ?_⟩
  · rw [hsent, h.sent, List.map_append]
  · intro oid device hfound
    by_cases hoid : oid = circuit.oid
    · exact ⟨circuit, hmem, hoid.symm⟩
    · rw [(hothers oid hoid).1] at hfound
      exact h.known oid device hfound
  · intro other hother
    rw [hcapacity, readingsOf_append]
    -- what is new has the oid of the circuit that moved, so no other circuit sees any of it
    by_cases heq : other = circuit
    · subst heq
      rw [Function.update_self, readingsOf_toList_self hmore]
      exact hself
    · have hoid : other.oid ≠ circuit.oid := fun hoid => heq (Rack.eq_of_oid_eq hother hmem hoid)
      have hne (reading : Wire.Reading) (hreading : reading ∈ more) : reading.oid ≠ other.oid :=
        fun h => hoid (h.symm.trans (hmore reading hreading))
      rw [Function.update_of_ne heq, readingsOf_toList_ne hne, List.append_nil,
        (hothers other.oid hoid).1, (hothers other.oid hoid).2, hlost other.oid hoid]
      exact h.linked other hother

/-- A move that sends nothing. -/
theorem Tracked.quiet (h : Tracked rack ids lost scale chips readings)
    (hmem : circuit ∈ rack.circuits) (chip : Chip)
    (hboard : ∃ inputs outputs,
      next.rig.board = rack.bench (Function.update chips circuit chip) inputs outputs)
    (hhandoff : next.rig.handoff = .clear scale.capacity)
    (hsent : next.rig.sent = scale.rig.sent)
    (hothers : ∀ oid, oid ≠ circuit.oid →
      next.device? oid = scale.device? oid ∧ next.due oid = scale.due oid)
    (hlost : ∀ oid, oid ≠ circuit.oid → after oid = lost oid)
    (hself : Linked circuit scale.capacity (readingsOf circuit.oid readings).length
      (after circuit.oid) (next.device? circuit.oid) (next.due circuit.oid) chip) :
    Tracked rack ids after next (Function.update chips circuit chip) readings := by
  have hmoved := h.move hmem chip none hboard hhandoff
    (by rw [hsent, Option.toList_none, List.map_nil, List.append_nil])
    (fun _ hnone => by cases hnone) hothers hlost
    (by rw [Option.toList_none, List.append_nil]; exact hself)
  rw [Option.toList_none, List.append_nil] at hmoved
  exact hmoved

theorem Linked.of_none {capacity n lost : Nat} {clocks : List Clock} {chip : Chip}
    (h : Linked circuit capacity n lost none clocks chip) :
    n = 0 ∧ lost = 0 ∧ clocks = [] ∧ chip = .start circuit.plan := by
  cases h
  exact ⟨rfl, rfl, rfl, rfl⟩

theorem Linked.of_some {capacity n lost : Nat} {device : Device} {clocks : List Clock}
    {chip : Chip} (h : Linked circuit capacity n lost (some device) clocks chip) :
    Coupled circuit (n * circuit.plan.period + lost) device chip ∧ device.slot < capacity
      ∧ (clocks ≠ [] → device.Poised chip) := by
  cases h with
  | present _ _ _ _ _ hcoupled hslot hpoised => exact ⟨hcoupled, hslot, hpoised⟩

/-- What is known of a device that is found. -/
theorem Tracked.of_device? (h : Tracked rack ids lost scale chips readings) {oid : UInt8}
    {device : Device} (hfound : scale.device? oid = some device) :
    ∃ circuit ∈ rack.circuits, circuit.oid = oid
      ∧ Coupled circuit
          ((readingsOf circuit.oid readings).length * circuit.plan.period + lost circuit.oid)
          device (chips circuit)
      ∧ device.slot < scale.capacity
      ∧ (scale.due circuit.oid ≠ [] → device.Poised (chips circuit)) := by
  obtain ⟨circuit, hmem, hoid⟩ := h.known oid device hfound
  have hlinked := h.linked circuit hmem
  rw [hoid, hfound, ← hoid] at hlinked
  exact ⟨circuit, hmem, hoid, hlinked.of_some⟩

/-- As long as no frame is cut short, the chip keeps pace with the readings. -/
theorem Linked.served {capacity n : Nat} {found : Option Device} {clocks : List Clock}
    {chip : Chip} (h : Linked circuit capacity n 0 found clocks chip) :
    n ≤ chip.served ∧ chip.served ≤ n + 1 := by
  cases h with
  | absent => exact ⟨Nat.le_refl 0, Nat.zero_le 1⟩
  | present _ _ _ _ _ hcoupled =>
      have hserved := hcoupled.inStep.served
      rw [Nat.add_zero, ChipPlan.position_mul] at hserved
      exact hserved

/-! ## Configuring a circuit -/

theorem settings_request (circuit : Circuit) :
    settings circuit.request = .ok (circuit.gain, circuit.polarity) := by
  have hgain : Gain.ofCode? circuit.request.gain = some circuit.gain :=
    Gain.ofCode?_eq_some_iff.mpr rfl
  have hpolarity : Polarity.ofSign? circuit.request.invert = some circuit.polarity :=
    Polarity.ofSign?_eq_some_iff.mpr rfl
  rw [settings, hgain]
  dsimp only
  rw [hpolarity]

/-- A device that is new gets a slot there is. -/
theorem slotFor_lt {oid : UInt8} (hnone : scale.device? oid = none) {slot : Nat}
    (h : scale.slotFor oid = .ok slot) : slot < scale.capacity := by
  rw [slotFor, hnone] at h
  dsimp only at h
  split at h
  · next hroom =>
      cases h
      exact hroom
  · cases h

/-- The device asked for is the one of the circuit, and its slot is one there is. -/
theorem wanted_request (hnone : scale.device? circuit.oid = none) {device : Device}
    (h : scale.wanted circuit.request = .ok device) :
    device.wiring = circuit.wiring ∧ device.slot < scale.capacity := by
  rw [wanted, settings_request] at h
  dsimp only at h
  split at h
  · cases h
  · next slot hslot =>
      cases h
      exact ⟨rfl, slotFor_lt hnone hslot⟩

theorem Tracked.configure (h : Tracked rack ids lost scale chips readings)
    (hmem : circuit ∈ rack.circuits) (hnone : scale.device? circuit.oid = none) :
    ∃ chips, Tracked rack ids lost (scale.configure circuit.request).2 chips readings := by
  obtain ⟨inputs, outputs, hboard⟩ := h.board
  have hlinked := h.linked circuit hmem
  rw [hnone] at hlinked
  obtain ⟨hcount, hzero, hdue, hchip⟩ := hlinked.of_none
  have hothers (oid : UInt8) (hoid : oid ≠ circuit.oid) :=
    scale.configure_ne circuit.request hoid
  have hway := scale.configured_configure circuit.request
  generalize scale.configure circuit.request = outcome at hothers hway ⊢
  cases hway with
  | refused => exact ⟨chips, h⟩
  | failed device fault hwanted hattach =>
      obtain ⟨hwiring, -⟩ := wanted_request hnone hwanted
      obtain ⟨-, hok, -⟩ := Device.coupled_attach hmem hboard hwiring
        (oid_wanted hwanted).2.frame hchip
      rw [hok] at hattach
      cases hattach
  | added device line hwanted hattach =>
      obtain ⟨hwiring, hslot⟩ := wanted_request hnone hwanted
      obtain ⟨hcoupled, -, hattached, hhandoff, hsent⟩ := Device.coupled_attach hmem hboard
        hwiring (oid_wanted hwanted).2.frame hchip
      have hself := device?_put_self (scale.onRig ((device.attach scale.rig).2.log line)) device
      rw [hcoupled.oid] at hself
      refine ⟨_, h.quiet hmem (chips circuit) ⟨inputs + 1, outputs + 1, ?_⟩ ?_ ?_ hothers
        (fun _ _ => rfl) ?_⟩
      · rw [rig_put, Function.update_eq_self]
        exact hattached
      · rw [rig_put]
        exact hhandoff.trans h.handoff
      · rw [rig_put]
        exact (Rig.sent_log _ line).trans hsent
      · have hnow : ((scale.onRig ((device.attach scale.rig).2.log line)).put device).due
            circuit.oid = [] := by
          rw [due, rig_put, rig_onRig, Rig.log, Rig.timers_note, timers_attach]
          exact hdue
        rw [hself, hnow, hcount, hzero]
        refine .present 0 0 device [] _ ?_ hslot fun hne => absurd rfl hne
        rw [Nat.zero_mul]
        exact hcoupled

/-! ## Queries -/

/-- The rising edges that a query makes a device lose: those of the frame that it cuts short. -/
def lostTo (scale : Scale Bench) (request : Wire.Query) (oid : UInt8) : Nat :=
  if request.enable = true ∧ request.oid = oid then
    ((scale.device? oid).map fun device => device.frame.edges).getD 0
  else 0

theorem lostTo_of_ne (scale : Scale Bench) {request : Wire.Query} {oid : UInt8}
    (h : oid ≠ request.oid) : scale.lostTo request oid = 0 := if_neg fun hboth => h hboth.2.symm

theorem lostTo_of_none {request : Wire.Query} (h : scale.device? request.oid = none)
    (oid : UInt8) : scale.lostTo request oid = 0 := by
  by_cases hoid : oid = request.oid
  · subst hoid
    rw [lostTo, h]
    exact ite_self 0
  · exact scale.lostTo_of_ne hoid

theorem lostTo_of_disable (scale : Scale Bench) {request : Wire.Query}
    (h : request.enable = false) (oid : UInt8) : scale.lostTo request oid = 0 :=
  if_neg fun hboth => Bool.false_ne_true (h.symm.trans hboth.1)

theorem lostTo_of_enable {request : Wire.Query} {device : Device} (h : request.enable = true)
    (hfound : scale.device? request.oid = some device) :
    scale.lostTo request request.oid = device.frame.edges := by
  rw [lostTo, if_pos ⟨h, rfl⟩, hfound]
  rfl

/-- **A query** loses the edges of the frame that it cuts short, and no others. -/
theorem Tracked.query (h : Tracked rack ids lost scale chips readings) (request : Wire.Query)
    (now : Clock) :
    ∃ chips, Tracked rack ids (fun oid => lost oid + scale.lostTo request oid)
      (scale.query request now).2 chips readings := by
  cases hfound : scale.device? request.oid with
  | none =>
      rw [query_of_none now hfound]
      simp only [lostTo_of_none hfound]
      exact ⟨chips, h⟩
  | some device =>
      obtain ⟨inputs, outputs, hboard⟩ := h.board
      obtain ⟨circuit, hmem, hoid, hcoupled, hslot, hpoised⟩ := h.of_device? hfound
      obtain ⟨hself, -, hlogged⟩ := query_of_some now hfound
      have hothers (oid : UInt8) (hne : oid ≠ circuit.oid) :=
        scale.query_ne request now (hoid ▸ hne)
      have hlost (oid : UInt8) (hne : oid ≠ circuit.oid) :
          lost oid + scale.lostTo request oid = lost oid := by
        rw [scale.lostTo_of_ne (hoid ▸ hne), Nat.add_zero]
      cases henable : request.enable with
      | false =>
          -- neither the chip nor the frame takes part in disabling
          have hqueried : scale.queried device request now
              = ⟨.ok (), device.disable request.endstop, scale.rig⟩ := by
            rw [queried, Device.query, henable, if_neg Bool.false_ne_true]
          rw [hqueried] at hself hlogged
          refine ⟨_, h.quiet hmem (chips circuit) ⟨inputs, outputs, ?_⟩ ?_ ?_ hothers hlost ?_⟩
          · rw [Function.update_eq_self]
            exact hlogged.board.trans hboard
          · exact hlogged.handoff.trans h.handoff
          · exact hlogged.sent
          · rw [scale.lostTo_of_disable henable, Nat.add_zero, hoid, hself, ← hoid]
            refine .present _ _ _ _ _ ⟨hcoupled.wiring, hcoupled.inStep⟩ hslot ?_
            intro hdue
            refine hpoised ?_
            rw [due, due_of_logged hlogged] at hdue
            exact hdue
      | true =>
          -- the clock line is lowered, and the next frame begins where the chip is
          have hqueried : scale.queried device request now
              = device.enable request.endstop now scale.rig := by
            rw [queried, Device.query, henable, if_pos rfl]
          obtain ⟨henabled, hlow, hkept, hmoved, hhandoff, hsent⟩ :=
            Device.coupled_enable hmem hboard hcoupled request.endstop now
          rw [hqueried] at hself hlogged
          refine ⟨_, h.quiet hmem ((chips circuit).clock false) ⟨inputs, outputs, ?_⟩ ?_ ?_ hothers
            hlost ?_⟩
          · exact hlogged.board.trans hmoved
          · exact hlogged.handoff.trans (hhandoff.trans h.handoff)
          · exact hlogged.sent.trans hsent
          · rw [hoid, lostTo_of_enable henable hfound, hself, ← hoid]
            refine .present _ _ _ _ _ ?_ (hkept ▸ hslot) fun _ => hlow
            rw [← Nat.add_assoc]
            exact henabled

/-! ## Deliveries and callbacks -/

/-- The scale once the main loop has delivered the samples. -/
def delivered (scale : Scale Bench) (ids : Wire.Ids) (probe : Bool) : Scale Bench :=
  scale.onRig (scale.rig.deliver ids probe).2

@[simp] theorem device?_delivered (scale : Scale Bench) (ids : Wire.Ids) (probe : Bool)
    (oid : UInt8) : (scale.delivered ids probe).device? oid = scale.device? oid := rfl

@[simp] theorem due_delivered (scale : Scale Bench) (ids : Wire.Ids) (probe : Bool)
    (oid : UInt8) : (scale.delivered ids probe).due oid = scale.due oid := by
  rw [due, delivered, rig_onRig, Rig.timers_deliver, due]

theorem board_delivered (scale : Scale Bench) (ids : Wire.Ids) (probe : Bool) :
    (scale.delivered ids probe).rig.board = scale.rig.board := Rig.board_deliver ..

theorem handoff_delivered (scale : Scale Bench) (ids : Wire.Ids) (probe : Bool) :
    (scale.delivered ids probe).rig.handoff = .clear scale.capacity := Rig.handoff_deliver ..

/-- A delivery with every slot clear. -/
theorem Tracked.deliver (h : Tracked rack ids lost scale chips readings) (probe : Bool) :
    Tracked rack ids lost (scale.delivered ids probe) chips readings := by
  have hcapacity : (scale.delivered ids probe).capacity = scale.capacity := by
    rw [capacity, handoff_delivered, Handoff.capacity_clear]
  refine ⟨?_, ?_, ?_, h.known, fun circuit hmem => ?_⟩
  · rw [board_delivered]
    exact h.board
  · rw [handoff_delivered, hcapacity]
  · exact (Rig.sent_deliver_of_clear h.handoff ids probe).trans h.sent
  · rw [hcapacity, device?_delivered, due_delivered]
    exact h.linked circuit hmem

/-- A callback that no device knows of. -/
theorem Tracked.serve_unknown (h : Tracked rack ids lost scale chips readings) {timer : Timer}
    (hpending : timer ∈ scale.rig.timers.pending) (hnone : scale.device? timer.oid = none)
    (now : Clock) : Tracked rack ids lost (scale.serve timer now) chips readings := by
  have hserve : scale.serve timer now = scale.taking timer := by
    have htaken : (scale.taking timer).device? timer.oid = none := hnone
    rw [serve_eq, callback_of_none now htaken]
    rfl
  rw [hserve]
  refine ⟨h.board, h.handoff, h.sent, h.known, fun circuit hmem => ?_⟩
  have hlinked := h.linked circuit hmem
  -- a circuit that is not configured has no callbacks
  have hne : circuit.oid ≠ timer.oid := by
    intro hoid
    rw [hoid, hnone] at hlinked
    obtain ⟨-, -, hdue, -⟩ := hlinked.of_none
    have hmem : timer.clock ∈ scale.due timer.oid := Timers.mem_due.mpr hpending
    rw [hdue] at hmem
    exact List.not_mem_nil hmem
  have hdue : (scale.taking timer).due circuit.oid = scale.due circuit.oid :=
    Timers.due_remove_ne _ hne
  rw [hdue]
  exact hlinked

/-- What is left of a callback that its device has made. -/
theorem serve_of_some {timer : Timer} {device : Device} (now : Clock)
    (hfound : scale.device? timer.oid = some device)
    (hok : ∃ next, (device.callback now (scale.taking timer).rig).result = .ok next) :
    (scale.serve timer now).device? timer.oid
        = some (device.callback now (scale.taking timer).rig).device
      ∧ (scale.serve timer now).rig.board
          = (device.callback now (scale.taking timer).rig).rig.board
      ∧ (scale.serve timer now).rig.handoff
          = (device.callback now (scale.taking timer).rig).rig.handoff
      ∧ (scale.serve timer now).rig.sent
          = (device.callback now (scale.taking timer).rig).rig.sent := by
  obtain ⟨result, hresult⟩ := hok
  have htimed : (device.timed now (scale.taking timer).rig).2
      = (device.callback now (scale.taking timer).rig).device := by
    rw [Device.timed, hresult]
  have htaken : (scale.taking timer).device? timer.oid = some device := hfound
  obtain ⟨-, hself, -, hlogged⟩ := callback_of_some now htaken
  rw [htimed] at hself
  rw [serve_eq, device?_putBack]
  refine ⟨hself, ?_, ?_, ?_⟩
  · exact (rig_putBack _ _ _).1.trans hlogged.board
  · exact (rig_putBack _ _ _).2.1.trans hlogged.handoff
  · exact (congrArg (List.filterMap Effect.sent?) (rig_putBack _ _ _).2.2).trans hlogged.sent

/-- The scale has sent no more than one reading, the next of its circuit. -/
def Continued (rack : Rack) (ids : Wire.Ids) (lost : UInt8 → Nat) (scale : Scale Bench)
    (readings : List Wire.Reading) : Prop :=
  ∃ chips, ∃ more : Option Wire.Reading,
    Tracked rack ids lost scale chips (readings ++ more.toList)
      ∧ ∀ reading ∈ more, ∃ circuit ∈ rack.circuits,
          IsNext circuit (lost circuit.oid) readings reading

theorem Tracked.continued (h : Tracked rack ids lost scale chips readings) :
    Continued rack ids lost scale readings := by
  refine ⟨chips, none, ?_, fun _ hnone => by cases hnone⟩
  rw [Option.toList_none, List.append_nil]
  exact h

/-- **A callback and the delivery after it** move one circuit, by at most one sample. -/
theorem Tracked.serve_known (h : Tracked rack ids lost scale chips readings) {timer : Timer}
    (hpending : timer ∈ scale.rig.timers.pending) {device : Device}
    (hfound : scale.device? timer.oid = some device) (now : Clock) (probe : Bool) :
    Continued rack ids lost ((scale.serve timer now).delivered ids probe) readings := by
  obtain ⟨inputs, outputs, hboard⟩ := h.board
  obtain ⟨circuit, hmem, hoid, hcoupled, hslot, hpoised⟩ := h.of_device? hfound
  have hdue : scale.due circuit.oid ≠ [] := by
    rw [hoid]
    exact List.ne_nil_of_mem (Timers.mem_due.mpr hpending)
  have htaken : (scale.taking timer).rig.board = rack.bench chips inputs outputs := hboard
  obtain ⟨chip, hcalled⟩ := Device.advanced_callback hmem htaken hcoupled (hpoised hdue) now
  obtain ⟨hself, hmoved, hhandoff, hsent⟩ := serve_of_some now hfound hcalled.ok
  rw [hcalled.board] at hmoved
  rw [hcalled.sent] at hsent
  have hothers (oid : UInt8) (hne : oid ≠ circuit.oid) :
      ((scale.serve timer now).delivered ids probe).device? oid = scale.device? oid
        ∧ ((scale.serve timer now).delivered ids probe).due oid = scale.due oid := by
    rw [device?_delivered, due_delivered]
    exact scale.serve_ne now (hoid ▸ hne)
  have hbench : ∃ inputs outputs, ((scale.serve timer now).delivered ids probe).rig.board
      = rack.bench (Function.update chips circuit chip) inputs outputs := by
    rw [board_delivered]
    exact ⟨inputs, outputs, hmoved⟩
  have hclear : ((scale.serve timer now).delivered ids probe).rig.handoff
      = .clear scale.capacity := by
    rw [handoff_delivered, capacity, hhandoff]
    rcases hcalled.coupled with ⟨-, hkept⟩ | ⟨sample, -, hwoken, -⟩
    · rw [hkept]
      rfl
    · rw [hwoken, Handoff.capacity_wake]
      rfl
  rcases hcalled.coupled with ⟨hnext, hkept⟩ | ⟨sample, hnext, hwoken, hsample, hvalue⟩
  · -- the frame goes on, and there is nothing to deliver
    have hslots : (scale.serve timer now).rig.handoff = .clear scale.capacity := by
      rw [hhandoff, hkept]
      exact h.handoff
    refine (h.quiet hmem chip hbench hclear ?_ hothers (fun _ _ => rfl) ?_).continued
    · exact (Rig.sent_deliver_of_clear hslots ids probe).trans hsent
    · rw [device?_delivered, hoid, hself, ← hoid]
      exact .present _ _ _ _ _ hnext (hcalled.slot ▸ hslot) fun _ => hcalled.poised
  · -- the sample is the only one in the slots, so the delivery sends it and nothing else
    have hslots : (scale.serve timer now).rig.handoff
        = (Handoff.clear scale.capacity).wake device.slot sample := by
      rw [hhandoff, hwoken]
      exact congrArg (·.wake device.slot sample) h.handoff
    refine ⟨_, some sample.reading, h.move hmem chip (some sample.reading) hbench hclear ?_ ?_
      hothers (fun _ _ => rfl) ?_, ?_⟩
    · calc ((scale.serve timer now).delivered ids probe).rig.sent
          = (scale.serve timer now).rig.sent ++ [sample.reading.body ids] :=
            Rig.sent_deliver_of_wake hslots hslot ids probe
        _ = scale.rig.sent ++ [sample.reading.body ids] := by
            rw [hsent]
            rfl
    · rintro _ ⟨⟩
      exact hsample
    · rw [device?_delivered, hoid, hself, ← hoid, Option.toList_some, List.length_append,
        List.length_singleton]
      refine .present _ _ _ _ _ ?_ (hcalled.slot ▸ hslot) fun _ => hcalled.poised
      rw [Nat.succ_mul, Nat.add_right_comm]
      exact hnext
    · rintro _ ⟨⟩
      exact ⟨circuit, hmem, hsample, hvalue⟩

theorem Tracked.callback (h : Tracked rack ids lost scale chips readings) (timer : Timer)
    (now : Clock) (probe : Bool) :
    Continued rack ids lost ((scale.apply (.serve timer now)).delivered ids probe) readings := by
  by_cases hpending : timer ∈ scale.rig.timers.pending
  · rw [show scale.apply (.serve timer now) = scale.serve timer now from if_pos hpending]
    cases hfound : scale.device? timer.oid with
    | none => exact ((h.serve_unknown hpending hfound now).deliver probe).continued
    | some device => exact h.serve_known hpending hfound now probe
  · rw [show scale.apply (.serve timer now) = scale from if_neg hpending]
    exact (h.deliver probe).continued

end Scale

end WeighScale
