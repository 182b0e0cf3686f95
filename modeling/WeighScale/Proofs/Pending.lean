import WeighScale.Proofs.Course
import WeighScale.Proofs.Operations

set_option autoImplicit false

/-! # Pending samples

What the slots hold at any time, and what a pass of the main loop sends because of it.

Whatever happens to a scale, what it does to the slots is a list of marks: a mark says that a
sample was put into a slot, or that the slot was cleared. Samples are put there by callbacks
that complete a frame, and by nothing else that goes on in the scale; each is a copy of what
the device was at that time. From the marks one can tell what a slot holds: the sample that was
last put there, unless the slot was cleared since (`lastWoken`).

The main loop may be interrupted between any two slots, so a pass is cut into visits, one for
each slot, and samples may come in between. A pass that is not interrupted is the visits one
after another (`deliver_eq_visits`).
-/

namespace WeighScale

/-! ## Marks -/

/-- Something that was done to a slot. -/
structure Mark where
  slot : Nat
  /-- What the slot holds from then on. -/
  left : Option Sample

/-- The slot was cleared. -/
def Mark.cleared (slot : Nat) : Mark := ⟨slot, none⟩

/-- The sample that was last put into a slot, if the slot was not cleared since. -/
def lastWoken (marks : List Mark) (slot : Nat) : Option Sample :=
  (marks.filter fun mark => mark.slot == slot).getLast?.bind Mark.left

theorem lastWoken_concat (marks : List Mark) (mark : Mark) (slot : Nat) :
    lastWoken (marks ++ [mark]) slot
      = if mark.slot = slot then mark.left else lastWoken marks slot := by
  rw [lastWoken, List.filter_append]
  by_cases h : mark.slot = slot
  · have hone : [mark].filter (fun mark => mark.slot == slot) = [mark] :=
      List.filter_cons_of_pos (p := fun mark : Mark => mark.slot == slot) (beq_iff_eq.mpr h)
    rw [hone, List.getLast?_concat, if_pos h]
    rfl
  · have hnone : [mark].filter (fun mark => mark.slot == slot) = [] :=
      List.filter_cons_of_neg (p := fun mark : Mark => mark.slot == slot) (mt beq_iff_eq.mp h)
    rw [hnone, List.append_nil, if_neg h, lastWoken]

namespace Handoff

/-- The slots after a mark was made. -/
def mark (handoff : Handoff) (mark : Mark) : Handoff := ⟨handoff.slots.set mark.slot mark.left⟩

theorem pending?_mark (handoff : Handoff) (mark : Mark) {slot : Nat}
    (h : slot < handoff.capacity) :
    (handoff.mark mark).pending? slot
      = if mark.slot = slot then mark.left else handoff.pending? slot := by
  rw [pending?, Handoff.mark, List.getElem?_set]
  by_cases hslot : mark.slot = slot
  · have hlt : mark.slot < handoff.slots.length := hslot ▸ h
    rw [if_pos hslot, if_pos hslot, if_pos hlt]
    rfl
  · rw [if_neg hslot, if_neg hslot, pending?]

theorem capacity_marks (handoff : Handoff) (marks : List Mark) :
    (marks.foldl mark handoff).capacity = handoff.capacity := by
  induction marks generalizing handoff with
  | nil => rfl
  | cons first others ih =>
      rw [List.foldl_cons, ih]
      exact List.length_set

theorem pending?_clear (capacity slot : Nat) : (clear capacity).pending? slot = none := by
  rw [pending?, clear, List.getElem?_replicate]
  split <;> rfl

/-- **The marks tell what a slot holds.** -/
theorem pending?_marks {capacity slot : Nat} (h : slot < capacity) (marks : List Mark) :
    (marks.foldl mark (clear capacity)).pending? slot = lastWoken marks slot := by
  induction marks using List.reverseRecOn with
  | nil => exact pending?_clear capacity slot
  | append_singleton marks last ih =>
      have hslot : slot < (marks.foldl mark (clear capacity)).capacity := by
        rw [capacity_marks, capacity_clear]
        exact h
      rw [List.foldl_append, List.foldl_cons, List.foldl_nil, pending?_mark _ _ hslot, ih,
        lastWoken_concat]

theorem slots_eq (handoff : Handoff) :
    handoff.slots = (List.range handoff.capacity).map handoff.pending? := by
  refine List.ext_getElem (by simp [capacity]) fun i hi _ => ?_
  rw [List.getElem_map, List.getElem_range, pending?, List.getElem?_eq_getElem hi]
  rfl

/-- The samples there are, slot by slot. -/
theorem samples_eq (handoff : Handoff) :
    handoff.samples = (List.range handoff.capacity).filterMap handoff.pending? := by
  rw [samples, slots_eq, List.filterMap_map]
  rfl

/-- What some slots hold once others were cleared. -/
theorem pending?_cleared (handoff : Handoff) (slots : List Nat) {slot : Nat}
    (h : slot < handoff.capacity) :
    ((slots.map Mark.cleared).foldl mark handoff).pending? slot
      = if slot ∈ slots then none else handoff.pending? slot := by
  induction slots generalizing handoff with
  | nil => rfl
  | cons first others ih =>
      have hcapacity := handoff.capacity_marks [.cleared first]
      rw [List.map_cons, List.foldl_cons, ih _ (hcapacity ▸ h), pending?_mark _ _ h]
      by_cases hmem : slot ∈ others
      · rw [if_pos hmem, if_pos (List.mem_cons_of_mem _ hmem)]
      · have hiff : slot ∈ first :: others ↔ first = slot := by
          rw [List.mem_cons, or_iff_left hmem, eq_comm]
        simp only [if_neg hmem, hiff]
        rfl

/-- Clearing every slot. -/
theorem clear_all (handoff : Handoff) :
    ((List.range handoff.capacity).map Mark.cleared).foldl mark handoff
      = clear handoff.capacity := by
  rw [Handoff.mk.injEq, slots_eq, slots_eq (clear _), capacity_marks, capacity_clear]
  refine List.map_congr_left fun slot hmem => ?_
  rw [pending?_cleared handoff _ (List.mem_range.mp hmem), if_pos hmem, pending?_clear]

end Handoff

namespace Rig

variable {β : Type}

/-! ## Visits -/

/-- Takes what is in one slot and delivers it. Returns the number of messages sent. -/
def visit (rig : Rig β) (ids : Wire.Ids) (probe : Bool) (slot : Nat) : Nat × Rig β :=
  let taken := rig.takeSample slot
  deliverSamples ids probe taken.1.toList taken.2

/-- Visits slots one after another. Returns the number of messages sent. -/
def visits (ids : Wire.Ids) (probe : Bool) : List Nat → Rig β → Nat × Rig β
  | [], rig => (0, rig)
  | slot :: slots, rig =>
      let this := rig.visit ids probe slot
      let others := visits ids probe slots this.2
      (this.1 + others.1, others.2)

/-- A visit to a slot announces what is there and clears the slot. -/
theorem visit_eq (rig : Rig β) (ids : Wire.Ids) (probe : Bool) (slot : Nat) :
    rig.visit ids probe slot
      = ((rig.handoff.pending? slot).toList.length,
          { rig with
            handoff := rig.handoff.mark (.cleared slot)
            trace := ((rig.handoff.pending? slot).toList.flatMap (·.announced ids probe)).reverse
              ++ rig.trace }) := deliverSamples_eq ..

/-- Visits to some slots announce what is there, in the order of the visits. -/
theorem visits_eq (ids : Wire.Ids) (probe : Bool) {slots : List Nat} (rig : Rig β)
    (hslots : ∀ slot ∈ slots, slot < rig.handoff.capacity) (hnodup : slots.Nodup) :
    visits ids probe slots rig
      = ((slots.filterMap rig.handoff.pending?).length,
          { rig with
            handoff := (slots.map Mark.cleared).foldl .mark rig.handoff
            trace := ((slots.filterMap rig.handoff.pending?).flatMap
              (·.announced ids probe)).reverse ++ rig.trace }) := by
  induction slots generalizing rig with
  | nil => rfl
  | cons slot slots ih =>
      obtain ⟨hslot, hothers⟩ := List.forall_mem_cons.mp hslots
      obtain ⟨hfresh, hnodup⟩ := List.nodup_cons.mp hnodup
      have hcapacity := rig.handoff.capacity_marks [.cleared slot]
      -- the other slots are as they were
      have hkept : slots.filterMap (rig.handoff.mark (.cleared slot)).pending?
          = slots.filterMap rig.handoff.pending? := by
        refine List.filterMap_congr fun other hmem => ?_
        rw [Handoff.pending?_mark _ _ (hothers other hmem), if_neg]
        rintro rfl
        exact hfresh hmem
      rw [visits, visit_eq]
      dsimp only
      rw [ih _ (fun other hmem => hcapacity.symm ▸ hothers other hmem) hnodup, hkept]
      dsimp only
      cases h : rig.handoff.pending? slot with
      | none => simp [h]
      | some sample => simp [h, Nat.add_comm]

/-- **A pass is a visit to each slot.** -/
theorem deliver_eq_visits (rig : Rig β) (ids : Wire.Ids) (probe : Bool) :
    rig.deliver ids probe = visits ids probe (List.range rig.handoff.capacity) rig := by
  rw [deliver_eq, visits_eq ids probe rig (fun _ => List.mem_range.mp) List.nodup_range,
    Handoff.clear_all, Handoff.samples_eq]

end Rig

/-! ## What devices put into their slots -/

namespace Device

variable {β : Type} [Board β]

/-- The sample that a callback completes and hands over: what the device is like then. -/
def snapshot? (device : Device) (now : Clock) (rig : Rig β) : Option Sample :=
  match (device.callback now rig).result with
  | .ok _ =>
      if device.completes rig (.callback now true) then
        some (device.callback now rig).device.sample
      else none
  | .error _ => none

/-- A callback puts its sample into the slot of the device, if it completes one. -/
theorem handoff_callback (device : Device) (now : Clock) (rig : Rig β) :
    (device.callback now rig).rig.handoff
      = match device.snapshot? now rig with
        | some sample => rig.handoff.wake device.slot sample
        | none => rig.handoff := by
  have hway := device.called_callback now rig
  unfold snapshot?
  generalize device.callback now rig = outcome at hway ⊢
  cases hway with
  | unread | stuck | withheld => rfl
  | waited hread hframe =>
      dsimp only
      rw [completes_of_read hread, isOver_advance_of_start hframe, if_neg Bool.false_ne_true]
      rfl
  | clocked high hread _ hover =>
      dsimp only
      rw [completes_of_read hread, hover, if_neg Bool.false_ne_true]
      rfl
  | delivered high hread _ hover =>
      dsimp only
      rw [completes_of_read hread, hover, if_pos rfl, Rig.handoff_wake, slot_finished]
      rfl

theorem handoff_query (device : Device) (enable : Bool) (endstop : Option UInt8) (now : Clock)
    (rig : Rig β) : (device.query enable endstop now rig).rig.handoff = rig.handoff :=
  query_keeps Rig.handoff device (fun _ => rfl) (fun _ _ => rfl) (fun _ _ => rfl) enable endstop now
    rig

theorem handoff_attach (device : Device) (rig : Rig β) :
    (device.attach rig).2.handoff = rig.handoff :=
  attach_keeps Rig.handoff device (fun _ _ => rfl) (fun _ _ => rfl) (fun _ _ => rfl) rig

end Device

namespace Scale

variable {β : Type} [Board β]

/-! ## Everything that happens to a scale -/

/-- Something that happens to a scale while samples are pending. -/
inductive Event
  /-- A sample is put into a slot. -/
  | wake (slot : Nat) (sample : Sample)
  /-- The main loop visits one slot. -/
  | visit (ids : Wire.Ids) (probe : Bool) (slot : Nat)
  /-- A callback is made of the device with this oid, whether it was asked for or not. -/
  | callback (oid : UInt8) (now : Clock)
  /-- The host, the timers or the main loop do something. -/
  | operate (operation : Operation)

/-- The scale after it. -/
def step (scale : Scale β) : Event → Scale β
  | .wake slot sample => scale.onRig (scale.rig.wake slot sample)
  | .visit ids probe slot => scale.onRig (scale.rig.visit ids probe slot).2
  | .callback oid now => (scale.callback oid now).2
  | .operate operation => scale.apply operation

/-- The scale after one thing after another. -/
def through (scale : Scale β) (events : List Event) : Scale β := events.foldl step scale

/-- Something that happens to a scale, or to the lines of its board. -/
inductive Occurrence (β : Type)
  | event (event : Event)
  /-- The lines take other levels, fail, or work again. -/
  | arrange (change : β → β)

/-- Something done by the host, the timers or the main loop, as an occurrence. -/
def Occurrence.operate (operation : Operation) : Occurrence β := .event (.operate operation)

/-- The scale with other things on its lines. -/
def rewired (scale : Scale β) (change : β → β) : Scale β :=
  scale.onRig { scale.rig with board := change scale.rig.board }

/-- The scale after it. -/
def meet (scale : Scale β) : Occurrence β → Scale β
  | .event event => scale.step event
  | .arrange change => scale.rewired change

/-- The scale after one occurrence after another. -/
def beyond (scale : Scale β) (occurrences : List (Occurrence β)) : Scale β :=
  occurrences.foldl meet scale

theorem beyond_append (scale : Scale β) (before later : List (Occurrence β)) :
    scale.beyond (before ++ later) = (scale.beyond before).beyond later := List.foldl_append

theorem beyond_operate (scale : Scale β) (operations : List Operation) :
    scale.beyond (operations.map .operate) = scale.after operations := List.foldl_map

/-- The mark that a callback makes, if it completes a sample. -/
def completion (scale : Scale β) (oid : UInt8) (now : Clock) : List Mark :=
  ((scale.device? oid).bind fun device =>
    (device.snapshot? now scale.rig).map fun sample => Mark.mk device.slot (some sample)).toList

/-- The marks that are made on the slots. Requests make none. -/
def marksOf (scale : Scale β) : Event → List Mark
  | .wake slot sample => [⟨slot, some sample⟩]
  | .visit _ _ slot => [.cleared slot]
  | .callback oid now => scale.completion oid now
  | .operate (.serve timer now) =>
      if timer ∈ scale.rig.timers.pending then (scale.taking timer).completion timer.oid now
      else []
  | .operate (.deliver _ _) => (List.range scale.capacity).map .cleared
  | .operate (.request _ _) => []
  | .operate (.message _ _ _) => []

/-- The marks that one thing after another makes on the slots. -/
def marksIn (scale : Scale β) : List Event → List Mark
  | [] => []
  | event :: events => scale.marksOf event ++ (scale.step event).marksIn events

theorem handoff_perform (scale : Scale β) (request : Wire.Request) (now : Clock) :
    (scale.perform request now).2.rig.handoff = scale.rig.handoff :=
  scale.perform_keeps
    { log := fun _ _ => rfl
      cancel := fun _ _ => rfl
      schedule := fun _ _ _ => rfl
      setupInput := fun _ _ _ => rfl
      setupOutput := fun _ _ _ => rfl
      drive := fun _ _ _ => rfl } request now

theorem handoff_scale_callback (scale : Scale β) (oid : UInt8) (now : Clock) :
    (scale.callback oid now).2.rig.handoff
      = (scale.completion oid now).foldl Handoff.mark scale.rig.handoff := by
  unfold completion
  cases hfound : scale.device? oid with
  | none => rw [callback_of_none now hfound]; rfl
  | some device =>
      have hhandoff := device.handoff_callback now scale.rig
      rw [(callback_of_some now hfound).2.2.2.handoff, hhandoff, Option.bind_some]
      cases device.snapshot? now scale.rig <;> rfl

/-- **One step**: the slots change as the marks say. -/
theorem handoff_step (scale : Scale β) (event : Event) :
    (scale.step event).rig.handoff = (scale.marksOf event).foldl Handoff.mark scale.rig.handoff := by
  cases event with
  | wake slot sample => rfl
  | visit ids probe slot =>
      show (scale.rig.visit ids probe slot).2.handoff = _
      rw [Rig.visit_eq]
      rfl
  | callback oid now => exact scale.handoff_scale_callback oid now
  | operate operation =>
      cases operation with
      | request request now => exact scale.handoff_perform request now
      | message ids body now =>
          show (scale.receive ids body now).2.rig.handoff = _
          unfold receive
          split
          · rfl
          · exact scale.handoff_perform _ now
      | deliver ids probe =>
          show (scale.rig.deliver ids probe).2.handoff = _
          rw [Rig.handoff_deliver]
          exact scale.rig.handoff.clear_all.symm
      | serve timer now =>
          show (if _ then _ else _ : Scale β).rig.handoff = _
          rw [marksOf]
          split
          · have hback (scale : Scale β) (next : Next) :
                (scale.putBack timer.oid next).rig.handoff = scale.rig.handoff := by
              cases next <;> rfl
            rw [serve_eq, hback]
            exact (scale.taking timer).handoff_scale_callback timer.oid now
          · rfl

/-- **A whole run**: what the slots hold is what the marks say. -/
theorem handoff_through (scale : Scale β) (events : List Event) :
    (scale.through events).rig.handoff
      = (scale.marksIn events).foldl Handoff.mark scale.rig.handoff := by
  induction events generalizing scale with
  | nil => rfl
  | cons event events ih =>
      rw [marksIn, List.foldl_append, ← handoff_step]
      exact ih (scale.step event)

/-! ## The statement -/

/-- **What a slot holds** is the last sample that was put there, unless it was cleared since. -/
theorem pending?_through (board : β) (delays : Delays) {capacity slot : Nat}
    (h : slot < capacity) (events : List Event) :
    ((start board delays capacity).through events).rig.handoff.pending? slot
      = lastWoken ((start board delays capacity).marksIn events) slot := by
  rw [handoff_through]
  exact Handoff.pending?_marks h _

theorem capacity_through (board : β) (delays : Delays) (capacity : Nat) (events : List Event) :
    ((start board delays capacity).through events).rig.handoff.capacity = capacity := by
  rw [handoff_through, Handoff.capacity_marks]
  exact Handoff.capacity_clear capacity

theorem samples_through (board : β) (delays : Delays) (capacity : Nat) (events : List Event) :
    ((start board delays capacity).through events).rig.handoff.samples
      = (List.range capacity).filterMap
          (lastWoken ((start board delays capacity).marksIn events)) := by
  rw [Handoff.samples_eq, capacity_through]
  exact List.filterMap_congr fun slot hmem =>
    pending?_through board delays (List.mem_range.mp hmem) events

/-- **One visit**: it announces what is in the slot, and clears it. -/
theorem visit_through (board : β) (delays : Delays) {capacity slot : Nat} (h : slot < capacity)
    (events : List Event) (ids : Wire.Ids) (probe : Bool) :
    let scale := (start board delays capacity).through events
    let held := lastWoken ((start board delays capacity).marksIn events) slot
    (scale.rig.visit ids probe slot).2.effects
        = scale.rig.effects ++ held.toList.flatMap (·.announced ids probe)
      ∧ (scale.rig.visit ids probe slot).1 = held.toList.length
      ∧ (scale.rig.visit ids probe slot).2.handoff.pending? slot = none := by
  intro scale held
  have hheld : scale.rig.handoff.pending? slot = held := pending?_through board delays h events
  have hslot : slot < scale.rig.handoff.capacity := by
    rw [capacity_through]
    exact h
  rw [Rig.visit_eq, hheld]
  refine ⟨?_, rfl, ?_⟩
  · rw [Rig.effects, List.reverse_append, List.reverse_reverse]
    rfl
  · rw [Handoff.pending?_mark _ _ hslot]
    exact if_pos rfl

/-- What a pass of the main loop does, whatever has happened to the scale before: it goes
through the slots in order and announces, for each, the sample that was last put there, if the
slot was not cleared since. It returns the number of messages, each of which the host reads as
the sample it was sent for. Afterwards every slot is clear, so that another pass has nothing to
do. The pass is a visit to each slot, and a visit announces and clears what is in its slot at
that time, so this holds as well if the pass is interrupted between its visits. -/
theorem delivers_last_woken (board : β) (delays : Delays) (capacity : Nat) (events : List Event)
    (ids : Wire.Ids) (probe : Bool) :
    let begun := start board delays capacity
    let scale := begun.through events
    let held := lastWoken (begun.marksIn events)
    let samples := (List.range capacity).filterMap held
    let delivered := scale.rig.deliver ids probe
    delivered.2.effects = scale.rig.effects ++ samples.flatMap (·.announced ids probe)
      ∧ (∃ bodies, delivered.2.sent = scale.rig.sent ++ bodies ∧ bodies.length = delivered.1
          ∧ bodies.map (Wire.Reading.decode ids)
            = samples.map fun sample => .ok ⟨sample.oid, sample.clock, sample.value⟩)
      ∧ (∀ slot, delivered.2.handoff.pending? slot = none)
      ∧ (∀ ids probe, delivered.2.deliver ids probe = (0, delivered.2))
      ∧ delivered = Rig.visits ids probe (List.range capacity) scale.rig
      ∧ ∀ slot : Fin capacity,
          let visited := scale.rig.visit ids probe slot
          visited.2.effects
              = scale.rig.effects ++ (held slot).toList.flatMap (·.announced ids probe)
            ∧ visited.1 = (held slot).toList.length
            ∧ visited.2.handoff.pending? slot = none := by
  intro begun scale held samples delivered
  have hsamples : scale.rig.handoff.samples = samples :=
    samples_through board delays capacity events
  have hdelivered : delivered = _ := scale.rig.deliver_eq ids probe
  refine ⟨?_, ⟨samples.map fun sample => sample.reading.body ids, ?_, ?_, ?_⟩, fun slot => ?_,
    fun ids probe => ?_, ?_, fun slot => visit_through board delays slot.isLt events ids probe⟩
  · rw [hdelivered, hsamples, Rig.effects, List.reverse_append, List.reverse_reverse]
    rfl
  · rw [← hsamples]
    exact scale.rig.sent_deliver ids probe
  · rw [hdelivered, hsamples, List.length_map]
  · rw [List.map_map]
    exact List.map_congr_left fun sample _ => sample.reading.decode_body_self ids
  · rw [hdelivered]
    exact Handoff.pending?_clear _ slot
  · -- the slots are clear, so there is nothing to announce
    have hclear : delivered.2.handoff = .clear scale.rig.handoff.capacity :=
      scale.rig.handoff_deliver _ _
    rw [Rig.deliver_eq, hclear, Handoff.samples_clear, Handoff.capacity_clear, ← hclear]
    rfl
  · have hvisits : delivered = _ := scale.rig.deliver_eq_visits ids probe
    rw [capacity_through] at hvisits
    exact hvisits

end Scale

end WeighScale
