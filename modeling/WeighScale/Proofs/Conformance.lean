import WeighScale.Bench
import WeighScale.Proofs.Capture
import WeighScale.Proofs.Course
import Mathlib.Data.List.GetD

set_option autoImplicit false

/-! # Sampling, frame by frame

What a device is to do from the time it is enabled, said without its counter and its register.
Its callbacks fall into two kinds. One that finds the data line high between two frames is a
wait. One that finds it low begins a frame, to which that callback and those after it belong,
one for each half-cycle. The last of them hands over the word that the odd ones among the first
48 have read (`dataWord`).

A list of callbacks, each with what came of it, conforms to this if it is cut into waits and
frames, with at most one frame unfinished at its end, and every callback of them has come to
what it should (`Conforms`). The main statement (`conforms_course`) is that every course
conforms, whatever the clocks, the levels and the queries that stop sampling, and that the
samples depend on no levels but those of the ready checks and the data bits.
-/

namespace WeighScale

/-! ## The word in a frame -/

/-- The word whose bits are the odd ones among the levels of a frame, counted from zero, the
most significant first. A level that is not there counts as low. -/
def dataWord (levels : List Level) : BitVec 24 :=
  wordOf fun i => levels.getD (2 * i + 1) false

theorem getMsbD_dataWord (levels : List Level) {i : Nat} (h : i < 24) :
    (dataWord levels).getMsbD i = levels.getD (2 * i + 1) false := getMsbD_wordOf _ h

namespace Frame

/-- The bits of a frame are those of the levels so far. -/
theorem partway_dataWord_append (levels more : List Level) :
    partway (dataWord (levels ++ more)) levels.length
      = partway (dataWord levels) levels.length := by
  rw [partway, partway, Frame.mk.injEq]
  refine ⟨rfl, BitVec.eq_of_getMsbD_eq fun i _ => ?_⟩
  rw [getMsbD_topBits, getMsbD_topBits]
  by_cases hplace : i < levels.length / 2
  · by_cases hword : i < 24
    · have hlt : 2 * i + 1 < levels.length := by omega
      rw [getMsbD_dataWord _ hword, getMsbD_dataWord _ hword, List.getD_append _ _ _ _ hlt]
    · rw [BitVec.getMsbD_of_ge _ _ (Nat.not_lt.mp hword),
        BitVec.getMsbD_of_ge _ _ (Nat.not_lt.mp hword)]
  · simp [hplace]

/-- A half-cycle takes the level that it finds. -/
theorem advance_partway_dataWord (levels : List Level) (high : Level) :
    (partway (dataWord levels) levels.length).advance high
      = partway (dataWord (levels ++ [high])) (levels.length + 1) := by
  rw [← partway_dataWord_append levels [high]]
  refine advance_partway _ _ _ fun hodd hdata => ?_
  have hplace : levels.length / 2 < 24 := by
    rw [dataHalfCycles] at hdata
    omega
  have hlast : 2 * (levels.length / 2) + 1 = levels.length := by omega
  rw [getMsbD_dataWord _ hplace, hlast, List.getD_append_right _ _ _ _ (Nat.le_refl _),
    Nat.sub_self]
  rfl

theorem value_partway (word : BitVec 24) {halfCycles : Nat} (h : dataHalfCycles ≤ halfCycles)
    (polarity : Polarity) :
    (partway word halfCycles).value polarity
      = Int32.ofInt (polarity.sign.toInt * word.toInt) := by
  rw [← toInt_value_partway word h polarity, Int32.ofInt_toInt]

end Frame

namespace Device

variable {β : Type} [Board β]

/-! ## Callbacks and what comes of them -/

/-- A callback as a device meets it. -/
structure Call where
  now : Clock
  /-- The level of the data line. -/
  high : Level
  /-- Whether sampling is to go on after the frame. -/
  active : Bool
  /-- The endstop that samples are shown to. -/
  endstop : Option UInt8
  /-- The clock that the device has asked for. -/
  due : Clock

/-- What comes of a callback. -/
structure Response where
  result : Except PinFault (Option Next)
  /-- The frame after the callback. -/
  frame : Frame
  effects : List Effect

/-- The callback at `now`, with the data line at `high`. -/
def meets (device : Device) (now : Clock) (high : Level) : Call where
  now := now
  high := high
  active := device.active
  endstop := device.endstop
  due := device.waketime

/-- What a callback has come to. -/
def Outcome.response (outcome : Outcome (Option Next) β) : Response where
  result := outcome.result
  frame := outcome.device.frame
  effects := outcome.rig.effects

/-- The callback and what comes of it, if the event is one. -/
def exchange? (device : Device) (rig : Rig β) : Event β → Option (Call × Response)
  | .callback now guarded =>
      some
        (device.meets now (Board.read rig.board device.dout).1,
          (device.step rig (.callback now guarded)).response)
  | _ => none

/-- The callbacks of a course, each with what came of it. -/
def exchanges (device : Device) (rig : Rig β) : List (Event β) → List (Call × Response)
  | [] => []
  | event :: events =>
      (device.exchange? rig event).toList
        ++ (device.step rig event).device.exchanges (device.step rig event).rig events

/-! ## The reference -/

/-- What a wait comes to. Neither the frame nor the clock line takes part in it. -/
def awaiting (device : Device) (call : Call) : Response where
  result := .ok (some (.again (call.now + device.delays.retry)))
  frame := .start
  effects := [.read device.dout true none]

/-- The sample of a frame with these calls, of which `last` is the last one. -/
def sampleOf (device : Device) (calls : List Call) (last : Call) : Sample where
  oid := device.oid
  clock := if last.active then last.now + device.delays.sample else last.due
  value := Int32.ofInt (device.polarity.sign.toInt * (dataWord (calls.map Call.high)).toInt)
  endstop := last.endstop

/-- What call `i` of a frame comes to. -/
def inFrame (device : Device) (calls : List Call) (i : Nat) (call : Call) : Response :=
  if i + 1 < device.gain.frameLength then
    { result := .ok (some (.again (call.now + device.delays.edge)))
      frame := .partway (dataWord ((calls.take (i + 1)).map Call.high)) (i + 1)
      effects := [.read device.dout call.high none, .drive device.sck (i % 2 == 0) none] }
  else
    { result := .ok (some
        (if call.active then .again (call.now + device.delays.sample) else .done))
      frame := .start
      effects :=
        [.read device.dout call.high none, .drive device.sck false none,
          .wake device.slot (device.sampleOf calls call)] }

/-- The calls of a frame, each with what it comes to. -/
def frameOf (device : Device) (calls : List Call) : List (Call × Response) :=
  calls.mapIdx fun i call => (call, device.inFrame calls i call)

/-- The calls can be those of a frame: the first finds the data line low. -/
def Ready (calls : List Call) : Prop := ∀ call ∈ calls.head?, call.high = false

/-- The callbacks are waits and frames, and at last a frame that is not finished yet. -/
inductive Conforms (device : Device) : List (Call × Response) → Prop
  | unfinished (calls : List Call) (hready : Ready calls)
      (hlength : calls.length < device.gain.frameLength) : Conforms device (device.frameOf calls)
  | wait (call : Call) (rest : List (Call × Response)) (hhigh : call.high = true)
      (hrest : Conforms device rest) : Conforms device ((call, device.awaiting call) :: rest)
  | frame (calls : List Call) (rest : List (Call × Response)) (hready : Ready calls)
      (hlength : calls.length = device.gain.frameLength) (hrest : Conforms device rest) :
      Conforms device (device.frameOf calls ++ rest)

omit [Board β] in
theorem inFrame_append (device : Device) (calls more : List Call) {i : Nat} (call : Call)
    (hi : i < calls.length) (hlast : i + 1 < device.gain.frameLength) :
    device.inFrame (calls ++ more) i call = device.inFrame calls i call := by
  rw [inFrame, inFrame, if_pos hlast, if_pos hlast,
    List.take_append_of_le_length (Nat.succ_le_of_lt hi)]

omit [Board β] in
/-- A frame with one more call. -/
theorem frameOf_concat (device : Device) (calls : List Call) (call : Call)
    (h : calls.length < device.gain.frameLength) :
    device.frameOf (calls ++ [call])
      = device.frameOf calls
        ++ [(call, device.inFrame (calls ++ [call]) calls.length call)] := by
  have hbefore : calls.mapIdx (fun i other => (other, device.inFrame (calls ++ [call]) i other))
      = calls.mapIdx fun i other => (other, device.inFrame calls i other) := by
    refine List.ext_getElem (by simp) fun i hi _ => ?_
    rw [List.length_mapIdx] at hi
    rw [List.getElem_mapIdx, List.getElem_mapIdx, inFrame_append device calls _ _ hi (by omega)]
  rw [frameOf, List.mapIdx_concat, hbefore, frameOf]

/-! ## A course conforms -/

/-- No call of the board fails in a course. -/
def CalmIn (device : Device) (rig : Rig β) (events : List (Event β)) : Prop :=
  ∀ entry ∈ device.transcript rig events, ∀ effect ∈ entry.2, effect.fault? = none

/-- The device is set up like another one and is in the frame that these calls have begun. -/
structure Within (device : Device) (calls : List Call) (current : Device) : Prop where
  renewed : current.renewed = device.renewed
  frame : current.frame = .partway (dataWord (calls.map Call.high)) calls.length
  ready : Ready calls
  unfinished : calls.length < device.gain.frameLength

namespace Within

variable {device current : Device} {calls : List Call} {now : Clock} {high : Level}

omit [Board β] in
theorem of_start (hrenewed : current.renewed = device.renewed) (hframe : current.frame = .start) :
    Within device [] current where
  renewed := hrenewed
  frame := hframe.trans (Frame.partway_zero _).symm
  ready := fun _ h => by cases h
  unfinished := Nat.lt_of_le_of_lt (Nat.zero_le _) device.gain.dataHalfCycles_lt_frameLength

omit [Board β] in
theorem halfCycles (h : Within device calls current) :
    current.frame.halfCycles = calls.length := by rw [h.frame, Frame.halfCycles_partway]

omit [Board β] in
theorem gain (h : Within device calls current) : current.gain = device.gain :=
  (renewed_eq_iff.mp h.renewed).2.2.2.1

omit [Board β] in
theorem isOver_eq (h : Within device calls current) :
    (current.frame.advance high).isOver current.gain
      = decide (device.gain.frameLength ≤ calls.length + 1) := by
  rw [Frame.isOver, Frame.halfCycles_advance, h.halfCycles, h.gain]

omit [Board β] in
theorem ready_concat (h : Within device calls current) {call : Call}
    (hready : current.frame.halfCycles = 0 → call.high = false) : Ready (calls ++ [call]) := by
  rw [h.halfCycles] at hready
  cases calls with
  | nil =>
      rintro _ ⟨⟩
      exact hready rfl
  | cons first others => exact h.ready

omit [Board β] in
theorem frame_advance (h : Within device calls current) (high : Level) :
    current.frame.advance high
      = .partway (dataWord (calls.map Call.high ++ [high])) (calls.length + 1) := by
  have hlength : calls.length = (calls.map Call.high).length := (List.length_map _).symm
  rw [h.frame, hlength]
  exact Frame.advance_partway_dataWord _ _

end Within

namespace Within

variable {device current : Device} {calls : List Call} {now : Clock} {high : Level}
  {outcome : Outcome (Option Next) β}

omit [Board β] in
/-- **One callback of a frame** comes to what it should: it is a wait, or the next call of the
frame, or the last. -/
theorem callback (h : Within device calls current) (hway : Calmly current now high outcome) :
    (calls = [] ∧ high = true
        ∧ outcome.response = device.awaiting (current.meets now high)
        ∧ Within device [] outcome.device)
      ∨ (Ready (calls ++ [current.meets now high])
        ∧ outcome.response
          = device.inFrame (calls ++ [current.meets now high]) calls.length
              (current.meets now high)
        ∧ (calls.length + 1 < device.gain.frameLength
            ∧ Within device (calls ++ [current.meets now high]) outcome.device
          ∨ calls.length + 1 = device.gain.frameLength ∧ Within device [] outcome.device)) := by
  obtain ⟨hoid, hdout, hsck, hgain, hpolarity, hdelays, hslot⟩ := renewed_eq_iff.mp h.renewed
  have hlevels : (calls ++ [current.meets now high]).map Call.high
      = calls.map Call.high ++ [high] := List.map_append
  have hunfinished := h.unfinished
  cases hway with
  | waited rig hhigh hframe heffects =>
      rw [h.halfCycles] at hframe
      obtain rfl := List.eq_nil_of_length_eq_zero hframe
      subst hhigh
      have hstart : current.frame = .start := h.frame.trans (Frame.partway_zero _)
      refine Or.inl ⟨rfl, rfl, ?_, .of_start h.renewed hstart⟩
      rw [Outcome.response, heffects, awaiting, hdout, hdelays]
      exact congrArg (Response.mk _ · _) hstart
  | clocked rig hready hover heffects =>
      have hframe := h.frame_advance high
      rw [h.isOver_eq, decide_eq_false_iff_not, Nat.not_le] at hover
      refine Or.inr ⟨h.ready_concat hready, ?_, Or.inl ⟨hover, h.renewed, ?_,
        h.ready_concat hready, ?_⟩⟩
      · have htake : (calls ++ [current.meets now high]).take (calls.length + 1)
            = calls ++ [current.meets now high] :=
          List.take_of_length_le (by rw [List.length_append, List.length_singleton])
        rw [Outcome.response, heffects, inFrame, if_pos hover, htake, hlevels, hdout, hsck,
          hdelays, Frame.clockLevel, h.halfCycles]
        exact congrArg (Response.mk _ · _) hframe
      · rw [hlevels, List.length_append, List.length_singleton]
        exact hframe
      · rw [List.length_append, List.length_singleton]
        exact hover
  | delivered rig hready hover heffects =>
      have hframe := h.frame_advance high
      rw [h.isOver_eq, decide_eq_true_iff] at hover
      have hlast : calls.length + 1 = device.gain.frameLength := by omega
      have hdata : dataHalfCycles ≤ calls.length + 1 :=
        hlast ▸ Nat.le_of_lt device.gain.dataHalfCycles_lt_frameLength
      have hend : ¬calls.length + 1 < device.gain.frameLength := by omega
      have hstart := frame_finished current high now
      refine Or.inr ⟨h.ready_concat hready, ?_, Or.inr ⟨hlast, .of_start ?_ hstart⟩⟩
      · rw [Outcome.response, heffects, hstart, afterFrame_eq, sample_finished, slot_finished,
          hframe, Frame.value_partway _ hdata, inFrame, if_neg hend, sampleOf, hlevels, hoid,
          hdout, hsck, hpolarity, hdelays, hslot]
        rfl
      · exact (renewed_finished current high now).trans h.renewed

omit [Board β] in
/-- Neither a query that stops sampling nor a change of the lines takes part in a frame. -/
theorem of_same (h : Within device calls current) {next : Device}
    (hrenewed : next.renewed = current.renewed) (hframe : next.frame = current.frame) :
    Within device calls next where
  renewed := hrenewed.trans h.renewed
  frame := hframe.trans h.frame
  ready := h.ready
  unfinished := h.unfinished

/-- **From within a frame on**, what there is of the frame and what follows conform. -/
theorem conforms {rig : Rig β} {events : List (Event β)} (h : Within device calls current)
    (hsteady : ∀ event ∈ events, event.enables = false) (hcalm : CalmIn current rig events) :
    Conforms device (device.frameOf calls ++ current.exchanges rig events) := by
  induction events generalizing calls current rig with
  | nil =>
      rw [exchanges, List.append_nil]
      exact .unfinished calls h.ready h.unfinished
  | cons event events ih =>
      obtain ⟨hevent, hothers⟩ := List.forall_mem_cons.mp hsteady
      obtain ⟨hnow, hlater⟩ := List.forall_mem_cons.mp hcalm
      rw [exchanges]
      cases event with
      | query enable endstop now =>
          -- the query does not enable, so it has no effect on the frame
          obtain rfl : enable = false := hevent
          exact ih (h.of_same rfl rfl) hothers hlater
      | arrange change => exact ih (h.of_same rfl rfl) hothers hlater
      | callback now guarded =>
          have hway := calm_callback hnow
          rw [exchange?, Option.toList_some, List.singleton_append]
          rcases h.callback hway with
            ⟨rfl, hhigh, hresponse, hnext⟩ | ⟨hready, hresponse, hnext⟩
          · -- a wait
            have hrest := ih hnext hothers hlater
            rw [frameOf, List.mapIdx_nil, List.nil_append] at hrest ⊢
            rw [hresponse]
            exact .wait _ _ hhigh hrest
          · -- one more call of the frame
            have hone : ∀ rest, device.frameOf calls
                  ++ (current.meets now (Board.read rig.board current.dout).1,
                    (current.step rig (.callback now guarded)).response) :: rest
                = device.frameOf
                    (calls ++ [current.meets now (Board.read rig.board current.dout).1])
                  ++ rest := by
              intro rest
              rw [hresponse, frameOf_concat _ _ _ h.unfinished, List.append_assoc,
                List.singleton_append]
            refine (hone _).symm ▸ ?_
            rcases hnext with ⟨-, hnext⟩ | ⟨hlast, hnext⟩
            · exact ih hnext hothers hlater
            · have hrest := ih hnext hothers hlater
              rw [frameOf, List.mapIdx_nil, List.nil_append] at hrest
              refine .frame _ _ hready ?_ hrest
              rw [List.length_append, List.length_singleton, hlast]

end Within

/-! ## Stopping -/

/-- A device goes on sampling until it is told to stop. -/
theorem active_after {device : Device} {rig : Rig β} {events : List (Event β)}
    (hsteady : ∀ event ∈ events, event.enables = false) (hcalm : CalmIn device rig events) :
    (device.after rig events).1.active = (device.active && !events.any Event.disables) := by
  induction events generalizing device rig with
  | nil => simp [after]
  | cons event events ih =>
      obtain ⟨hevent, hothers⟩ := List.forall_mem_cons.mp hsteady
      obtain ⟨hnow, hlater⟩ := List.forall_mem_cons.mp hcalm
      have hrest := ih hothers hlater
      rw [after, hrest, List.any_cons]
      cases event with
      | query enable endstop now =>
          obtain rfl : enable = false := hevent
          show (false && _) = _
          simp [Event.disables]
      | arrange change => rfl
      | callback now guarded =>
          have hway := calm_callback hnow
          generalize device.step rig (.callback now guarded) = outcome at hway ⊢
          cases hway with
          | waited | clocked => rfl
          | delivered _ _ _ => rw [active_finished]; rfl

end Device

/-! ## The levels that matter -/

/-- The sample that was put into a slot, if that is the effect. -/
def Effect.woken? : Effect → Option Sample
  | wake _ sample => some sample
  | _ => none

namespace Frame

/-- The values that frames give one after another, with these levels of the data line. -/
def values (gain : Gain) (polarity : Polarity) : Frame → List Level → List Int32
  | _, [] => []
  | frame, high :: levels =>
      if frame.halfCycles = 0 ∧ high = true then values gain polarity frame levels
      else if (frame.advance high).isOver gain then
        (frame.advance high).value polarity :: values gain polarity .start levels
      else values gain polarity (frame.advance high) levels

/-- The place in its frame of the callback after one at `place`. -/
def nextPlace (gain : Gain) (place : Nat) (high : Level) : Nat :=
  if place = 0 ∧ high = true then 0
  else if gain.frameLength ≤ place + 1 then 0
  else place + 1

/-- The levels agree where they matter: at ready checks, and where they are data bits. The first
ones are those at `place`. -/
def SameData (gain : Gain) : Nat → List Level → List Level → Prop
  | _, [], [] => True
  | place, high :: levels, other :: others =>
      ((place = 0 ∨ place % 2 = 1 ∧ place < dataHalfCycles) → high = other)
        ∧ SameData gain (nextPlace gain place high) levels others
  | _, _, _ => False

theorem advance_congr (frame : Frame) {high other : Level}
    (h : frame.halfCycles % 2 = 1 ∧ frame.halfCycles < dataHalfCycles → high = other) :
    frame.advance high = frame.advance other := by
  by_cases hdata : frame.halfCycles % 2 = 1 ∧ frame.halfCycles < dataHalfCycles
  · rw [h hdata]
  · have hnone (level : Level) : frame.capture level = frame.bits := by
      rw [capture, if_neg]
      simp only [Bool.and_eq_true, beq_iff_eq, decide_eq_true_eq]
      exact fun hcapture => hdata ⟨hcapture.1.2, hcapture.2⟩
    rw [advance, advance, hnone, hnone]

/-- **Only ready checks and data bits matter** to the values. -/
theorem values_congr (gain : Gain) (polarity : Polarity) {frame : Frame}
    {levels others : List Level} (h : SameData gain frame.halfCycles levels others) :
    values gain polarity frame levels = values gain polarity frame others := by
  induction levels generalizing frame others with
  | nil =>
      cases others with
      | nil => rfl
      | cons => exact h.elim
  | cons high levels ih =>
      cases others with
      | nil => exact h.elim
      | cons other others =>
          obtain ⟨hsame, hrest⟩ := h
          have hadvance := frame.advance_congr fun hdata => hsame (Or.inr hdata)
          have hready : frame.halfCycles = 0 ∧ high = true
              ↔ frame.halfCycles = 0 ∧ other = true := by
            constructor <;> rintro ⟨hframe, rfl⟩
            · exact ⟨hframe, (hsame (Or.inl hframe)).symm⟩
            · exact ⟨hframe, hsame (Or.inl hframe)⟩
          rw [values, values, ← hadvance]
          rw [nextPlace] at hrest
          by_cases hwait : frame.halfCycles = 0 ∧ high = true
          · rw [if_pos hwait] at hrest
            rw [if_pos hwait, if_pos (hready.mp hwait)]
            refine ih ?_
            rw [hwait.1]
            exact hrest
          · rw [if_neg hwait] at hrest
            rw [if_neg hwait, if_neg (mt hready.mpr hwait), isOver, halfCycles_advance]
            by_cases hover : gain.frameLength ≤ frame.halfCycles + 1
            · rw [if_pos hover] at hrest
              have hlater : values gain polarity .start levels
                  = values gain polarity .start others := ih hrest
              rw [if_pos (decide_eq_true hover), if_pos (decide_eq_true hover), hlater]
            · rw [if_neg hover] at hrest
              have hnot : ¬decide (gain.frameLength ≤ frame.halfCycles + 1) = true := by
                simpa using hover
              have hplace : SameData gain (frame.advance high).halfCycles levels others := hrest
              rw [if_neg hnot, if_neg hnot]
              exact ih hplace

end Frame

namespace Device

variable {β : Type} [Board β]

/-- The levels that callbacks have found. -/
def levels (exchanges : List (Call × Response)) : List Level :=
  exchanges.map fun exchange => exchange.1.high

/-- The values that callbacks have handed over. -/
def handedOver (exchanges : List (Call × Response)) : List Int32 :=
  exchanges.flatMap fun exchange =>
    (exchange.2.effects.filterMap Effect.woken?).map Sample.value

omit [Board β] in
/-- **One callback** hands over what its level brings the frame to give. -/
theorem Calmly.values {device : Device} {now : Clock} {high : Level}
    {outcome : Outcome (Option Next) β} (hway : Calmly device now high outcome)
    (levels : List Level) :
    Frame.values device.gain device.polarity device.frame (high :: levels)
      = (outcome.rig.effects.filterMap Effect.woken?).map Sample.value
        ++ Frame.values outcome.device.gain outcome.device.polarity outcome.device.frame
            levels := by
  have hbegun (hready : device.frame.halfCycles = 0 → high = false) :
      ¬(device.frame.halfCycles = 0 ∧ high = true) := fun h =>
    Bool.false_ne_true ((hready h.1).symm.trans h.2)
  rw [Frame.values]
  cases hway with
  | waited rig hhigh hframe heffects =>
      rw [heffects, if_pos ⟨hframe, hhigh⟩]
      rfl
  | clocked rig hready hover heffects =>
      rw [heffects, if_neg (hbegun hready), if_neg (by rw [hover]; exact Bool.false_ne_true)]
      rfl
  | delivered rig hready hover heffects =>
      obtain ⟨-, -, -, hgain, hpolarity, -, -⟩ :=
        renewed_eq_iff.mp (renewed_finished device high now)
      have hvalue : (device.finished high now).sample.value
          = (device.frame.advance high).value device.polarity := by rw [sample_finished]
      rw [heffects, if_neg (hbegun hready), if_pos hover]
      show _ = (device.finished high now).sample.value :: _
      rw [hvalue, hgain, hpolarity, frame_finished]
      rfl

/-- A course hands over the values of its frames. -/
theorem handedOver_exchanges {device : Device} {rig : Rig β} {events : List (Event β)}
    (hsteady : ∀ event ∈ events, event.enables = false) (hcalm : CalmIn device rig events) :
    handedOver (device.exchanges rig events)
      = Frame.values device.gain device.polarity device.frame
          (levels (device.exchanges rig events)) := by
  induction events generalizing device rig with
  | nil => rfl
  | cons event events ih =>
      obtain ⟨hevent, hothers⟩ := List.forall_mem_cons.mp hsteady
      obtain ⟨hnow, hlater⟩ := List.forall_mem_cons.mp hcalm
      have hrest := ih hothers hlater
      rw [exchanges]
      cases event with
      | query enable endstop now =>
          obtain rfl : enable = false := hevent
          exact hrest
      | arrange change => exact hrest
      | callback now guarded =>
          have hvalues := (calm_callback hnow).values
            (levels ((device.step rig (.callback now guarded)).device.exchanges
              (device.step rig (.callback now guarded)).rig events))
          rw [← hrest] at hvalues
          exact hvalues.symm

/-! ## The statement -/

/-- What a device does from the time it is enabled, until it is enabled again: its callbacks
are waits and frames, it goes on from frame to frame until it is told to stop, and the values
that it hands over depend on no levels but those of the ready checks and the data bits. -/
theorem conforms_course (device : Device) (rig : Rig β) (endstop : Option UInt8) (now : Clock)
    (events : List (Event β))
    (henabled : (device.step rig (.query true endstop now)).result = .ok none)
    (hsteady : ∀ event ∈ events, event.enables = false)
    (hcalm : CalmIn (device.step rig (.query true endstop now)).device
      (device.step rig (.query true endstop now)).rig events) :
    let enabled := device.step rig (.query true endstop now)
    let exchanges := enabled.device.exchanges enabled.rig events
    Conforms device exchanges
      ∧ (enabled.device.after enabled.rig events).1.active = !events.any Event.disables
      ∧ handedOver exchanges
          = Frame.values device.gain device.polarity .start (levels exchanges)
      ∧ ∀ others, Frame.SameData device.gain 0 (levels exchanges) others →
          handedOver exchanges = Frame.values device.gain device.polarity .start others := by
  intro enabled exchanges
  have hstarted : enabled.device = device.started endstop now := started_of_step henabled
  have hvalues : handedOver exchanges
      = Frame.values device.gain device.polarity .start (levels exchanges) := by
    have h : handedOver exchanges
        = Frame.values enabled.device.gain enabled.device.polarity enabled.device.frame
            (levels exchanges) := handedOver_exchanges hsteady hcalm
    rw [hstarted] at h
    exact h
  refine ⟨?_, ?_, hvalues, fun others hsame => ?_⟩
  · have hwithin : Within device [] enabled.device := by
      rw [hstarted]
      exact .of_start rfl rfl
    exact hwithin.conforms hsteady hcalm
  · rw [active_after hsteady hcalm, show enabled.device.active = true by rw [hstarted]; rfl,
      Bool.true_and]
  · rw [hvalues]
    exact Frame.values_congr _ _ hsame

/-- An inverted device on lines 2 and 3. -/
def inverse : Device where
  oid := 7
  dout := 2
  sck := 3
  gain := .a128
  polarity := .inverted
  delays := ⟨900, 4, 20⟩
  slot := 0
  frame := .start
  latest := 0
  endstop := none
  active := false
  running := false
  waketime := 0

/-- A callback with the data line at `high`. -/
def Event.callAt (high : Level) (now : Clock) : List (Event Bench) :=
  [.arrange fun bench => bench.setLine 2 high, .callback now false]

/-- A wait, and a frame in which every fourth level is high. The device is told to stop in the
middle of the frame. -/
def oneFrame : List (Event Bench) :=
  Event.callAt true 9
    ++ (List.range 21).flatMap (fun i => Event.callAt (i % 4 == 3) 30)
    ++ [.query false (some 1) 31]
    ++ (List.range 29).flatMap (fun i => Event.callAt (i % 4 == 2) 32)

/-- The course has one wait and one frame, and ends when the frame does. -/
theorem conforms_course_oneFrame :
    let enabled := inverse.step (.start Bench.empty 1) (.query true none 5)
    let exchanges := enabled.device.exchanges enabled.rig oneFrame
    enabled.result = .ok none
      ∧ (∀ event ∈ oneFrame, event.enables = false)
      ∧ CalmIn enabled.device enabled.rig oneFrame
      ∧ Conforms inverse exchanges
      ∧ exchanges.length = 51
      ∧ (exchanges.getLast?.map fun exchange => exchange.2.result) = some (.ok (some .done))
      ∧ handedOver exchanges = [-5592405] := by
  intro enabled exchanges
  have henabled : enabled.result = .ok none := by decide +kernel
  have hsteady : ∀ event ∈ oneFrame, event.enables = false := by decide +kernel
  have hcalm : CalmIn enabled.device enabled.rig oneFrame := by
    unfold CalmIn
    decide +kernel
  obtain ⟨hconforms, -, hvalues, -⟩ :=
    conforms_course inverse (.start Bench.empty 1) none 5 oneFrame henabled hsteady hcalm
  refine ⟨henabled, hsteady, hcalm, hconforms, by decide +kernel, by decide +kernel, ?_⟩
  rw [hvalues]
  decide +kernel

end Device

end WeighScale
