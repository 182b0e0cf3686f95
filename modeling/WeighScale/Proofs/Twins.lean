import WeighScale.Proofs.Course

set_option autoImplicit false

/-! # The same operation on two rigs

What an operation of a device comes to depends on the rig through the answers of its calls only,
and there are few calls that it makes: on the two lines of the device, on its callbacks and on
its slot. So if those calls are answered alike on two rigs and keep some relation between the
rigs (`Keeps`), the whole operation is answered alike and keeps the relation.

The second operation may be that of a twin, a device that differs from the first in its slot and
in its latest sample. Neither of the two takes part in what a device does: the slot is only
where a sample is put, and the latest sample is replaced before it is handed over.

* `Keeps.callback`, `Keeps.query`, `Keeps.attach`: the operations of twins come to the same.
* `Rig.Since.callback`: a callback neither looks at the timers, the slots and the trace nor changes
  more of them than it does on any other rig with the same board.
-/

namespace WeighScale.Device

variable {β : Type}

/-- The device with another slot and another latest sample. -/
def twin (device : Device) (slot : Nat) (value : Int32) : Device :=
  { device with slot, latest := value }

/-- The twin of a device after an operation: the latest samples are the same if a frame has
ended, and as before if not. -/
def twinAfter (ended : Bool) (slot : Nat) (value : Int32) (device : Device) : Device :=
  device.twin slot (if ended then device.latest else value)

/-- Two operations have come to the same, except that the second device is `change` of the
first. -/
structure Outcome.Twins {α : Type} (change : Device → Device) (related : Rig β → Rig β → Prop)
    (one other : Outcome α β) : Prop where
  result : other.result = one.result
  device : other.device = change one.device
  rig : related one.rig other.rig

variable [Board β]

/-- The calls of the device on one rig and those of its twin on the other are answered alike and
keep the relation. The twin has this slot. -/
structure Keeps (device : Device) (slot : Nat) (related : Rig β → Rig β → Prop) : Prop where
  setupInput : ∀ {one other}, related one other → ∀ pull,
    (other.setupInput device.dout pull).1 = (one.setupInput device.dout pull).1
      ∧ related (one.setupInput device.dout pull).2 (other.setupInput device.dout pull).2
  setupOutput : ∀ {one other}, related one other → ∀ high,
    (other.setupOutput device.sck high).1 = (one.setupOutput device.sck high).1
      ∧ related (one.setupOutput device.sck high).2 (other.setupOutput device.sck high).2
  read : ∀ {one other}, related one other →
    (other.read device.dout).1 = (one.read device.dout).1
      ∧ related (one.read device.dout).2 (other.read device.dout).2
  drive : ∀ {one other}, related one other → ∀ high,
    (other.drive device.sck high).1 = (one.drive device.sck high).1
      ∧ related (one.drive device.sck high).2 (other.drive device.sck high).2
  cancel : ∀ {one other}, related one other →
    related (one.cancel device.oid) (other.cancel device.oid)
  schedule : ∀ {one other}, related one other → ∀ clock,
    related (one.schedule device.oid clock) (other.schedule device.oid clock)
  wake : ∀ {one other}, related one other → ∀ sample,
    related (one.wake device.slot sample) (other.wake slot sample)

variable {device : Device} {slot : Nat} {related : Rig β → Rig β → Prop} {one other : Rig β}

/-- The calls stay the same as long as the device keeps its lines, its oid and its slot. -/
theorem Keeps.of_renewed (h : Keeps device slot related) {next : Device}
    (hrenewed : next.renewed = device.renewed) : Keeps next slot related := by
  obtain ⟨hoid, hdout, hsck, -, -, -, hslot⟩ := renewed_eq_iff.mp hrenewed
  exact
    { setupInput := hdout ▸ h.setupInput
      setupOutput := hsck ▸ h.setupOutput
      read := hdout ▸ h.read
      drive := hsck ▸ h.drive
      cancel := hoid ▸ h.cancel
      schedule := hoid ▸ h.schedule
      wake := hslot ▸ h.wake }

theorem Keeps.driveThen {α : Type} (h : Keeps device slot related) (hrig : related one other)
    {change : Device → Device} (hsck : (change device).sck = device.sck) (high : Level)
    {next following : Rig β → Outcome α β}
    (hnext : ∀ {one other : Rig β}, related one other →
      Outcome.Twins change related (next one) (following other)) :
    Outcome.Twins change related (device.driveThen high one next)
      ((change device).driveThen high other following) := by
  obtain ⟨hsame, hafter⟩ := h.drive hrig high
  rw [← hsck] at hsame
  cases hdrive : (one.drive device.sck high).1 with
  | error fault =>
      rw [driveThen_error device next hdrive,
        driveThen_error (change device) following (hsame.trans (hsck ▸ hdrive)), hsck]
      exact ⟨rfl, rfl, hafter⟩
  | ok _ =>
      rw [driveThen_ok device next hdrive,
        driveThen_ok (change device) following (hsame.trans (hsck ▸ hdrive)), hsck]
      exact hnext hafter

/-! ## Callbacks -/

/-- Whether the frame ends, if this is the turn of a callback. -/
def Turn.ends : Turn → Bool
  | .complete _ => true
  | _ => false

omit [Board β] in
theorem ends_turn (device : Device) (high : Level) :
    (device.turn high).ends = (device.frame.advance high).isOver device.gain := by
  by_cases hwait : device.frame.halfCycles = 0 ∧ high = true
  · rw [turn, if_pos hwait, isOver_advance_of_start hwait.1]
    rfl
  · rw [turn, if_neg hwait]
    dsimp only
    split
    · next hover => exact hover.symm
    · next hover => exact (Bool.eq_false_iff.mpr hover).symm

omit [Board β] in
theorem settle_twin (device : Device) (slot : Nat) (value : Int32) (now : Clock) :
    (device.twin slot value).settle now = (device.settle now).twin slot value := by
  unfold settle
  rw [apply_ite (fun device : Device => device.twin slot value)]
  rfl

theorem Keeps.act (h : Keeps device slot related) (hrig : related one other) (value : Int32)
    (now : Clock) (turn : Turn) :
    Outcome.Twins (twinAfter turn.ends slot value) related (device.act now one turn)
      ((device.twin slot value).act now other turn) := by
  cases turn with
  | wait => exact ⟨rfl, rfl, hrig⟩
  | clock high frame =>
      have hkeeps : Keeps { device with frame } slot related := h.of_renewed rfl
      exact hkeeps.driveThen hrig rfl high fun hrig => ⟨rfl, rfl, hrig⟩
  | complete sample =>
      -- the twins have the same latest sample from here on
      have hkeeps : Keeps (device.completed sample) slot related := h.of_renewed rfl
      have hsettled : ((device.completed sample).settle now).renewed = device.renewed
          ∧ ((device.completed sample).settle now).latest = sample := by
        unfold settle
        split <;> exact ⟨rfl, rfl⟩
      rw [act_complete, act_complete]
      refine hkeeps.driveThen hrig rfl false fun hrig => ?_
      have htwin : ((device.twin slot value).completed sample).settle now
          = ((device.completed sample).settle now).twin slot sample :=
        (device.completed sample).settle_twin slot sample now
      rw [htwin]
      generalize (device.completed sample).settle now = settled at hsettled ⊢
      obtain ⟨hrenewed, rfl⟩ := hsettled
      exact ⟨rfl, rfl, (h.of_renewed hrenewed).wake hrig settled.sample⟩

/-- **A callback of a twin** comes to the same. -/
theorem Keeps.callback (h : Keeps device slot related) (hrig : related one other) (value : Int32)
    (now : Clock) (guarded : Bool) :
    Outcome.Twins (twinAfter (device.completes one (.callback now guarded)) slot value) related
      (device.callback now one) ((device.twin slot value).callback now other) := by
  obtain ⟨hsame, hafter⟩ := h.read hrig
  have hsame' : (other.read (device.twin slot value).dout).1 = (one.read device.dout).1 := hsame
  rw [Device.callback, Device.callback, completes, ← Prod.mk.eta (p := one.read device.dout),
    ← Prod.mk.eta (p := other.read (device.twin slot value).dout), hsame']
  cases (one.read device.dout).1 with
  | error fault => exact ⟨rfl, rfl, hafter⟩
  | ok high =>
      have hact := h.act hafter value now (device.turn high)
      rw [ends_turn] at hact
      exact hact

/-! ## Requests -/

/-- **A query for a twin** comes to the same. -/
theorem Keeps.query (h : Keeps device slot related) (hrig : related one other) (value : Int32)
    (enable : Bool) (endstop : Option UInt8) (now : Clock) :
    Outcome.Twins (twinAfter false slot value) related (device.query enable endstop now one)
      ((device.twin slot value).query enable endstop now other) := by
  cases enable with
  | false => exact ⟨rfl, rfl, hrig⟩
  | true =>
      show Outcome.Twins _ related (device.enable endstop now one)
        ((device.twin slot value).enable endstop now other)
      obtain ⟨hsame, hafter⟩ := h.drive (h.cancel hrig) false
      have hsame' : ((other.cancel (device.twin slot value).oid).drive
          (device.twin slot value).sck false).1
          = ((one.cancel device.oid).drive device.sck false).1 := hsame
      unfold enable
      dsimp only
      rw [← Prod.mk.eta (p := (one.cancel device.oid).drive device.sck false),
        ← Prod.mk.eta (p := (other.cancel (device.twin slot value).oid).drive
          (device.twin slot value).sck false), hsame']
      cases ((one.cancel device.oid).drive device.sck false).1 with
      | error fault => exact ⟨rfl, rfl, hafter⟩
      | ok _ => exact ⟨rfl, rfl, h.schedule hafter _⟩

/-- **Attaching a twin** comes to the same. -/
theorem Keeps.attach (h : Keeps device slot related) (hrig : related one other) (value : Int32) :
    ((device.twin slot value).attach other).1 = (device.attach one).1
      ∧ related (device.attach one).2 ((device.twin slot value).attach other).2 := by
  obtain ⟨hin, hrig⟩ := h.setupInput hrig .down
  have hin' : (other.setupInput (device.twin slot value).dout .down).1
      = (one.setupInput device.dout .down).1 := hin
  unfold Device.attach
  rw [← Prod.mk.eta (p := one.setupInput device.dout .down),
    ← Prod.mk.eta (p := other.setupInput (device.twin slot value).dout .down), hin']
  cases (one.setupInput device.dout .down).1 with
  | error fault => exact ⟨rfl, hrig⟩
  | ok _ =>
      obtain ⟨hout, hrig⟩ := h.setupOutput hrig true
      generalize (one.setupInput device.dout .down).2 = one at hout hrig ⊢
      have hother : (other.setupInput (device.twin slot value).dout .down).2
          = (other.setupInput device.dout .down).2 := rfl
      dsimp only
      rw [hother]
      generalize (other.setupInput device.dout .down).2 = other at hout hrig ⊢
      have hout' : (other.setupOutput (device.twin slot value).sck true).1
          = (one.setupOutput device.sck true).1 := hout
      rw [← Prod.mk.eta (p := one.setupOutput device.sck true),
        ← Prod.mk.eta (p := other.setupOutput (device.twin slot value).sck true), hout']
      cases (one.setupOutput device.sck true).1 with
      | error fault => exact ⟨rfl, hrig⟩
      | ok _ => exact h.drive hrig true

/-! ## Another slot only -/

omit [Board β] in
/-- The device with another slot. -/
def atSlot (device : Device) (slot : Nat) : Device := { device with slot }

/-- A callback of a device in another slot comes to the same. -/
theorem Keeps.callback_atSlot (h : Keeps device slot related) (hrig : related one other)
    (now : Clock) :
    Outcome.Twins (atSlot · slot) related (device.callback now one)
      ((device.atSlot slot).callback now other) := by
  obtain ⟨hresult, hdevice, hafter⟩ := h.callback hrig device.latest now true
  refine ⟨hresult, hdevice.trans ?_, hafter⟩
  cases hended : device.completes one (.callback now true) with
  | true => rfl
  | false => exact congrArg (twin _ slot) (latest_callback hended).symm

/-- A query for a device in another slot comes to the same. -/
theorem Keeps.query_atSlot (h : Keeps device slot related) (hrig : related one other)
    (enable : Bool) (endstop : Option UInt8) (now : Clock) :
    Outcome.Twins (atSlot · slot) related (device.query enable endstop now one)
      ((device.atSlot slot).query enable endstop now other) := by
  obtain ⟨hresult, hdevice, hafter⟩ := h.query hrig device.latest enable endstop now
  refine ⟨hresult, hdevice.trans ?_, hafter⟩
  exact congrArg (twin _ slot) (device.latest_query enable endstop now one).symm

/-! ## The same device -/

/-- A callback of the same device on another rig comes to the same. -/
theorem Keeps.callback_self (h : Keeps device device.slot related) (hrig : related one other)
    (now : Clock) :
    Outcome.Twins id related (device.callback now one) (device.callback now other) := by
  obtain ⟨hresult, hdevice, hafter⟩ := h.callback_atSlot hrig now
  refine ⟨hresult, hdevice.trans ?_, hafter⟩
  obtain ⟨-, -, -, -, -, -, hslot⟩ := renewed_eq_iff.mp (device.renewed_callback now one)
  rw [← hslot]
  rfl

/-- A query for the same device on another rig comes to the same. -/
theorem Keeps.query_self (h : Keeps device device.slot related) (hrig : related one other)
    (enable : Bool) (endstop : Option UInt8) (now : Clock) :
    Outcome.Twins id related (device.query enable endstop now one)
      (device.query enable endstop now other) := by
  obtain ⟨hresult, hdevice, hafter⟩ := h.query_atSlot hrig enable endstop now
  refine ⟨hresult, hdevice.trans ?_, hafter⟩
  obtain ⟨-, -, -, -, -, -, hslot⟩ :=
    renewed_eq_iff.mp (device.renewed_query enable endstop now one)
  rw [← hslot]
  rfl

end Device

/-! ## A trace begun anew -/

/-- The second rig has the board of the first and has recorded what the first has recorded since
`past`. -/
structure Rig.Since {β : Type} (past : List Effect) (one other : Rig β) : Prop where
  board : other.board = one.board
  trace : one.trace = other.trace ++ past

namespace Rig.Since

variable {β : Type} {past : List Effect} {one other : Rig β}

theorem forget (rig : Rig β) (hboard : one.board = rig.board) (htrace : one.trace = rig.trace) :
    Since rig.trace one rig.forget := ⟨hboard.symm, htrace⟩

variable [Board β]

theorem read (h : Since past one other) (pin : Pin) :
    (other.read pin).1 = (one.read pin).1 ∧ Since past (one.read pin).2 (other.read pin).2 := by
  rw [Rig.read, Rig.read, h.board]
  exact ⟨rfl, rfl, congrArg (_ :: ·) h.trace⟩

theorem drive (h : Since past one other) (pin : Pin) (high : Level) :
    (other.drive pin high).1 = (one.drive pin high).1
      ∧ Since past (one.drive pin high).2 (other.drive pin high).2 := by
  rw [Rig.drive, Rig.drive, h.board]
  exact ⟨rfl, rfl, congrArg (_ :: ·) h.trace⟩

theorem setupInput (h : Since past one other) (pin : Pin) (pull : Pull) :
    (other.setupInput pin pull).1 = (one.setupInput pin pull).1
      ∧ Since past (one.setupInput pin pull).2 (other.setupInput pin pull).2 := by
  rw [Rig.setupInput, Rig.setupInput, h.board]
  exact ⟨rfl, rfl, congrArg (_ :: ·) h.trace⟩

theorem setupOutput (h : Since past one other) (pin : Pin) (high : Level) :
    (other.setupOutput pin high).1 = (one.setupOutput pin high).1
      ∧ Since past (one.setupOutput pin high).2 (other.setupOutput pin high).2 := by
  rw [Rig.setupOutput, Rig.setupOutput, h.board]
  exact ⟨rfl, rfl, congrArg (_ :: ·) h.trace⟩

theorem keeps (device : Device) : device.Keeps device.slot (Since (β := β) past) where
  setupInput h := h.setupInput device.dout
  setupOutput h := h.setupOutput device.sck
  read h := h.read device.dout
  drive h := h.drive device.sck
  cancel h := ⟨h.board, congrArg (_ :: ·) h.trace⟩
  schedule h _ := ⟨h.board, congrArg (_ :: ·) h.trace⟩
  wake h _ := ⟨h.board, congrArg (_ :: ·) h.trace⟩

/-- **A callback does on a rig what it does on one with the trace begun anew.** -/
theorem callback (h : Since past one other) (device : Device) (now : Clock) :
    Device.Outcome.Twins id (Since past) (device.callback now one)
      (device.callback now other) := (keeps device).callback_self h now

end Rig.Since

end WeighScale
