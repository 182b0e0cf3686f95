import WeighScale.Rig
import Mathlib.Tactic

set_option autoImplicit false

/-! # Boards in parts

Lines that have nothing to do with one another. The pins of a board are sorted into parts such
that what a call comes to depends on the part of its pin alone, and no other part changes by it
(`Parts`). If every pin is a part of its own, the level of a pin and its failures depend on that
pin only; if the two lines of a converter make up a part, the data line may also answer to the
clock line.

Boards that agree on some parts go on agreeing on them: the calls on these parts are answered
alike (`Agree.ask`), and the others do not matter (`state_ask_of_not`).
-/

namespace WeighScale

/-- A call of the board. -/
inductive PinCall
  | setupInput (pin : Pin) (pull : Pull)
  | setupOutput (pin : Pin) (high : Level)
  | read (pin : Pin)
  | drive (pin : Pin) (high : Level)
  deriving DecidableEq, Repr

namespace PinCall

/-- The pin that the call is on. -/
def pin : PinCall → Pin
  | setupInput pin _ => pin
  | setupOutput pin _ => pin
  | read pin => pin
  | drive pin _ => pin

/-- The level that the call has read, and what else comes of it. Calls that read nothing are
taken to have read a low level. -/
def ask {β : Type} [Board β] (board : β) : PinCall → Level × Answer β
  | setupInput pin pull => (false, Board.setupInput board pin pull)
  | setupOutput pin high => (false, Board.setupOutput board pin high)
  | read pin => Board.read board pin
  | drive pin high => (false, Board.drive board pin high)

end PinCall

/-- A way to see a board as parts, each with a state of its own. -/
structure Parts (β κ σ : Type) [Board β] where
  /-- The part of a pin. -/
  part : Pin → κ
  /-- The state of a part. -/
  state : β → κ → σ
  /-- What a call comes to depends on its part. -/
  answer_eq : ∀ {one other : β} (call : PinCall),
    state one (part call.pin) = state other (part call.pin) →
      (call.ask one).1 = (call.ask other).1 ∧ (call.ask one).2.fault = (call.ask other).2.fault
  /-- So does the state in which it leaves its part. -/
  state_eq : ∀ {one other : β} (call : PinCall),
    state one (part call.pin) = state other (part call.pin) →
      state (call.ask one).2.board (part call.pin) = state (call.ask other).2.board (part call.pin)
  /-- The other parts do not change. -/
  state_ne : ∀ (board : β) (call : PinCall) (k : κ), k ≠ part call.pin →
    state (call.ask board).2.board k = state board k

namespace Parts

variable {β κ σ : Type} [Board β] (parts : Parts β κ σ) {mine : κ → Prop}

/-- Two boards are the same in some of their parts. -/
def Agree (mine : κ → Prop) (one other : β) : Prop :=
  ∀ k, mine k → parts.state other k = parts.state one k

variable {parts} {one other : β}

/-- **A call on one of these parts** comes to the same. -/
theorem Agree.ask (h : parts.Agree mine one other) (call : PinCall)
    (hpin : mine (parts.part call.pin)) :
    (call.ask other).1 = (call.ask one).1
      ∧ (call.ask other).2.fault = (call.ask one).2.fault
      ∧ parts.Agree mine (call.ask one).2.board (call.ask other).2.board := by
  obtain ⟨hlevel, hfault⟩ := parts.answer_eq call (h _ hpin)
  refine ⟨hlevel, hfault, fun k hk => ?_⟩
  by_cases hpart : k = parts.part call.pin
  · rw [hpart]
    exact parts.state_eq call (h _ hpin)
  · rw [parts.state_ne _ call k hpart, parts.state_ne _ call k hpart]
    exact h k hk

/-- **A call on another part** changes none of these. -/
theorem state_ask_of_not (board : β) (call : PinCall) (hpin : ¬mine (parts.part call.pin)) {k : κ}
    (hk : mine k) : parts.state (call.ask board).2.board k = parts.state board k :=
  parts.state_ne board call k fun h => hpin (h ▸ hk)

end Parts

/-- A board for every part of the pins. -/
structure Split (β κ : Type) (part : Pin → κ) where
  boards : κ → β

namespace Split

variable {β κ : Type} {part : Pin → κ} [DecidableEq κ]

/-- The answer of the board that a pin is on, with that board put back. -/
def answer (split : Split β κ part) (pin : Pin) (answer : Answer β) : Answer (Split β κ part) :=
  ⟨answer.fault, ⟨Function.update split.boards (part pin) answer.board⟩⟩

variable [Board β]

instance : Board (Split β κ part) where
  setupInput split pin pull :=
    split.answer pin (Board.setupInput (split.boards (part pin)) pin pull)
  setupOutput split pin high :=
    split.answer pin (Board.setupOutput (split.boards (part pin)) pin high)
  read split pin :=
    let seen := Board.read (split.boards (part pin)) pin
    (seen.1, split.answer pin seen.2)
  drive split pin high := split.answer pin (Board.drive (split.boards (part pin)) pin high)

theorem ask_eq (split : Split β κ part) (call : PinCall) :
    call.ask split
      = ((call.ask (split.boards (part call.pin))).1,
          split.answer call.pin (call.ask (split.boards (part call.pin))).2) := by
  cases call <;> rfl

/-- The boards are the states of the parts. -/
def parts : Parts (Split β κ part) κ β where
  part := part
  state split := split.boards
  answer_eq {one other} call h := by
    rw [ask_eq, ask_eq, h]
    exact ⟨rfl, rfl⟩
  state_eq {one other} call h := by
    rw [ask_eq, ask_eq, h]
    exact (Function.update_self _ _ one.boards).trans (Function.update_self _ _ other.boards).symm
  state_ne split call k hk := by
    rw [ask_eq]
    exact Function.update_of_ne hk ..

end Split

end WeighScale
