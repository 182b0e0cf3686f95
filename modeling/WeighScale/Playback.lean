import WeighScale.Clock
import WeighScale.Frame

set_option autoImplicit false

/-! # Playing a frame

A frame can be played to a device without a chip: before each callback the data line is given
the level that belongs to the half-cycle, and the callbacks follow one another at the clocks
that are asked for. Playing ends early at a callback that asks for no other one or that fails.

What is played to is any state with a way to set the line and a way to make a callback.
-/

namespace WeighScale.Playback

/-- The levels of a frame: the bits of a pattern, the most significant of 24 first, in the odd
half-cycles that carry data. In the others the line is high if there is noise, but for the
first, in which a high level would mean that there is no frame. -/
def level (pattern : UInt32) (noise : Bool) (index : Nat) : Level :=
  if index % 2 = 1 ∧ index < dataHalfCycles then pattern.toNat.testBit (23 - index / 2)
  else noise && index != 0

/-- Plays `count` half-cycles from `index` on, the first at `now`. Returns what each callback
came to and the state after it. -/
def run {σ ε : Type} (setLine : Level → σ → σ) (callback : Clock → σ → Except ε Next × σ)
    (level : Nat → Level) : (count index : Nat) → Clock → σ → List (Except ε Next × σ)
  | 0, _, _, _ => []
  | count + 1, index, now, state =>
      let played := callback now (setLine (level index) state)
      match played.1 with
      | .ok (.again clock) =>
          played :: run setLine callback level count (index + 1) clock played.2
      | _ => [played]

end WeighScale.Playback
