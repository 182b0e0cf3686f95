import WeighScale.Proofs.Rack
import WeighScale.Wire.Reading

set_option autoImplicit false

/-! # The readings of a rack

What the host is to see of a rack: readings of its circuits, those of different circuits mixed
in any way, and those of each circuit its samples in order, from the first one on (`Reported`).
A list of readings grows at its end, by the next sample of one circuit at a time.
-/

namespace WeighScale

variable {rack : Rack} {circuit : Circuit}

/-! ## Readings by device -/

/-- The readings of one device, in order. -/
def readingsOf (oid : UInt8) (readings : List Wire.Reading) : List Wire.Reading :=
  readings.filter (·.oid == oid)

theorem readingsOf_append (oid : UInt8) (readings more : List Wire.Reading) :
    readingsOf oid (readings ++ more) = readingsOf oid readings ++ readingsOf oid more :=
  List.filter_append ..

theorem readingsOf_toList_ne {oid : UInt8} {more : Option Wire.Reading}
    (h : ∀ reading ∈ more, reading.oid ≠ oid) : readingsOf oid more.toList = [] := by
  cases more with
  | none => rfl
  | some reading =>
      have hne := h reading rfl
      simp [readingsOf, hne]

theorem readingsOf_toList_self {oid : UInt8} {more : Option Wire.Reading}
    (h : ∀ reading ∈ more, reading.oid = oid) : readingsOf oid more.toList = more.toList := by
  cases more with
  | none => rfl
  | some reading =>
      have heq := h reading rfl
      simp [readingsOf, heq]

/-- The readings sent so far are those of the circuits, and those of each circuit are its
samples in order. -/
structure Reported (rack : Rack) (readings : List Wire.Reading) : Prop where
  known : ∀ reading ∈ readings, ∃ circuit ∈ rack.circuits, circuit.oid = reading.oid
  values : ∀ circuit ∈ rack.circuits, ∀ i reading,
    (readingsOf circuit.oid readings)[i]? = some reading → reading.value.toInt = circuit.sample i

/-- The reading is the next of its circuit, whose chip is `lost` rising edges further on than the
readings so far account for. -/
def IsNext (circuit : Circuit) (lost : Nat) (readings : List Wire.Reading)
    (reading : Wire.Reading) : Prop :=
  reading.oid = circuit.oid
    ∧ reading.value.toInt
      = circuit.sampleAt ((readingsOf circuit.oid readings).length * circuit.plan.period + lost)

theorem Reported.append {readings : List Wire.Reading} (h : Reported rack readings)
    (hmem : circuit ∈ rack.circuits) {more : Option Wire.Reading}
    (hmore : ∀ reading ∈ more, IsNext circuit 0 readings reading) :
    Reported rack (readings ++ more.toList) := by
  refine ⟨fun reading hreading => ?_, fun other hother i reading hget => ?_⟩
  · rcases List.mem_append.mp hreading with hold | hnew
    · exact h.known reading hold
    · exact ⟨circuit, hmem, (hmore reading (Option.mem_toList.mp hnew)).1.symm⟩
  · rw [readingsOf_append] at hget
    by_cases heq : other = circuit
    · subst heq
      rw [readingsOf_toList_self fun reading hreading => (hmore reading hreading).1] at hget
      rcases Nat.lt_or_ge i (readingsOf other.oid readings).length with hlt | hge
      · rw [List.getElem?_append_left hlt] at hget
        exact h.values other hother i reading hget
      · -- the one reading that was added comes after all the others
        rw [List.getElem?_append_right hge] at hget
        cases more with
        | none => simp at hget
        | some next =>
            have hi : i = (readingsOf other.oid readings).length := by
              have hlt := (List.getElem?_eq_some_iff.mp hget).1
              rw [Option.toList_some, List.length_singleton] at hlt
              omega
            subst hi
            rw [Nat.sub_self] at hget
            obtain rfl : next = reading := Option.some.inj hget
            rw [(hmore next rfl).2, Nat.add_zero, Circuit.sampleAt_mul]
    · -- the readings of another circuit are as they were
      have hne (reading : Wire.Reading) (hreading : reading ∈ more) : reading.oid ≠ other.oid :=
        fun hoid => heq (Rack.eq_of_oid_eq hother hmem
          (hoid.symm.trans (hmore reading hreading).1))
      rw [readingsOf_toList_ne hne, List.append_nil] at hget
      exact h.values other hother i reading hget

end WeighScale
