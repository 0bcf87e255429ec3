import VirtualThing.Properties.DataItem
import Mathlib.Algebra.Group.Nat.Basic

namespace VirtualThing

-- The compatibility table of the spec (§4.3) between a bit size and a value type.
def bitSizeTable : List (Int × Int) :=
  [(1, KNOT_VALUE_TYPE_BOOL), (8, KNOT_VALUE_TYPE_BOOL), (8, KNOT_VALUE_TYPE_INT), (8, KNOT_VALUE_TYPE_UINT),
   (16, KNOT_VALUE_TYPE_INT), (16, KNOT_VALUE_TYPE_UINT), (32, KNOT_VALUE_TYPE_INT), (32, KNOT_VALUE_TYPE_UINT),
   (32, KNOT_VALUE_TYPE_FLOAT), (64, KNOT_VALUE_TYPE_INT64), (64, KNOT_VALUE_TYPE_UINT64),
   (64, KNOT_VALUE_TYPE_FLOAT)]

theorem two_pow_and_eq_zero_iff (n m : Nat) : 2 ^ n &&& m = 0 ↔ m.testBit n = false := by
  constructor
  · intro h
    simpa [Nat.testBit_and, Nat.testBit_two_pow_self] using congrArg (Nat.testBit · n) h
  · intro h
    apply Nat.eq_of_testBit_eq
    intro i
    by_cases hi : n = i <;> simp_all [Nat.testBit_and, Nat.testBit_two_pow]

theorem validBitSize_eq_zero_iff_testBit (b vt : Int) :
    validBitSize b vt = 0 ↔ ∃ m, validValueTypeMask b = some m ∧ m.testBit vt.toNat = true := by
  unfold validBitSize
  cases validValueTypeMask b <;> simp [Nat.one_shiftLeft, two_pow_and_eq_zero_iff, EINVAL]

theorem validBitSize_eq_zero_iff (b vt : Int) : validBitSize b vt = 0 ↔ (b, vt) ∈ bitSizeTable := by
  rw [validBitSize_eq_zero_iff_testBit]
  have : b = 1 ∨ b = 8 ∨ b = 16 ∨ b = 32 ∨ b = 64 ∨ (b ≠ 1 ∧ b ≠ 8 ∧ b ≠ 16 ∧ b ≠ 32 ∧ b ≠ 64) := by omega
  rcases this with rfl | rfl | rfl | rfl | rfl | ⟨h₁, h₈, h₁₆, h₃₂, h₆₄⟩ <;>
  simp only [validValueTypeMask, Int.reduceEq, ↓reduceIte, Option.some.injEq, exists_eq_left', Nat.one_shiftLeft,
    Nat.testBit_or, Nat.testBit_two_pow, Bool.or_eq_true, decide_eq_true_eq, *] <;>
  simp [bitSizeTable, KNOT_VALUE_TYPE_BOOL, KNOT_VALUE_TYPE_INT, KNOT_VALUE_TYPE_UINT, KNOT_VALUE_TYPE_FLOAT,
    KNOT_VALUE_TYPE_INT64, KNOT_VALUE_TYPE_UINT64, *] <;>
  omega

theorem validBitSize_eq_zero_of_nonneg {b vt : Int} (h : ¬validBitSize b vt < 0) : validBitSize b vt = 0 := by
  have : validBitSize b vt = 0 ∨ validBitSize b vt = -EINVAL := by
    unfold validBitSize
    split
    · exact .inr rfl
    · split <;> simp
  rcases this with h' | h'
  · exact h'
  · simp [h', EINVAL] at h

variable {P : Platform} {s : Store} {g : String} {sch : KnotSchema}

theorem setSchema_eq_some_iff :
    setSchema P s g = some sch ↔
      s.readKeyString g SCHEMA_SENSOR_NAME = some sch.name ∧ sch.name ≠ "" ∧
      strlen sch.name < P.KNOT_PROTOCOL_DATA_NAME_LEN ∧ s.readKeyInt g SCHEMA_VALUE_TYPE = some sch.valueType ∧
      s.readKeyInt g SCHEMA_UNIT = some sch.unit ∧ s.readKeyInt g SCHEMA_TYPE_ID = some sch.typeId ∧
      P.knotSchemaIsValid sch.typeId sch.valueType sch.unit := by
  rcases sch with ⟨vt, unit, tid, name⟩
  simp only [setSchema, Option.bind_eq_bind, Option.bind_eq_some]
  constructor
  · rintro ⟨n, hn, h⟩
    split_ifs at h with h₁
    simp only [Option.bind_eq_some] at h
    obtain ⟨v, hv, u, hu, t, ht, h⟩ := h
    split_ifs at h with h₃
    cases h
    obtain ⟨h₁, h₂⟩ := not_or.mp h₁
    exact ⟨hn, h₁, Nat.lt_of_not_le h₂, hv, hu, ht, h₃⟩
  · rintro ⟨hn, hne, hlen, hv, hu, ht, hs⟩
    refine ⟨name, hn, ?_⟩
    rw [if_neg (not_or.mpr ⟨hne, by omega⟩)]
    simp [hv, hu, ht, hs]

theorem setSchema_valid (h : setSchema P s g = some sch) : P.knotSchemaIsValid sch.typeId sch.valueType sch.unit :=
  (setSchema_eq_some_iff.mp h).2.2.2.2.2.2

theorem setEvent_valid {e : KnotEvent} (h : setEvent P s g sch = some e) :
    P.knotEventIsValid e.eventFlags sch.valueType e.timeSec e.lowerLimit e.upperLimit := by
  simp only [setEvent] at h
  split at h
  · cases h; assumption
  · cases h

theorem setDataProperties_bitSize {u : DataPropsLocals} {d : DataProps}
    (h : setDataProperties P u s g sch = some d) : (d.valueTypeSize, sch.valueType) ∈ bitSizeTable := by
  simp only [setDataProperties, Option.bind_eq_bind, Option.bind_eq_some, Option.ite_none_left_eq_some,
    Option.some.injEq] at h
  obtain ⟨-, _, -, _, -, _, -, _, -, -, -, -, hb, rfl⟩ := h
  exact (validBitSize_eq_zero_iff _ _).mp (validBitSize_eq_zero_of_nonneg hb)

-- The keys `set_data_properties` reads.
def dataPropKeys : List String :=
  [DATA_NAME_SPACE_INDEX, DATA_IND_TYPE, DATA_IDENTIFIER, DATA_IP_TAG_NAME, DATA_IP_PATH, DATA_IP_ELEMENT_SIZE,
   DATA_REG_ADDRESS, DATA_VALUE_TYPE_SIZE]

section Congr

variable {P : Platform} {s s' : Store} {g : String} {sch sch' : KnotSchema}

theorem setSchema_congr (h : ∀ k ∈ schemaKeys, s'.get g k = s.get g k) : setSchema P s' g = setSchema P s g := by
  simp only [setSchema, Store.readKeyInt, Store.readKeyString, h SCHEMA_SENSOR_NAME (by decide),
    h SCHEMA_VALUE_TYPE (by decide), h SCHEMA_UNIT (by decide), h SCHEMA_TYPE_ID (by decide)]

theorem setEvent_congr (h : ∀ k ∈ eventKeys, s'.get g k = s.get g k) (hv : sch'.valueType = sch.valueType) :
    setEvent P s' g sch' = setEvent P s g sch := by
  simp only [setEvent, setEvent.eventAux, getLowerLimit, getUpperLimit, getLimit, Store.readKeyInt, Store.readKeyFloat,
    Store.readKeyBool, Store.readKeyInt64, Store.readKeyUint, Store.readKeyUint64, hv,
    h EVENT_LOWER_THRESHOLD (by decide), h EVENT_UPPER_THRESHOLD (by decide), h EVENT_TIME_SEC (by decide),
    h EVENT_CHANGE (by decide)]

theorem setDataProperties_congr {u : DataPropsLocals} (h : ∀ k ∈ dataPropKeys, s'.get g k = s.get g k)
    (hv : sch'.valueType = sch.valueType) : setDataProperties P u s' g sch' = setDataProperties P u s g sch := by
  simp only [setDataProperties, Store.readKeyInt, Store.readKeyString, hv, h DATA_NAME_SPACE_INDEX (by decide),
    h DATA_IND_TYPE (by decide), h DATA_IDENTIFIER (by decide), h DATA_IP_TAG_NAME (by decide),
    h DATA_IP_PATH (by decide), h DATA_IP_ELEMENT_SIZE (by decide), h DATA_REG_ADDRESS (by decide),
    h DATA_VALUE_TYPE_SIZE (by decide)]

end Congr

end VirtualThing
