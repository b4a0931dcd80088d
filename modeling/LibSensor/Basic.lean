import Mathlib.Data.List.AList

/-!
# Status codes, sensors and containers

The values that `SensorManager.cpp` exchanges with the rest of the platform: the `status_t`
codes of `utils/Errors.h`, the constants of `hardware/sensors.h` that the manager tests, a
`Sensor` as far as the manager reads it, raw `Sensor const*` pointers into the storage of a
`Vector<Sensor>`, `std::map` as an association list, and the wrap-around of a C++ `int`.
-/

namespace LibSensor

/-! ### `status_t` -/

/-- `NO_ERROR`. -/
def noError : Int := 0

/-- `NAME_NOT_FOUND`, that is `-ENOENT`. -/
def nameNotFound : Int := -2

/-- `NO_MEMORY`, that is `-ENOMEM`. -/
def noMemory : Int := -12

/-- `NO_INIT`, that is `-ENODEV`. -/
def noInit : Int := -19

/-- `BAD_VALUE`, that is `-EINVAL`. -/
def badValue : Int := -22

/-- `DEAD_OBJECT`, that is `-EPIPE`: the answer of `pingBinder` for a dead process. -/
def deadObject : Int := -32

/-- `TIMED_OUT`, that is `-ETIMEDOUT`. -/
def timedOut : Int := -110

/-! ### Constants of `hardware/sensors.h` -/

/-- The sensor types for which `getDefaultSensor` looks for a wake-up sensor:
`SENSOR_TYPE_PROXIMITY`, `SIGNIFICANT_MOTION`, `TILT_DETECTOR`, `WAKE_GESTURE`,
`GLANCE_GESTURE`, `PICK_UP_GESTURE`, `WRIST_TILT_GESTURE`, `LOW_LATENCY_OFFBODY_DETECT`
and `HINGE_ANGLE`. -/
def wakeUpSensorTypes : List Int := [8, 17, 22, 23, 24, 25, 26, 34, 36]

/-- `SENSOR_DIRECT_MEM_TYPE_ASHMEM`. -/
def sensorDirectMemTypeAshmem : Int := 1

/-- `SENSOR_DIRECT_MEM_TYPE_GRALLOC`. -/
def sensorDirectMemTypeGralloc : Int := 2

/-! ### Sensors and raw pointers to them -/

/-- A sensor as `SensorManager` reads it, through `getHandle()`, `getType()`, `getName()`,
`getStringType()` and `isWakeUpSensor()`. -/
structure Sensor where
  handle : Int
  type : Int
  name : String
  stringType : String
  isWakeUpSensor : Bool
deriving DecidableEq, Repr

/-- The two `Vector<Sensor>` members that raw sensor pointers point into. -/
inductive SensorVector
  | sensors
  | dynamicSensors
deriving DecidableEq, Repr

/-- A `Sensor const*` of the form `v.array() + offset`. Every assignment to a vector gives it
new storage, so a pointer also records the storage it was taken from: once the vector has
moved on, the pointer dangles. -/
structure SensorPtr where
  vector : SensorVector
  storage : Nat
  offset : Nat
deriving DecidableEq, Repr

/-- The array that the loop `list[i] = v.array() + i` for `i < n` fills. -/
def sensorArray (v : SensorVector) (storage n : Nat) : List SensorPtr :=
  (List.range n).map (SensorPtr.mk v storage)

@[simp] lemma length_sensorArray (v : SensorVector) (storage n : Nat) :
    (sensorArray v storage n).length = n := by
  simp [sensorArray]

@[simp] lemma getElem?_sensorArray (v : SensorVector) (storage n i : Nat) :
    (sensorArray v storage n)[i]? = if i < n then some ⟨v, storage, i⟩ else none := by
  by_cases h : i < n <;> simp [sensorArray, h, Nat.le_of_not_lt]

/-! ### `std::map` -/

/-- `std::map<K, V>` as an association list with distinct keys. Only lookups, insertions and
erasures are modelled: no modelled function iterates over the key order. -/
abbrev StdMap (K V : Type) := AList fun _ : K => V

namespace StdMap

variable {K V : Type} [DecidableEq K]

/-- `m.insert({k, v})`, and `m.emplace(k, v)`: add the entry unless `k` is already a key, in
which case the map keeps its old value. -/
def insert (m : StdMap K V) (k : K) (v : V) : StdMap K V :=
  if k ∈ m then m else AList.insert k v m

lemma lookup_insert_of_mem {m : StdMap K V} {k : K} (v : V) (h : k ∈ m) :
    (m.insert k v).lookup k = m.lookup k := by
  simp [insert, h]

/-- Inserting a present key leaves the map as it is. -/
lemma insert_of_mem {m : StdMap K V} {k : K} (v : V) (h : k ∈ m) : m.insert k v = m :=
  if_pos h

lemma lookup_insert_of_not_mem {m : StdMap K V} {k : K} (v : V) (h : k ∉ m) :
    (m.insert k v).lookup k = some v := by
  simp [insert, h]

@[simp] lemma lookup_insert_ne {m : StdMap K V} {k k' : K} (v : V) (h : k' ≠ k) :
    (m.insert k v).lookup k' = m.lookup k' := by
  unfold insert
  split <;> simp [AList.lookup_insert_ne h]

/-- After an insertion the key is present, with the old value if there was one. -/
lemma lookup_insert (m : StdMap K V) (k : K) (v : V) :
    (m.insert k v).lookup k = (m.lookup k).or (some v) := by
  by_cases h : k ∈ m
  · obtain ⟨w, hw⟩ := Option.isSome_iff_exists.mp (AList.lookup_isSome.mpr h)
    simp [lookup_insert_of_mem v h, hw]
  · simp [lookup_insert_of_not_mem v h, AList.lookup_eq_none.mpr h]

lemma mem_insert {m : StdMap K V} {k k' : K} (v : V) : k' ∈ m.insert k v ↔ k' = k ∨ k' ∈ m := by
  unfold insert
  split
  · constructor
    · exact .inr
    · rintro (rfl | h) <;> assumption
  · exact AList.mem_insert m

/-- Every value of an inserted map is an old value or the inserted one. -/
lemma eq_of_lookup_insert {m : StdMap K V} {k k' : K} {v w : V}
    (h : (m.insert k v).lookup k' = some w) : m.lookup k' = some w ∨ w = v := by
  by_cases hk : k' = k
  · subst hk
    rw [lookup_insert] at h
    cases hm : m.lookup k' <;> simp_all
  · exact .inl (by rwa [lookup_insert_ne v hk] at h)

/-- An insertion never changes the value of a key that is already present. -/
lemma lookup_insert_of_lookup {m : StdMap K V} {k k' : K} (v : V) {w : V}
    (h : m.lookup k' = some w) : (m.insert k v).lookup k' = some w := by
  by_cases hk : k' = k
  · subst hk
    rw [lookup_insert, h]; rfl
  · rwa [lookup_insert_ne v hk]

/-- A value of an inserted map is an old value, or the inserted one under the inserted key. -/
lemma lookup_insert_eq_some {m : StdMap K V} {k k' : K} {v w : V}
    (h : (m.insert k v).lookup k' = some w) : m.lookup k' = some w ∨ (k' = k ∧ w = v) := by
  by_cases hk : k' = k
  · subst hk
    rw [lookup_insert] at h
    cases hm : m.lookup k' <;> simp_all
  · exact .inl (by rwa [lookup_insert_ne v hk] at h)

/-- A value of an erased map is an old value under another key. -/
lemma lookup_erase_eq_some {m : StdMap K V} {k k' : K} {w : V}
    (h : (m.erase k).lookup k' = some w) : k' ≠ k ∧ m.lookup k' = some w := by
  by_cases hk : k' = k
  · subst hk
    simp [AList.lookup_erase] at h
  · exact ⟨hk, by rwa [AList.lookup_erase_ne hk] at h⟩

end StdMap

/-! ### C++ `int` -/

/-- `INT_MAX`: incrementing an `int` that holds it overflows, which is undefined behaviour. -/
def intMax : Int := 2147483647

end LibSensor
