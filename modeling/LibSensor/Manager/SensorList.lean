import LibSensor.Manager.Step

/-!
# `mSensorList` describes `mSensors`

`getSensorList` hands out `mSensorList`, an array of raw pointers built by `assertStateLocked`,
together with `mSensors.size()`; `getDefaultSensor` walks the array. Both are right only if,
whenever the manager holds a server, the array has one entry per sensor and entry `i` is
`mSensors.array() + i`. That is `SensorListInv`; it holds in every reachable state
(`sensorListInv_of_reachable`), whatever the flag, the sensor lists, the pings and the answers
of `getService`, and across the deaths of the service. The main result is
`reachable_sensorList_describes_mSensors`.
-/

namespace LibSensor

namespace SensorManager

/-- Whenever the manager holds a server, `mSensorList` is `mSensors` seen through pointers into
its current storage. -/
def SensorListInv (s : SensorManager) : Prop :=
  s.mSensorServer.isSome →
    s.mSensorList = some (sensorArray .sensors s.mSensorsStorage s.mSensors.length)

variable {pingFlag : Bool} {env : Env} {s s₁ s' : SensorManager}

/-! ### The invariant along a step -/

lemma sensorListInv_initialised (server : Nat) : SensorListInv (s.initialised env server) := by
  simp [SensorListInv]

lemma SensorListInv.assertStateLocked {e : Int} (hi : SensorListInv s)
    (h : assertStateLocked pingFlag env s = some (e, s₁)) : SensorListInv s₁ := by
  obtain ⟨-, rfl | ⟨server, rfl⟩⟩ := assertStateLocked_cases h
  exacts [hi, sensorListInv_initialised server]

/-- On return from `assertStateLocked`, `mSensorList` is the array of `mSensors`. -/
lemma mSensorList_of_assertStateLocked {e : Int} (hi : SensorListInv s)
    (h : assertStateLocked pingFlag env s = some (e, s₁)) :
    s₁.mSensorList = some (sensorArray .sensors s₁.mSensorsStorage s₁.mSensors.length) :=
  hi.assertStateLocked h (isSome_of_assertStateLocked h)

lemma SensorListInv.effect {ev : Option ChannelEvent} (hi : SensorListInv s₁)
    (he : Effect env s₁ ev s') :
    SensorListInv s' := by
  cases he <;> exact hi

lemma SensorListInv.step {c : Call} {r : Reply} (hi : SensorListInv s)
    (h : step pingFlag env c s = some (r, s')) : SensorListInv s' := by
  rcases step_cases h with ⟨-, rfl⟩ | ⟨handle, -, rfl⟩ | ⟨s₁, ha, he⟩
  · simp [SensorListInv]
  · rw [getSensorNameByHandle_snd]
    exact hi
  · exact (hi.assertStateLocked ha).effect he

theorem sensorListInv_of_reachable (h : Reachable pingFlag s) : SensorListInv s := by
  induction h with
  | new hnew =>
    obtain ⟨⟨e, s₀⟩, ha, rfl⟩ := Option.map_eq_some'.mp hnew
    exact SensorListInv.assertStateLocked (by simp [SensorListInv, initial]) ha
  | step _ hstep ih => exact ih.step hstep

/-! ### Reading through the array -/

@[simp] lemma deref_sensors (i : Nat) :
    s.deref ⟨.sensors, s.mSensorsStorage, i⟩ = s.mSensors[i]? := by
  simp [deref]

/-- An array of pointers whose entry `i` reads `l[i]` reads the whole of `l`. -/
lemma map_deref_sensorArray_of {v : SensorVector} {storage : Nat} {l : List Sensor}
    (hd : ∀ i, s.deref ⟨v, storage, i⟩ = l[i]?) :
    (sensorArray v storage l.length).map s.deref = l.map some := by
  apply List.ext_getElem?
  intro i
  rw [List.getElem?_map, List.getElem?_map, getElem?_sensorArray]
  by_cases hi : i < l.length
  · simp [hi, hd]
  · rw [List.getElem?_eq_none (Nat.le_of_not_lt hi)]
    simp [hi]

/-- Entry `i` of the array points at `mSensors[i]`. -/
lemma map_deref_sensorArray :
    (sensorArray .sensors s.mSensorsStorage s.mSensors.length).map s.deref =
      s.mSensors.map some :=
  map_deref_sensorArray_of deref_sensors

/-- `getSensorList` returns `mSensors.size()` and the array of `mSensors`. -/
lemma getSensorList_eq (hi : SensorListInv s) :
    getSensorList pingFlag env s = (assertStateLocked pingFlag env s).map fun p =>
      (.ok (p.2.mSensors.length, some (sensorArray .sensors p.2.mSensorsStorage
        p.2.mSensors.length)), p.2) := by
  cases ha : assertStateLocked pingFlag env s with
  | none => simp [getSensorList, ha]
  | some p =>
    obtain ⟨e, s₁⟩ := p
    obtain ⟨rfl, -⟩ := assertStateLocked_cases ha
    simp [getSensorList, ha, noError, mSensorList_of_assertStateLocked hi ha]

/-- The loop of `getDefaultSensor`, over indices of `mSensors`, reads defined entries and stops
at the first index whose sensor matches. -/
lemma getDefaultSensorLoop_eq (type : Int) (wakeUpSensor : Bool)
    (hl : s.mSensorList = some (sensorArray .sensors s.mSensorsStorage s.mSensors.length)) :
    ∀ is : List Nat, (∀ i ∈ is, i < s.mSensors.length) →
      s.getDefaultSensorLoop type wakeUpSensor is =
        some ((is.find? fun i => s.mSensors[i]?.any fun x =>
          decide (x.type = type ∧ x.isWakeUpSensor = wakeUpSensor)).map
            (SensorPtr.mk .sensors s.mSensorsStorage))
  | [], _ => rfl
  | i :: is, his => by
    have hi : i < s.mSensors.length := his i (List.mem_cons_self i is)
    have ih := getDefaultSensorLoop_eq type wakeUpSensor hl is
      fun j hj => his j (List.mem_cons_of_mem i hj)
    simp only [getDefaultSensorLoop, hl, getElem?_sensorArray, hi, if_true, deref_sensors,
      List.getElem?_eq_getElem hi, Option.bind_eq_bind, Option.some_bind, List.find?_cons,
      Option.any_some]
    by_cases h : s.mSensors[i].type = type ∧ s.mSensors[i].isWakeUpSensor = wakeUpSensor
    · simp [h]
    · simp only [h, if_false, ih, decide_False]
      rfl

/-- Searching the indices of a list is searching the list. -/
lemma find?_range_eq_findIdx? {α : Type} (l : List α) (p : α → Bool) :
    (List.range l.length).find? (fun i => l[i]?.any p) = l.findIdx? p := by
  induction l with
  | nil => rfl
  | cons a l ih =>
    rw [List.length_cons, List.range_succ_eq_map, List.find?_cons, List.findIdx?_cons,
      List.find?_map, List.findIdx?_succ, ← ih]
    cases h : p a <;> simp [h, Function.comp_def]

/-- The sensors `getDefaultSensor(type)` looks for: of the type, and a wake-up sensor exactly
when the type is one of `wakeUpSensorTypes`. -/
def defaultSensorFor (type : Int) (x : Sensor) : Bool :=
  decide (x.type = type ∧ x.isWakeUpSensor = decide (type ∈ wakeUpSensorTypes))

lemma defaultSensorFor_eq (type : Int) : defaultSensorFor type =
    fun x => decide (x.type = type ∧ x.isWakeUpSensor = decide (type ∈ wakeUpSensorTypes)) :=
  rfl

/-- `getDefaultSensor` returns a pointer to the first sensor of `mSensors` it looks for. -/
lemma getDefaultSensor_eq {type : Int} (hi : SensorListInv s) :
    getDefaultSensor pingFlag env type s = (assertStateLocked pingFlag env s).map fun p =>
      ((p.2.mSensors.findIdx? (defaultSensorFor type)).map
        (SensorPtr.mk .sensors p.2.mSensorsStorage), p.2) := by
  cases ha : assertStateLocked pingFlag env s with
  | none => simp [getDefaultSensor, ha]
  | some p =>
    obtain ⟨e, s₁⟩ := p
    obtain ⟨rfl, -⟩ := assertStateLocked_cases ha
    have hloop := getDefaultSensorLoop_eq type (decide (type ∈ wakeUpSensorTypes))
      (mSensorList_of_assertStateLocked hi ha)
      (List.range s₁.mSensors.length) fun i => List.mem_range.mp
    simp [getDefaultSensor, ha, hloop, find?_range_eq_findIdx?, defaultSensorFor_eq]

/-- The element at the first index that satisfies `p` is the first element that does. -/
lemma findIdx?_bind_getElem? {α : Type} (p : α → Bool) (l : List α) :
    (l.findIdx? p).bind (l[·]?) = l.find? p := by
  induction l with
  | nil => rfl
  | cons a l ih =>
    rw [List.findIdx?_cons, List.findIdx?_succ, List.find?_cons, ← ih]
    cases h : p a <;> simp [h, Option.bind_map, Function.comp_def]

/-- The pointer that `getDefaultSensor` returns points at the first matching sensor. -/
lemma bind_deref_findIdx? (p : Sensor → Bool) :
    ((s.mSensors.findIdx? p).map (SensorPtr.mk .sensors s.mSensorsStorage)).bind s.deref =
      s.mSensors.find? p := by
  rw [← findIdx?_bind_getElem?, Option.bind_map]
  simp [Function.comp_def]

/-! ### Every reachable state -/

/-- In every reachable state, whatever the flag and the world: a manager holding a server has
`mSensorList[i] = mSensors.array() + i` for every sensor, `getSensorList` returns that array with
`mSensors.size()`, and `getDefaultSensor(type)` reads only defined entries and returns the first
sensor of `mSensors` it looks for, or null. -/
theorem reachable_sensorList_describes_mSensors (h : Reachable pingFlag s) :
    (s.mSensorServer.isSome →
      s.mSensorList = some (sensorArray .sensors s.mSensorsStorage s.mSensors.length) ∧
      (sensorArray .sensors s.mSensorsStorage s.mSensors.length).map s.deref =
        s.mSensors.map some) ∧
    (∀ env, getSensorList pingFlag env s = (assertStateLocked pingFlag env s).map fun p =>
      (.ok (p.2.mSensors.length, some (sensorArray .sensors p.2.mSensorsStorage
        p.2.mSensors.length)), p.2)) ∧
    (∀ env type, getDefaultSensor pingFlag env type s =
      (assertStateLocked pingFlag env s).map fun p =>
        ((p.2.mSensors.findIdx? (defaultSensorFor type)).map
          (SensorPtr.mk .sensors p.2.mSensorsStorage), p.2)) ∧
    (∀ env type r s', getDefaultSensor pingFlag env type s = some (r, s') →
      r.bind s'.deref = s'.mSensors.find? (defaultSensorFor type)) := by
  have hi := sensorListInv_of_reachable h
  refine ⟨fun hs => ⟨hi hs, map_deref_sensorArray⟩, fun env => getSensorList_eq hi,
    fun env type => getDefaultSensor_eq hi, fun env type r s' hd => ?_⟩
  obtain ⟨p, -, hp⟩ := Option.map_eq_some'.mp ((getDefaultSensor_eq hi).symm.trans hd)
  obtain ⟨rfl, rfl⟩ := Prod.mk.inj hp
  exact bind_deref_findIdx? _

theorem sensorList_describes_mSensors_restarted :
    Reachable false accelerometerRestarted ∧
    accelerometerRestarted.mSensors = [exampleAccelerometer] ∧
    ((accelerometerRestarted.mSensorServer.isSome →
      accelerometerRestarted.mSensorList = some (sensorArray .sensors
        accelerometerRestarted.mSensorsStorage accelerometerRestarted.mSensors.length) ∧
      (sensorArray .sensors accelerometerRestarted.mSensorsStorage
        accelerometerRestarted.mSensors.length).map accelerometerRestarted.deref =
          accelerometerRestarted.mSensors.map some) ∧
    (∀ env, getSensorList false env accelerometerRestarted =
      (assertStateLocked false env accelerometerRestarted).map fun p =>
        (.ok (p.2.mSensors.length, some (sensorArray .sensors p.2.mSensorsStorage
          p.2.mSensors.length)), p.2)) ∧
    (∀ env type, getDefaultSensor false env type accelerometerRestarted =
      (assertStateLocked false env accelerometerRestarted).map fun p =>
        ((p.2.mSensors.findIdx? (defaultSensorFor type)).map
          (SensorPtr.mk .sensors p.2.mSensorsStorage), p.2)) ∧
    (∀ env type r s', getDefaultSensor false env type accelerometerRestarted = some (r, s') →
      r.bind s'.deref = s'.mSensors.find? (defaultSensorFor type))) :=
  ⟨reachable_accelerometerRestarted, rfl,
    reachable_sensorList_describes_mSensors reachable_accelerometerRestarted⟩

end SensorManager

end LibSensor
