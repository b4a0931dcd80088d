import LibSensor.Manager.SensorList

/-!
# `mDynamicSensorList` describes `mDynamicSensors`

`getDynamicSensorList(Sensor const* const** list)` refetches `mDynamicSensors` and, for a
non-empty list, builds a new array of raw pointers into it. In every reachable state a non-null
`mDynamicSensorList` is that array (`reachable_dynamicSensorList_describes`). The array a call
hands out reads its sensors until the next death notification or `getDynamicSensorList`, and
never after (`dynamicSensorList_lifetime`). After a death the manager has no dynamic sensors
until it refetches them (`dynamicSensors_after_death`).
-/

namespace LibSensor

namespace SensorManager

/-- A non-null `mDynamicSensorList` is `mDynamicSensors` seen through pointers into its current
storage. -/
def DynamicListInv (s : SensorManager) : Prop :=
  ∀ list, s.mDynamicSensorList = some list →
    list = sensorArray .dynamicSensors s.mDynamicSensorsStorage s.mDynamicSensors.length

variable {pingFlag : Bool} {env : Env} {s s₁ s' : SensorManager}

/-! ### The invariant along a step -/

lemma DynamicListInv.assertStateLocked {e : Int} (hi : DynamicListInv s)
    (h : assertStateLocked pingFlag env s = some (e, s₁)) : DynamicListInv s₁ := by
  obtain ⟨-, rfl | ⟨server, rfl⟩⟩ := assertStateLocked_cases h
  exacts [hi, hi]

lemma DynamicListInv.effect {ev : Option ChannelEvent} (hi : DynamicListInv s₁)
    (he : Effect env s₁ ev s') : DynamicListInv s' := by
  cases he with
  | refreshDynamic list hlist =>
    rintro l rfl
    exact Option.some.inj (hlist.resolve_left (Option.some_ne_none l))
  | _ => exact hi

lemma DynamicListInv.step {c : Call} {r : Reply} (hi : DynamicListInv s)
    (h : step pingFlag env c s = some (r, s')) : DynamicListInv s' := by
  rcases step_cases h with ⟨-, rfl⟩ | ⟨handle, -, rfl⟩ | ⟨s₁, ha, he⟩
  · rintro l ⟨⟩
  · rw [getSensorNameByHandle_snd]
    exact hi
  · exact (hi.assertStateLocked ha).effect he

lemma dynamicListInv_of_reachable (h : Reachable pingFlag s) : DynamicListInv s := by
  induction h with
  | new hnew =>
    obtain ⟨⟨e, s₀⟩, ha, rfl⟩ := Option.map_eq_some'.mp hnew
    exact DynamicListInv.assertStateLocked (fun l hl => by simp [initial] at hl) ha
  | step _ hstep ih => exact ih.step hstep

/-! ### One call -/

@[simp] lemma deref_dynamicSensors (i : Nat) :
    s.deref ⟨.dynamicSensors, s.mDynamicSensorsStorage, i⟩ = s.mDynamicSensors[i]? := by
  simp [deref]

/-- What one `getDynamicSensorList` returns, after the `NO_ERROR` of `assertStateLocked`: the
count of the refetched sensors and a null list if there are none; the count and the new array;
or `NO_MEMORY` when `malloc` fails, with no array. -/
lemma getDynamicSensorList_cases {r : Except Int (Int × Option (List SensorPtr))}
    (h : getDynamicSensorList pingFlag env s = some (r, s')) :
    ∃ s₁, assertStateLocked pingFlag env s = some (noError, s₁) ∧
      s'.mDynamicSensors = env.getDynamicSensorList s₁.mOpPackageName ∧
      s'.mDynamicSensorsStorage = s₁.mDynamicSensorsStorage + 1 ∧
      ((r = .ok (s'.mDynamicSensors.length, none) ∧ s'.mDynamicSensors = [] ∧
          s'.mDynamicSensorList = none) ∨
        (r = .ok (s'.mDynamicSensors.length, s'.mDynamicSensorList) ∧
          s'.mDynamicSensorList = some (sensorArray .dynamicSensors s'.mDynamicSensorsStorage
            s'.mDynamicSensors.length)) ∨
        (r = .error noMemory ∧ s'.mDynamicSensors ≠ [] ∧ s'.mDynamicSensorList = none)) := by
  obtain ⟨s₁, ha, hf⟩ := bind_assertStateLocked h
  refine ⟨s₁, ha, ?_⟩
  simp [noError] at hf
  split_ifs at hf with hpos hmalloc <;> obtain ⟨rfl, rfl⟩ := hf
  · exact ⟨rfl, rfl, .inr (.inl ⟨rfl, rfl⟩)⟩
  · exact ⟨rfl, rfl, .inr (.inr ⟨rfl, List.ne_nil_of_length_pos hpos, rfl⟩)⟩
  · exact ⟨rfl, rfl, .inl ⟨rfl, List.eq_nil_of_length_eq_zero (Nat.eq_zero_of_not_pos hpos), rfl⟩⟩

/-! ### Every reachable state -/

/-- In every reachable state a non-null `mDynamicSensorList` reads `mDynamicSensors` entry by
entry. A `getDynamicSensorList` refetches the package's dynamic sensors and returns their count
with a null list if there are none, or with an array that reads them all; or `NO_MEMORY`,
leaving them without an array. -/
theorem reachable_dynamicSensorList_describes (h : Reachable pingFlag s) :
    (∀ list, s.mDynamicSensorList = some list → list.map s.deref = s.mDynamicSensors.map some) ∧
    ∀ env r s', getDynamicSensorList pingFlag env s = some (r, s') →
      s'.mDynamicSensors = env.getDynamicSensorList s.mOpPackageName ∧
      ((r = .ok (s'.mDynamicSensors.length, none) ∧ s'.mDynamicSensors = []) ∨
        (∃ list, r = .ok (s'.mDynamicSensors.length, some list) ∧
          s'.mDynamicSensorList = some list ∧ list.map s'.deref = s'.mDynamicSensors.map some) ∨
        (r = .error noMemory ∧ s'.mDynamicSensors ≠ [] ∧ s'.mDynamicSensorList = none)) := by
  refine ⟨fun list hl => ?_, fun env r s' hg => ?_⟩
  · rw [dynamicListInv_of_reachable h list hl]
    exact map_deref_sensorArray_of deref_dynamicSensors
  · obtain ⟨s₁, ha, hd, -, hr⟩ := getDynamicSensorList_cases hg
    have hpkg : s₁.mOpPackageName = s.mOpPackageName := by
      obtain ⟨-, rfl | ⟨server, rfl⟩⟩ := assertStateLocked_cases ha <;> rfl
    refine ⟨hpkg ▸ hd, ?_⟩
    rcases hr with ⟨hr, hnil, -⟩ | ⟨hr, hl⟩ | hr
    · exact .inl ⟨hr, hnil⟩
    · rw [hl] at hr
      exact .inr (.inl ⟨_, hr, hl, map_deref_sensorArray_of deref_dynamicSensors⟩)
    · exact .inr (.inr hr)

/-- A healthy world whose service lists `dynamicSensors` as the dynamic sensors of every
package. -/
def Env.withDynamicSensors (dynamicSensors : List Sensor) : Env :=
  { Env.healthy 1 [] with getDynamicSensorList := fun _ => dynamicSensors }

/-- A head tracker, connected at run time. -/
def exampleHeadTracker : Sensor := ⟨100, 37, "Head Tracker", "android.sensor.head_tracker", false⟩

/-- `newExampleManager` once `getDynamicSensorList` has handed out an array for the head
tracker. -/
def headTrackerManager : SensorManager :=
  { newExampleManager with
    mDynamicSensors := [exampleHeadTracker]
    mDynamicSensorsStorage := 1
    mDynamicSensorList := some (sensorArray .dynamicSensors 1 1) }

lemma reachable_headTrackerManager : Reachable false headTrackerManager :=
  @Reachable.step false (Env.withDynamicSensors [exampleHeadTracker]) .getDynamicSensorList
    (.sensorList (.ok (1, some (sensorArray .dynamicSensors 1 1)))) _ _
    reachable_newExampleManager rfl

theorem dynamicSensorList_describes_headTracker :
    Reachable false headTrackerManager ∧
    ((∀ list, headTrackerManager.mDynamicSensorList = some list →
        list.map headTrackerManager.deref = headTrackerManager.mDynamicSensors.map some) ∧
      ∀ env r s', getDynamicSensorList false env headTrackerManager = some (r, s') →
        s'.mDynamicSensors = env.getDynamicSensorList headTrackerManager.mOpPackageName ∧
        ((r = .ok (s'.mDynamicSensors.length, none) ∧ s'.mDynamicSensors = []) ∨
          (∃ list, r = .ok (s'.mDynamicSensors.length, some list) ∧
            s'.mDynamicSensorList = some list ∧ list.map s'.deref = s'.mDynamicSensors.map some) ∨
          (r = .error noMemory ∧ s'.mDynamicSensors ≠ [] ∧ s'.mDynamicSensorList = none))) :=
  ⟨reachable_headTrackerManager, reachable_dynamicSensorList_describes reachable_headTrackerManager⟩

/-! ### How long a handed-out array reads its sensors -/

/-- Whether a step moves `mDynamicSensors` to new storage: the death notification clears it,
and `getDynamicSensorList` refetches it, whether or not the service's list has changed. -/
def reallocatesDynamicSensors : Call → Bool
  | .sensorManagerDied | .getDynamicSensorList => true
  | _ => false

lemma dynamicFields_of_assertStateLocked {e : Int}
    (h : assertStateLocked pingFlag env s = some (e, s₁)) :
    s₁.mDynamicSensors = s.mDynamicSensors ∧
      s₁.mDynamicSensorsStorage = s.mDynamicSensorsStorage ∧
      s₁.mDynamicSensorList = s.mDynamicSensorList := by
  obtain ⟨-, rfl | ⟨_, rfl⟩⟩ := assertStateLocked_cases h <;> exact ⟨rfl, rfl, rfl⟩

/-- A step that does not reallocate `mDynamicSensors` keeps it, its storage and
`mDynamicSensorList`; one that does moves it to new storage. -/
lemma dynamicFields_step {c : Call} {r : Reply} (h : step pingFlag env c s = some (r, s')) :
    if reallocatesDynamicSensors c then s'.mDynamicSensorsStorage = s.mDynamicSensorsStorage + 1
    else s'.mDynamicSensors = s.mDynamicSensors ∧
      s'.mDynamicSensorsStorage = s.mDynamicSensorsStorage ∧
      s'.mDynamicSensorList = s.mDynamicSensorList := by
  cases c <;> simp only [reallocatesDynamicSensors, if_true, Bool.false_eq_true, if_false]
  case sensorManagerDied =>
    obtain rfl : s' = s.sensorManagerDied := (congrArg Prod.snd (Option.some.inj h)).symm
    rfl
  case getSensorNameByHandle handle =>
    obtain rfl : s' = (s.getSensorNameByHandle handle).2 :=
      (congrArg Prod.snd (Option.some.inj h)).symm
    rw [getSensorNameByHandle_snd]
    exact ⟨rfl, rfl, rfl⟩
  case getDynamicSensorList =>
    obtain ⟨⟨r', s''⟩, hop, hs⟩ := Option.map_eq_some'.mp h
    cases hs
    obtain ⟨s₁, ha, -, hst, -⟩ := getDynamicSensorList_cases hop
    exact hst.trans (congrArg (· + 1) (dynamicFields_of_assertStateLocked ha).2.1)
  case destroyDirectChannel handle =>
    obtain ⟨s'', hop, hs⟩ := Option.map_eq_some'.mp h
    cases hs
    obtain ⟨s₁, ha, hf⟩ := bind_assertStateLocked hop
    obtain ⟨hd, hst, hl⟩ := dynamicFields_of_assertStateLocked ha
    rw [← hd, ← hst, ← hl]
    simp [destroyDirectChannel] at hf
    subst hf
    exact ⟨rfl, rfl, rfl⟩
  all_goals
    obtain ⟨⟨r', s''⟩, hop, hs⟩ := Option.map_eq_some'.mp h
    cases hs
    obtain ⟨s₁, ha, hf⟩ := bind_assertStateLocked hop
    obtain ⟨hd, hst, hl⟩ := dynamicFields_of_assertStateLocked ha
    rw [← hd, ← hst, ← hl]
    simp [getSensorList, getDefaultDeviceSensorList, getDynamicSensorListCopy,
      getRuntimeSensorList, sensorVectorFromServer, createEventQueue, isDataInjectionEnabled,
      isReplayDataInjectionEnabled, isHalBypassReplayDataInjectionEnabled, serverFlag,
      setOperationParameter, createDirectChannel, configureDirectChannel, getDefaultSensor,
      noError, Option.bind_eq_some] at hf
    aesop

/-- Over a run, the storage of `mDynamicSensors` never moves back; a run without a reallocating
step keeps the sensors and their storage, and a run with one leaves the storage ahead. -/
lemma dynamicFields_run {tr : List (Call × Env × Reply)} (hrun : Run pingFlag s tr s') :
    s.mDynamicSensorsStorage ≤ s'.mDynamicSensorsStorage ∧
    ((∀ e ∈ tr, reallocatesDynamicSensors e.1 = false) →
      s'.mDynamicSensors = s.mDynamicSensors ∧
        s'.mDynamicSensorsStorage = s.mDynamicSensorsStorage) ∧
    ((∃ e ∈ tr, reallocatesDynamicSensors e.1 = true) →
      s.mDynamicSensorsStorage < s'.mDynamicSensorsStorage) := by
  induction hrun with
  | nil => exact ⟨le_rfl, fun _ => ⟨rfl, rfl⟩, fun ⟨_, he, _⟩ => absurd he (List.not_mem_nil _)⟩
  | cons _ hstep ih =>
    obtain ⟨hle, hkeep, hmove⟩ := ih
    have hf := dynamicFields_step hstep
    split at hf
    case isTrue hc =>
      refine ⟨by omega, fun hall => ?_, fun _ => by omega⟩
      exact absurd (hall _ (List.mem_cons_self _ _)) (by simp [hc])
    case isFalse hc =>
      refine ⟨hf.2.1 ▸ hle, fun hall => ?_, fun ⟨e, he, hre⟩ => ?_⟩
      · obtain ⟨hd, hst⟩ := hkeep fun e he => hall e (List.mem_cons_of_mem _ he)
        exact ⟨hf.1.trans hd, hf.2.1.trans hst⟩
      · rcases List.mem_cons.mp he with rfl | he
        · exact absurd hre hc
        · exact hf.2.1 ▸ hmove ⟨e, he, hre⟩

/-- The array that a `getDynamicSensorList` hands out reads the sensors it refetched over every
run that follows, whatever the calls and the answers of the world, as long as the run has
neither the death notification nor another `getDynamicSensorList`; once it has one, every entry
dangles, and stays dangling to the end of the run. -/
theorem dynamicSensorList_lifetime {n : Int} {list : List SensorPtr}
    {tr : List (Call × Env × Reply)} {s₂ : SensorManager}
    (hg : getDynamicSensorList pingFlag env s = some (.ok (n, some list), s'))
    (hrun : Run pingFlag s' tr s₂) :
    ((∀ e ∈ tr, reallocatesDynamicSensors e.1 = false) →
      list.map s₂.deref = s'.mDynamicSensors.map some) ∧
    ((∃ e ∈ tr, reallocatesDynamicSensors e.1 = true) → ∀ p ∈ list, s₂.deref p = none) := by
  obtain ⟨s₁, -, -, -, hr⟩ := getDynamicSensorList_cases hg
  obtain rfl : list = sensorArray .dynamicSensors s'.mDynamicSensorsStorage
      s'.mDynamicSensors.length := by
    rcases hr with ⟨⟨⟩, -⟩ | ⟨hr, hl⟩ | ⟨⟨⟩, -⟩
    rw [hl] at hr
    cases hr
    rfl
  obtain ⟨-, hkeep, hmove⟩ := dynamicFields_run hrun
  refine ⟨fun hall => ?_, fun hex p hp => ?_⟩
  · obtain ⟨hd, hst⟩ := hkeep hall
    rw [← hd, ← hst]
    exact map_deref_sensorArray_of deref_dynamicSensors
  · obtain ⟨i, -, rfl⟩ := List.mem_map.mp hp
    simp [deref, (hmove hex).ne]

/-- A second `getDynamicSensorList`, which finds the same head tracker. -/
def refetchTrace : List (Call × Env × Reply) :=
  [(.getDynamicSensorList, Env.withDynamicSensors [exampleHeadTracker],
    .sensorList (.ok (1, some (sensorArray .dynamicSensors 2 1))))]

def refetchedManager : SensorManager :=
  { headTrackerManager with
    mDynamicSensorsStorage := 2
    mDynamicSensorList := some (sensorArray .dynamicSensors 2 1) }

theorem dynamicSensorList_lifetime_refetch :
    getDynamicSensorList false (Env.withDynamicSensors [exampleHeadTracker]) newExampleManager =
      some (.ok (1, some (sensorArray .dynamicSensors 1 1)), headTrackerManager) ∧
    Run false headTrackerManager refetchTrace refetchedManager ∧
    ((∀ e ∈ refetchTrace, reallocatesDynamicSensors e.1 = false) →
      (sensorArray .dynamicSensors 1 1).map refetchedManager.deref =
        headTrackerManager.mDynamicSensors.map some) ∧
    ((∃ e ∈ refetchTrace, reallocatesDynamicSensors e.1 = true) →
      ∀ p ∈ sensorArray .dynamicSensors 1 1, refetchedManager.deref p = none) :=
  have hg : getDynamicSensorList false (Env.withDynamicSensors [exampleHeadTracker])
      newExampleManager =
      some (.ok (1, some (sensorArray .dynamicSensors 1 1)), headTrackerManager) := rfl
  have hrun : Run false headTrackerManager refetchTrace refetchedManager := .cons (.nil _) rfl
  ⟨hg, hrun, dynamicSensorList_lifetime hg hrun⟩

/-! ### After the death of the service -/

/-- A step other than `getDynamicSensorList` leaves a manager without dynamic sensors and
without an array. -/
lemma noDynamic_step {c : Call} {r : Reply}
    (hs : s.mDynamicSensors = [] ∧ s.mDynamicSensorList = none) (hc : c ≠ .getDynamicSensorList)
    (h : step pingFlag env c s = some (r, s')) :
    s'.mDynamicSensors = [] ∧ s'.mDynamicSensorList = none := by
  by_cases hd : c = .sensorManagerDied
  · subst hd
    obtain rfl : s' = s.sensorManagerDied := (congrArg Prod.snd (Option.some.inj h)).symm
    exact ⟨rfl, rfl⟩
  · have hre : reallocatesDynamicSensors c = false := by
      cases c <;> first | rfl | exact absurd rfl hd | exact absurd rfl hc
    have hf := dynamicFields_step h
    rw [hre, if_neg Bool.false_ne_true] at hf
    exact ⟨hf.1.trans hs.1, hf.2.2.trans hs.2⟩

/-- Re-initialisation does not refetch the dynamic sensors that a death cleared: over every run
after the death notification without `getDynamicSensorList`, `mDynamicSensors` is empty and
`mDynamicSensorList` null, and `getSensorNameByHandle` names no dynamic sensor it had not
cached. -/
theorem dynamicSensors_after_death {tr : List (Call × Env × Reply)}
    (hrun : Run pingFlag s.sensorManagerDied tr s')
    (htr : ∀ e ∈ tr, e.1 ≠ .getDynamicSensorList) :
    s'.mDynamicSensors = [] ∧ s'.mDynamicSensorList = none ∧
    ∀ handle, (s'.getSensorNameByHandle handle).1 =
      (s'.mSensorHandleToName.lookup handle).or (findSensorNameInList handle s'.mSensors) := by
  have hs : s'.mDynamicSensors = [] ∧ s'.mDynamicSensorList = none := by
    induction hrun with
    | nil => exact ⟨rfl, rfl⟩
    | cons _ hstep ih =>
      exact noDynamic_step (ih fun e he => htr e (List.mem_cons_of_mem _ he))
        (htr _ (List.mem_cons_self _ _)) hstep
  refine ⟨hs.1, hs.2, fun handle => ?_⟩
  unfold getSensorNameByHandle
  split
  · rename_i name hname
    rw [hname]
    rfl
  · rename_i hnone
    have hnil : findSensorNameInList handle s'.mDynamicSensors = none := by rw [hs.1]; rfl
    cases hf : findSensorNameInList handle s'.mSensors <;> simp [hnone, hnil, hf]

/-- `headTrackerManager` once the service has died and `getSensorList` has reconnected to a
service that still lists the head tracker as a dynamic sensor. -/
def headTrackerRestarted : SensorManager :=
  headTrackerManager.sensorManagerDied.initialised (Env.withDynamicSensors [exampleHeadTracker]) 1

theorem dynamicSensors_after_death_restart :
    Run false headTrackerManager.sensorManagerDied
      [(.getSensorList, Env.withDynamicSensors [exampleHeadTracker],
        .sensorList (.ok (0, some [])))] headTrackerRestarted ∧
    (∀ e ∈ [((.getSensorList : Call), Env.withDynamicSensors [exampleHeadTracker],
        Reply.sensorList (.ok (0, some [])))], e.1 ≠ .getDynamicSensorList) ∧
    headTrackerRestarted.mDynamicSensors = [] ∧ headTrackerRestarted.mDynamicSensorList = none ∧
    ∀ handle, (headTrackerRestarted.getSensorNameByHandle handle).1 =
      (headTrackerRestarted.mSensorHandleToName.lookup handle).or
        (findSensorNameInList handle headTrackerRestarted.mSensors) :=
  have hrun : Run false headTrackerManager.sensorManagerDied
      [(.getSensorList, Env.withDynamicSensors [exampleHeadTracker],
        .sensorList (.ok (0, some [])))] headTrackerRestarted := .cons (.nil _) rfl
  have htr : ∀ e ∈ [((.getSensorList : Call), Env.withDynamicSensors [exampleHeadTracker],
      Reply.sensorList (.ok (0, some [])))], e.1 ≠ .getDynamicSensorList := by simp
  ⟨hrun, htr, dynamicSensors_after_death hrun htr⟩

end SensorManager

end LibSensor
