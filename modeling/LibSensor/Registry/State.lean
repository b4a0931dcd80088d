import LibSensor.Manager.Step

/-!
# The per-package registry of `SensorManager`s

`getInstanceForPackage` and `removeInstanceForPackage` keep one map for the whole process,
`sPackageInstances`, from package names to instances allocated with `new`. It is modelled with
the heap it points into, a cell becoming `none` when `delete` frees it; reading or deleting a
freed instance is undefined behaviour, `none`. Between calls, callers run the instances they
hold by `SensorManager.step`. The opening `waitForSensorService(nullptr)` only waits, and leaves
no trace.
-/

namespace LibSensor

/-! ### `getDeviceIdForUid` -/

/-- `IVirtualDeviceManagerNative::DEVICE_POLICY_DEFAULT`. -/
def devicePolicyDefault : Int := 0

/-- `IVirtualDeviceManagerNative::DEVICE_POLICY_CUSTOM`. -/
def devicePolicyCustom : Int := 1

/-- `IVirtualDeviceManagerNative::POLICY_TYPE_SENSORS`. -/
def policyTypeSensors : Int := 0

/-- What the virtual device manager answers. -/
structure VirtualDeviceManager where
  /-- What `getDeviceIdsForUid(uid, &deviceIds)` leaves in `deviceIds`. -/
  getDeviceIdsForUid : Nat → List Int
  /-- What `getDevicePolicy(deviceId, policyType, &devicePolicy)` writes to `devicePolicy`,
  `none` if it writes nothing. -/
  getDevicePolicy : Int → Int → Option Int

/-- `getDeviceIdForUid(uid)`, where `vdm` is what `checkService("virtualdevice_native")`
finds: the one device of the uid if its sensor policy is custom, `DEVICE_ID_DEFAULT` if the
uid is on no device or on several. -/
def getDeviceIdForUid (vdm : Option VirtualDeviceManager) (uid : Nat) : Int :=
  match vdm with
  | none => deviceIdDefault
  | some vdm =>
    match vdm.getDeviceIdsForUid uid with
    | [deviceId] =>
      if (vdm.getDevicePolicy deviceId policyTypeSensors).getD devicePolicyDefault =
          devicePolicyCustom then deviceId
      else deviceIdDefault
    | _ => deviceIdDefault

/-! ### The registry -/

/-- What the world answers during one call on the registry. -/
structure RegistryEnv where
  /-- `IPCThreadState::self()->getCallingUid()`. -/
  callingUid : Nat
  /-- `checkService("virtualdevice_native")`, `none` if no such service is registered. -/
  virtualDeviceManager : Option VirtualDeviceManager
  /-- `getPackagesForUid` of the service `getService("permission")`, `none` if there is no
  such service. -/
  getPackagesForUid : Option (Nat → List String)
  /-- The world during the constructor of a new instance, or during an operation of one. -/
  sensorEnv : Env

/-- `sPackageInstances`, with the heap of the instances its values point to. -/
structure Registry where
  sPackageInstances : StdMap String Nat
  /-- The instances in the order `new` allocated them; `none` once deleted. -/
  instances : List (Option SensorManager)

namespace Registry

/-- The registry before any call: an empty map and no instance. -/
def empty : Registry := ⟨∅, []⟩

/-- The instance that `p` points to, `none` if it has been deleted. -/
def deref (r : Registry) (p : Nat) : Option SensorManager := (r.instances[p]?).join

/-- `delete` of the instance that `p` points to: `none`, undefined, if it is already deleted. -/
def delete (r : Registry) (p : Nat) : Option Registry :=
  (r.deref p).map fun _ => { r with instances := r.instances.set p none }

/-- The instance at `p` has become `m` by an operation on it. -/
def update (r : Registry) (p : Nat) (m : SensorManager) : Registry :=
  { r with instances := r.instances.set p (some m) }

variable {r : Registry} {p q : Nat} {m : SensorManager}

lemma lt_length_of_deref (h : r.deref p = some m) : p < r.instances.length := by
  by_contra hp
  simp [deref, List.getElem?_eq_none (Nat.le_of_not_lt hp)] at h

lemma deref_set_ne {map : StdMap String Nat} {o : Option SensorManager} (h : p ≠ q) :
    (⟨map, r.instances.set p o⟩ : Registry).deref q = r.deref q := by
  simp only [deref, List.getElem?_set_ne h]

@[simp] lemma deref_update_self (h : p < r.instances.length) : (r.update p m).deref p = some m := by
  simp [update, deref, h]

lemma deref_push_of_lt {map : StdMap String Nat} (h : q < r.instances.length) :
    (⟨map, r.instances ++ [some m]⟩ : Registry).deref q = r.deref q := by
  simp only [deref, List.getElem?_append_left h]

@[simp] lemma deref_push_length {map : StdMap String Nat} :
    (⟨map, r.instances ++ [some m]⟩ : Registry).deref r.instances.length = some m := by
  simp [deref]

/-- A live instance after `new` is an old live instance or the new one. -/
lemma deref_push {map : StdMap String Nat} {m' : SensorManager}
    (h : (⟨map, r.instances ++ [some m]⟩ : Registry).deref q = some m') :
    r.deref q = some m' ∨ (q = r.instances.length ∧ m' = m) := by
  rcases lt_trichotomy q r.instances.length with hq | rfl | hq
  · exact .inl ((deref_push_of_lt hq).symm.trans h)
  · exact .inr ⟨rfl, (Option.some.inj (deref_push_length.symm.trans h)).symm⟩
  · have := lt_length_of_deref h
    simp only [List.length_append, List.length_singleton] at this
    omega

/-- A live instance after cell `p` is overwritten is the new content of `p` or an old live
instance elsewhere. -/
lemma deref_set {map : StdMap String Nat} {o : Option SensorManager} {m' : SensorManager}
    (h : (⟨map, r.instances.set p o⟩ : Registry).deref q = some m') :
    (p = q ∧ o = some m') ∨ (p ≠ q ∧ r.deref q = some m') := by
  by_cases hpq : p = q
  · subst hpq
    simp only [deref, List.getElem?_set, if_true] at h
    split_ifs at h
    · exact .inl ⟨rfl, by simpa using h⟩
    · cases h
  · exact .inr ⟨hpq, (deref_set_ne hpq).symm.trans h⟩

end Registry

namespace SensorManager

open Registry

/-- The cached-instance test of `getInstanceForPackage`: `some (some p)` if `packageName` is a key
whose instance `p` was built for `deviceId`, `some none` if a new instance is needed, and `none`,
undefined, if the key points to a deleted instance (the test reads its `mDeviceId`). -/
def cachedInstance (r : Registry) (packageName : String) (deviceId : Int) : Option (Option Nat) :=
  match r.sPackageInstances.lookup packageName with
  | none => some none
  | some p => (r.deref p).map fun m => if m.mDeviceId = deviceId then some p else none

/-- The package that a new instance is built for: `packageName`, or when it is empty the first
package of the calling uid, if the permission service gives one. -/
def opPackageNameFor (env : RegistryEnv) (packageName : String) : String :=
  if packageName = "" then
    match env.getPackagesForUid with
    | some getPackagesForUid => (getPackagesForUid env.callingUid).headD packageName
    | none => packageName
  else packageName

/-- The insertions that stash a new instance `p`: under the empty name if `packageName` is
empty, then under `opPackageName`. Each is a `std::map::insert`, which keeps an existing value. -/
def stashInstance (map : StdMap String Nat) (packageName opPackageName : String) (p : Nat) :
    StdMap String Nat :=
  (if packageName = "" then map.insert "" p else map).insert opPackageName p

/-- `SensorManager::getInstanceForPackage(packageName)`: the reference it returns, as the cell of
the instance, and the new registry. -/
def getInstanceForPackage (pingFlag : Bool) (env : RegistryEnv) (packageName : String)
    (r : Registry) : Option (Nat × Registry) := do
  let deviceId := getDeviceIdForUid env.virtualDeviceManager env.callingUid
  match ← cachedInstance r packageName deviceId with
  | some p => pure (p, r)
  | none =>
    let opPackageName := opPackageNameFor env packageName
    let m ← newSensorManager pingFlag env.sensorEnv opPackageName deviceId
    let p := r.instances.length
    pure (p, ⟨stashInstance r.sPackageInstances packageName opPackageName p,
      r.instances ++ [some m]⟩)

/-- `SensorManager::removeInstanceForPackage(packageName)`: delete the instance of the key, and
erase the key. -/
def removeInstanceForPackage (packageName : String) (r : Registry) : Option Registry :=
  match r.sPackageInstances.lookup packageName with
  | none => some r
  | some p => (r.delete p).map fun r =>
      { r with sPackageInstances := r.sPackageInstances.erase packageName }

variable {pingFlag : Bool} {env : RegistryEnv} {packageName : String} {r r' : Registry}
  {p : Nat}

lemma cachedInstance_eq_some_some {deviceId : Int}
    (h : cachedInstance r packageName deviceId = some (some p)) :
    r.sPackageInstances.lookup packageName = some p ∧
      ∃ m, r.deref p = some m ∧ m.mDeviceId = deviceId := by
  unfold cachedInstance at h
  split at h
  · cases h
  · rename_i q hq
    obtain ⟨m, hm, hp⟩ := Option.map_eq_some'.mp h
    split_ifs at hp with hd
    cases hp
    exact ⟨hq, m, hm, hd⟩

lemma cachedInstance_eq_some_none {deviceId : Int}
    (h : cachedInstance r packageName deviceId = some none) :
    r.sPackageInstances.lookup packageName = none ∨
      ∃ q m, r.sPackageInstances.lookup packageName = some q ∧ r.deref q = some m ∧
        m.mDeviceId ≠ deviceId := by
  unfold cachedInstance at h
  split at h
  · exact .inl ‹_›
  · rename_i q hq
    obtain ⟨m, hm, hp⟩ := Option.map_eq_some'.mp h
    split_ifs at hp with hd
    exact .inr ⟨q, m, hq, hm, hd⟩

/-- A cached instance built for the caller's device is returned as it is. -/
lemma cachedInstance_of_lookup {deviceId : Int} {m : SensorManager}
    (hk : r.sPackageInstances.lookup packageName = some p) (hm : r.deref p = some m)
    (hd : m.mDeviceId = deviceId) : cachedInstance r packageName deviceId = some (some p) := by
  simp [cachedInstance, hk, hm, hd]

/-- What `getInstanceForPackage` can do: return the cached instance of `packageName`, built for
the caller's device, and change nothing; or, when there is no such instance, build a new one in
the next cell and stash it. -/
theorem getInstanceForPackage_cases (h : getInstanceForPackage pingFlag env packageName r = some (p, r')) :
    (r.sPackageInstances.lookup packageName = some p ∧
      (∃ m, r.deref p = some m ∧
        m.mDeviceId = getDeviceIdForUid env.virtualDeviceManager env.callingUid) ∧ r' = r) ∨
    (cachedInstance r packageName (getDeviceIdForUid env.virtualDeviceManager env.callingUid) =
        some none ∧
      ∃ m, newSensorManager pingFlag env.sensorEnv (opPackageNameFor env packageName)
          (getDeviceIdForUid env.virtualDeviceManager env.callingUid) = some m ∧
        p = r.instances.length ∧
        r' = ⟨stashInstance r.sPackageInstances packageName (opPackageNameFor env packageName) p,
          r.instances ++ [some m]⟩) := by
  obtain ⟨c, hc, h⟩ := Option.bind_eq_some.mp h
  cases c with
  | some q =>
    obtain ⟨rfl, rfl⟩ := Prod.mk.inj (Option.some.inj h)
    exact .inl ⟨(cachedInstance_eq_some_some hc).1, (cachedInstance_eq_some_some hc).2, rfl⟩
  | none =>
    obtain ⟨m, hm, h⟩ := Option.bind_eq_some.mp h
    obtain ⟨rfl, rfl⟩ := Prod.mk.inj (Option.some.inj h)
    exact .inr ⟨hc, m, hm, rfl, rfl⟩

/-- What `removeInstanceForPackage` can do: nothing, for a name that is not a key; or delete the
live instance of the key and erase the key. -/
theorem removeInstanceForPackage_cases (h : removeInstanceForPackage packageName r = some r') :
    (r.sPackageInstances.lookup packageName = none ∧ r' = r) ∨
    ∃ p, r.sPackageInstances.lookup packageName = some p ∧ (r.deref p).isSome ∧
      r' = ⟨r.sPackageInstances.erase packageName, r.instances.set p none⟩ := by
  unfold removeInstanceForPackage at h
  split at h
  · exact .inl ⟨‹_›, (Option.some.inj h).symm⟩
  · rename_i p hp
    obtain ⟨r₁, hd, rfl⟩ := Option.map_eq_some'.mp h
    obtain ⟨m, hm, rfl⟩ := Option.map_eq_some'.mp hd
    exact .inr ⟨p, hp, by simp [hm], rfl⟩

end SensorManager

/-! ### The registry as a state machine -/

namespace Registry

/-- The calls on the registry, and an operation of a caller on an instance it holds. -/
inductive Call
  | getInstanceForPackage (packageName : String)
  | removeInstanceForPackage (packageName : String)
  /-- An operation on the instance at cell `p`, through a reference a caller holds. -/
  | onInstance (p : Nat) (c : SensorManager.Call)

/-- What a call on the registry returns. -/
inductive Reply
  /-- The reference `SensorManager&` to the instance at cell `p`. -/
  | ref (p : Nat)
  | void
  | manager (reply : SensorManager.Reply)

/-- One step of the registry: the call `c`, with the answers of `env`. -/
def step (pingFlag : Bool) (env : RegistryEnv) : Call → Registry → Option (Reply × Registry)
  | .getInstanceForPackage packageName, r =>
    (SensorManager.getInstanceForPackage pingFlag env packageName r).map (Prod.map .ref id)
  | .removeInstanceForPackage packageName, r =>
    (SensorManager.removeInstanceForPackage packageName r).map (.void, ·)
  | .onInstance p c, r => do
    let m ← r.deref p
    let (reply, m') ← SensorManager.step pingFlag env.sensorEnv c m
    pure (.manager reply, r.update p m')

/-- `Run pingFlag r tr r'`: the steps of `tr`, latest first, each a call with the answers of the
world and its reply, lead from `r` to `r'`. -/
inductive Run (pingFlag : Bool) : Registry → List (Call × RegistryEnv × Reply) → Registry → Prop
  | nil (r : Registry) : Run pingFlag r [] r
  | cons {r r₁ r' : Registry} {tr : List (Call × RegistryEnv × Reply)} {c : Call}
      {env : RegistryEnv} {reply : Reply} :
      Run pingFlag r tr r₁ → step pingFlag env c r₁ = some (reply, r') →
        Run pingFlag r ((c, env, reply) :: tr) r'

variable {pingFlag : Bool} {env : RegistryEnv} {r r' : Registry} {c : Call} {reply : Reply}

/-- What a step of the registry can do: one of the two calls on it, or an operation of a live
instance, which changes only that instance. -/
theorem step_cases (h : step pingFlag env c r = some (reply, r')) :
    (∃ packageName p, c = .getInstanceForPackage packageName ∧
      SensorManager.getInstanceForPackage pingFlag env packageName r = some (p, r')) ∨
    (∃ packageName, c = .removeInstanceForPackage packageName ∧
      SensorManager.removeInstanceForPackage packageName r = some r') ∨
    ∃ p c' m m' reply', c = .onInstance p c' ∧ r.deref p = some m ∧
      SensorManager.step pingFlag env.sensorEnv c' m = some (reply', m') ∧ r' = r.update p m' := by
  cases c with
  | getInstanceForPackage packageName =>
    obtain ⟨⟨p, r₁⟩, hg, he⟩ := Option.map_eq_some'.mp h
    cases he
    exact .inl ⟨packageName, p, rfl, hg⟩
  | removeInstanceForPackage packageName =>
    obtain ⟨r₁, hr, he⟩ := Option.map_eq_some'.mp h
    cases he
    exact .inr (.inl ⟨packageName, rfl, hr⟩)
  | onInstance p c' =>
    obtain ⟨m, hm, h⟩ := Option.bind_eq_some.mp h
    obtain ⟨⟨reply', m'⟩, hs, h⟩ := Option.bind_eq_some.mp h
    cases h
    exact .inr (.inr ⟨p, c', m, m', reply', rfl, hm, hs, rfl⟩)

end Registry

end LibSensor
