import LibSensor.Manager.DynamicSensorList
import LibSensor.Registry.State

/-!
# What `sPackageInstances` points to

`getInstanceForPackage("")` stashes its new instance under the empty name and under the package
found for the uid; `removeInstanceForPackage` deletes the instance of one key and erases only
that key, which leaves the other pointing to a deleted instance
(`removeInstanceForPackage_leaves_dangling`). Without the empty name every key points to a live
instance of its own (`registry_safe_of_run`). After a change of device `std::map::insert` keeps
the stale instance (`getInstanceForPackage_keeps_stale`, `getInstanceForPackage_lookup`); one it
stored is returned until a removal (`getInstanceForPackage_same_of_run`). Every live instance is
a reachable `SensorManager` (`reachable_of_registry_run`).
-/

namespace LibSensor

namespace SensorManager

open Registry

variable {pingFlag : Bool} {env : RegistryEnv} {packageName : String} {r r' : Registry}
  {p : Nat}

lemma mDeviceId_of_newSensorManager {env : Env} {opPackageName : String} {deviceId : Int}
    {m : SensorManager} (h : newSensorManager pingFlag env opPackageName deviceId = some m) :
    m.mDeviceId = deviceId := by
  obtain ⟨⟨e, s₁⟩, ha, rfl⟩ := Option.map_eq_some'.mp h
  obtain ⟨-, rfl | ⟨server, rfl⟩⟩ := assertStateLocked_cases ha <;> rfl

lemma opPackageNameFor_of_ne (h : packageName ≠ "") : opPackageNameFor env packageName = packageName :=
  if_neg h

/-- The insertions of a new instance give `packageName` the new instance, unless it is already
a key. -/
lemma lookup_stashInstance (map : StdMap String Nat) (packageName : String) (env : RegistryEnv) :
    (stashInstance map packageName (opPackageNameFor env packageName) p).lookup packageName =
      (map.lookup packageName).or (some p) := by
  unfold stashInstance
  by_cases hk : packageName = ""
  · subst hk
    rw [if_pos rfl]
    by_cases ho : opPackageNameFor env "" = ""
    · rw [ho, StdMap.lookup_insert, StdMap.lookup_insert, Option.or_assoc]
      rfl
    · rw [StdMap.lookup_insert_ne p (Ne.symm ho), StdMap.lookup_insert]
  · rw [if_neg hk, opPackageNameFor_of_ne hk, StdMap.lookup_insert]

/-- The insertions of a new instance keep the value of every key already present. -/
lemma lookup_stashInstance_of_lookup {map : StdMap String Nat} {k opPackageName : String}
    {q : Nat} (h : map.lookup k = some q) :
    (stashInstance map packageName opPackageName p).lookup k = some q := by
  unfold stashInstance
  split <;> exact StdMap.lookup_insert_of_lookup _ (by
    first | exact StdMap.lookup_insert_of_lookup _ h | exact h)

end SensorManager

/-! ### Live and unaliased values -/

namespace Registry

open SensorManager

/-- Every value of `sPackageInstances` points to a live instance, and no two keys share one. -/
structure Inv (r : Registry) : Prop where
  live : ∀ k p, r.sPackageInstances.lookup k = some p → (r.deref p).isSome
  unaliased : ∀ k k' p, r.sPackageInstances.lookup k = some p →
    r.sPackageInstances.lookup k' = some p → k = k'

variable {pingFlag : Bool} {env : RegistryEnv} {r r' : Registry} {c : Call} {reply : Reply}
  {p : Nat} {m : SensorManager}

lemma inv_empty : Inv empty :=
  ⟨fun _ _ h => by simp [empty] at h, fun _ _ _ h => by simp [empty] at h⟩

lemma Inv.exists_deref (hi : Inv r) {k : String} (hk : r.sPackageInstances.lookup k = some p) :
    ∃ m, r.deref p = some m :=
  Option.isSome_iff_exists.mp (hi.live k p hk)

lemma Inv.lookup_ne_length (hi : Inv r) (k : String) :
    r.sPackageInstances.lookup k ≠ some r.instances.length := fun h => by
  obtain ⟨m, hm⟩ := hi.exists_deref h
  exact absurd (lt_length_of_deref hm) (lt_irrefl _)

/-- A new instance in the next cell, stashed under one key. -/
lemma Inv.push (hi : Inv r) (k : String) :
    Inv ⟨r.sPackageInstances.insert k r.instances.length, r.instances ++ [some m]⟩ := by
  have key_eq : ∀ k', (r.sPackageInstances.insert k r.instances.length).lookup k' =
      some r.instances.length → k' = k := fun k' h => by
    by_contra hk
    rw [StdMap.lookup_insert_ne _ hk] at h
    exact hi.lookup_ne_length k' h
  constructor
  · intro k' q h
    rcases StdMap.eq_of_lookup_insert h with h | rfl
    · obtain ⟨m', hm'⟩ := hi.exists_deref h
      rw [deref_push_of_lt (lt_length_of_deref hm'), hm']
      rfl
    · rw [deref_push_length]
      rfl
  · intro k₁ k₂ q h₁ h₂
    by_cases hq : q = r.instances.length
    · subst hq
      rw [key_eq k₁ h₁, key_eq k₂ h₂]
    · have old : ∀ k', (r.sPackageInstances.insert k r.instances.length).lookup k' = some q →
          r.sPackageInstances.lookup k' = some q := fun k' h =>
        (StdMap.eq_of_lookup_insert h).resolve_right hq
      exact hi.unaliased k₁ k₂ q (old k₁ h₁) (old k₂ h₂)

/-- The instance of key `k` deleted, and `k` erased. -/
lemma Inv.erase (hi : Inv r) {k : String} (hk : r.sPackageInstances.lookup k = some p) :
    Inv ⟨r.sPackageInstances.erase k, r.instances.set p none⟩ := by
  have old : ∀ k' q, (r.sPackageInstances.erase k).lookup k' = some q →
      k' ≠ k ∧ r.sPackageInstances.lookup k' = some q := fun k' q h => by
    by_cases hk' : k' = k
    · subst hk'
      rw [AList.lookup_erase] at h
      cases h
    · rw [AList.lookup_erase_ne hk'] at h
      exact ⟨hk', h⟩
  constructor
  · intro k' q h
    obtain ⟨hne, h⟩ := old k' q h
    have hpq : p ≠ q := fun hpq => hne (hi.unaliased k' k q h (hpq ▸ hk))
    rw [deref_set_ne hpq]
    exact hi.live k' q h
  · intro k₁ k₂ q h₁ h₂
    exact hi.unaliased k₁ k₂ q (old k₁ q h₁).2 (old k₂ q h₂).2

/-- An operation on a live instance. -/
lemma Inv.update (hi : Inv r) (hp : (r.deref p).isSome) : Inv (r.update p m) := by
  refine ⟨fun k q h => ?_, hi.unaliased⟩
  by_cases hpq : p = q
  · subst hpq
    obtain ⟨m', hm'⟩ := Option.isSome_iff_exists.mp hp
    rw [deref_update_self (lt_length_of_deref hm')]
    rfl
  · exact (deref_set_ne hpq).symm ▸ hi.live k q h

/-- Every step but a request for the empty name keeps the values live and unaliased. -/
lemma Inv.step (hi : Inv r) (hc : c ≠ .getInstanceForPackage "")
    (h : step pingFlag env c r = some (reply, r')) : Inv r' := by
  rcases step_cases h with ⟨packageName, p, rfl, hg⟩ | ⟨packageName, rfl, hr⟩ |
    ⟨p, c', m, m', reply', rfl, hm, -, rfl⟩
  · have hne : packageName ≠ "" := fun he => hc (he ▸ rfl)
    rcases getInstanceForPackage_cases hg with ⟨-, -, rfl⟩ | ⟨-, m, -, rfl, rfl⟩
    · exact hi
    · simp only [stashInstance, if_neg hne, opPackageNameFor_of_ne hne]
      exact hi.push packageName
  · rcases removeInstanceForPackage_cases hr with ⟨-, rfl⟩ | ⟨p, hk, -, rfl⟩
    · exact hi
    · exact hi.erase hk
  · exact hi.update (by rw [hm]; rfl)

lemma inv_of_run {tr : List (Call × RegistryEnv × Reply)} (hrun : Run pingFlag empty tr r)
    (htr : ∀ e ∈ tr, e.1 ≠ .getInstanceForPackage "") : Inv r := by
  induction hrun with
  | nil => exact inv_empty
  | cons _ hstep ih =>
    exact (ih fun e he => htr e (List.mem_cons_of_mem _ he)).step
      (htr _ (List.mem_cons_self _ _)) hstep

/-- Over every run from the empty registry that never asks for the empty name, every value of
`sPackageInstances` points to a live instance of its own: `getInstanceForPackage` never reads a
deleted instance, and `removeInstanceForPackage` never deletes one twice. -/
theorem registry_safe_of_run {tr : List (Call × RegistryEnv × Reply)}
    (hrun : Run pingFlag empty tr r) (htr : ∀ e ∈ tr, e.1 ≠ .getInstanceForPackage "") :
    Inv r ∧ (∀ packageName deviceId, cachedInstance r packageName deviceId ≠ none) ∧
      ∀ packageName, removeInstanceForPackage packageName r ≠ none := by
  have hi := inv_of_run hrun htr
  refine ⟨hi, fun packageName deviceId => ?_, fun packageName => ?_⟩
  · unfold cachedInstance
    split
    · exact Option.some_ne_none _
    · rename_i q hq
      obtain ⟨m, hm⟩ := hi.exists_deref hq
      simp [hm]
  · unfold removeInstanceForPackage
    split
    · exact Option.some_ne_none _
    · rename_i q hq
      obtain ⟨m, hm⟩ := hi.exists_deref hq
      simp [delete, hm]

/-- A caller whose uid has the one package `com.example` and is on no virtual device, in a
healthy world without sensors. -/
def exampleCaller : RegistryEnv := ⟨10001, none, some fun _ => ["com.example"], Env.healthy 1 []⟩

/-- The registry once `exampleCaller` has asked for `com.example`. -/
def exampleRegistry : Registry :=
  ⟨(∅ : StdMap String Nat).insert "com.example" 0, [some newExampleManager]⟩

/-- The instance that the constructor builds for `com.other` in the healthy world. -/
def otherManager : SensorManager := (initial "com.other" 0).initialised (Env.healthy 1 []) 1

/-- `exampleCaller` asks for `com.example` and then `com.other`, and the service of the second
instance dies; latest first. -/
def otherDiedTrace : List (Call × RegistryEnv × Reply) :=
  [(.onInstance 1 .sensorManagerDied, exampleCaller, .manager .void),
    (.getInstanceForPackage "com.other", exampleCaller, .ref 1)]

/-- Where `otherDiedTrace` leads `exampleRegistry`. -/
def otherDiedRegistry : Registry :=
  ⟨((∅ : StdMap String Nat).insert "com.example" 0).insert "com.other" 1,
    [some newExampleManager, some otherManager.sensorManagerDied]⟩

/-- `otherDiedTrace` after the first request, followed by the removal of `com.example` and a new
request for it; latest first. -/
def reinstallTrace : List (Call × RegistryEnv × Reply) :=
  [(.getInstanceForPackage "com.example", exampleCaller, .ref 2),
    (.removeInstanceForPackage "com.example", exampleCaller, .void),
    (.onInstance 1 .sensorManagerDied, exampleCaller, .manager .void),
    (.getInstanceForPackage "com.other", exampleCaller, .ref 1),
    (.getInstanceForPackage "com.example", exampleCaller, .ref 0)]

/-- Where `reinstallTrace` leads the empty registry. -/
def reinstalledRegistry : Registry :=
  ⟨((((∅ : StdMap String Nat).insert "com.example" 0).insert "com.other" 1).erase
      "com.example").insert "com.example" 2,
    [none, some otherManager.sensorManagerDied, some newExampleManager]⟩

lemma run_reinstalledRegistry : Run false empty reinstallTrace reinstalledRegistry :=
  .cons (.cons (.cons (.cons (.cons (.nil _) rfl) rfl) rfl) rfl) rfl

theorem registry_safe_of_run_reinstalled :
    Run false empty reinstallTrace reinstalledRegistry ∧
    (∀ e ∈ reinstallTrace, e.1 ≠ .getInstanceForPackage "") ∧
    Inv reinstalledRegistry ∧
    (∀ packageName deviceId, cachedInstance reinstalledRegistry packageName deviceId ≠ none) ∧
    ∀ packageName, removeInstanceForPackage packageName reinstalledRegistry ≠ none :=
  have htr : ∀ e ∈ reinstallTrace, e.1 ≠ .getInstanceForPackage "" := by simp [reinstallTrace]
  ⟨run_reinstalledRegistry, htr, registry_safe_of_run run_reinstalledRegistry htr⟩

/-! ### The empty name -/

/-- `exampleCaller` asks for the empty name, which stashes one instance under `""` and under
`com.example`, and then removes `com.example`. The empty name is left pointing to the deleted
instance: asking for it again reads the deleted instance, and removing it deletes it twice. -/
theorem removeInstanceForPackage_leaves_dangling :
    ∃ r, Run false empty
        [(.removeInstanceForPackage "com.example", exampleCaller, .void),
          (.getInstanceForPackage "", exampleCaller, .ref 0)] r ∧
      r.sPackageInstances.lookup "" = some 0 ∧ r.deref 0 = none ∧
      step false exampleCaller (.getInstanceForPackage "") r = none ∧
      step false exampleCaller (.removeInstanceForPackage "") r = none :=
  ⟨_, .cons (.cons (.nil _) rfl) rfl, rfl, rfl, rfl, rfl⟩

/-! ### A change of device -/

/-- The uid of `exampleCaller` once it is on virtual device `5`, whose sensor policy is custom. -/
def exampleVirtualDeviceCaller : RegistryEnv :=
  { exampleCaller with
    virtualDeviceManager := some ⟨fun _ => [5], fun _ _ => some devicePolicyCustom⟩ }

/-- The instance that the constructor builds for `com.example` on virtual device `5`. -/
def virtualExampleManager : SensorManager := (initial "com.example" 5).initialised (Env.healthy 1 []) 1

/-- `com.example` is asked for from the default device, and then from virtual device `5`. The
second call builds an instance for device `5` but the key keeps the instance for the default
device, so a third call from device `5` builds yet another instance. -/
theorem getInstanceForPackage_keeps_stale :
    ∃ r, Run false empty
        [(.getInstanceForPackage "com.example", exampleVirtualDeviceCaller, .ref 1),
          (.getInstanceForPackage "com.example", exampleCaller, .ref 0)] r ∧
      (r.deref 1).map SensorManager.mDeviceId = some 5 ∧
      r.sPackageInstances.lookup "com.example" = some 0 ∧
      (r.deref 0).map SensorManager.mDeviceId = some 0 ∧
      (step false exampleVirtualDeviceCaller (.getInstanceForPackage "com.example") r).map
        Prod.fst = some (.ref 2) :=
  ⟨_, .cons (.cons (.nil _) rfl) rfl, rfl, rfl, rfl, rfl⟩

/-! ### What `getInstanceForPackage` stores -/

/-- The instance that `getInstanceForPackage(packageName)` returns is live and built for the
caller's device; afterwards `packageName` is its key, unless `packageName` was already the key
of an instance built for another device, which the key keeps. -/
theorem getInstanceForPackage_lookup {packageName : String}
    (h : getInstanceForPackage pingFlag env packageName r = some (p, r')) :
    (∃ m, r'.deref p = some m ∧
      m.mDeviceId = getDeviceIdForUid env.virtualDeviceManager env.callingUid) ∧
    (r'.sPackageInstances.lookup packageName = some p ∨
      ∃ q m, r.sPackageInstances.lookup packageName = some q ∧ r.deref q = some m ∧
        m.mDeviceId ≠ getDeviceIdForUid env.virtualDeviceManager env.callingUid ∧
        r'.sPackageInstances.lookup packageName = some q) := by
  rcases getInstanceForPackage_cases h with ⟨hk, hm, rfl⟩ | ⟨hc, m, hm, rfl, rfl⟩
  · exact ⟨hm, .inl hk⟩
  · refine ⟨⟨m, deref_push_length, mDeviceId_of_newSensorManager hm⟩, ?_⟩
    simp only [lookup_stashInstance]
    rcases cachedInstance_eq_some_none hc with hk | ⟨q, m', hk, hm', hd⟩
    · exact .inl (by rw [hk]; rfl)
    · exact .inr ⟨q, m', hk, hm', hd, by rw [hk]; rfl⟩

/-- `exampleRegistry` once `exampleVirtualDeviceCaller` has asked for `com.example`: the key
keeps the instance for the default device. -/
def staleRegistry : Registry :=
  ⟨exampleRegistry.sPackageInstances, [some newExampleManager, some virtualExampleManager]⟩

theorem getInstanceForPackage_lookup_example :
    (getInstanceForPackage false exampleCaller "com.example" empty = some (0, exampleRegistry) ∧
      (∃ m, exampleRegistry.deref 0 = some m ∧
        m.mDeviceId = getDeviceIdForUid exampleCaller.virtualDeviceManager
          exampleCaller.callingUid) ∧
      (exampleRegistry.sPackageInstances.lookup "com.example" = some 0 ∨
        ∃ q m, empty.sPackageInstances.lookup "com.example" = some q ∧ empty.deref q = some m ∧
          m.mDeviceId ≠ getDeviceIdForUid exampleCaller.virtualDeviceManager
            exampleCaller.callingUid ∧
          exampleRegistry.sPackageInstances.lookup "com.example" = some q)) ∧
    (getInstanceForPackage false exampleVirtualDeviceCaller "com.example" exampleRegistry =
        some (1, staleRegistry) ∧
      (∃ m, staleRegistry.deref 1 = some m ∧
        m.mDeviceId = getDeviceIdForUid exampleVirtualDeviceCaller.virtualDeviceManager
          exampleVirtualDeviceCaller.callingUid) ∧
      (staleRegistry.sPackageInstances.lookup "com.example" = some 1 ∨
        ∃ q m, exampleRegistry.sPackageInstances.lookup "com.example" = some q ∧
          exampleRegistry.deref q = some m ∧
          m.mDeviceId ≠ getDeviceIdForUid exampleVirtualDeviceCaller.virtualDeviceManager
            exampleVirtualDeviceCaller.callingUid ∧
          staleRegistry.sPackageInstances.lookup "com.example" = some q)) :=
  have h : getInstanceForPackage false exampleCaller "com.example" empty =
      some (0, exampleRegistry) := rfl
  have hv : getInstanceForPackage false exampleVirtualDeviceCaller "com.example" exampleRegistry =
      some (1, staleRegistry) := rfl
  ⟨⟨h, getInstanceForPackage_lookup h⟩, ⟨hv, getInstanceForPackage_lookup hv⟩⟩

/-- `packageName` is the key of the instance at `p`, which is live and built for `deviceId`. -/
structure Cached (packageName : String) (p : Nat) (deviceId : Int) (r : Registry) : Prop where
  lookup : r.sPackageInstances.lookup packageName = some p
  device : ∃ m, r.deref p = some m ∧ m.mDeviceId = deviceId

/-- Every step but a removal keeps a cached instance. -/
lemma Cached.step {packageName : String} {deviceId : Int} (hc : Cached packageName p deviceId r)
    (hr : ∀ q, c ≠ .removeInstanceForPackage q) (h : step pingFlag env c r = some (reply, r')) :
    Cached packageName p deviceId r' := by
  obtain ⟨m, hm, hd⟩ := hc.device
  rcases step_cases h with ⟨k, q, rfl, hg⟩ | ⟨k, rfl, -⟩ | ⟨q, c', m₁, m', reply', rfl, hm₁, hs, rfl⟩
  · rcases getInstanceForPackage_cases hg with ⟨-, -, rfl⟩ | ⟨-, m', -, rfl, rfl⟩
    · exact hc
    · exact ⟨lookup_stashInstance_of_lookup hc.lookup,
        m, (deref_push_of_lt (lt_length_of_deref hm)).trans hm, hd⟩
  · exact absurd rfl (hr k)
  · refine ⟨hc.lookup, ?_⟩
    by_cases hpq : q = p
    · subst hpq
      cases hm.symm.trans hm₁
      exact ⟨m', deref_update_self (lt_length_of_deref hm), (identity_step hs).2.trans hd⟩
    · exact ⟨m, (deref_set_ne hpq).trans hm, hd⟩

lemma Cached.run {packageName : String} {deviceId : Int} {r₂ : Registry}
    {tr : List (Call × RegistryEnv × Reply)} (hc : Cached packageName p deviceId r)
    (hrun : Run pingFlag r tr r₂) (htr : ∀ e ∈ tr, ∀ q, e.1 ≠ .removeInstanceForPackage q) :
    Cached packageName p deviceId r₂ := by
  induction hrun with
  | nil => exact hc
  | cons _ hstep ih =>
    exact (ih fun e he => htr e (List.mem_cons_of_mem _ he)).step
      (htr _ (List.mem_cons_self _ _)) hstep

/-- When `getInstanceForPackage(packageName)` has stored the instance it returns, every later
call for `packageName` from the same device returns that instance and builds none, whatever runs
in between but a removal. -/
theorem getInstanceForPackage_same_of_run {packageName : String} {env' : RegistryEnv}
    {r₁ r₂ : Registry} {tr : List (Call × RegistryEnv × Reply)}
    (h : getInstanceForPackage pingFlag env packageName r = some (p, r₁))
    (hk : r₁.sPackageInstances.lookup packageName = some p)
    (hrun : Run pingFlag r₁ tr r₂) (htr : ∀ e ∈ tr, ∀ q, e.1 ≠ .removeInstanceForPackage q)
    (henv : getDeviceIdForUid env'.virtualDeviceManager env'.callingUid =
      getDeviceIdForUid env.virtualDeviceManager env.callingUid) :
    getInstanceForPackage pingFlag env' packageName r₂ = some (p, r₂) := by
  obtain ⟨⟨m, hm, hd⟩, -⟩ := getInstanceForPackage_lookup h
  obtain ⟨hk₂, m₂, hm₂, hd₂⟩ := (Cached.mk hk ⟨m, hm, hd⟩).run hrun htr
  have hc := cachedInstance_of_lookup hk₂ hm₂ (hd₂.trans henv.symm)
  simp only [getInstanceForPackage, hc]
  rfl

theorem getInstanceForPackage_same_of_run_otherDied :
    getInstanceForPackage false exampleCaller "com.example" empty = some (0, exampleRegistry) ∧
    exampleRegistry.sPackageInstances.lookup "com.example" = some 0 ∧
    Run false exampleRegistry otherDiedTrace otherDiedRegistry ∧
    (∀ e ∈ otherDiedTrace, ∀ q, e.1 ≠ .removeInstanceForPackage q) ∧
    getInstanceForPackage false exampleCaller "com.example" otherDiedRegistry =
      some (0, otherDiedRegistry) :=
  have h : getInstanceForPackage false exampleCaller "com.example" empty =
      some (0, exampleRegistry) := rfl
  have hk : exampleRegistry.sPackageInstances.lookup "com.example" = some 0 := rfl
  have hrun : Run false exampleRegistry otherDiedTrace otherDiedRegistry :=
    .cons (.cons (.nil _) rfl) rfl
  have htr : ∀ e ∈ otherDiedTrace, ∀ q, e.1 ≠ .removeInstanceForPackage q := by
    simp [otherDiedTrace]
  ⟨h, hk, hrun, htr, getInstanceForPackage_same_of_run h hk hrun htr rfl⟩

/-! ### The instances handed out -/

/-- Every live instance of a registry run from the empty registry is a state of the
`SensorManager` state machine, its constructor followed by its operations; so the invariants of
the manager hold for every instance that `getInstanceForPackage` hands out. -/
theorem reachable_of_registry_run {tr : List (Call × RegistryEnv × Reply)}
    (hrun : Run pingFlag empty tr r) (hp : r.deref p = some m) :
    SensorManager.Reachable pingFlag m ∧ SensorListInv m ∧ DynamicListInv m := by
  have hreach : SensorManager.Reachable pingFlag m := by
    induction hrun generalizing p m with
    | nil => simp [empty, deref] at hp
    | cons _ hstep ih =>
      rcases step_cases hstep with ⟨k, q, -, hg⟩ | ⟨k, -, hr⟩ |
        ⟨q, c', m₁, m', reply', -, hm₁, hs, rfl⟩
      · rcases getInstanceForPackage_cases hg with ⟨-, -, rfl⟩ | ⟨-, mnew, hnew, -, rfl⟩
        · exact ih hp
        · rcases deref_push hp with hp | ⟨-, rfl⟩
          exacts [ih hp, .new hnew]
      · rcases removeInstanceForPackage_cases hr with ⟨-, rfl⟩ | ⟨q, -, -, rfl⟩
        · exact ih hp
        · rcases deref_set hp with ⟨-, ⟨⟩⟩ | ⟨-, hp⟩
          exact ih hp
      · rcases deref_set hp with ⟨rfl, ⟨⟩⟩ | ⟨-, hp⟩
        exacts [.step (ih hm₁) hs, ih hp]
  exact ⟨hreach, sensorListInv_of_reachable hreach, dynamicListInv_of_reachable hreach⟩

theorem reachable_of_registry_run_reinstalled :
    Run false empty reinstallTrace reinstalledRegistry ∧
    reinstalledRegistry.deref 1 = some otherManager.sensorManagerDied ∧
    SensorManager.Reachable false otherManager.sensorManagerDied ∧
    SensorListInv otherManager.sensorManagerDied ∧ DynamicListInv otherManager.sensorManagerDied :=
  have hp : reinstalledRegistry.deref 1 = some otherManager.sensorManagerDied := rfl
  ⟨run_reinstalledRegistry, hp, reachable_of_registry_run run_reinstalledRegistry hp⟩

end Registry

end LibSensor
