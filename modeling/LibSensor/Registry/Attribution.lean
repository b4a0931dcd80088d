import LibSensor.Registry.Instances

/-!
# Whom the registered instances work for

Every `SensorManager` passes its `mOpPackageName` to the service, which attributes its app
operations to that package. Over every run of the registry `sPackageInstances` keeps one shape
(`registry_shape_of_run`): an instance under a non-empty name was built for that package, only
the empty name shares an instance, and a deleted instance is left under one name at most. A
call from another device than that of the key's live instance builds a `SensorManager` that no
key points to, which nothing can delete (`getInstanceForPackage_leaks`).
-/

namespace LibSensor

namespace SensorManager

lemma mOpPackageName_of_newSensorManager {pingFlag : Bool} {env : Env} {opPackageName : String}
    {deviceId : Int} {m : SensorManager}
    (h : newSensorManager pingFlag env opPackageName deviceId = some m) :
    m.mOpPackageName = opPackageName := by
  obtain ⟨⟨e, s₁⟩, ha, rfl⟩ := Option.map_eq_some'.mp h
  obtain ⟨-, rfl | ⟨server, rfl⟩⟩ := assertStateLocked_cases ha <;> rfl

/-- A value that the insertions of a new instance `p` give a key is an old value, or `p` under
the empty name or under `opPackageName`. -/
lemma lookup_stashInstance_eq_some {map : StdMap String Nat} {packageName opPackageName k : String}
    {p q : Nat} (h : (stashInstance map packageName opPackageName p).lookup k = some q) :
    map.lookup k = some q ∨ (q = p ∧ (k = "" ∨ k = opPackageName)) := by
  unfold stashInstance at h
  rcases StdMap.lookup_insert_eq_some h with h | ⟨rfl, rfl⟩
  · split at h
    · rcases StdMap.lookup_insert_eq_some h with h | ⟨rfl, rfl⟩
      exacts [.inl h, .inr ⟨rfl, .inl rfl⟩]
    · exact .inl h
  · exact .inr ⟨rfl, .inr rfl⟩

end SensorManager

namespace Registry

open SensorManager

/-- The shape of `sPackageInstances`: an instance under a non-empty name was built for that
package; two names share an instance only if one of them is the empty name; a deleted instance
is under one name at most; and every value points to an allocated cell. -/
structure Shape (r : Registry) : Prop where
  attributed : ∀ k p m, k ≠ "" → r.sPackageInstances.lookup k = some p → r.deref p = some m →
    m.mOpPackageName = k
  shared : ∀ k k' p, k ≠ k' → r.sPackageInstances.lookup k = some p →
    r.sPackageInstances.lookup k' = some p → k = "" ∨ k' = ""
  deletedOnce : ∀ k k' p, r.sPackageInstances.lookup k = some p →
    r.sPackageInstances.lookup k' = some p → r.deref p = none → k = k'
  bounded : ∀ k p, r.sPackageInstances.lookup k = some p → p < r.instances.length

variable {pingFlag : Bool} {env : RegistryEnv} {r r' : Registry} {c : Call} {reply : Reply}
  {packageName : String} {p q : Nat} {m : SensorManager}

lemma shape_empty : Shape empty :=
  ⟨fun _ _ _ _ h => by simp [empty] at h, fun _ _ _ _ h => by simp [empty] at h,
    fun _ _ _ h => by simp [empty] at h, fun _ _ h => by simp [empty] at h⟩

/-- A new instance for `opPackageName` in the next cell, stashed by `getInstanceForPackage`. -/
lemma Shape.stash (hi : Shape r) {packageName opPackageName : String}
    (hm : m.mOpPackageName = opPackageName) :
    Shape ⟨stashInstance r.sPackageInstances packageName opPackageName r.instances.length,
      r.instances ++ [some m]⟩ := by
  have hlen : (r.instances ++ [some m]).length = r.instances.length + 1 := by simp
  constructor
  · intro k q m' hk h hq
    rcases lookup_stashInstance_eq_some h with h | ⟨rfl, rfl | rfl⟩
    · rw [deref_push_of_lt (hi.bounded k q h)] at hq
      exact hi.attributed k q m' hk h hq
    · exact absurd rfl hk
    · rw [deref_push_length] at hq
      exact (Option.some.inj hq) ▸ hm
  · intro k k' q hne h h'
    rcases lookup_stashInstance_eq_some h with h | ⟨hq, hk⟩ <;>
      rcases lookup_stashInstance_eq_some h' with h' | ⟨hq', hk'⟩
    · exact hi.shared k k' q hne h h'
    · exact absurd (hq' ▸ hi.bounded k q h) (lt_irrefl _)
    · exact absurd (hq ▸ hi.bounded k' q h') (lt_irrefl _)
    · rcases hk with rfl | rfl
      · exact .inl rfl
      · rcases hk' with rfl | rfl
        exacts [.inr rfl, absurd rfl hne]
  · intro k k' q h h' hq
    rcases lookup_stashInstance_eq_some h with h | ⟨rfl, -⟩
    · rcases lookup_stashInstance_eq_some h' with h' | ⟨rfl, -⟩
      · rw [deref_push_of_lt (hi.bounded k q h)] at hq
        exact hi.deletedOnce k k' q h h' hq
      · simp at hq
    · simp at hq
  · intro k q h
    rw [hlen]
    rcases lookup_stashInstance_eq_some h with h | ⟨rfl, -⟩
    exacts [Nat.lt_succ_of_lt (hi.bounded k q h), Nat.lt_succ_self _]

/-- The instance of key `k`, live, deleted, and `k` erased. -/
lemma Shape.erase (hi : Shape r) {k : String} (hk : r.sPackageInstances.lookup k = some p) :
    Shape ⟨r.sPackageInstances.erase k, r.instances.set p none⟩ := by
  constructor
  · intro k' q m' hk' h hq
    obtain ⟨-, h⟩ := StdMap.lookup_erase_eq_some h
    rcases deref_set hq with ⟨-, ⟨⟩⟩ | ⟨-, hq⟩
    exact hi.attributed k' q m' hk' h hq
  · intro k₁ k₂ q hne h₁ h₂
    exact hi.shared k₁ k₂ q hne (StdMap.lookup_erase_eq_some h₁).2
      (StdMap.lookup_erase_eq_some h₂).2
  · intro k₁ k₂ q h₁ h₂ hq
    obtain ⟨hne₁, h₁⟩ := StdMap.lookup_erase_eq_some h₁
    obtain ⟨hne₂, h₂⟩ := StdMap.lookup_erase_eq_some h₂
    by_cases hpq : p = q
    · subst hpq
      by_contra hne
      rcases hi.shared k₁ k₂ p hne h₁ h₂ with rfl | rfl
      · rcases hi.shared k₂ k p hne₂ h₂ hk with rfl | rfl
        exacts [hne rfl, hne₁ rfl]
      · rcases hi.shared k₁ k p hne₁ h₁ hk with rfl | rfl
        exacts [hne rfl, hne₂ rfl]
    · rw [deref_set_ne hpq] at hq
      exact hi.deletedOnce k₁ k₂ q h₁ h₂ hq
  · intro k' q h
    rw [List.length_set]
    exact hi.bounded k' q (StdMap.lookup_erase_eq_some h).2

/-- An operation on the live instance at `p`, which keeps its package. -/
lemma Shape.update (hi : Shape r) {m₁ : SensorManager} (hp : r.deref p = some m₁)
    (hm : m.mOpPackageName = m₁.mOpPackageName) : Shape (r.update p m) := by
  constructor
  · intro k q m' hk h hq
    rcases deref_set hq with ⟨rfl, hmq⟩ | ⟨-, hq⟩
    · cases hmq
      exact hm.trans (hi.attributed k _ m₁ hk h hp)
    · exact hi.attributed k q m' hk h hq
  · exact hi.shared
  · intro k k' q h h' hq
    have hpq : p ≠ q := by
      rintro rfl
      simp [deref_update_self (lt_length_of_deref hp)] at hq
    rw [Registry.update, deref_set_ne hpq] at hq
    exact hi.deletedOnce k k' q h h' hq
  · intro k q h
    rw [Registry.update, List.length_set]
    exact hi.bounded k q h

lemma Shape.step (hi : Shape r) (h : step pingFlag env c r = some (reply, r')) : Shape r' := by
  rcases step_cases h with ⟨packageName, p, -, hg⟩ | ⟨packageName, -, hr⟩ |
    ⟨p, c', m₁, m', reply', -, hm, hs, rfl⟩
  · rcases getInstanceForPackage_cases hg with ⟨-, -, rfl⟩ | ⟨-, m, hm, rfl, rfl⟩
    exacts [hi, hi.stash (mOpPackageName_of_newSensorManager hm)]
  · rcases removeInstanceForPackage_cases hr with ⟨-, rfl⟩ | ⟨p, hk, -, rfl⟩
    exacts [hi, hi.erase hk]
  · exact hi.update hm (identity_step hs).1

lemma shape_of_run {tr : List (Call × RegistryEnv × Reply)} (hrun : Run pingFlag empty tr r) :
    Shape r := by
  induction hrun with
  | nil => exact shape_empty
  | cons _ hstep ih => exact ih.step hstep

/-- Over every run from the empty registry, the empty name included: an instance under a
non-empty name `k` was built for `k`; two names share an instance only if one is empty; a
deleted instance is left under one name at most; every value points to an allocated cell. -/
theorem registry_shape_of_run {tr : List (Call × RegistryEnv × Reply)}
    (hrun : Run pingFlag empty tr r) :
    (∀ k p m, k ≠ "" → r.sPackageInstances.lookup k = some p → r.deref p = some m →
      m.mOpPackageName = k) ∧
    (∀ k k' p, k ≠ k' → r.sPackageInstances.lookup k = some p →
      r.sPackageInstances.lookup k' = some p → k = "" ∨ k' = "") ∧
    (∀ k k' p, r.sPackageInstances.lookup k = some p → r.sPackageInstances.lookup k' = some p →
      r.deref p = none → k = k') ∧
    (∀ k p, r.sPackageInstances.lookup k = some p → p < r.instances.length) := by
  have hi := shape_of_run hrun
  exact ⟨hi.attributed, hi.shared, hi.deletedOnce, hi.bounded⟩

/-- The registry once `exampleCaller` has asked for the empty name and then removed
`com.example`: the empty name is left under the deleted instance. -/
def danglingRegistry : Registry :=
  ⟨(((∅ : StdMap String Nat).insert "" 0).insert "com.example" 0).erase "com.example", [none]⟩

theorem registry_shape_of_run_dangling :
    Run false empty
      [(.removeInstanceForPackage "com.example", exampleCaller, .void),
        (.getInstanceForPackage "", exampleCaller, .ref 0)] danglingRegistry ∧
    (∀ k p m, k ≠ "" → danglingRegistry.sPackageInstances.lookup k = some p →
      danglingRegistry.deref p = some m → m.mOpPackageName = k) ∧
    (∀ k k' p, k ≠ k' → danglingRegistry.sPackageInstances.lookup k = some p →
      danglingRegistry.sPackageInstances.lookup k' = some p → k = "" ∨ k' = "") ∧
    (∀ k k' p, danglingRegistry.sPackageInstances.lookup k = some p →
      danglingRegistry.sPackageInstances.lookup k' = some p →
      danglingRegistry.deref p = none → k = k') ∧
    (∀ k p, danglingRegistry.sPackageInstances.lookup k = some p →
      p < danglingRegistry.instances.length) :=
  have hrun : Run false empty
      [(.removeInstanceForPackage "com.example", exampleCaller, .void),
        (.getInstanceForPackage "", exampleCaller, .ref 0)] danglingRegistry :=
    .cons (.cons (.nil _) rfl) rfl
  ⟨hrun, registry_shape_of_run hrun⟩

/-! ### A change of device leaks -/

/-- A call for a non-empty name whose key holds a live instance built for another device builds
a new instance in the next cell and stores it nowhere: `std::map::insert` keeps the old value. -/
lemma getInstanceForPackage_other_device (hp : packageName ≠ "")
    (hq : r.sPackageInstances.lookup packageName = some q) (hm : r.deref q = some m)
    (hd : getDeviceIdForUid env.virtualDeviceManager env.callingUid ≠ m.mDeviceId)
    (h : getInstanceForPackage pingFlag env packageName r = some (p, r')) :
    p = r.instances.length ∧ ∃ m', r' = ⟨r.sPackageInstances, r.instances ++ [some m']⟩ := by
  rcases getInstanceForPackage_cases h with ⟨hk, ⟨m₁, hm₁, hd₁⟩, -⟩ | ⟨-, m', -, rfl, rfl⟩
  · obtain rfl : q = p := Option.some.inj (hq.symm.trans hk)
    obtain rfl : m = m₁ := Option.some.inj (hm.symm.trans hm₁)
    exact absurd hd₁.symm hd
  · have hmem : packageName ∈ r.sPackageInstances := AList.lookup_isSome.mp (by simp [hq])
    refine ⟨rfl, m', ?_⟩
    simp only [stashInstance, opPackageNameFor, if_neg hp, StdMap.insert_of_mem _ hmem]

/-- Calls for `packageName` from callers on other devices than that of its instance `m` only
append instances, each call returning the cell of its own. -/
lemma leak_of_run {tr : List (Call × RegistryEnv × Reply)} (hp : packageName ≠ "")
    (hq : r.sPackageInstances.lookup packageName = some q) (hm : r.deref q = some m)
    (hrun : Run pingFlag r tr r')
    (htr : ∀ e ∈ tr, e.1 = .getInstanceForPackage packageName ∧
      getDeviceIdForUid e.2.1.virtualDeviceManager e.2.1.callingUid ≠ m.mDeviceId) :
    ∃ ms : List SensorManager, r' = ⟨r.sPackageInstances, r.instances ++ ms.map some⟩ ∧
      ms.length = tr.length ∧ r'.deref q = some m ∧
      ∀ e ∈ tr, ∃ i, r.instances.length ≤ i ∧ e.2.2 = .ref i := by
  induction hrun with
  | nil => exact ⟨[], by simp, rfl, hm, fun _ he => absurd he (List.not_mem_nil _)⟩
  | @cons r₁ r' tr c env reply _ hstep ih =>
    obtain ⟨ms, rfl, hlen, hm₁, hfresh⟩ := ih fun e he => htr e (List.mem_cons_of_mem _ he)
    obtain ⟨rfl, hd⟩ := htr _ (List.mem_cons_self _ _)
    obtain ⟨⟨p, r₂⟩, hg, he⟩ := Option.map_eq_some'.mp hstep
    cases he
    obtain ⟨rfl, m', rfl⟩ := getInstanceForPackage_other_device hp (by exact hq) hm₁ hd hg
    refine ⟨ms ++ [m'], by simp, by simp [hlen], ?_, ?_⟩
    · exact (deref_push_of_lt (lt_length_of_deref hm₁)).trans hm₁
    · intro e he
      rcases List.mem_cons.mp he with rfl | he
      · exact ⟨_, by simp, rfl⟩
      · exact hfresh e he

/-- When the key of a non-empty `packageName` holds a live instance `m`, every run of calls
`getInstanceForPackage(packageName)` from devices other than `m.mDeviceId` leaves
`sPackageInstances` as it is, and each call returns a new live instance in a fresh cell that no
key points to, so that no `removeInstanceForPackage` can delete it. -/
theorem getInstanceForPackage_leaks {tr₀ tr : List (Call × RegistryEnv × Reply)}
    (hp : packageName ≠ "") (hrun₀ : Run pingFlag empty tr₀ r)
    (hq : r.sPackageInstances.lookup packageName = some q) (hm : r.deref q = some m)
    (hrun : Run pingFlag r tr r')
    (htr : ∀ e ∈ tr, e.1 = .getInstanceForPackage packageName ∧
      getDeviceIdForUid e.2.1.virtualDeviceManager e.2.1.callingUid ≠ m.mDeviceId) :
    r'.sPackageInstances = r.sPackageInstances ∧
    r'.instances.length = r.instances.length + tr.length ∧
    (∀ e ∈ tr, ∃ i, r.instances.length ≤ i ∧ e.2.2 = .ref i) ∧
    (∀ i, r.instances.length ≤ i → i < r'.instances.length → (r'.deref i).isSome) ∧
    ∀ k i, r'.sPackageInstances.lookup k = some i → i < r.instances.length := by
  obtain ⟨ms, rfl, hlen, -, hfresh⟩ := leak_of_run hp hq hm hrun htr
  refine ⟨rfl, by simp [hlen], hfresh, fun i hi hi' => ?_, (shape_of_run hrun₀).bounded⟩
  simp only [List.length_append, List.length_map] at hi'
  simp [deref, List.getElem?_append_right hi, Nat.sub_lt_left_of_lt_add hi hi']

/-- Two calls for `com.example` from virtual device `5`, latest first. -/
def leakTrace : List (Call × RegistryEnv × Reply) :=
  [(.getInstanceForPackage "com.example", exampleVirtualDeviceCaller, .ref 2),
    (.getInstanceForPackage "com.example", exampleVirtualDeviceCaller, .ref 1)]

/-- `exampleRegistry` after `leakTrace`: two more instances, under no key. -/
def leakedRegistry : Registry :=
  ⟨exampleRegistry.sPackageInstances,
    [some newExampleManager, some virtualExampleManager, some virtualExampleManager]⟩

theorem getInstanceForPackage_leaks_virtual :
    "com.example" ≠ "" ∧
    Run false empty [(.getInstanceForPackage "com.example", exampleCaller, .ref 0)]
      exampleRegistry ∧
    exampleRegistry.sPackageInstances.lookup "com.example" = some 0 ∧
    exampleRegistry.deref 0 = some newExampleManager ∧
    Run false exampleRegistry leakTrace leakedRegistry ∧
    (∀ e ∈ leakTrace, e.1 = .getInstanceForPackage "com.example" ∧
      getDeviceIdForUid e.2.1.virtualDeviceManager e.2.1.callingUid ≠
        newExampleManager.mDeviceId) ∧
    leakedRegistry.sPackageInstances = exampleRegistry.sPackageInstances ∧
    leakedRegistry.instances.length = exampleRegistry.instances.length + leakTrace.length ∧
    (∀ e ∈ leakTrace, ∃ i, exampleRegistry.instances.length ≤ i ∧ e.2.2 = .ref i) ∧
    (∀ i, exampleRegistry.instances.length ≤ i → i < leakedRegistry.instances.length →
      (leakedRegistry.deref i).isSome) ∧
    ∀ k i, leakedRegistry.sPackageInstances.lookup k = some i →
      i < exampleRegistry.instances.length :=
  have hp : "com.example" ≠ "" := by decide
  have hrun₀ : Run false empty [(.getInstanceForPackage "com.example", exampleCaller, .ref 0)]
      exampleRegistry := .cons (.nil _) rfl
  have hq : exampleRegistry.sPackageInstances.lookup "com.example" = some 0 := rfl
  have hm : exampleRegistry.deref 0 = some newExampleManager := rfl
  have hrun : Run false exampleRegistry leakTrace leakedRegistry := .cons (.cons (.nil _) rfl) rfl
  have htr : ∀ e ∈ leakTrace, e.1 = .getInstanceForPackage "com.example" ∧
      getDeviceIdForUid e.2.1.virtualDeviceManager e.2.1.callingUid ≠
        newExampleManager.mDeviceId := by
    simp only [leakTrace, List.mem_cons, List.mem_singleton, List.not_mem_nil, or_false]
    rintro e (rfl | rfl) <;> exact ⟨rfl, by decide⟩
  ⟨hp, hrun₀, hq, hm, hrun, htr, getInstanceForPackage_leaks hp hrun₀ hq hm hrun htr⟩

end Registry

end LibSensor
