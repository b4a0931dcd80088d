import LibSensor.Manager.Step

/-!
# Direct channels

`createDirectChannel` registers each new connection in `mDirectConnection` under the value of
the `int` counter `mDirectConnectionHandle`, which starts at `1`, and returns that value;
`configureDirectChannel` and `destroyDirectChannel` find the connection by the handle. The
history of a run gives, for each handle, the connection it should reach (`liveConnection`).
Over every run from a new manager the `k`-th successful creation returns `k`, below `INT_MAX`,
and the table is exactly the history (`directChannels_of_run`). The creation that would return
`INT_MAX` overflows the counter (`createDirectChannel_overflows`).
-/

namespace LibSensor

namespace SensorManager

/-! ### The history of the direct channels -/

/-- The handles under which the calls of a trace created channels, latest first. -/
def createdHandles (pkg : String) : List (Call × Env × Reply) → List Int
  | [] => []
  | e :: tr =>
    match channelEvent pkg e with
    | some (.created handle _) => handle :: createdHandles pkg tr
    | _ => createdHandles pkg tr

/-- The connection that a handle reaches after the calls of a trace: the one created by the
latest call that returned the handle, unless a `destroyDirectChannel` of it came later. -/
def liveConnection (pkg : String) : List (Call × Env × Reply) → Int → Option Nat
  | [], _ => none
  | e :: tr, handle =>
    match channelEvent pkg e with
    | some (.created h conn) => if h = handle then some conn else liveConnection pkg tr handle
    | some (.destroyed h) => if h = handle then none else liveConnection pkg tr handle
    | none => liveConnection pkg tr handle

/-- The handles that `n` successful creations return, latest first: the `k`-th returns `k`. -/
def expectedHandles : Nat → List Int
  | 0 => []
  | n + 1 => (n + 1 : Int) :: expectedHandles n

lemma mem_expectedHandles {n : Nat} {h : Int} : h ∈ expectedHandles n ↔ 1 ≤ h ∧ h ≤ n := by
  induction n with
  | zero => simp only [expectedHandles, List.not_mem_nil, false_iff]; omega
  | succ n ih => simp only [expectedHandles, List.mem_cons, ih]; omega

lemma nodup_expectedHandles (n : Nat) : (expectedHandles n).Nodup := by
  induction n with
  | zero => exact List.nodup_nil
  | succ n ih =>
    refine List.nodup_cons.mpr ⟨fun hmem => ?_, ih⟩
    have := mem_expectedHandles.mp hmem
    omega

/-! ### One step -/

/-- What a step does to the counter and the table, given the change it makes to the channels. -/
def ChannelStep (s s' : SensorManager) : Option ChannelEvent → Prop
  | none => s'.mDirectConnectionHandle = s.mDirectConnectionHandle ∧
      s'.mDirectConnection = s.mDirectConnection
  | some (.created handle conn) => handle = s.mDirectConnectionHandle ∧ handle ≠ intMax ∧
      s'.mDirectConnectionHandle = handle + 1 ∧
      s'.mDirectConnection = s.mDirectConnection.insert handle conn
  | some (.destroyed handle) => s'.mDirectConnectionHandle = s.mDirectConnectionHandle ∧
      s'.mDirectConnection = s.mDirectConnection.erase handle

variable {pingFlag : Bool} {env : Env} {s s₁ s' : SensorManager} {c : Call} {r : Reply}

lemma channelFields_of_assertStateLocked {e : Int}
    (h : assertStateLocked pingFlag env s = some (e, s₁)) :
    s₁.mOpPackageName = s.mOpPackageName ∧
      s₁.mDirectConnectionHandle = s.mDirectConnectionHandle ∧
      s₁.mDirectConnection = s.mDirectConnection := by
  obtain ⟨-, rfl | ⟨server, rfl⟩⟩ := assertStateLocked_cases h <;> simp

/-- Each step changes the counter and the table as its channel event says. -/
lemma channelStep_of_step (h : step pingFlag env c s = some (r, s')) :
    ChannelStep s s' (channelEvent s.mOpPackageName (c, env, r)) := by
  rcases step_cases h with ⟨rfl, rfl⟩ | ⟨handle, rfl, rfl⟩ | ⟨s₁, ha, he⟩
  · exact ⟨rfl, rfl⟩
  · rw [getSensorNameByHandle_snd]
    exact ⟨rfl, rfl⟩
  · obtain ⟨hpkg, hhandle, htable⟩ := channelFields_of_assertStateLocked ha
    rw [← hpkg]
    generalize channelEvent s₁.mOpPackageName (c, env, r) = ev at he ⊢
    cases he with
    | created conn hmax => simp [ChannelStep, hhandle, htable, hhandle ▸ hmax]
    | _ => simp [ChannelStep, hhandle, htable]

/-! ### Every run -/

/-- What a run from a new manager of package `pkg`, with trace `tr`, keeps true of the
channels: the `k`-th creation returned `k`, the counter is the next handle and stays below
`INT_MAX`, and the table holds only returned handles and is the history. -/
structure ChannelInv (pkg : String) (tr : List (Call × Env × Reply)) (s : SensorManager) :
    Prop where
  opPackageName : s.mOpPackageName = pkg
  created : createdHandles pkg tr = expectedHandles (createdHandles pkg tr).length
  handle : s.mDirectConnectionHandle = (createdHandles pkg tr).length + 1
  bound : (createdHandles pkg tr).length < intMax
  keys : ∀ h ∈ s.mDirectConnection, h ∈ createdHandles pkg tr
  lookup : ∀ h, s.mDirectConnection.lookup h = liveConnection pkg tr h

variable {pkg : String} {tr : List (Call × Env × Reply)}

lemma channelInv_new {env₀ : Env} {deviceId : Int}
    (h : newSensorManager pingFlag env₀ pkg deviceId = some s) : ChannelInv pkg [] s := by
  obtain ⟨⟨e, s₀⟩, ha, rfl⟩ := Option.map_eq_some'.mp h
  obtain ⟨hpkg, hhandle, htable⟩ := channelFields_of_assertStateLocked ha
  refine ⟨hpkg, rfl, ?_, by simp [createdHandles, intMax], fun k hk => ?_, fun k => ?_⟩
  · rw [hhandle]
    simp [initial, createdHandles]
  · rw [htable] at hk
    exact absurd hk (AList.not_mem_empty k)
  · rw [htable]
    exact AList.lookup_empty k

/-- Every handle returned so far is below the counter. -/
lemma ChannelInv.lt_handle (hi : ChannelInv pkg tr s) {h : Int} (hh : h ∈ createdHandles pkg tr) :
    h < s.mDirectConnectionHandle := by
  rw [hi.created, mem_expectedHandles] at hh
  rw [hi.handle]
  omega

lemma ChannelInv.step (hi : ChannelInv pkg tr s) (h : step pingFlag env c s = some (r, s')) :
    ChannelInv pkg ((c, env, r) :: tr) s' := by
  have hs := channelStep_of_step h
  have hpkg := (identity_step h).1.trans hi.opPackageName
  rw [hi.opPackageName] at hs
  cases hev : channelEvent pkg (c, env, r) with
  | none =>
    rw [hev] at hs
    have hc : createdHandles pkg ((c, env, r) :: tr) = createdHandles pkg tr := by
      simp [createdHandles, hev]
    refine ⟨hpkg, hc ▸ hi.created, hc ▸ hs.1 ▸ hi.handle, hc ▸ hi.bound, hc ▸ hs.2 ▸ hi.keys,
      fun k => ?_⟩
    rw [hs.2, hi.lookup k]
    simp [liveConnection, hev]
  | some ev =>
    rw [hev] at hs
    cases ev with
    | created handle conn =>
      obtain ⟨rfl, hmax, hhandle, htable⟩ := hs
      have hc : createdHandles pkg ((c, env, r) :: tr) =
          s.mDirectConnectionHandle :: createdHandles pkg tr := by
        simp [createdHandles, hev]
      have hfresh : s.mDirectConnectionHandle ∉ s.mDirectConnection :=
        fun hm => lt_irrefl _ (hi.lt_handle (hi.keys _ hm))
      refine ⟨hpkg, ?_, ?_, ?_, fun k hk => ?_, fun k => ?_⟩
      · rw [hc, List.length_cons, expectedHandles, ← hi.created, hi.handle]
      · rw [hhandle, hc, hi.handle, List.length_cons]
        omega
      · have := hi.bound
        have := hi.handle
        rw [hc, List.length_cons]
        omega
      · rw [htable, StdMap.mem_insert] at hk
        rw [hc]
        rcases hk with rfl | hk
        exacts [List.mem_cons_self _ _, List.mem_cons_of_mem _ (hi.keys k hk)]
      · rw [htable]
        by_cases hk : k = s.mDirectConnectionHandle
        · subst hk
          simp [liveConnection, hev, StdMap.lookup_insert_of_not_mem _ hfresh]
        · simp [liveConnection, hev, Ne.symm hk, hk, hi.lookup k]
    | destroyed handle =>
      obtain ⟨hhandle, htable⟩ := hs
      have hc : createdHandles pkg ((c, env, r) :: tr) = createdHandles pkg tr := by
        simp [createdHandles, hev]
      refine ⟨hpkg, hc ▸ hi.created, hc ▸ hhandle ▸ hi.handle, hc ▸ hi.bound, fun k hk => ?_,
        fun k => ?_⟩
      · rw [htable, AList.mem_erase] at hk
        exact hc ▸ hi.keys k hk.2
      · rw [htable]
        by_cases hk : k = handle
        · subst hk
          simp [liveConnection, hev]
        · simp [liveConnection, hev, Ne.symm hk, AList.lookup_erase_ne hk, hi.lookup k]

lemma channelInv_of_run {env₀ : Env} {deviceId : Int} {s₀ : SensorManager}
    (hnew : newSensorManager pingFlag env₀ pkg deviceId = some s₀) (hrun : Run pingFlag s₀ tr s) :
    ChannelInv pkg tr s := by
  induction hrun with
  | nil => exact channelInv_new hnew
  | cons _ hstep ih => exact ih.step hstep

/-- The direct channels of every run from a new manager of package `pkg`: the `k`-th successful
`createDirectChannel` returns `k`, so no handle is given twice and each lies in
`1 … INT_MAX - 1`; `configureDirectChannel(h)` reaches the connection the history gives `h`,
else `BAD_VALUE`; and a creation that creates nothing changes neither counter nor table. -/
theorem directChannels_of_run {env₀ : Env} {deviceId : Int} {s₀ : SensorManager}
    (hnew : newSensorManager pingFlag env₀ pkg deviceId = some s₀)
    (hrun : Run pingFlag s₀ tr s) :
    createdHandles pkg tr = expectedHandles (createdHandles pkg tr).length ∧
    (createdHandles pkg tr).Nodup ∧ (∀ h ∈ createdHandles pkg tr, 1 ≤ h ∧ h < intMax) ∧
    (∀ env h sensorHandle rateLevel,
      configureDirectChannel pingFlag env h sensorHandle rateLevel s =
        (assertStateLocked pingFlag env s).map fun p =>
          ((match liveConnection pkg tr h with
            | some conn => env.configureChannel conn sensorHandle rateLevel
            | none => badValue), p.2)) ∧
    (∀ env deviceId size channelType r s',
      createDirectChannel pingFlag env deviceId size channelType s = some (r, s') →
      channelEvent pkg (.createDirectChannel deviceId size channelType, env, .int r) = none →
      s'.mDirectConnectionHandle = s.mDirectConnectionHandle ∧
        s'.mDirectConnection = s.mDirectConnection) := by
  have hi := channelInv_of_run hnew hrun
  refine ⟨hi.created, ?_, fun h hh => ?_, fun env h sh rl => ?_,
    fun env d size ty r s' hc hev => ?_⟩
  · rw [hi.created]
    exact nodup_expectedHandles _
  · have := hi.bound
    rw [hi.created, mem_expectedHandles] at hh
    omega
  · cases ha : assertStateLocked pingFlag env s with
    | none => simp [configureDirectChannel, ha]
    | some p =>
      obtain ⟨e, s₁⟩ := p
      obtain ⟨rfl, -⟩ := assertStateLocked_cases ha
      have htable := (channelFields_of_assertStateLocked ha).2.2
      cases hl : liveConnection pkg tr h <;>
        simp [configureDirectChannel, ha, noError, htable, hi.lookup h, hl]
  · have hs := channelStep_of_step
      (show step pingFlag env (.createDirectChannel d size ty) s = some (.int r, s') by
        simp [step, hc])
    rw [hi.opPackageName, hev] at hs
    exact hs

/-- Two ashmem channels are created in the healthy world, and the first is destroyed; latest
first. -/
def twoChannelsTrace : List (Call × Env × Reply) :=
  [(.destroyDirectChannel 1, Env.healthy 1 [], .void),
    (.createDirectChannel 0 4096 sensorDirectMemTypeAshmem, Env.healthy 1 [], .int 2),
    (.createDirectChannel 0 4096 sensorDirectMemTypeAshmem, Env.healthy 1 [], .int 1)]

/-- Where `twoChannelsTrace` leads `newExampleManager`. -/
def twoChannelsManager : SensorManager :=
  { newExampleManager with
    mDirectConnectionHandle := 3
    mDirectConnection := (((∅ : StdMap Int Nat).insert 1 0).insert 2 0).erase 1 }

theorem directChannels_of_run_twoChannels :
    Run false newExampleManager twoChannelsTrace twoChannelsManager ∧
    createdHandles "com.example" twoChannelsTrace =
      expectedHandles (createdHandles "com.example" twoChannelsTrace).length ∧
    (createdHandles "com.example" twoChannelsTrace).Nodup ∧
    (∀ h ∈ createdHandles "com.example" twoChannelsTrace, 1 ≤ h ∧ h < intMax) ∧
    (∀ env h sensorHandle rateLevel,
      configureDirectChannel false env h sensorHandle rateLevel twoChannelsManager =
        (assertStateLocked false env twoChannelsManager).map fun p =>
          ((match liveConnection "com.example" twoChannelsTrace h with
            | some conn => env.configureChannel conn sensorHandle rateLevel
            | none => badValue), p.2)) ∧
    (∀ env deviceId size channelType r s',
      createDirectChannel false env deviceId size channelType twoChannelsManager =
        some (r, s') →
      channelEvent "com.example" (.createDirectChannel deviceId size channelType, env, .int r) =
        none →
      s'.mDirectConnectionHandle = twoChannelsManager.mDirectConnectionHandle ∧
        s'.mDirectConnection = twoChannelsManager.mDirectConnection) :=
  have hrun : Run false newExampleManager twoChannelsTrace twoChannelsManager :=
    .cons (.cons (.cons (.nil _) rfl) rfl) rfl
  ⟨hrun, directChannels_of_run (show newSensorManager false (Env.healthy 1 []) "com.example" 0 =
    some newExampleManager from rfl) hrun⟩

/-! ### The counter overflows -/

lemma erase_insert_empty (k : Int) : ((∅ : StdMap Int Nat).insert k 0).erase k = ∅ := by
  apply AList.ext
  show ((∅ : StdMap Int Nat).insert k 0).entries.kerase k = []
  simp [StdMap.insert, AList.not_mem_empty, AList.insert_empty, List.kerase_cons_eq]

lemma step_create {k : Int} (hk : k ≠ intMax) :
    step false (Env.healthy 1 []) (.createDirectChannel 0 4096 sensorDirectMemTypeAshmem)
      { newExampleManager with mDirectConnectionHandle := k } =
    some (.int k, { newExampleManager with
      mDirectConnectionHandle := k + 1
      mDirectConnection := (∅ : StdMap Int Nat).insert k 0 }) := by
  have ha : assertStateLocked false (Env.healthy 1 [])
      { newExampleManager with mDirectConnectionHandle := k } =
      some (noError, { newExampleManager with mDirectConnectionHandle := k }) := rfl
  simp [step, createDirectChannel, ha, hk, noError]
  rfl

lemma step_destroy (k k' : Int) : step false (Env.healthy 1 []) (.destroyDirectChannel k)
    { newExampleManager with
      mDirectConnectionHandle := k'
      mDirectConnection := (∅ : StdMap Int Nat).insert k 0 } =
    some (.void, { newExampleManager with mDirectConnectionHandle := k' }) := by
  have h : step false (Env.healthy 1 []) (.destroyDirectChannel k)
      { newExampleManager with
        mDirectConnectionHandle := k'
        mDirectConnection := (∅ : StdMap Int Nat).insert k 0 } =
      some (.void, { newExampleManager with
        mDirectConnectionHandle := k'
        mDirectConnection := ((∅ : StdMap Int Nat).insert k 0).erase k }) := rfl
  rw [h, erase_insert_empty]
  rfl

/-- `n` rounds, latest first, of creating an ashmem channel in the healthy world and destroying
it again. -/
def channelRounds : Nat → List (Call × Env × Reply)
  | 0 => []
  | n + 1 => (.destroyDirectChannel (n + 1), Env.healthy 1 [], .void) ::
      (.createDirectChannel 0 4096 sensorDirectMemTypeAshmem, Env.healthy 1 [], .int (n + 1)) ::
        channelRounds n

/-- Each round advances the counter and leaves the table empty. -/
lemma run_channelRounds {n : Nat} (hn : n < 2147483647) : Run false newExampleManager
    (channelRounds n) { newExampleManager with mDirectConnectionHandle := n + 1 } := by
  induction n with
  | zero => exact .nil _
  | succ n ih =>
    have hk : (n + 1 : Int) ≠ intMax := by unfold intMax; omega
    rw [show ((n + 1 : Nat) : Int) = n + 1 by omega]
    exact .cons (.cons (ih (by omega)) (step_create hk)) (step_destroy _ _)

/-- After `2^31 - 2` rounds the counter holds `INT_MAX`, and the next `createDirectChannel` for
which the service makes a connection overflows it: undefined behaviour. -/
theorem createDirectChannel_overflows :
    Run false newExampleManager (channelRounds 2147483646)
      { newExampleManager with mDirectConnectionHandle := intMax } ∧
    step false (Env.healthy 1 []) (.createDirectChannel 0 4096 sensorDirectMemTypeAshmem)
      { newExampleManager with mDirectConnectionHandle := intMax } = none :=
  ⟨run_channelRounds (by omega), rfl⟩

end SensorManager

end LibSensor
