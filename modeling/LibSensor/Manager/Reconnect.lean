import LibSensor.Manager.Step

/-!
# What `assertStateLocked` holds on return

`assertStateLocked` returns only `NO_ERROR` and relies on
`LOG_ALWAYS_FATAL_IF(mSensorServer == nullptr)` when no server could be obtained
(`assertStateLocked_outcomes`). With the ping compiled out a return holds the entry server or a
fresh one (`assertStateLocked_server_of_pingFlag`). With it compiled in, a failed ping calls
`waitForSensorService`, drops its status, and a failed wait leaves the dead server in place
(`assertStateLocked_keeps_dead_server`).
-/

namespace LibSensor

namespace SensorManager

variable {pingFlag : Bool} {env : Env} {s s₁ : SensorManager} {e : Int}

/-- A world in which the service has died: the held server fails `pingBinder`, and the service
manager never registers the sensor service again. -/
def Env.deadService : Env :=
  { Env.healthy 1 [] with
    pingBinder := deadObject
    getService := fun _ => ⟨nameNotFound, none⟩ }

/-- The three outcomes of `assertStateLocked`: it keeps a server that needs no
re-acquisition; or `waitForSensorService` gets a server with `NO_ERROR` and the sensors are
refetched from it; or the wait fails, the server held on entry stays, and the sensors are
refetched from that server all the same. Each returns `NO_ERROR`. -/
theorem assertStateLocked_outcomes (h : assertStateLocked pingFlag env s = some (e, s₁)) :
    e = noError ∧
    ((s.mSensorServer.isSome ∧ (pingFlag = true ∨ env.pingBinder = noError) ∧ s₁ = s) ∨
      (∃ server, waitForSensorService env.getService s.mSensorServer = (noError, some server) ∧
        s₁ = s.initialised env server) ∨
      (∃ server st, s.mSensorServer = some server ∧ pingFlag = false ∧
        env.pingBinder ≠ noError ∧ st ≠ noError ∧
        waitForSensorService env.getService s.mSensorServer = (st, some server) ∧
        s₁ = s.initialised env server)) := by
  obtain ⟨he, ⟨hinit, hs₁⟩ | ⟨hinit, -, server, hw, hs₁⟩⟩ := assertStateLocked_eq_some.mp h
  · refine ⟨he, .inl ⟨?_, ?_, hs₁⟩⟩ <;> unfold initSensorManager at hinit <;>
      split at hinit <;> cases pingFlag <;> simp_all
  · refine ⟨he, .inr ?_⟩
    rcases hw' : waitForSensorService env.getService s.mSensorServer with ⟨st, srv⟩
    rw [hw'] at hw
    cases hw
    rcases waitForSensorService_spec hw' with ⟨rfl, -⟩ | ⟨hst, hsrv⟩
    · exact .inl ⟨server, rfl, hs₁⟩
    · have hping : pingFlag = false ∧ env.pingBinder ≠ noError := by
        simpa [initSensorManager, ← hsrv] using hinit
      exact .inr ⟨server, st, hsrv.symm, hping.1, hping.2, hst, rfl, hs₁⟩

theorem assertStateLocked_outcomes_dead :
    assertStateLocked false Env.deadService accelerometerRestarted =
      some (noError, accelerometerRestarted.initialised Env.deadService 2) ∧
    noError = noError ∧
    ((accelerometerRestarted.mSensorServer.isSome ∧
        (false = true ∨ Env.deadService.pingBinder = noError) ∧
        accelerometerRestarted.initialised Env.deadService 2 = accelerometerRestarted) ∨
      (∃ server, waitForSensorService Env.deadService.getService
          accelerometerRestarted.mSensorServer = (noError, some server) ∧
        accelerometerRestarted.initialised Env.deadService 2 =
          accelerometerRestarted.initialised Env.deadService server) ∨
      (∃ server st, accelerometerRestarted.mSensorServer = some server ∧ false = false ∧
        Env.deadService.pingBinder ≠ noError ∧ st ≠ noError ∧
        waitForSensorService Env.deadService.getService accelerometerRestarted.mSensorServer =
          (st, some server) ∧
        accelerometerRestarted.initialised Env.deadService 2 =
          accelerometerRestarted.initialised Env.deadService server)) :=
  have h : assertStateLocked false Env.deadService accelerometerRestarted =
      some (noError, accelerometerRestarted.initialised Env.deadService 2) := rfl
  ⟨h, assertStateLocked_outcomes h⟩

/-- With the ping compiled out, a return of `assertStateLocked` holds the non-null server it
held on entry, or a server that `waitForSensorService` obtained with `NO_ERROR`. -/
theorem assertStateLocked_server_of_pingFlag (h : assertStateLocked true env s = some (e, s₁)) :
    (s.mSensorServer.isSome ∧ s₁.mSensorServer = s.mSensorServer) ∨
      waitForSensorService env.getService s.mSensorServer = (noError, s₁.mSensorServer) := by
  obtain ⟨-, ⟨hs, -, rfl⟩ | ⟨server, hw, rfl⟩ | ⟨_, _, _, hflag, -⟩⟩ := assertStateLocked_outcomes h
  · exact .inl ⟨hs, rfl⟩
  · exact .inr (by simpa using hw)
  · exact absurd hflag (by decide)

theorem assertStateLocked_server_of_pingFlag_healthy :
    assertStateLocked true (Env.healthy 2 [exampleAccelerometer])
        accelerometerManager.sensorManagerDied =
      some (noError, accelerometerManager.sensorManagerDied.initialised
        (Env.healthy 2 [exampleAccelerometer]) 2) ∧
    ((accelerometerManager.sensorManagerDied.mSensorServer.isSome ∧
        (accelerometerManager.sensorManagerDied.initialised (Env.healthy 2 [exampleAccelerometer])
          2).mSensorServer = accelerometerManager.sensorManagerDied.mSensorServer) ∨
      waitForSensorService (Env.healthy 2 [exampleAccelerometer]).getService
          accelerometerManager.sensorManagerDied.mSensorServer =
        (noError, (accelerometerManager.sensorManagerDied.initialised
          (Env.healthy 2 [exampleAccelerometer]) 2).mSensorServer)) :=
  have h : assertStateLocked true (Env.healthy 2 [exampleAccelerometer])
        accelerometerManager.sensorManagerDied =
      some (noError, accelerometerManager.sensorManagerDied.initialised
        (Env.healthy 2 [exampleAccelerometer]) 2) := rfl
  ⟨h, assertStateLocked_server_of_pingFlag h⟩

/-- With the ping compiled in, `assertStateLocked` on a manager whose server has died times out
in `waitForSensorService`, keeps the dead server, refetches the sensors from it, and returns
`NO_ERROR`. -/
theorem assertStateLocked_keeps_dead_server :
    newExampleManager.mSensorServer = some 1 ∧ Env.deadService.pingBinder ≠ noError ∧
    waitForSensorService Env.deadService.getService (some 1) = (timedOut, some 1) ∧
    assertStateLocked false Env.deadService newExampleManager =
      some (noError, newExampleManager.initialised Env.deadService 1) :=
  ⟨rfl, by decide, rfl, rfl⟩

end SensorManager

end LibSensor
