import AlarmMesh.Config.Settings

/-!
# Settings that pass their check

* `DiscoverySettings.check_eq_ok`, `Settings.check_eq_ok` — what a check that passes says.
-/

namespace AlarmMesh.Config

theorem DiscoverySettings.check_eq_ok {settings : DiscoverySettings} :
    settings.check = .ok () ↔ ¬ settings.replyTimeout ≤ settings.minSpacing ∧
      settings.requiredScans ≠ 0 ∧ settings.updateDeleteCount ≠ 0 ∧
      settings.maxInterrogations ≠ 0 := by
  unfold check zeros
  by_cases hs : settings.replyTimeout ≤ settings.minSpacing
  · simp [hs]
  by_cases hr : settings.requiredScans = 0
  · simp [hs, hr]
  by_cases hu : settings.updateDeleteCount = 0
  · simp [hs, hr, hu]
  by_cases hm : settings.maxInterrogations = 0 <;> simp [hs, hr, hu, hm]

theorem Settings.check_eq_ok {settings : Settings} :
    settings.check = .ok () ↔ settings.link.poolSlots ≠ 0 ∧ settings.discovery.check = .ok () ∧
      settings.events.transactionTimeout.isZero = false := by
  unfold check
  by_cases hp : settings.link.poolSlots = 0
  · simp [hp, throw, throwThe, MonadExceptOf.throw, bind, Except.bind]
  cases hd : settings.discovery.check with
  | error error => simp [hp, bind, Except.bind]
  | ok =>
    cases ht : settings.events.transactionTimeout.isZero <;>
      simp [hp, throw, throwThe, MonadExceptOf.throw, bind, Except.bind, pure, Except.pure]

end AlarmMesh.Config
