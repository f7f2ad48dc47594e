import ClusterOps.Cloud.Simulated
import ClusterOps.Proofs.Provider.Calls
import ClusterOps.Proofs.Settings.Checked
import ClusterOps.Proofs.Wait.Exact
import ClusterOps.Proofs.Wait.Room

/-
Whether checked settings leave time to ask for the status of an update. The rules
bound the interval by the timeout but let the two be equal, and then the deadline
comes with the end of the first rest: the wait is over before anything was asked
(`waitForUpdate_without_room`). With a shorter interval there is time, and an
update that is successful already is found to be so with one call
(`waitForUpdate_with_room`).
-/

namespace ClusterOps

namespace Provider

variable {σ : Type} {p : Provider σ} {name : String} {h : Handle} {s : Session (Account σ)}

/-- Whenever the status of an update is asked for next, the answer comes at once and says that the
update is successful. -/
def FindsSuccessful (p : Provider σ) (name : String) (update : Value) (account : Account σ) :
    Prop :=
  ∀ now, ∃ body cloud, p.cloud.call account.cloud now p.region (.describeUpdate name update)
      = (⟨some 0, .done body⟩, cloud) ∧
    updateStatus update body = .ok (.text "Successful")

theorem poll_of_findsSuccessful {update : Value} {account : Account σ}
    (found : p.FindsSuccessful name update account) (now : Rat) :
    ∃ next, p.poll name update account now
      = (⟨some 0, .status (.text "Successful")⟩, next) := by
  obtain ⟨body, cloud, call, status⟩ := found now
  refine ⟨(account.send p.cloud now p.region (.describeUpdate name update)).2, ?_⟩
  have reply : (account.send p.cloud now p.region (.describeUpdate name update)).1
      = ⟨some 0, .done body⟩ := by
    simp [Account.send, call]
  simp only [poll, reply, report, status]

/-- **Room for a status check.** With checked settings whose interval is shorter than the timeout,
on a clock that is fine up to the times that come up, an update that is successful already is found
to be so with a single call for its status. -/
theorem waitForUpdate_with_room {limit : Rat} (checked : p.settings.Checked)
    (room : p.settings.pollInterval < p.settings.waitTimeout) (fine : p.clock.Fine limit)
    (reach : |s.now| + 7201 ≤ limit) (found : p.FindsSuccessful name h.id s.world) :
    ∃ t c, p.waitForUpdate name h s = (.done (), t) ∧ t.world.calls = s.world.calls ++ [c] ∧
      c.request = .describeUpdate name h.id := by
  obtain ⟨positive, -, timeout⟩ := checked.times
  let w := p.waitFor name h
  have hi : (0 : Rat) ≤ w.interval := by
    show (0 : Rat) ≤ (p.settings.pollInterval : Rat)
    exact_mod_cast (by omega : 0 ≤ p.settings.pollInterval)
  have hw : w.interval + 1 ≤ w.timeout := by
    show (p.settings.pollInterval : Rat) + 1 ≤ (p.settings.waitTimeout : Rat)
    exact_mod_cast room
  have hl : w.timeout ≤ 7200 := by
    show (p.settings.waitTimeout : Rat) ≤ 7200
    exact_mod_cast timeout
  obtain ⟨time, calls, inTime⟩ := Wait.exists_calls fine hi hw (by linarith)
  obtain ⟨next, polled⟩ := poll_of_findsSuccessful found time
  obtain ⟨c, request, -, made⟩ := poll_call polled
  have ended := Wait.ended_run_of_settles calls polled
    ⟨show Wait.Asked.arrival? _ _ = some time by simp [Wait.Asked.arrival?], inTime⟩
    (.success (Value.same_text_iff.2 rfl))
  refine ⟨_, c, Prod.ext ?_ rfl, ?_, request⟩
  · show waited (w.run p.clock (p.poll name h.id) s.world s.now).result? = _
    rw [ended.result?]
    rfl
  · show (w.run p.clock (p.poll name h.id) s.world s.now).source.calls = _
    rw [ended.source, made]

/-- An interval that is one second shorter than the timeout is short enough. -/
theorem waitForUpdate_with_room_of_second :
    let p : Provider Simulated.State :=
      ⟨Simulated.cloud, .binary64, { Settings.forRegion "eu-west-1" with waitTimeout := 21 }⟩
    let update : Simulated.Update := ⟨"u-1", "eu-west-1", "demo", .version "1.29", 0,
      .text "Successful", .text "Successful"⟩
    let account := Account.new ⟨[], [update], 0, .text "Successful", [], [], []⟩
    let h : Handle := ⟨.text "u-1", .text "VersionUpdate", .text "InProgress"⟩
    (p.settings.Checked ∧ p.settings.pollInterval < p.settings.waitTimeout ∧
        p.clock.Fine (2 ^ 50) ∧ |(3 : Rat)| + 7201 ≤ 2 ^ 50 ∧
        p.FindsSuccessful "demo" h.id account) ∧
      ∃ t c, p.waitForUpdate "demo" h ⟨3, account, []⟩ = (.done (), t) ∧
        t.world.calls = account.calls ++ [c] ∧ c.request = .describeUpdate "demo" h.id := by
  intro p update account h
  have checked : p.settings.check = .ok p.settings := by decide +kernel
  have room : p.settings.pollInterval < p.settings.waitTimeout := by decide
  have reach : |(3 : Rat)| + 7201 ≤ 2 ^ 50 := by norm_num
  have found : p.FindsSuccessful "demo" h.id account := fun now =>
    ⟨update.describe, account.cloud, rfl, by decide +kernel⟩
  exact ⟨⟨checked, room, Clock.fine_binary64, reach, found⟩,
    waitForUpdate_with_room (s := ⟨3, account, []⟩) checked room Clock.fine_binary64 reach found⟩

/-- With an interval as long as the timeout, on the exact clock, nothing is ever asked. -/
theorem waitForUpdate_without_room (exact : p.clock = .exact)
    (positive : 0 < p.settings.pollInterval)
    (same : p.settings.pollInterval = p.settings.waitTimeout) :
    ∃ t, p.waitForUpdate name h s
        = (.failed (.operationTimeout name p.settings.waitTimeout), t) ∧
      t.world = s.world := by
  let w := p.waitFor name h
  have interval : w.interval = w.timeout := congrArg Int.cast same
  have timeout : 0 < w.interval := by
    show (0 : Rat) < (p.settings.pollInterval : Rat)
    exact_mod_cast positive
  have woken : w.wake .exact (s.now + w.timeout) s.now = s.now + w.timeout := by
    rcases Wait.wake_exact w s.now (s.now + w.timeout) with ⟨hw, -⟩ | ⟨hw, -⟩
    · rw [hw, interval]
    · exact hw
  have expires : Wait.Expires w .exact (s.now + w.timeout) s.now (s.now + w.timeout) := by
    have after : Wait.Expires w .exact (s.now + w.timeout) s.now
        (w.wake .exact (s.now + w.timeout) s.now) :=
      .after (by rw [Clock.span_exact]; linarith) (by rw [woken, Clock.span_exact]; linarith)
    rwa [woken] at after
  have ended : Wait.Ended (w.run .exact (p.poll name h.id) s.world s.now) [] s.world _ _ :=
    Wait.ended_run_of_expires expires
  have elapsed : w.expiry .exact s.now (s.now + w.timeout)
      = .failed (.operationTimeout name p.settings.waitTimeout) := by
    rw [Wait.expiry, Clock.span_exact, add_sub_cancel_left]
    rfl
  refine ⟨_, Prod.ext ?_ rfl, ?_⟩
  · show waited (w.run p.clock (p.poll name h.id) s.world s.now).result? = _
    rw [exact, ended.result?, elapsed]
    rfl
  · show (w.run p.clock (p.poll name h.id) s.world s.now).source = _
    rw [exact, ended.source]

/-- With double precision it is the same: an update that is successful already is reported as one
that takes too long. -/
theorem waitForUpdate_without_room_of_equal :
    let p : Provider Simulated.State :=
      ⟨Simulated.cloud, .binary64, { Settings.forRegion "eu-west-1" with waitTimeout := 20 }⟩
    let update : Simulated.Update := ⟨"u-1", "eu-west-1", "demo", .version "1.29", 0,
      .text "Successful", .text "Successful"⟩
    let account := Account.new ⟨[], [update], 0, .text "Successful", [], [], []⟩
    let h : Handle := ⟨.text "u-1", .text "VersionUpdate", .text "InProgress"⟩
    p.settings.Checked ∧ p.FindsSuccessful "demo" h.id account ∧
      (p.waitForUpdate "demo" h ⟨0, account, []⟩).1 = .failed (.operationTimeout "demo" 20) ∧
      (p.waitForUpdate "demo" h ⟨0, account, []⟩).2.world.calls = [] := by
  intro p update account h
  have found : p.FindsSuccessful "demo" h.id account := fun now =>
    ⟨update.describe, account.cloud, rfl, by decide +kernel⟩
  have checked : p.settings.check = .ok p.settings := by decide +kernel
  exact ⟨checked, found, by decide +kernel, by decide +kernel⟩

end Provider

end ClusterOps
