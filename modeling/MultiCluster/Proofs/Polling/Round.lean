import MultiCluster.Polling.Wait

namespace MultiCluster

namespace PollConfig

def Pauses (c : PollConfig) : Prop := 0 < (c.nextInterval c.delay).nanos

instance (c : PollConfig) : Decidable c.Pauses := inferInstanceAs (Decidable (0 < _))

theorem nanos_nextInterval (c : PollConfig) (d : Duration) : (c.nextInterval d).nanos =
    min (max (min (2 * d.nanos) Duration.maxNanos) c.minInterval.nanos)
      (max c.minInterval.nanos c.maxInterval.nanos) := by
  simp only [nextInterval, ceiling, Duration.nanos_min, Duration.nanos_max, Duration.nanos_double]

theorem pauses_iff {c : PollConfig} :
    c.Pauses ↔ 0 < c.minInterval.nanos ∨ 0 < c.delay.nanos ∧ 0 < c.maxInterval.nanos := by
  rw [Pauses, nanos_nextInterval, Duration.maxNanos]
  omega

theorem Pauses.nextInterval_pos {c : PollConfig} (h : c.Pauses) {d : Duration} (hd : 0 < d.nanos) :
    0 < (c.nextInterval d).nanos := by
  rw [pauses_iff] at h
  rw [nanos_nextInterval, Duration.maxNanos]
  omega

end PollConfig

namespace WaitTerms

variable (t : WaitTerms) (object : String) (p : Progress) (now : Nat) (interval : Duration)

def Due : Prop := ∃ deadline ∈ t.deadline, deadline ≤ now

instance : Decidable (t.Due now) := inferInstanceAs (Decidable (∃ deadline ∈ t.deadline, deadline ≤ now))

def wakeAt : Nat :=
  Clock.wake now (t.deadline.elim interval.nanos fun deadline => min interval.nanos (deadline - now))

theorem pause_eq : t.pause object p now interval =
    if t.Due now then .over (.error (t.timedOut object p)) now
    else match Clock.cancelledBy t.cancelAt (t.wakeAt now interval) with
      | some c => .over (.error .cancelled) c
      | none =>
        if t.Due (t.wakeAt now interval) then
          .over (.error (t.timedOut object p)) (t.wakeAt now interval)
        else .next (t.wakeAt now interval) := by
  cases hdeadline : t.deadline with
  | none =>
    have hdue (now : Nat) : ¬ t.Due now := by simp [Due, hdeadline]
    have hwake : t.wakeAt now interval = Clock.wake now interval.nanos := by
      simp only [wakeAt, hdeadline, Option.elim_none]
    rw [if_neg (hdue now), if_neg (hdue _), hwake]
    cases hcancel : Clock.cancelledBy t.cancelAt (Clock.wake now interval.nanos) with
    | none => simp only [pause, hdeadline, hcancel]
    | some c => simp only [pause, hdeadline, hcancel]
  | some deadline =>
    have hdue (now : Nat) : t.Due now ↔ deadline ≤ now := by simp [Due, hdeadline]
    have hwake : t.wakeAt now interval = Clock.wake now (min interval.nanos (deadline - now)) := by
      simp only [wakeAt, hdeadline, Option.elim_some]
    by_cases hlate : deadline ≤ now
    · rw [if_pos ((hdue now).mpr hlate)]
      simp only [pause, hdeadline, hlate, ↓reduceIte]
    · rw [if_neg (mt (hdue now).mp hlate), hwake]
      cases hcancel : Clock.cancelledBy t.cancelAt
          (Clock.wake now (min interval.nanos (deadline - now))) with
      | none => simp only [pause, hdeadline, hlate, hcancel, hdue, ↓reduceIte]
      | some c => simp only [pause, hdeadline, hlate, hcancel, ↓reduceIte]

variable {t object p now interval}

theorem not_due_iff : ¬ t.Due now ↔ ∀ deadline ∈ t.deadline, now < deadline := by
  simp [Due]

theorem le_wakeAt : now ≤ t.wakeAt now interval := Clock.le_wake _ _

theorem lt_wakeAt (hdue : ¬ t.Due now) (hpos : 0 < interval.nanos) :
    now < t.wakeAt now interval := by
  rw [not_due_iff] at hdue
  unfold wakeAt
  cases hdeadline : t.deadline with
  | none => exact Clock.lt_wake now hpos
  | some deadline =>
    have hbefore := hdue deadline hdeadline
    exact Clock.lt_wake now (Nat.lt_min.mpr ⟨hpos, by omega⟩)

theorem wakeAt_le {deadline : Nat} (hdeadline : t.deadline = some deadline) (hbefore : now ≤ deadline) :
    t.wakeAt now interval ≤ Clock.roundUp deadline := by
  refine Clock.roundUp_mono ?_
  simp only [hdeadline, Option.elim_some, Clock.paused]
  omega

theorem pause_over {result : Except PollError String} {endedAt : Nat}
    (hcancel : ∀ c ∈ t.cancelAt, now < c) (h : t.pause object p now interval = .over result endedAt) :
    now ≤ endedAt ∧ ∀ deadline ∈ t.deadline, now ≤ deadline → endedAt ≤ Clock.roundUp deadline := by
  rw [pause_eq] at h
  split at h
  · obtain ⟨-, rfl⟩ := Pause.over.inj h
    exact ⟨Nat.le_refl _, fun deadline _ hbefore => Nat.le_trans hbefore (Clock.le_roundUp deadline)⟩
  split at h
  · rename_i c hc
    obtain ⟨-, rfl⟩ := Pause.over.inj h
    obtain ⟨hc, hle⟩ := Clock.cancelledBy_eq_some_iff.mp hc
    exact ⟨Nat.le_of_lt (hcancel c hc), fun deadline hdeadline hbefore =>
      Nat.le_trans hle (wakeAt_le hdeadline hbefore)⟩
  split at h
  · obtain ⟨-, rfl⟩ := Pause.over.inj h
    exact ⟨le_wakeAt, fun deadline hdeadline hbefore => wakeAt_le hdeadline hbefore⟩
  · exact absurd h (by simp)

theorem result_of_pause_over {result : Except PollError String} {endedAt : Nat}
    (h : t.pause object p now interval = .over result endedAt) :
    result = .error (t.timedOut object p) ∨ result = .error .cancelled := by
  rw [pause_eq] at h
  split at h
  · exact .inl (Pause.over.inj h).1.symm
  split at h
  · exact .inr (Pause.over.inj h).1.symm
  split at h
  · exact .inl (Pause.over.inj h).1.symm
  · exact absurd h (by simp)

theorem pause_next {wakeAt : Nat} (h : t.pause object p now interval = .next wakeAt) :
    now ≤ wakeAt ∧ (0 < interval.nanos → now < wakeAt) ∧ ∀ deadline ∈ t.deadline, wakeAt < deadline := by
  rw [pause_eq] at h
  split at h
  · exact absurd h (by simp)
  rename_i hdue
  split at h
  · exact absurd h (by simp)
  split at h
  · exact absurd h (by simp)
  rename_i hwake
  obtain rfl := Pause.next.inj h
  exact ⟨le_wakeAt, lt_wakeAt hdue, not_due_iff.mp hwake⟩

inductive Ends (t : WaitTerms) (object : String) (p : Progress) :
    Except ApiError Observation → Except PollError String → Prop
  | failed (e : ApiError) : Ends t object p (.error e) (.error (.fetch e))
  | removed (hremoval : t.states.acceptsRemoval = true) : Ends t object p (.ok .gone) (.ok State.removed)
  | missed (hstays : t.states.acceptsRemoval = false) (hchecks : t.config.notFoundChecks < p.misses + 1) :
    Ends t object p (.ok .gone) (.error (.notFound object (p.misses + 1)))
  | reached {state : String} (htarget : t.states.isTarget state = true) :
    Ends t object p (.ok (.status state)) (.ok state)
  | unexpected {state : String} (htarget : t.states.isTarget state = false)
    (hpending : t.states.isPending state = false) :
    Ends t object p (.ok (.status state))
      (.error (.unexpectedState object state (t.states.pending ++ t.states.target)))

inductive GoesOn (t : WaitTerms) (p : Progress) : Except ApiError Observation → Progress → Prop
  | missed (hstays : t.states.acceptsRemoval = false) (hchecks : p.misses + 1 ≤ t.config.notFoundChecks) :
    GoesOn t p (.ok .gone) { p with misses := p.misses + 1 }
  | waiting {state : String} (htarget : t.states.isTarget state = false)
    (hpending : t.states.isPending state = true) : GoesOn t p (.ok (.status state)) ⟨some state, 0⟩

variable {observed : Except ApiError Observation} {result : Except PollError String} {next : Progress}

theorem ends_of_judge (h : t.judge object p observed = .ended result) : t.Ends object p observed result := by
  cases observed with
  | error e =>
    obtain rfl := Verdict.ended.inj h
    exact .failed e
  | ok observation =>
    cases observation with
    | gone =>
      simp only [judge, judgeObservation] at h
      split at h
      · rename_i hremoval
        obtain rfl := Verdict.ended.inj h
        exact .removed hremoval
      rename_i hstays
      split at h
      · rename_i hchecks
        obtain rfl := Verdict.ended.inj h
        exact .missed (Bool.eq_false_iff.mpr hstays) hchecks
      · exact absurd h (by simp)
    | status state =>
      simp only [judge, judgeObservation] at h
      split at h
      · rename_i htarget
        obtain rfl := Verdict.ended.inj h
        exact .reached htarget
      rename_i htarget
      split at h
      · exact absurd h (by simp)
      · rename_i hpending
        obtain rfl := Verdict.ended.inj h
        exact .unexpected (Bool.eq_false_iff.mpr htarget) (Bool.eq_false_iff.mpr hpending)

theorem goesOn_of_judge (h : t.judge object p observed = .pending next) : t.GoesOn p observed next := by
  cases observed with
  | error e => exact absurd h (by simp [judge])
  | ok observation =>
    cases observation with
    | gone =>
      simp only [judge, judgeObservation] at h
      split at h
      · exact absurd h (by simp)
      rename_i hstays
      split at h
      · exact absurd h (by simp)
      · rename_i hchecks
        obtain rfl := Verdict.pending.inj h
        exact .missed (Bool.eq_false_iff.mpr hstays) (UInt32.not_lt.mp hchecks)
    | status state =>
      simp only [judge, judgeObservation] at h
      split at h
      · exact absurd h (by simp)
      rename_i htarget
      split at h
      · rename_i hpending
        obtain rfl := Verdict.pending.inj h
        exact .waiting (Bool.eq_false_iff.mpr htarget) hpending
      · exact absurd h (by simp)

theorem Ends.observed_of_fetch {e : ApiError} (h : t.Ends object p observed (.error (.fetch e))) :
    observed = .error e := by
  cases h with
  | failed => rfl

end WaitTerms

def Pause.endedAt : Pause → Nat
  | .over _ endedAt => endedAt
  | .next wakeAt => wakeAt

inductive Round (σ ρ : Type) where
  | last (run : WaitRun σ ρ)
  | more (fetch : Fetch ρ) (progress : Progress) (state : σ) (wakeAt : Nat)

namespace Round

variable {σ ρ : Type} (fetch : Fetch ρ) (progress : Progress) (state : σ)

def endedAt : Round σ ρ → Nat
  | last run => run.endedAt
  | more _ _ _ wakeAt => wakeAt

def after : Round σ ρ → σ
  | last run => run.state
  | more _ _ state _ => state

def ofPause : Pause → Round σ ρ
  | .over result endedAt => last ⟨some result, [fetch], state, endedAt⟩
  | .next wakeAt => more fetch progress state wakeAt

theorem endedAt_ofPause (pause : Pause) :
    (ofPause fetch progress state pause).endedAt = pause.endedAt := by
  cases pause <;> rfl

theorem after_ofPause (pause : Pause) :
    (ofPause fetch progress state pause).after = state := by
  cases pause <;> rfl

end Round

def WaitRun.after {σ ρ : Type} (fetch : Fetch ρ) (run : WaitRun σ ρ) : WaitRun σ ρ :=
  { run with fetches := fetch :: run.fetches }

namespace Source

variable {σ ρ : Type} (s : Source σ ρ) (t : WaitTerms)

def onArrival (interval : Duration) (progress : Progress) (state : σ) (now : Nat) : Round σ ρ :=
  let reply := s.fetch state
  let fetch := ⟨now, some reply.answer⟩
  match t.judge s.name progress (s.observe reply.answer) with
  | .ended result => .last ⟨some result, [fetch], reply.state, now + reply.latency⟩
  | .pending progress =>
    .ofPause fetch progress reply.state (t.pause s.name progress (now + reply.latency) interval)

def round (interval : Duration) (progress : Progress) (state : σ) (now : Nat) : Round σ ρ :=
  match Clock.cancelledBy t.cancelAt now with
  | some _ => .last ⟨some (.error .cancelled), [], state, now⟩
  | none =>
    match Clock.cancelledBy t.cancelAt (now + (s.fetch state).latency) with
    | some c => .last ⟨some (.error .cancelled), [⟨now, none⟩], (s.fetch state).state, c⟩
    | none => s.onArrival t interval progress state now

variable {interval : Duration} {progress : Progress} {state : σ} {now : Nat}

theorem rounds_succ (left : Nat) : s.rounds t (left + 1) interval progress state now =
    match s.round t interval progress state now with
    | .last run => run
    | .more fetch progress state wakeAt =>
      (s.rounds t left (t.config.nextInterval interval) progress state wakeAt).after fetch := by
  simp only [rounds, round, onArrival]
  cases Clock.cancelledBy t.cancelAt now with
  | some c => rfl
  | none =>
    cases Clock.cancelledBy t.cancelAt (now + (s.fetch state).latency) with
    | some c => rfl
    | none =>
      cases t.judge s.name progress (s.observe (s.fetch state).answer) with
      | ended result => rfl
      | pending progress =>
        simp only
        rcases t.pause s.name progress (now + (s.fetch state).latency) interval with
          ⟨result, endedAt⟩ | ⟨wakeAt⟩
        · rfl
        · rfl

variable {s t}

theorem after_onArrival :
    (s.onArrival t interval progress state now).after = (s.fetch state).state := by
  simp only [onArrival]
  split
  · rfl
  · rw [Round.after_ofPause]

theorem after_round {round : Round σ ρ} (h : s.round t interval progress state now = round) :
    round.after = state ∨ round.after = (s.fetch state).state := by
  subst h
  simp only [Source.round]
  split
  · exact .inl rfl
  split
  · exact .inr rfl
  · exact .inr after_onArrival

theorem onArrival_last {run : WaitRun σ ρ}
    (hcancel : ∀ c ∈ t.cancelAt, now + (s.fetch state).latency < c)
    (h : s.onArrival t interval progress state now = .last run) :
    run.result ≠ none ∧ now + (s.fetch state).latency ≤ run.endedAt ∧
      run.fetches = [⟨now, some (s.fetch state).answer⟩] ∧
      ∀ deadline ∈ t.deadline, now + (s.fetch state).latency ≤ deadline →
        run.endedAt ≤ Clock.roundUp deadline := by
  simp only [onArrival] at h
  split at h
  · obtain rfl := Round.last.inj h
    exact ⟨by simp, Nat.le_refl _, rfl, fun deadline _ hbefore =>
      Nat.le_trans hbefore (Clock.le_roundUp deadline)⟩
  · rename_i next _
    rcases hpause : t.pause s.name next (now + (s.fetch state).latency) interval with
      ⟨result, endedAt⟩ | ⟨wakeAt⟩
    · rw [hpause] at h
      obtain rfl := Round.last.inj h
      obtain ⟨hafter, hdeadline⟩ := WaitTerms.pause_over hcancel hpause
      exact ⟨by simp, hafter, rfl, hdeadline⟩
    · rw [hpause] at h
      exact absurd h (by simp [Round.ofPause])

theorem round_last {run : WaitRun σ ρ} (h : s.round t interval progress state now = .last run) :
    run.result ≠ none ∧ now ≤ run.endedAt ∧
      (∀ fetch ∈ run.fetches, fetch.startedAt = now ∧ ∀ c ∈ t.cancelAt, now < c) ∧
      ((s.fetch state).latency = 0 →
        ∀ deadline ∈ t.deadline, now ≤ deadline → run.endedAt ≤ Clock.roundUp deadline) := by
  simp only [round] at h
  split at h
  · obtain rfl := Round.last.inj h
    exact ⟨by simp, Nat.le_refl _, by simp, fun _ deadline _ hbefore =>
      Nat.le_trans hbefore (Clock.le_roundUp deadline)⟩
  rename_i hnow
  rw [Clock.cancelledBy_eq_none_iff] at hnow
  split at h
  · rename_i c hc
    obtain rfl := Round.last.inj h
    obtain ⟨hc, hle⟩ := Clock.cancelledBy_eq_some_iff.mp hc
    refine ⟨by simp, Nat.le_of_lt (hnow c hc), by simpa using hnow,
      fun hinstant deadline _ hbefore => ?_⟩
    rw [hinstant, Nat.add_zero] at hle
    exact Nat.le_trans (Nat.le_trans hle hbefore) (Clock.le_roundUp deadline)
  rename_i harrival
  rw [Clock.cancelledBy_eq_none_iff] at harrival
  obtain ⟨hresult, hafter, hfetches, hdeadline⟩ := onArrival_last harrival h
  refine ⟨hresult, by omega, by simpa [hfetches] using hnow, fun hinstant deadline hd hbefore => ?_⟩
  exact hdeadline deadline hd (by omega)

theorem round_last_cases {run : WaitRun σ ρ} {result : Except PollError String}
    (h : s.round t interval progress state now = .last run) (hresult : run.result = some result) :
    result = .error .cancelled ∨ (∃ next, result = .error (t.timedOut s.name next)) ∨
      run.fetches = [⟨now, some (s.fetch state).answer⟩] ∧
        t.Ends s.name progress (s.observe (s.fetch state).answer) result := by
  simp only [round] at h
  split at h
  · obtain rfl := Round.last.inj h
    exact .inl (Option.some.inj hresult).symm
  split at h
  · obtain rfl := Round.last.inj h
    exact .inl (Option.some.inj hresult).symm
  simp only [onArrival] at h
  split at h
  · rename_i hjudge
    obtain rfl := Round.last.inj h
    obtain rfl := Option.some.inj hresult
    exact .inr (.inr ⟨rfl, WaitTerms.ends_of_judge hjudge⟩)
  · rename_i next _
    rcases hpause : t.pause s.name next (now + (s.fetch state).latency) interval with
      ⟨ended, endedAt⟩ | ⟨wakeAt⟩
    · rw [hpause] at h
      obtain rfl := Round.last.inj h
      obtain rfl := Option.some.inj hresult
      rcases WaitTerms.result_of_pause_over hpause with htime | hcancelled
      · exact .inr (.inl ⟨next, htime⟩)
      · exact .inl hcancelled
    · rw [hpause] at h
      exact absurd h (by simp [Round.ofPause])

theorem round_more_cases {fetch : Fetch ρ} {next : Progress} {after : σ} {wakeAt : Nat}
    (h : s.round t interval progress state now = .more fetch next after wakeAt) :
    (∀ c ∈ t.cancelAt, now < c) ∧ fetch = ⟨now, some (s.fetch state).answer⟩ ∧
      after = (s.fetch state).state ∧
      t.GoesOn progress (s.observe (s.fetch state).answer) next ∧
      t.pause s.name next (now + (s.fetch state).latency) interval = .next wakeAt := by
  simp only [round] at h
  split at h
  · exact absurd h (by simp)
  rename_i hnow
  split at h
  · exact absurd h (by simp)
  simp only [onArrival] at h
  split at h
  · exact absurd h (by simp)
  rename_i judged hjudge
  rcases hpause : t.pause s.name judged (now + (s.fetch state).latency) interval with
    ⟨result, endedAt⟩ | ⟨wakeAt⟩
  · rw [hpause] at h
    exact absurd h (by simp [Round.ofPause])
  · rw [hpause] at h
    obtain ⟨rfl, rfl, rfl, rfl⟩ := Round.more.inj h
    exact ⟨Clock.cancelledBy_eq_none_iff.mp hnow, rfl, rfl, WaitTerms.goesOn_of_judge hjudge, hpause⟩

theorem round_more {fetch : Fetch ρ} {next : Progress} {after : σ} {wakeAt : Nat}
    (h : s.round t interval progress state now = .more fetch next after wakeAt) :
    (fetch.startedAt = now ∧ ∀ c ∈ t.cancelAt, now < c) ∧ now ≤ wakeAt ∧
      (0 < interval.nanos → now < wakeAt) ∧ ∀ deadline ∈ t.deadline, wakeAt < deadline := by
  obtain ⟨hnow, rfl, -, -, hpause⟩ := round_more_cases h
  obtain ⟨hwake, hpos, hdeadline⟩ := WaitTerms.pause_next hpause
  refine ⟨⟨rfl, hnow⟩, by omega, fun h => ?_, hdeadline⟩
  have hmoved := hpos h
  omega

theorem observed_of_round_fetch {run : WaitRun σ ρ}
    (h : s.round t interval progress state now = .last run)
    {e : ApiError} (hfailed : run.result = some (.error (.fetch e))) :
    s.observe (s.fetch state).answer = .error e := by
  rcases round_last_cases h hfailed with hcancelled | ⟨_, htime⟩ | ⟨-, hends⟩
  · exact absurd hcancelled (by simp)
  · exact absurd htime (by simp [WaitTerms.timedOut])
  · exact hends.observed_of_fetch

theorem observed_of_rounds_fetch {left : Nat} {e : ApiError}
    (h : (s.rounds t left interval progress state now).result = some (.error (.fetch e))) :
    ∃ before, s.observe (s.fetch before).answer = .error e := by
  induction left generalizing interval progress state now with
  | zero => exact absurd h (by simp [rounds])
  | succ left ih =>
    rw [rounds_succ] at h
    cases hround : s.round t interval progress state now with
    | last run =>
      rw [hround] at h
      exact ⟨state, observed_of_round_fetch hround h⟩
    | more fetch next after wakeAt =>
      rw [hround] at h
      exact ih h

end Source

end MultiCluster
