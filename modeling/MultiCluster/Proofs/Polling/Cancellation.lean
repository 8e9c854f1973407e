import MultiCluster.Api.Script
import MultiCluster.Proofs.Polling.Passage

namespace MultiCluster

def WaitRun.starts {σ ρ : Type} (run : WaitRun σ ρ) : List Nat := run.fetches.map Fetch.startedAt

theorem WaitRun.starts_after {σ ρ : Type} (fetch : Fetch ρ) (run : WaitRun σ ρ) :
    (run.after fetch).starts = fetch.startedAt :: run.starts := rfl

namespace WaitTerms

variable (t : WaitTerms) (object : String) (p : Progress) (interval : Duration) {now c : Nat}

def neverCancelled : WaitTerms := { t with cancelAt := none }

def cancelledAt (c : Nat) : WaitTerms := { t with cancelAt := some c }

theorem pause_neverCancelled : t.neverCancelled.pause object p now interval =
    if t.Due now then .over (.error (t.timedOut object p)) now
    else if t.Due (t.wakeAt now interval) then
      .over (.error (t.timedOut object p)) (t.wakeAt now interval)
    else .next (t.wakeAt now interval) :=
  t.neverCancelled.pause_eq ..

theorem pause_cancelledAt_eq : (t.cancelledAt c).pause object p now interval =
    if t.Due now then .over (.error (t.timedOut object p)) now
    else match Clock.cancelledBy (some c) (t.wakeAt now interval) with
      | some c => .over (.error .cancelled) c
      | none => t.neverCancelled.pause object p now interval := by
  rw [pause_neverCancelled]
  by_cases hdue : t.Due now
  · rw [pause_eq, if_pos hdue]
    exact if_pos hdue
  · rw [pause_eq, if_neg hdue, if_neg hdue]
    exact if_neg hdue

theorem pause_cancelledAt (hbefore : now < c) : (t.cancelledAt c).pause object p now interval =
    if (t.neverCancelled.pause object p now interval).endedAt < c then
      t.neverCancelled.pause object p now interval
    else .over (.error .cancelled) c := by
  rw [pause_cancelledAt_eq]
  by_cases hdue : t.Due now
  · have hended : (t.neverCancelled.pause object p now interval).endedAt = now := by
      rw [pause_neverCancelled, if_pos hdue]
      rfl
    rw [if_pos hdue, hended, if_pos hbefore, pause_neverCancelled, if_pos hdue]
  · have hended : (t.neverCancelled.pause object p now interval).endedAt = t.wakeAt now interval := by
      rw [pause_neverCancelled, if_neg hdue]
      split <;> rfl
    rw [if_neg hdue, hended]
    by_cases hlate : t.wakeAt now interval < c
    · rw [if_pos hlate, Clock.cancelledBy_of_lt hlate]
    · rw [if_neg hlate, Clock.cancelledBy_of_le (Nat.le_of_not_lt hlate)]

end WaitTerms

namespace Source

variable {σ ρ : Type} {s : Source σ ρ} {t : WaitTerms} {interval : Duration} {progress : Progress}
  {state : σ} {now c : Nat}

theorem round_neverCancelled : s.round t.neverCancelled interval progress state now =
    s.onArrival t.neverCancelled interval progress state now := rfl

theorem le_endedAt_onArrival : now + (s.fetch state).latency ≤
    (s.onArrival t.neverCancelled interval progress state now).endedAt := by
  cases h : s.onArrival t.neverCancelled interval progress state now with
  | last run =>
    have hnever : ∀ c ∈ t.neverCancelled.cancelAt, now + (s.fetch state).latency < c := by
      simp [WaitTerms.neverCancelled]
    exact (onArrival_last hnever h).2.1
  | more fetch next after wakeAt =>
    obtain ⟨-, -, -, -, hpause⟩ := round_more_cases (t := t.neverCancelled) h
    exact (WaitTerms.pause_next hpause).1

theorem onArrival_cancelledAt (hbefore : now + (s.fetch state).latency < c) :
    s.onArrival (t.cancelledAt c) interval progress state now =
      if (s.onArrival t.neverCancelled interval progress state now).endedAt < c then
        s.onArrival t.neverCancelled interval progress state now
      else .last
        ⟨some (.error .cancelled), [⟨now, some (s.fetch state).answer⟩], (s.fetch state).state, c⟩ := by
  have hjudge : (t.cancelledAt c).judge s.name progress (s.observe (s.fetch state).answer) =
      t.neverCancelled.judge s.name progress (s.observe (s.fetch state).answer) := rfl
  cases hverdict : t.neverCancelled.judge s.name progress (s.observe (s.fetch state).answer) with
  | ended result => simp only [onArrival, hjudge, hverdict, Round.endedAt, hbefore, ↓reduceIte]
  | pending next =>
    simp only [onArrival, hjudge, hverdict, t.pause_cancelledAt s.name next interval hbefore,
      Round.endedAt_ofPause]
    split <;> rfl

variable (s t interval progress state) in
theorem round_cancelledAt (hbefore : now < c) : ∃ answer,
    s.round (t.cancelledAt c) interval progress state now =
      if (s.round t.neverCancelled interval progress state now).endedAt < c then
        s.round t.neverCancelled interval progress state now
      else .last ⟨some (.error .cancelled), [⟨now, answer⟩], (s.fetch state).state, c⟩ := by
  have hcancel : (t.cancelledAt c).cancelAt = some c := rfl
  by_cases harrival : now + (s.fetch state).latency < c
  · refine ⟨some (s.fetch state).answer, ?_⟩
    rw [round_neverCancelled, ← onArrival_cancelledAt harrival]
    simp only [round, hcancel, Clock.cancelledBy_of_lt hbefore, Clock.cancelledBy_of_lt harrival]
  · refine ⟨none, ?_⟩
    have hlate : ¬ (s.round t.neverCancelled interval progress state now).endedAt < c := fun h =>
      harrival (Nat.lt_of_le_of_lt le_endedAt_onArrival h)
    rw [if_neg hlate]
    simp only [round, hcancel, Clock.cancelledBy_of_lt hbefore,
      Clock.cancelledBy_of_le (Nat.le_of_not_lt harrival)]

theorem rounds_cancelledAt_late {left : Nat} (hleft : 0 < left) (hlate : c ≤ now) :
    s.rounds (t.cancelledAt c) left interval progress state now =
      ⟨some (.error .cancelled), [], state, now⟩ := by
  obtain ⟨left, rfl⟩ : ∃ n, left = n + 1 := ⟨left - 1, by omega⟩
  have hcancel : (t.cancelledAt c).cancelAt = some c := rfl
  simp only [rounds_succ, round, hcancel, Clock.cancelledBy_of_le hlate]

theorem starts_filter_eq_nil {left : Nat} (hlate : c ≤ now) :
    (s.rounds t left interval progress state now).starts.filter (· < c) = [] := by
  refine List.filter_eq_nil_iff.mpr fun start hstart => ?_
  obtain ⟨fetch, hfetch, rfl⟩ := List.mem_map.mp hstart
  have hfrom := (startedAt_of_mem_fetches hfetch).1
  simp only [decide_eq_true_eq]
  omega

theorem rounds_cancelledAt_of_lt (hbefore : now < c) {left : Nat}
    (h : (s.rounds t.neverCancelled left interval progress state now).endedAt < c) :
    s.rounds (t.cancelledAt c) left interval progress state now =
      s.rounds t.neverCancelled left interval progress state now := by
  induction left generalizing interval progress state now with
  | zero => rfl
  | succ left ih =>
    obtain ⟨answer, hround⟩ := round_cancelledAt s t interval progress state hbefore
    rw [if_pos (Nat.lt_of_le_of_lt (endedAt_round_le left) h)] at hround
    rw [rounds_succ] at h
    rw [rounds_succ, rounds_succ, hround]
    cases hwhole : s.round t.neverCancelled interval progress state now with
    | last run => rfl
    | more fetch next after wakeAt =>
      rw [hwhole] at h
      exact congrArg (WaitRun.after fetch) (ih (Nat.lt_of_le_of_lt (now_le_endedAt left) h) h)

theorem rounds_cancelledAt_of_le (hbefore : now < c) {left : Nat}
    (h : c ≤ (s.rounds t.neverCancelled left interval progress state now).endedAt) :
    let whole := s.rounds t.neverCancelled left interval progress state now
    let cut := s.rounds (t.cancelledAt c) left interval progress state now
    cut.result = some (.error .cancelled) ∧ cut.endedAt = c ∧
      cut.starts = whole.starts.filter (· < c) := by
  -- The round in which the cancellation comes is cut; all before it are the whole run's.
  induction left generalizing interval progress state now with
  | zero => exact absurd hbefore (Nat.not_lt.mpr h)
  | succ left ih =>
    obtain ⟨answer, hround⟩ := round_cancelledAt s t interval progress state hbefore
    have hconfig : (t.cancelledAt c).config = t.neverCancelled.config := rfl
    rw [rounds_succ] at h
    simp only [rounds_succ, hround, hconfig]
    cases hwhole : s.round t.neverCancelled interval progress state now with
    | last run =>
      have hfetches : run.fetches = [⟨now, some (s.fetch state).answer⟩] :=
        (onArrival_last (by simp [WaitTerms.neverCancelled]) hwhole).2.2.1
      rw [hwhole] at h
      simp only [Round.endedAt, Nat.not_lt.mpr h, ↓reduceIte]
      simp [WaitRun.starts, hfetches, hbefore]
    | more fetch next after wakeAt =>
      obtain ⟨⟨rfl, -⟩, -⟩ := round_more hwhole
      rw [hwhole] at h
      by_cases hwake : wakeAt < c
      · simp only [Round.endedAt, hwake, ↓reduceIte]
        obtain ⟨hresult, hended, hstarts⟩ := ih hwake h
        refine ⟨hresult, hended, ?_⟩
        rw [WaitRun.starts_after, WaitRun.starts_after, List.filter_cons_of_pos (by simpa using hbefore),
          ← hstarts]
      · simp only [Round.endedAt, hwake, ↓reduceIte, true_and]
        rw [WaitRun.starts_after, List.filter_cons_of_pos (by simpa using hbefore),
          starts_filter_eq_nil (Nat.le_of_not_lt hwake)]
        rfl

theorem wait_cancelledAt_late {limit : Nat} {start : σ} (hlimit : 0 < limit) (hlate : c ≤ t.startedAt) :
    s.wait (t.cancelledAt c) limit start = ⟨some (.error .cancelled), [], start, t.startedAt⟩ :=
  rounds_cancelledAt_late hlimit hlate

theorem wait_cancelledAt_of_lt {limit : Nat} {start : σ}
    (h : (s.wait t.neverCancelled limit start).endedAt < c) :
    s.wait (t.cancelledAt c) limit start = s.wait t.neverCancelled limit start :=
  rounds_cancelledAt_of_lt (Nat.lt_of_le_of_lt (now_le_endedAt limit) h) h

theorem wait_cancelledAt_of_le {limit : Nat} {start : σ} (hlimit : 0 < limit)
    (h : c ≤ (s.wait t.neverCancelled limit start).endedAt) :
    (s.wait (t.cancelledAt c) limit start).result = some (.error .cancelled) ∧
      (s.wait (t.cancelledAt c) limit start).endedAt = max t.startedAt c ∧
      (s.wait (t.cancelledAt c) limit start).starts =
        (s.wait t.neverCancelled limit start).starts.filter (· < c) := by
  rcases Nat.lt_or_ge t.startedAt c with hbefore | hlate
  · rw [Nat.max_eq_right (Nat.le_of_lt hbefore)]
    exact rounds_cancelledAt_of_le hbefore h
  · have hnone : (s.wait t.neverCancelled limit start).starts.filter (· < c) = [] :=
      starts_filter_eq_nil hlate
    rw [Nat.max_eq_left hlate, hnone, wait_cancelledAt_late hlimit hlate]
    exact ⟨rfl, rfl, rfl⟩

theorem wait_cancelled (s : Source σ ρ) (t : WaitTerms) (start : σ) (c : Nat) :
    let whole limit := s.wait t.neverCancelled limit start
    let cut limit := s.wait (t.cancelledAt c) limit start
    (∀ limit, (whole limit).endedAt < c → cut limit = whole limit) ∧
      (∀ limit > 0, c ≤ (whole limit).endedAt →
        (cut limit).result = some (.error .cancelled) ∧ (cut limit).endedAt = max t.startedAt c ∧
          (cut limit).starts = (whole limit).starts.filter (· < c)) ∧
      ((∃ limit > 0, (whole limit).result ≠ none ∨ c ≤ (whole limit).endedAt) ∨
        ¬ t.config.Pauses ∧ s.StandsStill t.neverCancelled start ∧
          ∀ limit, (cut limit).result = none) := by
  refine ⟨fun _ => wait_cancelledAt_of_lt, fun _ => wait_cancelledAt_of_le, ?_⟩
  by_cases hends : ∃ limit > 0, (s.wait t.neverCancelled limit start).result ≠ none ∨
      c ≤ (s.wait t.neverCancelled limit start).endedAt
  · exact .inl hends
  · have hopen (limit : Nat) (hlimit : 0 < limit) :
        (s.wait t.neverCancelled limit start).result = none ∧
          (s.wait t.neverCancelled limit start).endedAt < c := by
      simpa using fun h => hends ⟨limit, hlimit, h⟩
    have hstill : s.StandsStill t.neverCancelled start := standsStill_of_endedAt_lt hopen
    refine .inr ⟨fun hpauses => not_standsStill (t := t.neverCancelled) hpauses hstill, hstill,
      fun limit => ?_⟩
    cases limit with
    | zero => rfl
    | succ limit =>
      obtain ⟨hresult, hbefore⟩ := hopen (limit + 1) (Nat.succ_pos limit)
      exact (congrArg WaitRun.result (wait_cancelledAt_of_lt hbefore)).trans hresult

end Source

def PollConfig.restless : PollConfig := ⟨.zero, .zero, .zero, 20, .zero⟩

def WaitTerms.restless : WaitTerms := ⟨.active, .ofSeconds 60, .restless, 0, none⟩

def Script.starting : Script (Except ApiError Observation) := ⟨[⟨.ok (.status "starting"), 0⟩], true⟩

namespace Source

theorem restless_wait_outlasts_cancellation :
    let s := Script.source "app"
    let t := WaitTerms.restless
    let c := nanosPerSecond
    ∀ limit, (s.wait t.neverCancelled limit .starting).result = none ∧
      (s.wait t.neverCancelled limit .starting).endedAt = 0 ∧
      (s.wait (t.cancelledAt c) limit .starting).result = none := by
  intro s t c limit
  have hnever : t.neverCancelled = t := rfl
  have hwait : s.wait t limit .starting = s.rounds t limit .zero .start .starting 0 := rfl
  obtain ⟨hresult, hended⟩ : (s.rounds t limit .zero .start .starting 0).result = none ∧
      (s.rounds t limit .zero .start .starting 0).endedAt = 0 :=
    rounds_of_no_pauses rfl (by decide +kernel) (Nat.dvd_zero _) (by decide +kernel) rfl rfl
      (fun _ => ⟨⟨some "starting", 0⟩, rfl⟩) limit
  have hbefore : (s.wait t.neverCancelled limit .starting).endedAt < c := by
    rw [hnever, hwait, hended]
    decide
  rw [wait_cancelledAt_of_lt hbefore, hnever, hwait]
  exact ⟨hresult, hended, hresult⟩

end Source

end MultiCluster
