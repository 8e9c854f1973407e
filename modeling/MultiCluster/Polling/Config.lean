import MultiCluster.Dict
import MultiCluster.Duration
import MultiCluster.Text.Digits

namespace MultiCluster

structure PollConfig where
  delay : Duration
  minInterval : Duration
  maxInterval : Duration
  notFoundChecks : UInt32
  settleDelay : Duration
  deriving DecidableEq, Repr

structure Timeouts where
  create : Duration
  update : Duration
  delete : Duration
  deriving DecidableEq, Repr

abbrev Environment := Dict String

def Environment.seconds? (env : Environment) (name : String) : Option Duration :=
  (env.find? name).bind fun value =>
    (Text.readBelow Text.limit64 value.toList).map Duration.ofSeconds

namespace PollConfig

def standard : PollConfig where
  delay := .ofSeconds 1
  minInterval := .ofSeconds 3
  maxInterval := .ofSeconds 10
  notFoundChecks := 20
  settleDelay := .ofSeconds 5

def ofEnvironment (env : Environment) : PollConfig :=
  { standard with
    settleDelay := (env.seconds? "MCAPP_SETTLE_DELAY_SECS").getD standard.settleDelay }

def ceiling (c : PollConfig) : Duration := max c.minInterval c.maxInterval

def nextInterval (c : PollConfig) (previous : Duration) : Duration :=
  min (max previous.double c.minInterval) c.ceiling

def intervalsFrom (c : PollConfig) (interval : Duration) : Nat → List Duration
  | 0 => []
  | count + 1 => interval :: intervalsFrom c (c.nextInterval interval) count

def intervals (c : PollConfig) (count : Nat) : List Duration := c.intervalsFrom c.delay count

theorem minInterval_le_nextInterval (c : PollConfig) (d : Duration) :
    c.minInterval ≤ c.nextInterval d := by
  simp only [Duration.le_def, nextInterval, ceiling, Duration.nanos_min, Duration.nanos_max]
  omega

theorem nextInterval_le_ceiling (c : PollConfig) (d : Duration) :
    c.nextInterval d ≤ c.ceiling := by
  simp only [Duration.le_def, nextInterval, Duration.nanos_min]
  omega

theorem length_intervalsFrom (c : PollConfig) (d : Duration) (count : Nat) :
    (c.intervalsFrom d count).length = count := by
  induction count generalizing d with
  | zero => rfl
  | succ n ih => simp [intervalsFrom, ih]

end PollConfig

namespace Timeouts

def standard : Timeouts := ⟨.ofSeconds 600, .ofSeconds 600, .ofSeconds 600⟩

def ofEnvironment (env : Environment) : Timeouts where
  create := (env.seconds? "MCAPP_CREATE_TIMEOUT_SECS").getD standard.create
  update := (env.seconds? "MCAPP_UPDATE_TIMEOUT_SECS").getD standard.update
  delete := (env.seconds? "MCAPP_DELETE_TIMEOUT_SECS").getD standard.delete

end Timeouts

end MultiCluster
