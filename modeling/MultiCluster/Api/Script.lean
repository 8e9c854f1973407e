import MultiCluster.Polling.Source

namespace MultiCluster

structure ScriptEntry (ρ : Type) where
  answer : ρ
  latency : Nat
  deriving DecidableEq, Repr

structure Script (ρ : Type) where
  entries : List (ScriptEntry ρ)
  repeatsLast : Bool
  deriving DecidableEq, Repr

namespace Script

variable {ρ : Type}

def take (exhausted : ρ) (s : Script ρ) : Reply (Script ρ) ρ :=
  match s.entries with
  | [] => ⟨exhausted, 0, s⟩
  | [last] => ⟨last.answer, last.latency, if s.repeatsLast then s else { s with entries := [] }⟩
  | entry :: rest => ⟨entry.answer, entry.latency, { s with entries := rest }⟩

def exhaustedError : ApiError := .transport "script exhausted" []

def api : Api (Script Answered) where
  respond _ := take (.error exhaustedError)

def source (name : String) : Source (Script (Except ApiError Observation)) (Except ApiError Observation) :=
  ⟨name, take (.error exhaustedError), fun answer => answer⟩

theorem mem_of_mem_take {exhausted : ρ} {s : Script ρ} {entry : ScriptEntry ρ}
    (h : entry ∈ (take exhausted s).state.entries) : entry ∈ s.entries := by
  unfold take at h
  split at h
  · exact h
  · split at h
    · exact h
    · exact absurd h List.not_mem_nil
  · rename_i heq
    rw [heq]
    exact List.mem_cons_of_mem _ h

theorem latency_take {exhausted : ρ} {s : Script ρ} {kept : Nat → Prop}
    (h : ∀ entry ∈ s.entries, kept entry.latency) (hzero : kept 0) :
    kept (take exhausted s).latency := by
  unfold take
  split
  · exact hzero
  · rename_i heq
    exact h _ (heq ▸ List.mem_cons_self)
  · rename_i heq
    exact h _ (heq ▸ List.mem_cons_self)

end Script

end MultiCluster
