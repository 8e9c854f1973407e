import MultiCluster.Proofs.Delete.Cancellation
import MultiCluster.Proofs.Lifecycle.Creation
import MultiCluster.Proofs.Update.Stored

namespace MultiCluster

def writeCalls (calls : List Call) : List Call := calls.filter fun c => !c.effect.isRead

theorem writeCalls_cons (c : Call) (calls : List Call) :
    writeCalls (c :: calls) = writeCalls [c] ++ writeCalls calls :=
  List.filter_append [c] calls

theorem writeCalls_eq_nil {calls : List Call} (h : writes calls = []) : writeCalls calls = [] :=
  List.map_eq_nil_iff.mp h

namespace Plan

variable {σ α β : Type} {later : Plan α → Prop} {p : Plan α}

def Until (later : Plan α → Prop) : Plan α → Prop
  | done _ => True
  | call _ next => ∀ answer, (next answer).Until later
  | await request next => later (await request next)
  | settle pause next => later (settle pause next)

def Prompt (p : Plan α) : Prop := p.Until fun _ => False

def WritesFirst (p : Plan α) : Prop := p.Until fun rest => rest.Performs (fun effect => effect) []

theorem prompt_done (result : Except LifecycleError α) : (done result).Prompt := trivial

theorem Prompt.bind {p : Plan β} {f : β → Plan α} (hp : p.Prompt) (hf : ∀ b, (f b).Until later) :
    (p.bind f).Until later := by
  induction p with
  | done result =>
    cases result with
    | ok b => exact hf b
    | error e => trivial
  | call effect next ih => exact fun answer => ih answer (hp answer)
  | await request next ih => exact hp.elim
  | settle pause next ih => exact hp.elim

theorem until_perform {effect : Effect} {f : Response → Plan α} (hf : ∀ r, (f r).Until later) :
    ((perform effect).bind f).Until later := by
  rw [perform_bind]
  intro answer
  cases answer with
  | ok r => exact hf r
  | error e => trivial

theorem prompt_when (condition : Bool) {p : Plan Unit} (hp : p.Prompt) :
    (Plan.when condition p).Prompt := by
  cases condition with
  | true => exact hp
  | false => trivial

theorem writesFirst_of_performs (hp : p.Performs (fun effect => effect) []) : p.WritesFirst := by
  induction p with
  | done result => trivial
  | call effect next ih =>
    intro answer
    rw [Performs] at hp
    split at hp
    · exact ih answer (hp answer)
    · obtain ⟨rest, hrest, -⟩ := hp
      exact absurd hrest (List.cons_ne_nil _ _).symm
  | await request next ih => exact hp
  | settle pause next ih => exact hp

theorem writeCalls_of_performs (hp : p.Performs (fun effect => effect) []) (s : Setting σ) (w : World σ) :
    writeCalls (p.run s w).calls = [] :=
  writeCalls_eq_nil (hp.writes_eq_nil s w)

variable {s other : Setting σ}

theorem Prompt.run_eq (hp : p.Prompt) (hapi : s.api = other.api) (w : World σ) :
    p.run s w = p.run other w := by
  induction p generalizing w with
  | done result => rfl
  | call effect next ih =>
    rw [run, run, hapi]
    simp only [ih _ (hp _)]
  | await request next ih => exact hp.elim
  | settle pause next ih => exact hp.elim

theorem WritesFirst.writeCalls_eq (hp : p.WritesFirst) (hapi : s.api = other.api) (w : World σ) :
    writeCalls (p.run s w).calls = writeCalls (p.run other w).calls := by
  induction p generalizing w with
  | done result => rfl
  | call effect next ih =>
    rw [run, run, hapi]
    simp only
    rw [writeCalls_cons, ih _ (hp _), ← writeCalls_cons]
  | await request next ih =>
    rw [writeCalls_of_performs hp s w, writeCalls_of_performs hp other w]
  | settle pause next ih =>
    rw [writeCalls_of_performs hp s w, writeCalls_of_performs hp other w]

end Plan

namespace Lifecycle

open Plan

variable {σ : Type} {settings : Settings} {spec : Spec} {later : Plan AppRecord → Prop}

theorem prompt_versionOrLatest (version : Option String) (catalog template : String) :
    (versionOrLatest version catalog template).Prompt := by
  cases version with
  | some version => trivial
  | none =>
    rw [versionOrLatest, resolveLatest_eq]
    intro answer
    cases answer with
    | ok response => exact (prompt_done _).bind fun _ => trivial
    | error e => trivial

theorem prompt_readFound (id : AppId) (declared : Option Spec) (app : App) :
    (readFound id declared app).Prompt := by
  refine until_perform fun response => ?_
  refine (prompt_done _).bind fun version => ?_
  exact (prompt_done _).bind fun catalog => trivial

theorem prompt_read (id : AppId) (declared : Option Spec) : (read id declared).Prompt := by
  rw [read_eq]
  intro answer
  cases answer with
  | ok response =>
    refine (prompt_done _).bind fun app => ?_
    exact (prompt_readFound id declared app).bind fun _ => trivial
  | error e => cases habsent : e.isAbsent <;> simp [habsent, Until]

theorem prompt_readBack (id : AppId) (declared : Spec) : (readBack id declared).Prompt := by
  refine (prompt_read id (some declared)).bind fun found => ?_
  cases found <;> trivial

theorem prompt_conclude {id : AppId} {timeout : Duration} {operation : String}
    (hwait : spec.wait = false) : (conclude settings id timeout operation spec).Prompt := by
  rw [conclude, hwait]
  exact prompt_readBack id spec

theorem create_until
    (hrest : ∀ id, (conclude settings id settings.timeouts.create "create" spec).Until later) :
    (create settings spec).Until later := by
  rw [create_eq]
  refine (prompt_done _).bind fun _ => ?_
  refine (prompt_versionOrLatest _ _ _).bind fun version => ?_
  refine until_perform fun response => ?_
  refine (prompt_done _).bind fun created => ?_
  cases created.id with
  | none => trivial
  | some id => exact hrest id

section Update

variable {prior : AppRecord} {desired : Spec}

theorem prompt_updateFields : (updateFields prior desired).Prompt := by
  refine (prompt_versionOrLatest _ _ _).bind fun version => ?_
  refine until_perform fun response => ?_
  exact (prompt_done _).bind fun _ => trivial

theorem prompt_act (effect : Effect) : (act effect).Prompt := until_perform fun _ => trivial

theorem prompt_applyMode (remote : App) (mode : UpdateMode) :
    (applyMode prior desired remote mode).Prompt := by
  cases mode with
  | rollback revision => exact prompt_act _
  | mutateTargets answersChanged =>
    rw [applyMode, mutateTargets_eq]
    refine (prompt_when _ (prompt_act _)).bind fun _ => ?_
    refine (prompt_when _ (prompt_act _)).bind fun _ => ?_
    exact prompt_when _ prompt_updateFields
  | updateFields => exact prompt_updateFields

theorem prompt_applyChanges : (applyChanges prior desired).Prompt := by
  refine (prompt_done _).bind fun _ => ?_
  have hlook : (getApp prior.id).Prompt := until_perform fun _ => trivial
  exact hlook.bind fun remote => prompt_applyMode remote _

theorem update_until
    (hrest : (conclude settings prior.id settings.timeouts.update "update" desired).Until later) :
    (update settings prior desired).Until later := by
  rw [update_eq_conclude]
  exact prompt_applyChanges.bind fun _ => hrest

end Update

theorem performs_awaitChildren (targets : List Target) :
    (awaitChildren settings targets).Performs (fun effect => effect) [] := by
  induction targets with
  | nil => rfl
  | cons target rest ih =>
    rw [awaitChildren_cons]
    cases target.instanceId with
    | none => exact ih
    | some instanceId => exact fun result => ih.bind_of_nil fun _ => rfl

theorem writesFirst_delete (id : AppId) : (delete settings id).WritesFirst := by
  rw [delete_eq]
  intro answer
  cases answer with
  | ok response =>
    refine (prompt_done _).bind fun app => ?_
    refine until_perform fun response => ?_
    refine (prompt_done _).bind fun _ => writesFirst_of_performs ?_
    refine (performs_converge settings id .removed _ _).bind_of_nil fun _ => ?_
    exact (performs_awaitChildren app.targets).bind_of_nil fun _ => rfl
  | error e => cases habsent : e.isAbsent <;> simp [habsent, Until]

theorem cancellation_changes_no_write (s : Setting σ) (c : Nat) (settings : Settings) (w : World σ) :
    let cancelled := s.cancelledAt c
    let whole := s.neverCancelled
    (∀ spec, let plan := create settings spec
      writeCalls (plan.run cancelled w).calls = writeCalls (plan.run whole w).calls ∧
        (spec.wait = false → plan.run cancelled w = plan.run whole w)) ∧
    (∀ prior desired, let plan := update settings prior desired
      writeCalls (plan.run cancelled w).calls = writeCalls (plan.run whole w).calls ∧
        (desired.wait = false → plan.run cancelled w = plan.run whole w)) ∧
    (∀ id declared, (read id declared).run cancelled w = (read id declared).run whole w) ∧
    ∀ id, writeCalls ((delete settings id).run cancelled w).calls =
      writeCalls ((delete settings id).run whole w).calls := by
  intro cancelled whole
  have hapi : cancelled.api = whole.api := rfl
  refine ⟨fun spec => ⟨?_, fun hwait => ?_⟩, fun prior desired => ⟨?_, fun hwait => ?_⟩,
    fun id declared => (prompt_read id declared).run_eq hapi w,
    fun id => (writesFirst_delete id).writeCalls_eq hapi w⟩
  · have hplan : (create settings spec).WritesFirst :=
      create_until fun id => writesFirst_of_performs (performs_conclude settings id _ _ spec)
    exact hplan.writeCalls_eq hapi w
  · have hplan : (create settings spec).Prompt := create_until fun id => prompt_conclude hwait
    exact hplan.run_eq hapi w
  · have hplan : (update settings prior desired).WritesFirst :=
      update_until (writesFirst_of_performs (performs_conclude settings prior.id _ _ desired))
    exact hplan.writeCalls_eq hapi w
  · have hplan : (update settings prior desired).Prompt := update_until (prompt_conclude hwait)
    exact hplan.run_eq hapi w

open Sample in
theorem cancellation_changes_no_write_amid_wait :
    let s : Setting Store := ⟨Store.api, none, 2⟩
    let w : World Store := ⟨lagging, 0⟩
    let cancelled := (create .standard wanted).run (s.cancelledAt (nanosPerSecond / 2)) w
    let whole := (create .standard wanted).run s.neverCancelled w
    cancelled.result = some (.error (.wait ⟨"mcapp-1"⟩ "create" .cancelled)) ∧
      (writeCalls whole.calls).length = 1 ∧ writeCalls cancelled.calls = writeCalls whole.calls := by
  intro s w cancelled whole
  obtain ⟨hcreate, -⟩ :=
    cancellation_changes_no_write s (nanosPerSecond / 2) .standard w
  exact ⟨by decide +kernel, by decide +kernel, (hcreate wanted).1⟩

end Lifecycle

end MultiCluster
