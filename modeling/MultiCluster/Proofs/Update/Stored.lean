import Mathlib.Control.Monad.Basic
import MultiCluster.Proofs.Store.Replay
import MultiCluster.Proofs.Update.Word

namespace MultiCluster.Lifecycle

open Plan

variable {α : Type} {cancelAt : Option Nat} {limit : Nat}

def JustRead (prior : AppRecord) (s : Store) : Prop :=
  ∃ (cancelAt : Option Nat) (limit : Nat) (declared : Option Spec) (before : World Store),
    let run := (read prior.id declared).run (Store.setting cancelAt limit) before
    run.result = some (.ok (some prior)) ∧ run.world.remote = s

theorem read_eq (id : AppId) (declared : Option Spec) :
    read id declared = call (.getApp id) fun
      | .ok response => (checked (response.toApp "get multi-cluster app")).bind fun app =>
        (readFound id declared app).bind fun record => done (.ok (some record))
      | .error e => if e.isAbsent then done (.ok none) else done (.error (.api e)) := by
  simp only [read, bind_eq, findApp_bind]
  congr 1
  funext answer
  cases answer with
  | ok response =>
    simp only [readFound, bind_assoc, bind_eq, pure_eq, done_ok_bind]
  | error e => rfl

theorem record_of_readFound {σ : Type} {s : Setting σ} {id : AppId} {declared : Option Spec}
    {app : App} {w : World σ} {record : AppRecord}
    (h : ((readFound id declared app).run s w).result = some (.ok record)) :
    ∃ catalog, record = app.record id catalog declared := by
  obtain ⟨_, _, hversion⟩ := result_bind_ok h
  obtain ⟨_, _, hcatalog⟩ := result_bind_ok hversion
  obtain ⟨catalog, _, hdone⟩ := result_bind_ok hcatalog
  exact ⟨catalog, by simpa [run] using hdone.symm⟩

theorem performs_read (id : AppId) (declared : Option Spec) :
    (read id declared).Performs (fun effect => effect) [] := by
  rw [read_eq]
  refine performs_call_of_isRead rfl fun answer => ?_
  cases answer with
  | ok response =>
    refine (performs_checked _).bind_of_nil fun app => ?_
    exact (performs_readFound id declared app).bind_of_nil fun _ => rfl
  | error e =>
    simp only
    split
    · rfl
    · trivial

theorem read_stored {id : AppId} {declared : Option Spec} {w : World Store} {record : AppRecord}
    (h : ((read id declared).run (Store.setting cancelAt limit) w).result =
      some (.ok (some record))) :
    ∃ app catalog,
      ((read id declared).run (Store.setting cancelAt limit) w).world.remote.app? id = some app ∧
        record = app.record id catalog declared := by
  rw [Store.app?_run_of_reads (performs_read id declared)]
  rw [read_eq, Store.run_call] at h
  cases hreply : (w.remote.respond (.getApp id)).1 with
  | error e =>
    simp only [hreply] at h
    split at h <;> exact absurd h (by simp [run])
  | ok response =>
    rw [hreply] at h
    cases response with
    | app found =>
      obtain ⟨app, state, hstored, hfound⟩ := Store.respond_getApp_ok hreply
      obtain ⟨_, hread, hdone⟩ := result_bind_ok (p := readFound id declared found) h
      obtain rfl := Option.some.inj (Except.ok.inj (Option.some.inj hdone))
      obtain ⟨catalog, hrecord⟩ := record_of_readFound hread
      exact ⟨app, catalog, hstored, hrecord.trans (by rw [hfound]; rfl)⟩
    | _ => cases h

theorem JustRead.stored {prior : AppRecord} {s : Store} (h : JustRead prior s) :
    ∃ app catalog declared,
      s.app? prior.id = some app ∧ prior = app.record prior.id catalog declared := by
  obtain ⟨cancelAt, limit, declared, before, hread, rfl⟩ := h
  obtain ⟨app, catalog, hstored, hrecord⟩ := read_stored hread
  exact ⟨app, catalog, declared, hstored, hrecord⟩

theorem readBack_stored {id : AppId} {declared : Spec} {w : World Store} {record : AppRecord}
    (h : ((readBack id declared).run (Store.setting cancelAt limit) w).result = some (.ok record)) :
    ∃ app catalog,
      ((readBack id declared).run (Store.setting cancelAt limit) w).world.remote.app? id = some app ∧
        record = app.record id catalog (some declared) := by
  rw [Store.app?_run_of_reads (performs_readBack id declared)]
  obtain ⟨found, hread, hdone⟩ := result_bind_ok (p := read id (some declared)) h
  cases found with
  | none => exact absurd hdone (by simp [Plan.fail, run])
  | some other =>
    obtain rfl := Except.ok.inj (Option.some.inj hdone)
    obtain ⟨app, catalog, hstored, hrecord⟩ := read_stored hread
    rw [Store.app?_run_of_reads (performs_read id (some declared))] at hstored
    exact ⟨app, catalog, hstored, hrecord⟩

def deployedVersion (prior : AppRecord) (desired : Spec) : TemplateVersionId :=
  Naming.templateVersionId desired.catalog desired.template
    ((desired.version.or prior.spec.version).getD "")

def effectsOn (prior : AppRecord) (desired : Spec) (app : App) : List Effect :=
  modeWord (fun effect => effect) (.updateApp prior.id (desired.update (deployedVersion prior desired)))
    prior.id desired app (.ofChanges (.between prior.spec desired))

theorem change?_of_mem_modeWord {id : AppId} {fields : AppUpdate} {desired : Spec} {app : App}
    {mode : UpdateMode} {effect : Effect}
    (h : effect ∈ modeWord (fun effect => effect) (.updateApp id fields) id desired app mode) :
    ∃ change, effect.change? = some (id, change) := by
  cases mode with
  | rollback revision =>
    obtain rfl := List.mem_singleton.mp h
    exact ⟨_, rfl⟩
  | mutateTargets answersChanged =>
    rcases mem_targetWord h with rfl | rfl | rfl
    · exact ⟨_, rfl⟩
    · exact ⟨_, rfl⟩
    · exact ⟨_, rfl⟩
  | updateFields =>
    obtain rfl := List.mem_singleton.mp h
    exact ⟨_, rfl⟩

-- With no known version, only a view that does not tell versions apart can name the field update.
theorem viewed_writes_update {γ : Type} (cancelAt : Option Nat) (limit : Nat) (settings : Settings)
    (desired : Spec) {prior : AppRecord} (view : Effect → γ) (fields : γ)
    (hfields : ∀ version, (desired.version.or prior.spec.version).getD version = version →
      view (.updateApp prior.id (desired.update
        (Naming.templateVersionId desired.catalog desired.template version))) = fields)
    {w : World Store} {app : App} (hstored : w.remote.app? prior.id = some app) :
    let run := (update settings prior desired).run (Store.setting cancelAt limit) w
    let word := modeWord view fields prior.id desired app (.ofChanges (.between prior.spec desired))
    (writes run.calls).map view <+: word ∧
      ∀ record, run.result = some (.ok record) → (writes run.calls).map view = word := by
  intro run word
  rcases run_update (Store.setting cancelAt limit) settings prior desired w with
    ⟨e, hrun⟩ | ⟨remote, hreply, hrun⟩ | ⟨e, _, hrun⟩
  · simp only [run, hrun]
    exact ⟨List.nil_prefix, fun _ h => by simp at h⟩
  · obtain ⟨other, state, hother, hremote⟩ := Store.respond_getApp_ok hreply
    obtain rfl : app = other := Option.some.inj (hstored.symm.trans hother)
    have hword : modeWord view fields prior.id desired remote
        (.ofChanges (.between prior.spec desired)) = word := by
      rw [hremote]
      rfl
    have hperforms := performs_afterSnapshot view prior desired hfields settings remote
    rw [hword] at hperforms
    simp only [run, hrun]
    rw [writes_cons_of_isRead _ rfl]
    exact hperforms.writes_run (Store.setting cancelAt limit) _
  · simp only [run, hrun]
    rw [writes_cons_of_isRead _ rfl]
    exact ⟨List.nil_prefix, fun _ h => by simp at h⟩

section Stored

variable (cancelAt : Option Nat) (limit : Nat) (settings : Settings) (desired : Spec)
  {prior : AppRecord} {version : String}
  (hversion : prior.spec.version = some version)

include hversion

theorem writes_update {w : World Store} {app : App} (hstored : w.remote.app? prior.id = some app) :
    let run := (update settings prior desired).run (Store.setting cancelAt limit) w
    writes run.calls <+: effectsOn prior desired app ∧
      ∀ record, run.result = some (.ok record) → writes run.calls = effectsOn prior desired app := by
  have hfields (known : String)
      (hknown : (desired.version.or prior.spec.version).getD known = known) :
      Effect.updateApp prior.id (desired.update
          (Naming.templateVersionId desired.catalog desired.template known)) =
        .updateApp prior.id (desired.update (deployedVersion prior desired)) := by
    have hdeployed : (desired.version.or prior.spec.version).getD "" = known := by
      rw [hversion] at hknown ⊢
      cases hdesired : desired.version with
      | none => rwa [hdesired] at hknown
      | some v => rwa [hdesired] at hknown
    rw [deployedVersion, hdeployed]
  have hviewed := viewed_writes_update cancelAt limit settings desired (fun effect => effect)
    _ hfields hstored
  simp only [List.map_id'] at hviewed
  exact hviewed

theorem update_stored {w : World Store} {app : App} (hstored : w.remote.app? prior.id = some app) :
    let run := (update settings prior desired).run (Store.setting cancelAt limit) w
    run.world.remote.app? prior.id = some (Store.replay (accepted run.calls) app) ∧
      (∀ record, run.result = some (.ok record) →
        accepted run.calls = effectsOn prior desired app) ∧
      ∀ call ∈ run.calls, call.effect.isRead = false → call.succeeded = false →
        ∃ rest, effectsOn prior desired app = accepted run.calls ++ call.effect :: rest := by
  intro run
  obtain ⟨⟨rest, hbegin⟩, hall⟩ := writes_update cancelAt limit settings desired hversion hstored
  have hstrict := strict_update settings prior desired
  refine ⟨?_, fun record hok => ?_, fun call hcall hwrite hfailed => ⟨rest, ?_⟩⟩
  · have hfinal := Store.app?_run cancelAt limit (update settings prior desired) w prior.id
      fun effect heffect =>
        change?_of_mem_modeWord (by rw [← effectsOn, ← hbegin]; exact List.mem_append_left _ heffect)
    rwa [hstored] at hfinal
  · exact (accepted_of_ok _ hstrict hok).trans (hall record hok)
  · have hlast := writes_of_failed (pairwise_calls _ hstrict w) hcall hwrite hfailed
    rw [← hbegin, hlast, List.append_assoc]
    rfl

end Stored

theorem update_returns (settings : Settings) {prior : AppRecord} {desired : Spec} {w : World Store}
    {record : AppRecord} (h : ((update settings prior desired).run
      (Store.setting cancelAt limit) w).result = some (.ok record)) :
    ∃ app catalog, ((update settings prior desired).run
      (Store.setting cancelAt limit) w).world.remote.app? prior.id = some app ∧
        record = app.record prior.id catalog (some desired) := by
  obtain ⟨remote, _, hrun⟩ := run_update_of_ok (Store.setting cancelAt limit) settings h
  rw [hrun] at h ⊢
  obtain ⟨_, hmode, hrest⟩ := result_bind_ok h
  obtain ⟨_, hwait, hback⟩ := result_bind_ok hrest
  simp only [afterSnapshot, run_bind_of_ok hmode, run_bind_of_ok hwait]
  exact readBack_stored hback

namespace Sample

def wordpress : App :=
  { Store.sampleApp with templateVersion := Naming.templateVersionId "library" "wordpress" "7.3.8" }

def store : Store :=
  (Store.empty.publish "library" "wordpress" ["7.3.8"]).putApp ⟨"mcapp-1"⟩ wordpress

def catalog : CatalogRef := ⟨"library", "wordpress", "7.3.8"⟩

def known : AppRecord := wordpress.record ⟨"mcapp-1"⟩ catalog none

def answer : Answer := .global (.ofList [("title", "Two projects")])

def moved : Spec :=
  { known.spec with targets := [.declared ⟨"c-1:p-2"⟩], answers := [answer] }

def movedApp : App :=
  { wordpress with
    targets := [(Target.declared ⟨"c-1:p-2"⟩).withInstance ⟨"mcapp-wordpress-mcapp-1-0"⟩]
    answers := [answer] }

def movedRecord (answers : List Answer) : AppRecord :=
  { movedApp with answers := answers }.record known.id catalog (some moved)

theorem justRead_known : JustRead known store :=
  ⟨none, 0, none, ⟨store, 0⟩, by decide +kernel, by decide +kernel⟩

end Sample

end MultiCluster.Lifecycle
