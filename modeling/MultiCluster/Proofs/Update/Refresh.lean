import MultiCluster.Proofs.Lifecycle.Reading
import MultiCluster.Proofs.Target.Order
import MultiCluster.Proofs.Update.Answers

namespace MultiCluster.Lifecycle

open Plan

variable {id : AppId} {app : App} {ref : CatalogRef} {declared : Option Spec} {cancelAt : Option Nat}
  {limit : Nat}

theorem updateFields_of_known {prior : AppRecord} {desired : Spec} {version : String}
    (h : desired.version.or prior.spec.version = some version) : updateFields prior desired =
      (perform (.updateApp prior.id (desired.update
        (Naming.templateVersionId desired.catalog desired.template version)))).bind fun response =>
          (checked (response.toApp "update multi-cluster app")).bind fun _ => done (.ok ()) := by
  unfold updateFields
  rw [h]
  rfl

theorem ofChanges_between_self (spec : Spec) :
    UpdateMode.ofChanges (.between spec spec) = .updateFields := by
  have hrevision : SpecChanges.newRevision spec spec = none := by
    rw [SpecChanges.newRevision, if_pos rfl]
  simp [UpdateMode.ofChanges, SpecChanges.between, hrevision]

theorem record_of_record
    (hnodup : ((app.record id ref declared).spec.targets.map Target.project).Nodup) :
    app.record id ref (some (app.record id ref declared).spec) = app.record id ref declared := by
  have hordered : Target.orderLike app.targets (app.record id ref declared).spec.targets =
      (app.record id ref declared).spec.targets := by
    cases declared with
    | none => exact Target.orderLike_of_same_projects hnodup rfl
    | some spec => exact Target.orderLike_orderLike hnodup
  conv_lhs => rw [App.record]
  simp only [hordered]
  cases declared <;> rfl

def refreshing (app : App) (id : AppId) (ref : CatalogRef) (declared : Option Spec) : AppUpdate :=
  (app.record id ref declared).spec.update app.templateVersion

theorem updated_refreshing : Store.updated app (refreshing app id ref declared) = app := rfl

theorem run_applyChanges_of_read {w : World Store} (h : w.remote.Serves id app ref)
    (hvalid : validate (app.record id ref declared).spec.targets
      (app.record id ref declared).spec.answers = done (.ok ())) :
    ∃ calls after, after.Serves id app ref ∧
      writes calls = [.updateApp id (refreshing app id ref declared)] ∧
      (applyChanges (app.record id ref declared) (app.record id ref declared).spec).run
        (Store.setting cancelAt limit) w = ⟨some (.ok ()), calls, ⟨after, w.now⟩⟩ := by
  obtain ⟨state, hreply⟩ := h.unfailing.respond_getApp h.stored
  have hseen : (w.remote.respond (.getApp id)).2.Serves id app ref := h.respond_of_isRead rfl
  have hupdate : ((w.remote.respond (.getApp id)).2.respond
      (.updateApp id (refreshing app id ref declared))).1 = .ok (.app app) := by
    rw [hseen.unfailing.respond_eq, Store.apply, Store.onApp, hseen.stored]
    simp only [updated_refreshing]
  have hafter : ((w.remote.respond (.getApp id)).2.respond
      (.updateApp id (refreshing app id ref declared))).2.Serves id app ref := by
    refine hseen.respond ?_
    rw [Store.app?_respond _ _ id fun _ => ⟨.fields, rfl⟩, hseen.stored]
    split
    · exact congrArg some updated_refreshing
    · rfl
  have hfields : updateFields (app.record id ref declared) (app.record id ref declared).spec =
      (perform (.updateApp id (refreshing app id ref declared))).bind fun response =>
        (checked (response.toApp "update multi-cluster app")).bind fun _ => done (.ok ()) := by
    rw [refreshing, h.version]
    exact updateFields_of_known rfl
  have hplan : applyChanges (app.record id ref declared) (app.record id ref declared).spec =
      (perform (.getApp id)).bind fun response =>
        (checked (response.toApp "get multi-cluster app")).bind fun _ =>
          updateFields (app.record id ref declared) (app.record id ref declared).spec := by
    rw [applyChanges, hvalid, done_ok_bind, ofChanges_between_self]
    exact bind_assoc _ _ _
  have hchecked : checked ((Response.app { app with state := state }).toApp "get multi-cluster app") =
      done (.ok { app with state := state }) := rfl
  rw [hplan, Store.run_perform _ hreply, hchecked, done_ok_bind, hfields, Store.run_perform _ hupdate]
  exact ⟨_, _, hafter, rfl, rfl⟩

theorem refresh_changes_nothing (cancelAt : Option Nat) (limit : Nat) (settings : Settings) (id : AppId)
    (declared : Option Spec) (w : World Store) (app : App) (ref : CatalogRef) (prior : AppRecord)
    (hserves : w.remote.Serves id app ref) (hwell : ref.Wellformed) :
    let first := (read id declared).run (Store.setting cancelAt limit) w
    let run := (update settings prior prior.spec).run (Store.setting cancelAt limit) first.world
    first.result = some (.ok (some prior)) →
      TargetSet.validate ⟨prior.spec.targets, prior.spec.answers⟩ = .ok () →
        (∃ fields, writes run.calls = [.updateApp id fields]) ∧
          run.world.remote.app? id = some app ∧
          ∀ record, run.result = some (.ok record) → record = prior := by
  intro first run hread hvalid
  have hfound : first.result = some (.ok (some (app.record id ref declared))) :=
    result_read cancelAt limit hwell declared hserves
  obtain rfl : app.record id ref declared = prior := by simpa using hfound.symm.trans hread
  have hseen : first.world.remote.Serves id app ref := hserves.run_of_reads (performs_read id declared)
  obtain ⟨calls, after, hafter, hwrites, hchanges⟩ := run_applyChanges_of_read hseen (validate_of_ok hvalid)
  have hrest : (conclude settings id settings.timeouts.update "update"
      (app.record id ref declared).spec).Performs (fun effect => effect) [] := performs_conclude _ _ _ _ _
  have hrun : run = { (conclude settings id settings.timeouts.update "update"
      (app.record id ref declared).spec).run (Store.setting cancelAt limit) ⟨after, first.world.now⟩ with
        calls := calls ++ ((conclude settings id settings.timeouts.update "update"
          (app.record id ref declared).spec).run (Store.setting cancelAt limit)
            ⟨after, first.world.now⟩).calls } := by
    show (update settings _ _).run _ _ = _
    rw [update_eq_conclude, run_bind_of_ok (congrArg PlanRun.result hchanges), hchanges]
    rfl
  rw [hrun]
  refine ⟨⟨refreshing app id ref declared, ?_⟩, ?_, ?_⟩
  · simp only [writes_append, hwrites, hrest.writes_eq_nil, List.append_nil]
  · exact (hafter.run_of_reads (w := ⟨after, first.world.now⟩) hrest).stored
  · intro record hok
    have hrecord := record_of_conclude cancelAt limit hwell
      (w := ⟨after, first.world.now⟩) hafter hok
    rw [hrecord, record_of_record (TargetSet.nodup_of_validate hvalid)]

namespace Sample

def blogRef : CatalogRef := ⟨"p-1:charts", "blog", "1.0.0"⟩

def blog : App :=
  { wordpress with
    name := "blog"
    templateVersion := Naming.templateVersionId blogRef.catalog blogRef.template blogRef.version
    targets := [(Target.declared ⟨"c-1:p-1"⟩).withInstance ⟨"mcapp-blog-1"⟩,
      (Target.declared ⟨"c-1:p-2"⟩).withInstance ⟨"mcapp-blog-2"⟩] }

def blogStore : Store :=
  (Store.empty.publish "p-1:charts" "blog" ["1.0.0", "1.1.0"]).putApp known.id blog

def blogDeclared : Spec :=
  .basic "blog" "p-1:charts" "blog" [.declared ⟨"c-1:p-2"⟩, .declared ⟨"c-1:p-1"⟩]

def blogRecord : AppRecord := blog.record known.id blogRef (some blogDeclared)

theorem serves_blog : blogStore.Serves known.id blog blogRef := by
  refine ⟨fun _ => rfl, by decide +kernel, ?_, rfl⟩
  have hpublished : (Store.empty.publish "p-1:charts" "blog" ["1.0.0", "1.1.0"]).Publishes
      "p-1:charts" "blog" "1.0.0" := Store.publishes_publish Store.empty List.mem_cons_self
  exact hpublished

end Sample

open Sample in
theorem refresh_changes_nothing_of_scoped_app :
    let first := (read known.id (some blogDeclared)).run (Store.setting none 1) ⟨blogStore, 0⟩
    let run := (update .standard blogRecord blogRecord.spec).run (Store.setting none 1) first.world
    first.result = some (.ok (some blogRecord)) ∧
      (blogRecord.spec.targets.map Target.project = [⟨"c-1:p-2"⟩, ⟨"c-1:p-1"⟩]) ∧
      run.result = some (.ok blogRecord) ∧ (∃ fields, writes run.calls = [.updateApp known.id fields]) ∧
      run.world.remote.app? known.id = some blog := by
  intro first run
  have hread : first.result = some (.ok (some blogRecord)) := by decide +kernel
  have hvalid : TargetSet.validate ⟨blogRecord.spec.targets, blogRecord.spec.answers⟩ = .ok () := by
    decide +kernel
  obtain ⟨hwrites, hkept, -⟩ := refresh_changes_nothing none 1 .standard known.id (some blogDeclared)
    ⟨blogStore, 0⟩ blog blogRef blogRecord serves_blog (by decide +kernel) hread hvalid
  exact ⟨hread, by decide +kernel, by decide +kernel, hwrites, hkept⟩

end MultiCluster.Lifecycle
