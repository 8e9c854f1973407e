import MultiCluster.Proofs.Lifecycle.Conclusion
import MultiCluster.Proofs.Store.Unfailing
import MultiCluster.Proofs.Update.Stored

namespace MultiCluster.Lifecycle

open Plan

variable {id : AppId} {app : App} {ref : CatalogRef}

theorem validate_of_ok {spec : Spec} (h : TargetSet.validate ⟨spec.targets, spec.answers⟩ = .ok ()) :
    validate spec.targets spec.answers = done (.ok ()) := by
  rw [validate, h]
  rfl

section Reading

variable (cancelAt : Option Nat) (limit : Nat) (hwell : ref.Wellformed)

include hwell

theorem result_readFound (declared : Option Spec) {w : World Store} (h : w.remote.Serves id app ref) :
    ((readFound id declared app).run (Store.setting cancelAt limit) w).result =
      some (.ok (app.record id ref declared)) := by
  let found := Store.published ref.catalog ref.template ref.version
  have hreply : (w.remote.respond (.getTemplateVersion app.templateVersion)).1 =
      .ok (.templateVersion found) := by
    rw [h.unfailing.respond_eq, Store.apply, h.version, h.publishes]
    rfl
  have hread : CatalogRef.read found.externalId = .ok ref :=
    CatalogRef.read_externalId hwell
  have hplan : readFound id declared app =
      (perform (.getTemplateVersion app.templateVersion)).bind fun response =>
        (checked (response.toTemplateVersion "get template version")).bind fun version =>
          (ofExcept ((CatalogRef.read version.externalId).mapError .resolution)).bind fun catalog =>
            done (.ok (app.record id catalog declared)) := rfl
  have hchecked : checked ((Response.templateVersion found).toTemplateVersion "get template version") =
      done (.ok found) := rfl
  rw [hplan, Store.run_perform _ hreply]
  simp only [hchecked, done_ok_bind, hread]
  rfl

theorem result_readBack (declared : Spec) {w : World Store} (h : w.remote.Serves id app ref) :
    ((readBack id declared).run (Store.setting cancelAt limit) w).result =
      some (.ok (app.record id ref (some declared))) := by
  obtain ⟨state, hreply⟩ := h.unfailing.respond_getApp h.stored
  have hseen : (w.remote.respond (.getApp id)).2.Serves id app ref := h.respond_of_isRead rfl
  have hfound := result_readFound cancelAt limit hwell (some declared)
    (w := ⟨_, w.now⟩) hseen
  rw [readBack_eq, Store.run_call, hreply]
  exact hfound

theorem result_read (declared : Option Spec) {w : World Store} (h : w.remote.Serves id app ref) :
    ((read id declared).run (Store.setting cancelAt limit) w).result =
      some (.ok (some (app.record id ref declared))) := by
  obtain ⟨state, hreply⟩ := h.unfailing.respond_getApp h.stored
  have hseen : (w.remote.respond (.getApp id)).2.Serves id app ref := h.respond_of_isRead rfl
  have hfound := result_readFound cancelAt limit hwell declared
    (w := ⟨_, w.now⟩) hseen
  rw [read_eq, Store.run_call, hreply]
  exact (result_bind_of_ok hfound).trans rfl

theorem record_of_conclude {settings : Settings} {timeout : Duration} {operation : String} {spec : Spec}
    {w : World Store} {record : AppRecord} (h : w.remote.Serves id app ref)
    (hok : ((conclude settings id timeout operation spec).run (Store.setting cancelAt limit) w).result =
      some (.ok record)) : record = app.record id ref (some spec) := by
  obtain ⟨_, -, hback⟩ := result_bind_ok hok
  have hwait : (Plan.when spec.wait (converge settings id .active timeout operation)).Performs
      (fun effect => effect) (if spec.wait then [] else []) :=
    (performs_converge settings id .active timeout operation).when
  rw [ite_self] at hwait
  have hsettled : ((Plan.when spec.wait (converge settings id .active timeout operation)).run
      (Store.setting cancelAt limit) w).world.remote.Serves id app ref := h.run_of_reads hwait
  have hread := result_readBack cancelAt limit hwell spec hsettled
  simpa using hback.symm.trans hread

end Reading

theorem run_converge {s : Store} (hs : s.Unfailing) (hstored : s.app? id = some app)
    (hactive : app.state = some State.active) (hquiet : (s.queuedStates.find? id.text).getD [] = [])
    (settings : Settings) (timeout : Duration) (operation : String) (limit now : Nat) :
    let run := (converge settings id .active timeout operation).run (Store.setting none (limit + 1))
      ⟨s, now⟩
    run.result = some (.ok ()) ∧ run.world = ⟨s, now⟩ := by
  have hreply : s.respond (.getApp id) = (.ok (.app app), s) := by
    rw [hs.respond_eq, Store.apply, Store.getApp, hquiet]
    simp only [hstored]
  have hfetch : ((Subject.app id).source Store.api).fetch s = ⟨.ok (.app app), 0, s⟩ := by
    show (⟨(s.respond (.getApp id)).1, 0, (s.respond (.getApp id)).2⟩ : Reply Store Answered) = _
    rw [hreply]
  have hobserved : (Subject.app id).observe (.ok (.app app)) = .ok (.status State.active) := by
    simp only [Subject.observe, Subject.state?, App.stateText, hactive, Option.getD_some]
  have htarget : StateSpec.active.isTarget State.active = true := by decide
  have hwait : (Store.setting none (limit + 1)).wait (activation settings id timeout) ⟨s, now⟩ =
      ⟨some (.ok State.active), [⟨now, some (.ok (.app app))⟩], s, now⟩ := by
    have hseen : ((Subject.app id).source Store.api).observe
        (((Subject.app id).source Store.api).fetch s).answer = .ok (.status State.active) := by
      rw [hfetch]
      exact hobserved
    have hover := Source.wait_of_target (t := ⟨.active, timeout, settings.poll, now, none⟩) rfl hseen
      htarget limit
    rw [hfetch] at hover
    exact hover
  intro run
  have hrun : run = ⟨some (.ok ()), [⟨now, .getApp id, some (.ok (.app app))⟩], ⟨s, now⟩⟩ := by
    show (Plan.run _ (await (activation settings id timeout) _) _) = _
    rw [Plan.run, hwait]
    rfl
  rw [hrun]
  exact ⟨rfl, rfl⟩

theorem result_conclude {s : Store} (hwell : ref.Wellformed) (hserves : s.Serves id app ref)
    (hactive : app.state = some State.active) (hquiet : (s.queuedStates.find? id.text).getD [] = [])
    (settings : Settings) (timeout : Duration) (operation : String) (spec : Spec) (limit now : Nat) :
    ((conclude settings id timeout operation spec).run (Store.setting none (limit + 1)) ⟨s, now⟩).result =
      some (.ok (app.record id ref (some spec))) := by
  have hback := result_readBack none (limit + 1) hwell spec (w := ⟨s, now⟩)
    hserves
  rw [conclude]
  cases spec.wait with
  | false => exact hback
  | true =>
    obtain ⟨hresult, hworld⟩ := run_converge hserves.unfailing hserves.stored hactive hquiet settings
      timeout operation limit now
    rw [run_bind_of_ok (p := Plan.when true (converge settings id .active timeout operation)) hresult]
    show (Plan.run _ (readBack id spec) (Plan.run _ (converge _ _ _ _ _) _).world).result = _
    rw [hworld]
    exact hback

end MultiCluster.Lifecycle
