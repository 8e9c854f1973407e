import MultiCluster.Proofs.Update.Stored

namespace MultiCluster

namespace Store

theorem mergeAnswers_eq {answers added : List Answer} (h : (added.map Answer.project).Nodup) :
    mergeAnswers answers added =
      (answers.filter fun a => a.project.isNone || a.project ∉ added.map Answer.project) ++ added := by
  induction added generalizing answers with
  | nil =>
    have hall : (answers.filter fun a => a.project.isNone || a.project ∉ [].map Answer.project) =
        answers := List.filter_eq_self.mpr (by simp)
    rw [hall, List.append_nil]
    rfl
  | cons a rest ih =>
    obtain ⟨hnew, hrest⟩ := List.nodup_cons.mp h
    have hstep : mergeAnswers answers (a :: rest) = mergeAnswers
        ((answers.filter fun b => b.project.isNone || b.project ≠ a.project) ++ [a]) rest := rfl
    have hkept : (a.project.isNone || decide (a.project ∉ rest.map Answer.project)) = true := by
      rw [decide_eq_true hnew, Bool.or_true]
    rw [hstep, ih hrest, List.filter_append, List.filter_filter, List.filter_cons, if_pos hkept,
      List.filter_nil, List.append_assoc, List.singleton_append]
    congr 1
    refine List.filter_congr fun b _ => ?_
    cases hb : b.project with
    | none => simp
    | some p => simp [Bool.and_comm]

end Store

theorem TargetSet.nodup_of_validate {set : TargetSet} (h : set.validate = .ok ()) :
    (set.targets.map Target.project).Nodup := by
  unfold validate at h
  split at h
  · exact absurd h (by simp)
  · rename_i hrepeat
    exact (firstRepeat_eq_none_iff.mp hrepeat).1

theorem TargetDelta.input_missingFrom_answers (source other : TargetSet) :
    (input (missingFrom source other true)).answers =
      (Target.missing source.targets other.targets).filterMap source.answerFor := by
  rw [← input_missingFrom_projects source other true, input, missingFrom, List.map_map,
    List.filterMap_map, List.filterMap_map]
  rfl

theorem TargetSet.project_of_answerFor {set : TargetSet} {p : ProjectId} {a : Answer}
    (h : set.answerFor p = some a) : a.project = some p := by
  unfold answerFor at h
  have hfor := List.find?_some h
  exact Answer.isFor_iff.mp hfor

theorem TargetSet.nodup_answersFor {set : TargetSet} {projects : List ProjectId}
    (h : projects.Nodup) : ((projects.filterMap set.answerFor).map Answer.project).Nodup := by
  refine List.Pairwise.map _ (fun _ _ hne => hne) (List.Pairwise.filterMap set.answerFor ?_ h)
  intro p q hne a ha b hb heq
  rw [project_of_answerFor ha, project_of_answerFor hb] at heq
  exact hne (Option.some.inj heq)

namespace Lifecycle

open Plan

variable {cancelAt : Option Nat} {limit : Nat} {prior : AppRecord} {desired : Spec} {app : App}

def OnlyAdds (stored desired : List Target) : Prop :=
  Target.missing stored desired = [] ∧ Target.missing desired stored ≠ []

def answersToAdd (stored : List Target) (desired : Spec) : List Answer :=
  (Target.missing desired.targets stored).filterMap
    (TargetSet.answerFor ⟨desired.targets, desired.answers⟩)

theorem valid_of_ok {settings : Settings} {w : World Store} {record : AppRecord}
    (h : ((update settings prior desired).run (Store.setting cancelAt limit) w).result =
      some (.ok record)) :
    TargetSet.validate ⟨desired.targets, desired.answers⟩ = .ok () := by
  rw [update_eq] at h
  obtain ⟨_, hvalid, _⟩ := result_bind_ok h
  cases hresult : TargetSet.validate ⟨desired.targets, desired.answers⟩ with
  | ok _ => rfl
  | error e =>
    rw [validate, hresult] at hvalid
    exact absurd hvalid (by simp [Except.mapError, Plan.ofExcept, run])

theorem targetsChanged_of_onlyAdds {id : AppId} {catalog : CatalogRef} {declared : Option Spec}
    (h : OnlyAdds app.targets desired.targets) :
    (SpecChanges.between (app.record id catalog declared).spec desired).targetsChanged = true := by
  obtain ⟨p, hp⟩ := List.exists_mem_of_ne_nil _ h.2
  obtain ⟨hdesired, hstored⟩ := Target.mem_missing.mp hp
  refine decide_eq_true fun heq => hstored ?_
  rw [← heq] at hdesired
  obtain ⟨t, ht, rfl⟩ := List.mem_map.mp hdesired
  refine List.mem_map_of_mem ?_
  cases declared with
  | none => exact ht
  | some spec => exact Target.mem_orderLike ht

theorem answers_of_fields (effects : List Effect) (id : AppId) (version : TemplateVersionId) :
    (Store.replay (effects ++ [.updateApp id (desired.update version)]) app).answers =
      desired.answers := by
  rw [Store.replay_append]
  rfl

theorem effectsOn_of_answersChanged
    (hanswers : (SpecChanges.between prior.spec desired).answersChanged = true)
    (hrevision : (SpecChanges.between prior.spec desired).revision = none)
    (hadds : OnlyAdds app.targets desired.targets →
      (SpecChanges.between prior.spec desired).targetsChanged = true) :
    (OnlyAdds app.targets desired.targets ∧ effectsOn prior desired app =
        [.addProjects prior.id (deltaOf app desired true).additionInput]) ∨
      ¬ OnlyAdds app.targets desired.targets ∧ ∃ before, effectsOn prior desired app =
        before ++ [.updateApp prior.id (desired.update (deployedVersion prior desired))] := by
  unfold effectsOn UpdateMode.ofChanges
  rw [hrevision, hanswers]
  simp only
  split
  · simp only [modeWord]
    by_cases hremove : (deltaOf app desired true).toRemove = []
    · by_cases hadd : (deltaOf app desired true).toAdd = []
      · rw [targetWord_of_isEmpty hremove hadd]
        exact .inr ⟨fun h => h.2 (toAdd_eq_nil.mp hadd), [], rfl⟩
      · rw [targetWord_of_toRemove_nil hremove hadd]
        exact .inl ⟨⟨toRemove_eq_nil.mp hremove, fun h => hadd (toAdd_eq_nil.mpr h)⟩, rfl⟩
    · refine .inr ⟨fun h => hremove (toRemove_eq_nil.mpr h.1), ?_⟩
      by_cases hadd : (deltaOf app desired true).toAdd = []
      · rw [targetWord_of_toAdd_nil hremove hadd]
        exact ⟨[_], rfl⟩
      · rw [targetWord_of_both hremove hadd]
        exact ⟨[_, _], rfl⟩
  · rename_i hsame
    exact .inr ⟨fun h => hsame (hadds h), [], rfl⟩

theorem update_stores_answers (cancelAt : Option Nat) (limit : Nat) (settings : Settings)
    (prior : AppRecord) (desired : Spec) (w : World Store) (record : AppRecord)
    (hprior : JustRead prior w.remote) (hanswers : desired.answers ≠ prior.spec.answers)
    (hrevision : desired.revision = none ∨ desired.revision = prior.spec.revision) :
    let run := (update settings prior desired).run (Store.setting cancelAt limit) w
    run.result = some (.ok record) →
      ∃ stored final, w.remote.app? prior.id = some stored ∧
        run.world.remote.app? prior.id = some final ∧ record.spec.answers = final.answers ∧
        (¬ OnlyAdds stored.targets desired.targets → final.answers = desired.answers) ∧
        (OnlyAdds stored.targets desired.targets →
          (∃ input, writes run.calls = [.addProjects prior.id input]) ∧ final.answers =
          (prior.spec.answers.filter fun a =>
            a.project.isNone || a.project ∉ (answersToAdd stored.targets desired).map Answer.project) ++
            answersToAdd stored.targets desired) := by
  intro run hok
  obtain ⟨stored, catalog, declared, hstored, hrecord⟩ := hprior.stored
  have hversion : prior.spec.version = some catalog.version := by
    rw [hrecord]
    rfl
  have hbefore : prior.spec.answers = stored.answers := by
    rw [hrecord]
    rfl
  obtain ⟨hfinal, hall, _⟩ := update_stored cancelAt limit settings desired hversion hstored
  have hwrites := (writes_update cancelAt limit settings desired hversion hstored).2 record hok
  obtain ⟨final, _, hfound, hreturned⟩ := update_returns settings hok
  rw [hall record hok, hfound] at hfinal
  have hvalue := Option.some.inj hfinal
  have hchanged : (SpecChanges.between prior.spec desired).answersChanged = true :=
    decide_eq_true fun heq => hanswers heq.symm
  have hnone : (SpecChanges.between prior.spec desired).revision = none := by
    show SpecChanges.newRevision prior.spec desired = none
    unfold SpecChanges.newRevision
    split
    · rfl
    · rename_i hnew
      exact hrevision.resolve_right hnew
  have hadds (h : OnlyAdds stored.targets desired.targets) :
      (SpecChanges.between prior.spec desired).targetsChanged = true := by
    rw [hrecord]
    exact targetsChanged_of_onlyAdds h
  refine ⟨stored, final, hstored, hfound, by rw [hreturned]; rfl, ?_⟩
  rcases effectsOn_of_answersChanged hchanged hnone hadds with ⟨honly, hword⟩ | ⟨hmore, before, hword⟩
  · refine ⟨fun h => absurd honly h, fun _ => ⟨⟨_, hwrites.trans hword⟩, ?_⟩⟩
    have hinput : (deltaOf stored desired true).additionInput.answers =
        answersToAdd stored.targets desired := TargetDelta.input_missingFrom_answers _ _
    have hnodup : ((answersToAdd stored.targets desired).map Answer.project).Nodup :=
      TargetSet.nodup_answersFor ((TargetSet.nodup_of_validate (valid_of_ok hok)).filter _)
    rw [hvalue, hword, hbefore, ← Store.mergeAnswers_eq hnodup, ← hinput]
    rfl
  · refine ⟨fun _ => ?_, fun h => absurd h hmore⟩
    rw [hvalue, hword, answers_of_fields]

instance (stored desired : List Target) : Decidable (OnlyAdds stored desired) :=
  inferInstanceAs (Decidable (_ ∧ _))

open Sample in
theorem update_stores_answers_when_moved :
    let run := (update .standard known moved).run (Store.setting none 1) ⟨store, 0⟩
    JustRead known store ∧ moved.answers ≠ known.spec.answers ∧
      moved.revision = known.spec.revision ∧ run.result = some (.ok (movedRecord [answer])) ∧
      (run.world.remote.app? known.id).map App.answers = some moved.answers := by
  dsimp only
  have hok : ((update .standard known moved).run (Store.setting none 1) ⟨store, 0⟩).result =
      some (.ok (movedRecord [answer])) := by decide +kernel
  obtain ⟨stored, final, hstored, hfinal, _, hmore, _⟩ := update_stores_answers none 1 .standard
    known moved ⟨store, 0⟩ (movedRecord [answer]) justRead_known (by decide +kernel) (.inr rfl) hok
  have hgoes : ¬ OnlyAdds stored.targets moved.targets := by
    have hsample : store.app? known.id = some wordpress := by decide +kernel
    obtain rfl := Option.some.inj (hsample.symm.trans hstored)
    decide +kernel
  refine ⟨justRead_known, by decide +kernel, rfl, hok, ?_⟩
  exact (congrArg (Option.map App.answers) hfinal).trans (congrArg some (hmore hgoes))

namespace Sample

def extended : Spec :=
  { known.spec with targets := known.spec.targets ++ [.declared ⟨"c-1:p-2"⟩], answers := [answer] }

def extendedApp : App :=
  { wordpress with
    targets := wordpress.targets ++
      [(Target.declared ⟨"c-1:p-2"⟩).withInstance ⟨"mcapp-wordpress-mcapp-1-1"⟩] }

end Sample

open Sample in
theorem addition_loses_global_answer :
    let run := (update .standard known extended).run (Store.setting none 1) ⟨store, 0⟩
    JustRead known store ∧ extended.answers ≠ known.spec.answers ∧
      extended.revision = known.spec.revision ∧ extended.answers = [answer] ∧
      run.result = some (.ok (extendedApp.record known.id catalog (some extended))) ∧
      (run.world.remote.app? known.id).map App.answers = some [] ∧
      (extendedApp.record known.id catalog (some extended)).spec.answers = [] := by
  dsimp only
  exact ⟨justRead_known, by decide +kernel, rfl, rfl, by decide +kernel, by decide +kernel,
    by decide +kernel⟩

end Lifecycle

end MultiCluster
