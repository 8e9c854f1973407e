import MultiCluster.Proofs.Store.Frame
import MultiCluster.Proofs.Template.Reference

namespace MultiCluster

theorem Naming.version_of_templateVersionId {catalog template first second : String}
    (h : (templateVersionId catalog template first).text =
      (templateVersionId catalog template second).text) : first = second := by
  have hlast := (String.append_right_inj _).mp h
  exact hlast

namespace Store

variable {s : Store} {catalog template version : String} {versions : List String}

def published (catalog template version : String) : TemplateVersion :=
  ⟨Naming.templateVersionId catalog template version, externalId catalog template version⟩

def Publishes (s : Store) (catalog template version : String) : Prop :=
  s.templateVersions.find? (Naming.templateVersionId catalog template version).text =
    some (published catalog template version)

instance (s : Store) (catalog template version : String) :
    Decidable (s.Publishes catalog template version) :=
  inferInstanceAs (Decidable (_ = _))

theorem templateVersions_publish (s : Store) (catalog template : String) (versions : List String) :
    (s.publish catalog template versions).templateVersions =
      versions.foldl (fun d version => d.insert (Naming.templateVersionId catalog template version).text
        (published catalog template version)) s.templateVersions := by
  rw [publish]
  exact List.foldl_map

theorem find?_published {d : Dict TemplateVersion} (versions : List String)
    (h : version ∈ versions ∨ d.find? (Naming.templateVersionId catalog template version).text =
      some (published catalog template version)) :
    (versions.foldl (fun d version => d.insert (Naming.templateVersionId catalog template version).text
        (published catalog template version)) d).find?
      (Naming.templateVersionId catalog template version).text =
        some (published catalog template version) := by
  induction versions generalizing d with
  | nil => exact h.resolve_left List.not_mem_nil
  | cons first rest ih =>
    refine ih ?_
    rw [List.mem_cons] at h
    by_cases hrest : version ∈ rest
    · exact .inl hrest
    · right
      rw [Dict.find?_insert]
      split
      · rename_i hsame
        rw [Naming.version_of_templateVersionId hsame]
      · rename_i hother
        rcases h with (rfl | hlater) | hbefore
        · exact absurd rfl hother
        · exact absurd hlater hrest
        · exact hbefore

theorem publishes_publish (s : Store) (h : version ∈ versions) :
    (s.publish catalog template versions).Publishes catalog template version := by
  rw [Publishes, templateVersions_publish]
  exact find?_published versions (.inl h)

theorem template_publish (s : Store) (catalog template : String) (versions : List String) :
    ∃ found, (s.publish catalog template versions).templates.find?
        (Naming.templateId catalog template).text = some found ∧
      ∀ key, key ∈ found.versionLinks.keys ↔ key ∈ versions := by
  refine ⟨_, by rw [publish, Dict.find?_insert, if_pos rfl], fun key => ?_⟩
  rw [Dict.mem_keys_ofList, List.map_map]
  exact iff_of_eq (congrArg (key ∈ ·) (List.map_id versions))

def SameBackground (s after : Store) : Prop :=
  after.failures = s.failures ∧ after.templateVersions = s.templateVersions

theorem sameBackground_onApp {id : AppId} {f : App → Response × Store}
    (hf : ∀ app, s.SameBackground (f app).2) : s.SameBackground (s.onApp id f).2 := by
  unfold onApp
  cases s.app? id with
  | none => exact ⟨rfl, rfl⟩
  | some app => exact hf app

theorem sameBackground_deleteApp (s : Store) (id : AppId) (app : App) :
    s.SameBackground (s.deleteApp id app) := by
  unfold deleteApp
  cases s.keepsApps with
  | true =>
    simp only [↓reduceIte]
    split <;> exact ⟨rfl, rfl⟩
  | false =>
    simp only [Bool.false_eq_true, ↓reduceIte]
    split <;> exact ⟨rfl, rfl⟩

theorem sameBackground_getApp (s : Store) (id : AppId) : s.SameBackground (s.getApp id).2 := by
  unfold getApp
  cases (s.queuedStates.find? id.text).getD [] with
  | nil =>
    simp only
    split <;> exact ⟨rfl, rfl⟩
  | cons state rest =>
    simp only
    split <;> exact ⟨rfl, rfl⟩

theorem sameBackground_apply (s : Store) (effect : Effect) : s.SameBackground (s.apply effect).2 := by
  cases effect with
  | getApp id => exact sameBackground_getApp s id
  | createApp app =>
    show s.SameBackground (s.createApp app).2
    unfold createApp
    simp only
    split <;> exact ⟨rfl, rfl⟩
  | updateApp id update => exact sameBackground_onApp fun app => ⟨rfl, rfl⟩
  | deleteApp id => exact sameBackground_onApp fun app => sameBackground_deleteApp s id app
  | rollback id revision => exact sameBackground_onApp fun app => ⟨rfl, rfl⟩
  | addProjects id input => exact sameBackground_onApp fun app => ⟨rfl, rfl⟩
  | removeProjects id input => exact sameBackground_onApp fun app => ⟨rfl, rfl⟩
  | getTemplate id => exact ⟨rfl, rfl⟩
  | getTemplateVersion id => exact ⟨rfl, rfl⟩
  | getChildApp project id => exact ⟨rfl, rfl⟩

theorem Publishes.respond (h : s.Publishes catalog template version) (effect : Effect) :
    (s.respond effect).2.Publishes catalog template version := by
  rcases respond_cases s effect with ⟨e, left, heq⟩ | heq
  · rw [heq]
    exact h
  · rw [heq, Publishes, (sameBackground_apply s effect).2]
    exact h

end Store

end MultiCluster
