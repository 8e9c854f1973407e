import MultiCluster.Proofs.Store.Publication

namespace MultiCluster

open Plan

namespace Store

variable {s : Store} {id : AppId} {app : App} {ref : CatalogRef}

def Unfailing (s : Store) : Prop := ∀ operation, (s.failures.find? operation).getD [] = []

theorem Unfailing.respond_eq (h : s.Unfailing) (effect : Effect) : s.respond effect = s.apply effect := by
  unfold respond
  split
  · rename_i error rest hqueued
    have hnone := h effect.operation
    rw [hqueued] at hnone
    exact absurd hnone (List.cons_ne_nil error rest)
  · rfl

theorem Unfailing.respond (h : s.Unfailing) (effect : Effect) : (s.respond effect).2.Unfailing := by
  intro operation
  rw [h.respond_eq, (sameBackground_apply s effect).1]
  exact h operation

theorem getApp_of_stored (hstored : s.app? id = some app) :
    ∃ state, (s.getApp id).1 = .ok (.app { app with state := state }) := by
  unfold getApp
  cases (s.queuedStates.find? id.text).getD [] with
  | nil => exact ⟨app.state, by simp only [hstored]⟩
  | cons state rest =>
    have hsame : (s.queueStates id rest).app? id = some app := hstored
    exact ⟨some state, by simp only [hsame]⟩

theorem Unfailing.respond_getApp (h : s.Unfailing) (hstored : s.app? id = some app) :
    ∃ state, (s.respond (.getApp id)).1 = .ok (.app { app with state := state }) := by
  rw [h.respond_eq]
  exact getApp_of_stored hstored

structure Serves (s : Store) (id : AppId) (app : App) (ref : CatalogRef) : Prop where
  unfailing : s.Unfailing
  stored : s.app? id = some app
  publishes : s.Publishes ref.catalog ref.template ref.version
  version : app.templateVersion = Naming.templateVersionId ref.catalog ref.template ref.version

theorem Serves.respond (h : s.Serves id app ref) {effect : Effect}
    (heffect : (s.respond effect).2.app? id = some app) : (s.respond effect).2.Serves id app ref :=
  ⟨h.unfailing.respond effect, heffect, h.publishes.respond effect, h.version⟩

theorem Serves.respond_of_isRead (h : s.Serves id app ref) {effect : Effect} (hread : effect.isRead = true) :
    (s.respond effect).2.Serves id app ref := by
  refine h.respond ?_
  rw [app?, apps_respond_of_isRead s hread]
  exact h.stored

section Run

variable {α : Type} {cancelAt : Option Nat} {limit now : Nat}

theorem run_perform {effect : Effect} {response : Response} (f : Response → Plan α) {w : World Store}
    (h : (w.remote.respond effect).1 = .ok response) :
    let after := (f response).run (setting cancelAt limit) ⟨(w.remote.respond effect).2, w.now⟩
    ((perform effect).bind f).run (setting cancelAt limit) w =
      { after with calls := ⟨w.now, effect, some (.ok response)⟩ :: after.calls } := by
  rw [perform_bind, run_call, h]

theorem Serves.run_of_reads {p : Plan α} (hp : p.Performs (fun effect => effect) []) {w : World Store}
    (h : w.remote.Serves id app ref) :
    (p.run (setting cancelAt limit) w).world.remote.Serves id app ref := by
  refine run_preserves (fun s => s.Serves id app ref) p w ?_ ?_ h
  · intro effect s hread hs
    exact hs.respond_of_isRead hread
  · intro effect heffect
    rw [hp.writes_eq_nil] at heffect
    exact absurd heffect List.not_mem_nil

end Run

end Store

end MultiCluster
