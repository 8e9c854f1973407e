import MultiCluster.Http.Client
import MultiCluster.Proofs.Json.Faithful
import MultiCluster.Proofs.Plan.Course

namespace MultiCluster

def ApiError.isUnexpected : ApiError → Bool
  | unexpectedResponse _ _ => true
  | _ => false

def ApiError.nameless : ApiError :=
  .unexpectedResponse "create multi-cluster app" "created object has no id"

theorem ApiError.isUnexpected_ofReply (code : Nat) (body : String) :
    (ofReply code body).isUnexpected = false := by
  unfold ofReply ofStatus
  split
  · rfl
  split
  · rfl
  · rfl

theorem Http.RequestFault.isUnexpected_error (fault : RequestFault) : fault.error.isUnexpected = false := by
  cases fault with
  | badUrl fault => cases fault <;> rfl
  | badToken => rfl
  | unsendable url => rfl

namespace Effect

variable {α : Type} {effect : Effect} {octets : List UInt8}

def Suits (effect : Effect) : Answered → Prop
  | .ok response => effect.accepts (.ok response) = true
  | .error e => e.isUnexpected = false

theorem isUnexpected_of_decodeBody {codec : Json.Codec α} {e : ApiError}
    (h : decodeBody codec octets = .error e) : e.isUnexpected = false := by
  rw [decodeBody] at h
  cases hread : codec.readOctets octets with
  | ok a =>
    rw [hread] at h
    cases h
  | error misfit =>
    rw [hread] at h
    obtain rfl := Except.error.inj h
    rfl

theorem decodeBody_of_printedAs {codec : Json.Codec α} {kept : α → α} {room : Nat}
    (h : codec.Faithful kept room) {a : α} {text : String} (htext : (codec.encode a).PrintedAs text) :
    decodeBody codec (Text.octets text) = .ok (kept a) := by
  rw [decodeBody, codec.readOctets_octets, h.read htext]
  rfl

theorem suits_map_decodeBody {codec : Json.Codec α} {wrap : α → Response}
    (hwrap : ∀ a, effect.accepts (.ok (wrap a)) = true) :
    effect.Suits ((decodeBody codec octets).map wrap) := by
  cases hdecoded : decodeBody codec octets with
  | ok a => exact hwrap a
  | error e => exact isUnexpected_of_decodeBody hdecoded

theorem suits_success (hother : ∀ app, effect ≠ .createApp app) :
    effect.Suits (effect.success octets) := by
  cases effect with
  | createApp app => exact absurd rfl (hother app)
  | getApp _ => exact suits_map_decodeBody fun _ => rfl
  | updateApp _ _ => exact suits_map_decodeBody fun _ => rfl
  | getTemplate _ => exact suits_map_decodeBody fun _ => rfl
  | getTemplateVersion _ => exact suits_map_decodeBody fun _ => rfl
  | getChildApp _ _ => exact suits_map_decodeBody fun _ => rfl
  | _ => rfl

end Effect

namespace Http

def ServerReply.IsNameless (r : ServerReply) : Prop :=
  r.isSuccess = true ∧ ∃ created, Effect.decodeBody App.codec r.body = .ok created ∧ created.id = none

namespace Client

variable {σ : Type} (c : Client) (n : Network σ)

def Nameless (app : App) (state : σ) : Prop :=
  ∃ request received, (Effect.createApp app).request c = .ok request ∧
    (n.exchange request state).answer = .ok received ∧ received.IsNameless

variable {c n} {effect : Effect} {app : App} {state : σ}

theorem respond_of_received (good : Answered → Prop)
    (herror : ∀ e : ApiError, e.isUnexpected = false → good (.error e))
    (h : ∀ request received, effect.request c = .ok request →
      (n.exchange request state).answer = .ok received → received.isSuccess = true →
        good (effect.success received.body)) :
    good ((c.api n).respond effect state).answer := by
  simp only [api]
  cases hrequest : effect.request c with
  | error fault => exact herror _ fault.isUnexpected_error
  | ok request =>
    simp only
    cases hreceived : (n.exchange request state).answer with
    | error fault => exact herror _ rfl
    | ok received =>
      simp only [Effect.answer]
      split
      · exact h request received hrequest hreceived ‹_›
      · exact herror _ (ApiError.isUnexpected_ofReply _ _)

theorem suits_respond (hother : ∀ app, effect ≠ .createApp app) (state : σ) :
    effect.Suits ((c.api n).respond effect state).answer :=
  respond_of_received effect.Suits (fun _ h => h) fun _ _ _ _ _ => Effect.suits_success hother

theorem respond_of_not_nameless (h : ¬ c.Nameless n app state) :
    (∃ created id, ((c.api n).respond (.createApp app) state).answer = .ok (.app created) ∧
      created.id = some id) ∨
    ∃ e, ((c.api n).respond (.createApp app) state).answer = .error e ∧ e.isUnexpected = false := by
  refine respond_of_received
    (fun answer => (∃ created id, answer = .ok (.app created) ∧ created.id = some id) ∨
      ∃ e, answer = .error e ∧ e.isUnexpected = false)
    (fun e he => .inr ⟨e, rfl, he⟩) fun request received hrequest hreceived hsuccess => ?_
  simp only [Effect.success]
  cases hdecoded : Effect.decodeBody App.codec received.body with
  | error e => exact .inr ⟨e, rfl, Effect.isUnexpected_of_decodeBody hdecoded⟩
  | ok created =>
    cases hid : created.id with
    | some id => exact .inl ⟨created, id, by simp [hid], hid⟩
    | none => exact absurd ⟨request, received, hrequest, hreceived, hsuccess, created, hdecoded, hid⟩ h

theorem respond_of_nameless (h : c.Nameless n app state) :
    ((c.api n).respond (.createApp app) state).answer = .error .nameless := by
  obtain ⟨request, received, hrequest, hreceived, hsuccess, created, hdecoded, hid⟩ := h
  simp only [api, hrequest, hreceived, Effect.answer, hsuccess, Effect.success, hdecoded, hid]
  rfl

end Client

end Http

end MultiCluster
