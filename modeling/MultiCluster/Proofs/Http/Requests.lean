import MultiCluster.Http.Message
import MultiCluster.Proofs.Http.Address
import MultiCluster.Proofs.Wire.RoundTrip

namespace MultiCluster

namespace Http

def plainUrl (host : String) (number : Nat) : String := "http://" ++ host ++ ":" ++ toString number

def plainAuthority (host : String) (number : Nat) : List Char :=
  host.toList ++ ':' :: Nat.toDigits 10 number

theorem toList_plainUrl (host : String) (number : Nat) :
    (plainUrl host number).toList = "http://".toList ++ plainAuthority host number := by
  simp only [plainUrl, plainAuthority, String.toList_append, Nat.toString_eq_repr, Nat.toList_repr,
    List.append_assoc]
  rfl

theorem isPlainChar_of_mem_toDigits {number : Nat} {c : Char} (h : c ∈ Nat.toDigits 10 number) :
    isPlainChar c = true := by
  have hdigit : c.isDigit = true := Nat.isDigit_of_mem_toDigits (by decide) (by decide) h
  simp [isPlainChar, Char.isAlphanum, hdigit]

theorem isInner_of_mem_plainAuthority {host : String} {number : Nat}
    (hhost : ∀ c ∈ host.toList, isInner c = true) :
    ∀ c ∈ plainAuthority host number, isInner c = true := by
  intro c hc
  rcases List.mem_append.mp hc with hc | hc
  · exact hhost c hc
  · rcases List.mem_cons.mp hc with rfl | hc
    · rfl
    · exact isInner_of_isPlainChar (isPlainChar_of_mem_toDigits hc)

theorem base_of_plain {s : Endpoint} {host : String} {number : Nat}
    (hhost : ∀ c ∈ host.toList, isInner c = true) (h : s.url = plainUrl host number) :
    s.base = "http://".toList ++ plainAuthority host number := by
  have hlast : ∃ last before, (plainAuthority host number).reverse = last :: before ∧ last ≠ '/' := by
    cases hreverse : (plainAuthority host number).reverse with
    | nil => exact absurd (List.reverse_eq_nil_iff.mp hreverse) (by simp [plainAuthority])
    | cons last before =>
      have hmem : last ∈ plainAuthority host number := by
        rw [← List.mem_reverse, hreverse]
        exact List.mem_cons_self
      refine ⟨last, before, rfl, ?_⟩
      rintro rfl
      exact absurd (isInner_of_mem_plainAuthority hhost '/' hmem) (by decide)
  obtain ⟨last, before, hreverse, hne⟩ := hlast
  rw [Endpoint.base, h, toList_plainUrl, List.reverse_append, hreverse, List.cons_append,
    List.dropWhile_cons_of_neg (by simpa using hne), ← List.cons_append, ← hreverse,
    ← List.reverse_append, List.reverse_reverse]

-- The version is not there yet: the number is behind a colon, and made of digits.
theorem version_not_suffix (front : List Char) (number : Nat) :
    ¬ Endpoint.version <:+ front ++ ':' :: Nat.toDigits 10 number := by
  intro hversion
  rcases List.suffix_or_suffix_of_suffix hversion (List.suffix_append front _) with hinside | haround
  · have hmem : 'v' ∈ ':' :: Nat.toDigits 10 number := hinside.subset (by decide)
    rcases List.mem_cons.mp hmem with heq | hdigit
    · exact absurd heq (by decide)
    · have hv : ('v').isDigit = true := Nat.isDigit_of_mem_toDigits (by decide) (by decide) hdigit
      exact absurd hv (by decide)
  · have hmem : ':' ∈ Endpoint.version := haround.subset List.mem_cons_self
    exact absurd hmem (by decide)

theorem toList_apiRoot {s : Endpoint} {host : String} {number : Nat}
    (hhost : ∀ c ∈ host.toList, isInner c = true) (h : s.url = plainUrl host number) :
    s.apiRoot.toList = "http://".toList ++ plainAuthority host number ++ Endpoint.version := by
  have hbare : Endpoint.version.isSuffixOf s.base = false := by
    rw [Bool.eq_false_iff, ne_eq, List.isSuffixOf_iff_suffix, base_of_plain hhost h, plainAuthority,
      ← List.append_assoc]
    exact version_not_suffix _ number
  rw [Endpoint.apiRoot, hbare, if_neg Bool.false_ne_true, String.toList_ofList, base_of_plain hhost h]

end Http

namespace Effect

open Http Json

def pathIds : Effect → List String
  | getApp id => [id.text]
  | createApp _ => []
  | updateApp id _ => [id.text]
  | deleteApp id => [id.text]
  | rollback id _ => [id.text]
  | addProjects id _ => [id.text]
  | removeProjects id _ => [id.text]
  | getTemplate id => [id.text]
  | getTemplateVersion id => [id.text]
  | getChildApp project id => [project.text, id.text]

def segments : Effect → List String
  | getApp id => [appsPath, id.text]
  | createApp _ => [appsPath]
  | updateApp id _ => [appsPath, id.text]
  | deleteApp id => [appsPath, id.text]
  | rollback id _ => [appsPath, id.text]
  | addProjects id _ => [appsPath, id.text]
  | removeProjects id _ => [appsPath, id.text]
  | getTemplate id => ["templates", id.text]
  | getTemplateVersion id => ["templateversions", id.text]
  | getChildApp project id => ["project", project.text, "apps", id.text]

def chars (e : Effect) : List (List Char) := ("v3" :: e.segments).map String.toList

-- The equations of `path` one by one are slow to find: it is opened as a whole, here and below.
theorem toList_path (e : Effect) : Endpoint.version ++ '/' :: e.path.toList = joined e.chars := by
  have hversion : Endpoint.version = '/' :: "v3".toList := rfl
  have hslash : "/".toList = ['/'] := rfl
  have htemplates : "templates/" = "templates" ++ "/" := by decide
  have hversions : "templateversions/" = "templateversions" ++ "/" := by decide
  have hproject : "project/" = "project" ++ "/" := by decide
  have hchildren : "/apps/" = "/" ++ "apps" ++ "/" := by decide
  cases e <;>
    simp only [path.eq_def, appPath, chars, segments, joined, hversion, hslash, htemplates, hversions, hproject,
      hchildren, String.toList_append, List.map_cons, List.map_nil, List.flatMap_cons, List.flatMap_nil,
      List.append_nil, List.append_assoc, List.cons_append, List.nil_append]

theorem dropWhile_path (e : Effect) : e.path.toList.dropWhile (· = '/') = e.path.toList := by
  cases e <;> simp [path.eq_def, appPath, appsPath]

theorem mem_segments {e : Effect} {segment : String} (h : segment ∈ e.segments) :
    segment ∈ e.pathIds ∨ segment ∈ [appsPath, "templates", "templateversions", "project", "apps"] := by
  cases e <;> simp only [segments, pathIds, List.mem_cons, List.not_mem_nil, or_false] at h ⊢ <;> grind

theorem isPlain_of_mem_chars {e : Effect} (h : ∀ id ∈ e.pathIds, IsPlain id.toList) :
    ∀ segment ∈ e.chars, IsPlain segment := by
  have hwords : ∀ word ∈ ["v3", appsPath, "templates", "templateversions", "project", "apps"],
      IsPlain word.toList := by decide
  rintro _ hsegment
  obtain ⟨segment, hmem, rfl⟩ := List.mem_map.mp hsegment
  rcases List.mem_cons.mp hmem with rfl | hmem
  · exact hwords _ List.mem_cons_self
  · rcases mem_segments hmem with hid | hword
    · exact h segment hid
    · exact hwords segment (List.mem_cons_of_mem _ hword)

theorem request_eq_ok {c : Client} {e : Effect} {r : Request} (h : e.request c = .ok r) :
    ∃ u, Url.read (c.url e.path) = .ok u ∧ r.method = e.method ∧ r.body = e.body? ∧
      r.url = e.action?.elim u (u.withParameter "action") := by
  cases hread : Url.read (c.url e.path) with
  | error fault =>
    rw [request, hread] at h
    exact absurd h (by simp)
  | ok u =>
    refine ⟨u, rfl, ?_⟩
    cases haction : e.action? with
    | _ =>
      simp only [request, hread, haction] at h
      split at h
      · exact absurd h (by simp)
      split at h
      · exact absurd h (by simp)
      · obtain rfl := Except.ok.inj h
        exact ⟨rfl, rfl, rfl⟩

def query? (e : Effect) : Option String := e.action?.map fun action => "action" ++ "=" ++ action

theorem target_of_request {s : Endpoint} {host : String} {number : Nat}
    (hhost : ∀ c ∈ host.toList, isInner c = true) (hurl : s.url = plainUrl host number) {e : Effect}
    (hids : ∀ id ∈ e.pathIds, IsPlain id.toList) {r : Request} (h : e.request (.of s) = .ok r) :
    r.url.target = String.ofList (joined e.chars) ++ Url.queryText e.query? := by
  obtain ⟨u, hread, -, -, hsent⟩ := request_eq_ok h
  have hroot : (Client.of s).apiRoot.toList =
      "http://".toList ++ plainAuthority host number ++ Endpoint.version := toList_apiRoot hhost hurl
  have haddress : (Client.of s).url e.path =
      String.ofList ("http://".toList ++ (plainAuthority host number ++ joined e.chars)) := by
    rw [← String.toList_inj, String.toList_ofList, ← toList_path]
    simp only [Client.url, String.toList_append, String.toList_ofList, dropWhile_path, hroot,
      List.append_assoc]
    rfl
  rw [haddress] at hread
  obtain ⟨hpath, hquery⟩ := path_of_read (isInner_of_mem_plainAuthority hhost)
    (by simp [plainAuthority]) (isPlain_of_mem_chars hids) (by simp [chars]) hread
  rw [hsent, query?]
  cases e.action? with
  | none => simp only [Option.elim, Option.map_none, Url.target, hpath, hquery]
  | some action => simp only [Option.elim, Option.map_some, Url.target, Url.withParameter, hpath, hquery]

def rollbackCodec : Codec RevisionId :=
  .record "a rollback" (.cons (.required "revisionId" RevisionId.codec) .nil) (fun r => (r, ())) Prod.fst

def ofParts? : Method → List String → Option String → String → Option Effect
  | .get, ["", "v3", "multiclusterapps", id], none, _ => some (getApp ⟨id⟩)
  | .post, ["", "v3", "multiclusterapps"], none, body => (App.codec.read body).toOption.map createApp
  | .put, ["", "v3", "multiclusterapps", id], none, body =>
    (AppUpdate.codec.read body).toOption.map (updateApp ⟨id⟩)
  | .delete, ["", "v3", "multiclusterapps", id], none, _ => some (deleteApp ⟨id⟩)
  | .post, ["", "v3", "multiclusterapps", id], some "action=rollback", body =>
    (rollbackCodec.read body).toOption.map (rollback ⟨id⟩)
  | .post, ["", "v3", "multiclusterapps", id], some "action=addProjects", body =>
    (TargetsInput.codec.read body).toOption.map (addProjects ⟨id⟩)
  | .post, ["", "v3", "multiclusterapps", id], some "action=removeProjects", body =>
    (TargetsInput.codec.read body).toOption.map (removeProjects ⟨id⟩)
  | .get, ["", "v3", "templates", id], none, _ => some (getTemplate ⟨id⟩)
  | .get, ["", "v3", "templateversions", id], none, _ => some (getTemplateVersion ⟨id⟩)
  | .get, ["", "v3", "project", project, "apps", id], none, _ => some (getChildApp ⟨project⟩ ⟨id⟩)
  | _, _, _, _ => none

theorem faithful_rollback {room : Nat} : rollbackCodec.Faithful id (room + 1) :=
  Codec.faithful_record "a rollback"
    (.cons (Field.faithful_required "revisionId" RevisionId.faithful) (by decide) .nil)
    (fun _ => rfl) fun _ => rfl

theorem map_toOption_read {α : Type} {codec : Codec α} {kept : α → α} {room : Nat}
    (h : codec.Faithful kept room) (v : α) (call : α → Effect) :
    (codec.read (codec.encode v).text).toOption.map call = some (call (kept v)) := by
  have hread : codec.read (codec.encode v).text = .ok (kept v) := h.roundTrips.read_write v
  rw [hread]
  rfl

theorem ofParts?_eq_some (e : Effect) :
    ofParts? e.method ("" :: "v3" :: e.segments) e.query? ((e.body?.map Value.text).getD "") =
      some e.withoutStates := by
  cases e with
  | createApp app => exact map_toOption_read (@App.faithful 0) app createApp
  | updateApp id update => exact map_toOption_read (@AppUpdate.faithful 0) update (updateApp id)
  | rollback id revision => exact map_toOption_read (@faithful_rollback 0) revision (rollback id)
  | addProjects id input => exact map_toOption_read (@TargetsInput.faithful 0) input (addProjects id)
  | removeProjects id input => exact map_toOption_read (@TargetsInput.faithful 0) input (removeProjects id)
  | _ => rfl

def ofRequest? (r : Request) : Option Effect :=
  let (path, query) := Url.splitAt (· = '?') r.url.target.toList
  ofParts? r.method ((Text.pieces '/' path).map String.ofList)
    ((Url.behind? '?' query).map String.ofList) r.bodyText

theorem splitAt_target {e : Effect} (h : ∀ id ∈ e.pathIds, IsPlain id.toList) :
    Url.splitAt (· = '?') (joined e.chars ++ (Url.queryText e.query?).toList) =
      (joined e.chars, (Url.queryText e.query?).toList) :=
  Url.splitAt_joined (fun segment hmem => (isPlain_of_mem_chars h segment hmem).question_notMem) e.query?

theorem pieces_chars {e : Effect} (h : ∀ id ∈ e.pathIds, IsPlain id.toList) :
    (Text.pieces '/' (joined e.chars)).map String.ofList = "" :: "v3" :: e.segments := by
  have hslashes : ∀ segment ∈ e.chars, '/' ∉ segment := fun segment hmem =>
    (isPlain_of_mem_chars h segment hmem).slash_notMem
  rw [← List.nil_append (joined e.chars), pieces_joined hslashes List.not_mem_nil, chars]
  simp

theorem behind?_queryText (query : Option String) :
    (Url.behind? '?' (Url.queryText query).toList).map String.ofList = query := by
  cases query with
  | none => rfl
  | some query => simp [Url.queryText, Url.behind?]

theorem ofRequest?_request {s : Endpoint} {host : String} {number : Nat}
    (hhost : ∀ c ∈ host.toList, isInner c = true) (hurl : s.url = plainUrl host number) {e : Effect}
    (hids : ∀ id ∈ e.pathIds, IsPlain id.toList) {r : Request} (h : e.request (.of s) = .ok r) :
    ofRequest? r = some e.withoutStates := by
  have htarget : r.url.target.toList = joined e.chars ++ (Url.queryText e.query?).toList := by
    rw [target_of_request hhost hurl hids h, String.toList_append, String.toList_ofList]
  obtain ⟨_, -, hmethod, hbody, -⟩ := request_eq_ok h
  simp only [ofRequest?, htarget, splitAt_target hids, pieces_chars hids, behind?_queryText,
    Request.bodyText, hmethod, hbody]
  exact ofParts?_eq_some e

theorem requests_tell_apart {s : Endpoint} {host : String} {number : Nat}
    (hhost : ∀ c ∈ host.toList, isInner c = true) (hurl : s.url = plainUrl host number)
    {first second : Effect} (hfirst : ∀ id ∈ first.pathIds, IsPlain id.toList)
    (hsecond : ∀ id ∈ second.pathIds, IsPlain id.toList) {r₁ r₂ : Request}
    (h₁ : first.request (.of s) = .ok r₁) (h₂ : second.request (.of s) = .ok r₂)
    (hmethod : r₁.method = r₂.method) (htarget : r₁.url.target = r₂.url.target)
    (hbody : r₁.bodyText = r₂.bodyText) : first.withoutStates = second.withoutStates := by
  have hsame : ofRequest? r₁ = ofRequest? r₂ := by
    rw [ofRequest?, ofRequest?, hmethod, htarget, hbody]
  rw [ofRequest?_request hhost hurl hfirst h₁, ofRequest?_request hhost hurl hsecond h₂] at hsame
  exact Option.some.inj hsame

end Effect

namespace Http.Sample

def server : Endpoint := .ofUrl (plainUrl "[::1]" 8080)

def newApp (state : Option String) : App where
  id := none
  name := "shop"
  state := none
  targets := [{ Target.declared ⟨"c-1:p-1"⟩ with state := state }]
  answers := []
  templateVersion := ⟨"shop-1.0.0"⟩
  members := []
  roles := []
  revisionHistoryLimit := 10
  upgradeStrategy := none
  labels := .empty
  annotations := .empty
  status := none

def url (path : String) : Url := ⟨"http", .v6 [0, 0, 0, 0, 0, 0, 0, 1], some 8080, path, none, none⟩

def requestTo (u : Url) (e : Effect) : Request :=
  ⟨e.method, e.action?.elim u (u.withParameter "action"), none, e.body?⟩

theorem request_of_read {u : Url} {e : Effect}
    (hread : (Url.read ((Client.of server).url e.path)).toOption = some u)
    (hsendable : (e.action?.elim u (u.withParameter "action")).isSendable = true) :
    e.request (.of server) = .ok (requestTo u e) := by
  cases hfound : Url.read ((Client.of server).url e.path) with
  | error fault => simp [hfound, Except.toOption] at hread
  | ok found =>
    obtain rfl : found = u := by simpa [hfound, Except.toOption] using hread
    cases haction : e.action? with
    | _ =>
      simp only [haction, Option.elim] at hsendable
      simp only [Effect.request, requestTo, hfound, haction, hsendable, Option.elim]
      rfl

def removal : Effect := .removeProjects ⟨"mcapp-1"⟩ ⟨[⟨"c-1:p-1"⟩], []⟩

end Http.Sample

namespace Effect

open Http Http.Sample in
theorem requests_tell_apart_but_for_states :
    let live := createApp (newApp (some State.active))
    let bare := createApp (newApp none)
    (live ≠ bare ∧
      live.request (.of server) = .ok (requestTo (url "/v3/multiclusterapps") live) ∧
      bare.request (.of server) = .ok (requestTo (url "/v3/multiclusterapps") bare) ∧
      live.withoutStates = bare.withoutStates) ∧
    removal.pathIds = ["mcapp-1"] ∧
      removal.request (.of server) = .ok (requestTo (url "/v3/multiclusterapps/mcapp-1") removal) ∧
      ∀ e : Effect, (∀ id ∈ e.pathIds, IsPlain id.toList) →
        e.request (.of server) = .ok (requestTo (url "/v3/multiclusterapps/mcapp-1") removal) →
          e.withoutStates = removal := by
  intro live bare
  have hlive : live.request (.of server) = .ok (requestTo (url "/v3/multiclusterapps") live) :=
    request_of_read (by decide +kernel) (by decide +kernel)
  have hbare : bare.request (.of server) = .ok (requestTo (url "/v3/multiclusterapps") bare) :=
    request_of_read (by decide +kernel) (by decide +kernel)
  have hremoval : removal.request (.of server) =
      .ok (requestTo (url "/v3/multiclusterapps/mcapp-1") removal) :=
    request_of_read (by decide +kernel) (by decide +kernel)
  have hhost : ∀ c ∈ "[::1]".toList, isInner c = true := List.all_eq_true.mp (by decide)
  have hurl : server.url = plainUrl "[::1]" 8080 := rfl
  refine ⟨⟨by decide +kernel, hlive, hbare, ?_⟩, rfl, hremoval, fun e hids hsent => ?_⟩
  · exact requests_tell_apart hhost hurl (by decide) (by decide) hlive hbare rfl rfl rfl
  · exact requests_tell_apart hhost hurl hids (by decide) hsent hremoval rfl rfl rfl

end Effect

end MultiCluster
