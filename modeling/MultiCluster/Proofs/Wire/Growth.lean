import MultiCluster.Proofs.Json.Spelling
import MultiCluster.Proofs.Json.Tolerance
import MultiCluster.Wire.Effect
import MultiCluster.Wire.Spec

namespace MultiCluster

open Json

variable {depth : Nat}

def Target.known : List (String × Growth) :=
  [("projectId", Doc.Shuffled), ("appId", .Optional Doc.Shuffled), ("state", .Optional Doc.Shuffled)]

def Answer.known : List (String × Growth) :=
  [("clusterId", .Optional Doc.Shuffled), ("projectId", .Optional Doc.Shuffled), ("values", Doc.Shuffled)]

def Member.known : List (String × Growth) :=
  [("accessType", .Optional Doc.Shuffled), ("groupPrincipalId", .Optional Doc.Shuffled),
    ("userPrincipalId", .Optional Doc.Shuffled)]

def RollingUpdate.known : List (String × Growth) :=
  [("batchSize", Doc.Shuffled), ("interval", Doc.Shuffled)]

def UpgradeStrategy.known : List (String × Growth) :=
  [("rollingUpdate", .Optional (.Record RollingUpdate.known))]

def AppStatus.known : List (String × Growth) := [("revisionId", .Optional Doc.Shuffled)]

def App.known : List (String × Growth) :=
  [("id", .Optional Doc.Shuffled), ("name", Doc.Shuffled), ("state", .Optional Doc.Shuffled),
    ("targets", .Items (.Record Target.known)), ("answers", .Items (.Record Answer.known)),
    ("templateVersionId", Doc.Shuffled), ("members", .Items (.Record Member.known)),
    ("roles", .Items Doc.Shuffled), ("revisionHistoryLimit", Doc.Shuffled),
    ("upgradeStrategy", .Optional (.Record UpgradeStrategy.known)), ("labels", Doc.Shuffled),
    ("annotations", Doc.Shuffled), ("status", .Optional (.Record AppStatus.known))]

def Template.known : List (String × Growth) := [("id", Doc.Shuffled), ("versionLinks", Doc.Shuffled)]

def TemplateVersion.known : List (String × Growth) := [("id", Doc.Shuffled), ("externalId", Doc.Shuffled)]

def ChildApp.known : List (String × Growth) := [("id", Doc.Shuffled), ("state", Doc.Shuffled)]

def TargetsInput.known : List (String × Growth) :=
  [("projects", .Items Doc.Shuffled), ("answers", .Items (.Record Answer.known))]

def AppUpdate.known : List (String × Growth) :=
  [("answers", .Items (.Record Answer.known)), ("members", .Items (.Record Member.known)),
    ("revisionHistoryLimit", Doc.Shuffled), ("roles", .Items Doc.Shuffled),
    ("templateVersionId", Doc.Shuffled), ("upgradeStrategy", .Optional (.Record UpgradeStrategy.known)),
    ("annotations", Doc.Shuffled), ("labels", Doc.Shuffled)]

def Spec.known : List (String × Growth) :=
  [("name", Doc.Shuffled), ("catalog_name", Doc.Shuffled), ("template_name", Doc.Shuffled),
    ("template_version", .Optional Doc.Shuffled), ("template_version_id", .Optional Doc.Shuffled),
    ("targets", .Items (.Record Target.known)), ("answers", .Items (.Record Answer.known)),
    ("members", .Items (.Record Member.known)), ("roles", .Items Doc.Shuffled),
    ("revision_history_limit", Doc.Shuffled),
    ("upgrade_strategy", .Optional (.Record UpgradeStrategy.known)), ("labels", Doc.Shuffled),
    ("annotations", Doc.Shuffled), ("wait", Doc.Shuffled), ("revision_id", .Optional Doc.Shuffled)]

def AppRecord.known : List (String × Growth) := ("id", Doc.Shuffled) :: Spec.known

def Effect.known : String → List (String × Growth)
  | "get_app" => [("id", Doc.Shuffled)]
  | "create_app" => [("app", .Record App.known)]
  | "update_app" => [("id", Doc.Shuffled), ("update", .Record AppUpdate.known)]
  | "delete_app" => [("id", Doc.Shuffled)]
  | "rollback" => [("id", Doc.Shuffled), ("revision_id", Doc.Shuffled)]
  | "add_projects" => [("id", Doc.Shuffled), ("input", .Record TargetsInput.known)]
  | "remove_projects" => [("id", Doc.Shuffled), ("input", .Record TargetsInput.known)]
  | "get_template" => [("id", Doc.Shuffled)]
  | "get_template_version" => [("id", Doc.Shuffled)]
  | "get_project_app" => [("project_id", Doc.Shuffled), ("id", Doc.Shuffled)]
  | _ => []

def Response.content : String → Growth
  | "app" => .Record App.known
  | "template" => .Record Template.known
  | "template_version" => .Record TemplateVersion.known
  | "project_app" => .Record ChildApp.known
  | _ => Doc.Shuffled

theorem tolerates_name {α : Type} {wrap : String → α} {unwrap : α → String} :
    Tolerates (Codec.text.wrapped wrap unwrap).decode Doc.Shuffled depth :=
  Codec.tolerates_text.wrapped wrap unwrap

theorem tolerates_optionalText : Tolerates Codec.text.option.decode (.Optional Doc.Shuffled) depth :=
  Codec.tolerates_text.option (by simp [Codec.text])

theorem tolerates_optionalName {α : Type} {wrap : String → α} {unwrap : α → String} :
    Tolerates (Codec.text.wrapped wrap unwrap).option.decode (.Optional Doc.Shuffled) depth :=
  tolerates_name.option (by simp [Codec.text, Codec.wrapped, Except.map])

theorem Target.tolerates : Tolerates Target.codec.decode (.Record known) (depth + 1) := by
  have hfields : fields.Tolerates depth known :=
    .cons tolerates_name <| .cons tolerates_optionalName <| .cons tolerates_optionalText .nil
  exact Codec.tolerates_record _ _ _ hfields

theorem Answer.tolerates : Tolerates Answer.codec.decode (.Record known) (depth + 1) := by
  have hfields : fields.Tolerates depth known :=
    .cons tolerates_optionalText <| .cons tolerates_optionalName <|
    .cons Codec.tolerates_text.dict .nil
  exact Codec.tolerates_record _ _ _ hfields

theorem Member.tolerates : Tolerates Member.codec.decode (.Record known) (depth + 1) := by
  have hfields : fields.Tolerates depth known :=
    .cons tolerates_optionalText <| .cons tolerates_optionalText <| .cons tolerates_optionalText .nil
  exact Codec.tolerates_record _ _ _ hfields

theorem RollingUpdate.tolerates : Tolerates RollingUpdate.codec.decode (.Record known) (depth + 1) := by
  have hfields : fields.Tolerates depth known :=
    .cons Codec.tolerates_word <| .cons Codec.tolerates_word .nil
  exact Codec.tolerates_record _ _ _ hfields

theorem UpgradeStrategy.tolerates :
    Tolerates UpgradeStrategy.codec.decode (.Record known) (depth + 2) := by
  have hfields : fields.Tolerates (depth + 1) known :=
    .cons (RollingUpdate.tolerates.option Codec.decode_record_null) .nil
  exact Codec.tolerates_record _ _ _ hfields

theorem AppStatus.tolerates : Tolerates AppStatus.codec.decode (.Record known) (depth + 1) := by
  have hfields : fields.Tolerates depth known := .cons tolerates_optionalName .nil
  exact Codec.tolerates_record _ _ _ hfields

theorem App.tolerates : Tolerates App.codec.decode (.Record known) (depth + 3) := by
  have hfields : fields.Tolerates (depth + 2) known :=
    .cons tolerates_optionalName <| .cons Codec.tolerates_text <| .cons tolerates_optionalText <|
    .cons Target.tolerates.list <| .cons Answer.tolerates.list <| .cons tolerates_name <|
    .cons Member.tolerates.list <| .cons Codec.tolerates_text.list <| .cons Codec.tolerates_word <|
    .cons (UpgradeStrategy.tolerates.option Codec.decode_record_null) <|
    .cons Codec.tolerates_text.dict <| .cons Codec.tolerates_text.dict <|
    .cons (AppStatus.tolerates.option Codec.decode_record_null) .nil
  exact Codec.tolerates_record _ _ _ hfields

theorem Template.tolerates : Tolerates Template.codec.decode (.Record known) (depth + 1) := by
  have hfields : fields.Tolerates depth known :=
    .cons tolerates_name <| .cons Codec.tolerates_text.dict .nil
  exact Codec.tolerates_record _ _ _ hfields

theorem TemplateVersion.tolerates :
    Tolerates TemplateVersion.codec.decode (.Record known) (depth + 1) := by
  have hfields : fields.Tolerates depth known := .cons tolerates_name <| .cons Codec.tolerates_text .nil
  exact Codec.tolerates_record _ _ _ hfields

theorem ChildApp.tolerates : Tolerates ChildApp.codec.decode (.Record known) (depth + 1) := by
  have hfields : fields.Tolerates depth known := .cons tolerates_name <| .cons Codec.tolerates_text .nil
  exact Codec.tolerates_record _ _ _ hfields

theorem TargetsInput.tolerates : Tolerates TargetsInput.codec.decode (.Record known) (depth + 3) := by
  have hfields : fields.Tolerates (depth + 2) known :=
    .cons tolerates_name.list <| .cons Answer.tolerates.list .nil
  exact Codec.tolerates_record _ _ _ hfields

theorem AppUpdate.tolerates : Tolerates AppUpdate.codec.decode (.Record known) (depth + 3) := by
  have hfields : fields.Tolerates (depth + 2) known :=
    .cons Answer.tolerates.list <| .cons Member.tolerates.list <| .cons Codec.tolerates_word <|
    .cons Codec.tolerates_text.list <| .cons tolerates_name <|
    .cons (UpgradeStrategy.tolerates.option Codec.decode_record_null) <|
    .cons Codec.tolerates_text.dict <| .cons Codec.tolerates_text.dict .nil
  exact Codec.tolerates_record _ _ _ hfields

theorem Spec.tolerates_fields : fields.Tolerates (depth + 2) known :=
  .cons Codec.tolerates_text <| .cons Codec.tolerates_text <| .cons Codec.tolerates_text <|
  .cons tolerates_optionalText <| .cons tolerates_optionalName <| .cons Target.tolerates.list <|
  .cons Answer.tolerates.list <| .cons Member.tolerates.list <| .cons Codec.tolerates_text.list <|
  .cons Codec.tolerates_word <| .cons (UpgradeStrategy.tolerates.option Codec.decode_record_null) <|
  .cons Codec.tolerates_text.dict <| .cons Codec.tolerates_text.dict <| .cons Codec.tolerates_bool <|
  .cons tolerates_optionalName .nil

theorem Spec.tolerates : Tolerates Spec.codec.decode (.Record known) (depth + 3) :=
  Codec.tolerates_record _ _ _ tolerates_fields

theorem AppRecord.decode_grown {d d' : Doc} {record : AppRecord} (hkeys : d.repeatsNoKey = true)
    (hgrown : Growth.Record known d d') (hread : AppRecord.codec.decode .direct d = .ok record) :
    AppRecord.codec.decode .direct d' = .ok record := by
  cases hgrown with
  | @object members members' hmembers =>
    have hvalues := (Doc.repeatsNoKey_object_iff.mp hkeys).2
    have hid (e e' : Doc) (id : AppId) (hkey : e.repeatsNoKey = true) (hsame : Doc.Shuffled e e')
        (he : AppId.codec.decode .direct e = .ok id) : AppId.codec.decode .direct e' = .ok id :=
      (@tolerates_name 0 ..).decode_grown hkey hsame he
    have hspec : Spec.fields.Tolerates 2 Spec.known := Spec.tolerates_fields
    simp only [codec] at hread ⊢
    cases htaken : takeOutRequired "id" (AppId.codec.decode .direct) members with
    | error e =>
      rw [htaken] at hread
      exact absurd hread (by simp)
    | ok taken =>
      obtain ⟨id, left⟩ := taken
      obtain ⟨htaken', hleft, hkeysLeft⟩ := takeOutRequired_grown hid hspec.fits (by decide)
        hvalues hmembers htaken
      rw [htaken] at hread
      rw [htaken']
      exact map_eq_ok_of_imp (fun _ => hspec.decodeObject hkeysLeft hleft) hread
  | array => exact absurd hread (by simp [codec])

theorem Effect.tolerates_fields :
    ∀ v ∈ Effect.variants, v.fields.Tolerates (depth + 3) (Effect.known v.tag) := by
  simp only [variants, List.forall_mem_cons]
  refine ⟨?_, ?_, ?_, ?_, ?_, ?_, ?_, ?_, ?_, ?_, List.forall_mem_nil _⟩
  · exact .cons tolerates_name .nil
  · exact .cons App.tolerates .nil
  · exact .cons tolerates_name <| .cons AppUpdate.tolerates .nil
  · exact .cons tolerates_name .nil
  · exact .cons tolerates_name <| .cons tolerates_name .nil
  · exact .cons tolerates_name <| .cons TargetsInput.tolerates .nil
  · exact .cons tolerates_name <| .cons TargetsInput.tolerates .nil
  · exact .cons tolerates_name .nil
  · exact .cons tolerates_name .nil
  · exact .cons tolerates_name <| .cons tolerates_name .nil

theorem Response.tolerates_content : ∀ kind ∈ Response.kinds,
    Tolerates (fun route d => kind.content.decode route d) (Response.content kind.tag) (depth + 3) := by
  have hnothing (title : String) (value : Response) :
      Tolerates (fun route d => (Content.nothing title value).decode route d) Doc.Shuffled (depth + 3) :=
    tolerates_leaf (fun _ _ _ => rfl) (by simp [Content.decode]) (by simp [Content.decode])
  simp only [kinds, List.forall_mem_cons]
  refine ⟨?_, ?_, ?_, ?_, ?_, ?_, List.forall_mem_nil _⟩
  · exact App.tolerates.map app
  · exact hnothing _ _
  · exact hnothing _ _
  · exact Template.tolerates.map template
  · exact TemplateVersion.tolerates.map templateVersion
  · exact ChildApp.tolerates.map childApp

theorem wire_types_endure_growth :
    App.codec.Endures (.Record App.known) ∧
    Target.codec.Endures (.Record Target.known) ∧
    Answer.codec.Endures (.Record Answer.known) ∧
    Member.codec.Endures (.Record Member.known) ∧
    RollingUpdate.codec.Endures (.Record RollingUpdate.known) ∧
    UpgradeStrategy.codec.Endures (.Record UpgradeStrategy.known) ∧
    AppStatus.codec.Endures (.Record AppStatus.known) ∧
    Spec.codec.Endures (.Record Spec.known) ∧
    AppRecord.codec.Endures (.Record AppRecord.known) ∧
    Template.codec.Endures (.Record Template.known) ∧
    TemplateVersion.codec.Endures (.Record TemplateVersion.known) ∧
    ChildApp.codec.Endures (.Record ChildApp.known) ∧
    TargetsInput.codec.Endures (.Record TargetsInput.known) ∧
    AppUpdate.codec.Endures (.Record AppUpdate.known) ∧
    Effect.codec.Endures (.Beside Effect.shape Effect.known) ∧
    Response.codec.Endures (.Adjacent Response.shape Response.content) :=
  ⟨(@App.tolerates 0).endures, (@Target.tolerates 0).endures, (@Answer.tolerates 0).endures,
    (@Member.tolerates 0).endures, (@RollingUpdate.tolerates 0).endures,
    (@UpgradeStrategy.tolerates 0).endures, (@AppStatus.tolerates 0).endures,
    (@Spec.tolerates 0).endures, Codec.endures fun _ _ _ => AppRecord.decode_grown,
    (@Template.tolerates 0).endures, (@TemplateVersion.tolerates 0).endures,
    (@ChildApp.tolerates 0).endures, (@TargetsInput.tolerates 0).endures,
    (@AppUpdate.tolerates 0).endures,
    Codec.endures fun _ _ _ => Beside.decode_grown (@Effect.tolerates_fields 0) (by decide),
    Codec.endures fun _ _ _ =>
      Adjacent.decode_grown (by decide) (@Response.tolerates_content 0) (by decide)⟩

namespace Response.Sample

def version : Value := .object [("id", .str "a"), ("externalId", .str "e")]

def versionLater : Value :=
  .object [("externalId", .str "e"), ("new", .array [.number 1]), ("id", .str "a")]

def found : Value := .object [("type", .str "template_version"), ("data", version)]

def foundLater : Value :=
  .object [("data", versionLater), ("more", .null), ("type", .str "template_version")]

theorem version_grows : Growth.Record TemplateVersion.known version.doc versionLater.doc := by
  refine .object ⟨[(some "id", .str (some "a")), (some "externalId", .str (some "e"))],
    [(some "new", .array [.number (.natural 1)])], .cons ⟨rfl, .same _⟩ (.cons ⟨rfl, .same _⟩ .nil), ?_,
    @List.perm_append_comm _ [_, _] [_]⟩
  simp [IsAddition, TemplateVersion.known, Keeps, Doc.isHoldable, Doc.areHoldable, additionRoom]

theorem found_grows : Growth.Adjacent Response.shape Response.content found.doc foundLater.doc := by
  refine .object (List.mem_cons_self ..) rfl ⟨[(some "type", .str (some "template_version")),
    (some "data", versionLater.doc)], [(some "more", .null)],
    .cons ⟨rfl, .same _⟩ (.cons ⟨rfl, version_grows⟩ .nil), ?_, @List.perm_append_comm _ [_, _] [_]⟩ ?_
  · simp [IsAddition, Response.shape, Keeps, Doc.isHoldable]
  · intro _ d hd
    obtain rfl : d = version.doc := List.mem_singleton.mp hd
    rfl

end Response.Sample

open Response.Sample in
theorem wire_types_endure_growth_of_moved_data :
    Growth.Adjacent Response.shape Response.content found.doc foundLater.doc ∧
      Response.codec.read found.text = .ok (.templateVersion ⟨⟨"a"⟩, "e"⟩) ∧
      Response.codec.read foundLater.text = .ok (.templateVersion ⟨⟨"a"⟩, "e"⟩) := by
  have hfound : Doc.read found.text = (found.doc, false) :=
    @Value.read_of_printedAs _ 2 (by simp [found, version, Value.Within, Value.MembersWithin]) _
      (Value.printedAs_text _)
  have hlater : Doc.read foundLater.text = (foundLater.doc, false) :=
    @Value.read_of_printedAs _ 3 (by simp [foundLater, versionLater, Value.Within, Value.MembersWithin,
      Value.AllWithin, Text.limit64]) _ (Value.printedAs_text _)
  have hok : Response.codec.read found.text = .ok (.templateVersion ⟨⟨"a"⟩, "e"⟩) := by
    rw [Codec.read, hfound]
    rfl
  obtain ⟨-, -, -, -, -, -, -, -, -, -, -, -, -, -, -, hresponse⟩ := wire_types_endure_growth
  refine ⟨found_grows, hok, hresponse found.text foundLater.text _ ?_ ?_ ?_ hok⟩
  · rw [hfound]
    decide
  · rw [hfound, hlater]
    exact found_grows
  · rw [hlater]

-- A number that no value holds is passed over as the text goes, and cannot be kept.
theorem number_out_of_range_stays_behind_tag :
    let text := "\x7b\"type\":\"template_version\",\"data\":\x7b\"id\":\"a\",\"x\":1e999\x7d\x7d"
    let moved := "\x7b\"data\":\x7b\"id\":\"a\",\"x\":1e999\x7d,\"type\":\"template_version\"\x7d"
    (Doc.read text).1.repeatsNoKey = true ∧ Doc.Shuffled (Doc.read text).1 (Doc.read moved).1 ∧
      (Doc.read moved).2 = false ∧
      Response.codec.read text = .ok (.templateVersion ⟨⟨"a"⟩, ""⟩) ∧
      Response.codec.read moved = .error .malformed := by
  intro text moved
  have htext : tokens text = [.openObject, .str (some "type"), .colon, .str (some "template_version"),
      .comma, .str (some "data"), .colon, .openObject, .str (some "id"), .colon, .str (some "a"), .comma,
      .str (some "x"), .colon, .number .excessive, .closeObject, .closeObject] := by decide +kernel
  have hmoved : tokens moved = [.openObject, .str (some "data"), .colon, .openObject, .str (some "id"),
      .colon, .str (some "a"), .comma, .str (some "x"), .colon, .number .excessive, .closeObject, .comma,
      .str (some "type"), .colon, .str (some "template_version"), .closeObject] := by decide +kernel
  simp only [Codec.read, Doc.read, htext, hmoved]
  refine ⟨by decide, ?_, rfl, rfl, rfl⟩
  exact @Doc.Shuffled.object _ [_, _] _ rfl (.cons (.same _) (.cons (.same _) .nil)) (.swap ..)

end MultiCluster
