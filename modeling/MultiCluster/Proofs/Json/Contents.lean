import MultiCluster.Proofs.Json.Members

namespace MultiCluster.Json

namespace Adjacent

variable {α : Type} {a : Adjacent α} {members : Members} {m : Option String × Doc}

def Rest (a : Adjacent α) (members : Members) : Prop :=
  ∀ m ∈ others a.contentKey (others a.tagKey members), Skips m

def contents (a : Adjacent α) (members : Members) : List Doc :=
  valuesAt a.contentKey (others a.tagKey members)

def contentRoute (a : Adjacent α) : Members → Route
  | [] => .direct
  | m :: rest =>
    if m.1 = some a.tagKey then .direct
    else if m.1 = some a.contentKey then .kept
    else a.contentRoute rest

def afterTag (a : Adjacent α) (kind : Kind α) (rest : Members) : Except Misfit α :=
  match a.next rest with
  | .error e => .error e
  | .ok none => a.alone kind
  | .ok (some (.tag, _, _)) => .error (a.repeated .tag)
  | .ok (some (.content, d, rest)) =>
    match kind.content.decode .direct d with
    | .error e => .error e
    | .ok value => a.conclude value rest

def afterContent (a : Adjacent α) (d : Doc) (rest : Members) : Except Misfit α :=
  if d.isHoldable innerRoom then
    match a.next rest with
    | .error e => .error e
    | .ok none => .error (.missing a.tagKey)
    | .ok (some (.content, _, _)) => .error (a.repeated .content)
    | .ok (some (.tag, tag, rest)) =>
      match a.readTag tag with
      | .error e => .error e
      | .ok kind =>
        match kind.content.decode .kept d with
        | .error e => .error e
        | .ok value => a.conclude value rest
  else .error .malformed

theorem decodeObject_eq : a.decodeObject members =
    match a.next members with
    | .error e => .error e
    | .ok none => .error (.missing a.tagKey)
    | .ok (some (.tag, tag, rest)) =>
      match a.readTag tag with
      | .error e => .error e
      | .ok kind => a.afterTag kind rest
    | .ok (some (.content, d, rest)) => a.afterContent d rest := rfl

inductive Found (a : Adjacent α) (members : Members) :
    Except Misfit (Option (Slot × Doc × Members)) → Prop
  | none (htag : valuesAt a.tagKey members = []) (hcontent : a.contents members = [])
    (hrest : a.Rest members) : Found a members (.ok none)
  | tag {d : Doc} {rest : Members} (htag : valuesAt a.tagKey members = d :: valuesAt a.tagKey rest)
    (hcontent : a.contents members = a.contents rest) (hrest : a.Rest members ↔ a.Rest rest)
    (hroute : a.contentRoute members = .direct) : Found a members (.ok (some (.tag, d, rest)))
  | content {d : Doc} {rest : Members} (htag : valuesAt a.tagKey members = valuesAt a.tagKey rest)
    (hcontent : a.contents members = d :: a.contents rest) (hrest : a.Rest members ↔ a.Rest rest)
    (hroute : a.contentRoute members = .kept) : Found a members (.ok (some (.content, d, rest)))
  | refused {e : Misfit} (hrest : ¬ a.Rest members) : Found a members (.error e)

theorem found_cons_of_other {found : Except Misfit (Option (Slot × Doc × Members))}
    (htag : m.1 ≠ some a.tagKey) (hcontent : m.1 ≠ some a.contentKey) (hskips : Skips m)
    (h : a.Found members found) : a.Found (m :: members) found := by
  have hrest : a.Rest (m :: members) ↔ a.Rest members := by
    rw [Rest, Rest, others_cons_of_ne htag, others_cons_of_ne hcontent, List.forall_mem_cons]
    exact and_iff_right hskips
  have hcontents : a.contents (m :: members) = a.contents members := by
    rw [contents, contents, others_cons_of_ne htag, valuesAt_cons_of_ne hcontent]
  have htags : valuesAt a.tagKey (m :: members) = valuesAt a.tagKey members := valuesAt_cons_of_ne htag
  have hroute : a.contentRoute (m :: members) = a.contentRoute members := by
    rw [contentRoute, if_neg htag, if_neg hcontent]
  cases h with
  | none hnotag hnone hall => exact .none (htags.trans hnotag) (hcontents.trans hnone) (hrest.mpr hall)
  | tag hfirst hlater hall hway =>
    exact .tag (htags.trans hfirst) (hcontents.trans hlater) (hrest.trans hall) (hroute.trans hway)
  | content hlater hfirst hall hway =>
    exact .content (htags.trans hlater) (hcontents.trans hfirst) (hrest.trans hall) (hroute.trans hway)
  | refused hnot => exact .refused (mt hrest.mp hnot)

theorem found_next (hkeys : a.contentKey ≠ a.tagKey) (members : Members) :
    a.Found members (a.next members) := by
  induction members with
  | nil => exact .none rfl rfl (List.forall_mem_nil _)
  | cons m rest ih =>
    obtain ⟨name, d⟩ := m
    by_cases htag : name = some a.tagKey
    · subst htag
      have hnext : a.next ((some a.tagKey, d) :: rest) = .ok (some (.tag, d, rest)) := by simp [next]
      rw [hnext]
      refine .tag (valuesAt_cons_of_eq rfl) ?_ ?_ (by simp [contentRoute])
      · rw [contents, contents, others_cons_of_eq rfl]
      · rw [Rest, Rest, others_cons_of_eq rfl]
    by_cases hcontent : name = some a.contentKey
    · subst hcontent
      have hnext : a.next ((some a.contentKey, d) :: rest) = .ok (some (.content, d, rest)) := by
        simp [next, hkeys]
      rw [hnext]
      refine .content (valuesAt_cons_of_ne htag) ?_ ?_ (by simp [contentRoute, hkeys])
      · rw [contents, contents, others_cons_of_ne htag, valuesAt_cons_of_eq rfl]
      · rw [Rest, Rest, others_cons_of_ne htag, others_cons_of_eq rfl]
    by_cases hskips : Skips (name, d)
    · have hnext : a.next ((name, d) :: rest) = a.next rest := by
        obtain ⟨key, rfl⟩ := Option.ne_none_iff_exists'.mp hskips.1
        simp_all [next, Skips]
      rw [hnext]
      exact found_cons_of_other htag hcontent hskips ih
    · have hnext : a.next ((name, d) :: rest) = .error .malformed := by
        cases name with
        | none => rfl
        | some key => simp_all [next, Skips]
      rw [hnext]
      refine .refused fun hall => hskips (hall _ ?_)
      rw [others_cons_of_ne htag, others_cons_of_ne hcontent]
      exact List.mem_cons_self

theorem conclude_eq_ok_iff (hkeys : a.contentKey ≠ a.tagKey) {value result : α} :
    a.conclude value members = .ok result ↔
      value = result ∧ valuesAt a.tagKey members = [] ∧ a.contents members = [] ∧ a.Rest members := by
  have hfound := found_next hkeys members
  unfold conclude
  generalize a.next members = found at hfound ⊢
  cases hfound with
  | none htag hcontent hrest => simp [htag, hcontent, hrest]
  | tag htag => simp [htag]
  | content _ hcontent => simp [hcontent]
  | refused hrest => simp [hrest]

def Makes (a : Adjacent α) (route : Route) (kind : Kind α) (docs : List Doc) (value : α) : Prop :=
  docs = [] ∧ a.alone kind = .ok value ∨
    ∃ d, docs = [d] ∧ (route = .kept → d.isHoldable innerRoom = true) ∧
      kind.content.decode route d = .ok value

theorem makes_cons_iff {route : Route} {kind : Kind α} {d : Doc} {docs : List Doc} {value : α} :
    a.Makes route kind (d :: docs) value ↔ docs = [] ∧
      (route = .kept → d.isHoldable innerRoom = true) ∧ kind.content.decode route d = .ok value := by
  simp [Makes]

theorem afterTag_eq_ok_iff (hkeys : a.contentKey ≠ a.tagKey) {kind : Kind α} {value : α} :
    a.afterTag kind members = .ok value ↔
      valuesAt a.tagKey members = [] ∧ a.Makes .direct kind (a.contents members) value ∧
        a.Rest members := by
  have hfound := found_next hkeys members
  unfold afterTag
  generalize a.next members = found at hfound ⊢
  cases hfound with
  | none htag hcontent hrest => simp [htag, hcontent, hrest, Makes]
  | tag htag => simp [htag]
  | @content d _ htag hcontent hrest =>
    simp only [htag, hcontent, hrest, makes_cons_iff]
    cases hmade : kind.content.decode .direct d with
    | error e => simp
    | ok made =>
      simp only [conclude_eq_ok_iff hkeys, Except.ok.injEq]
      grind
  | refused hrest => simp [hrest]

theorem afterContent_eq_ok_iff (hkeys : a.contentKey ≠ a.tagKey) {d : Doc} {value : α} :
    a.afterContent d members = .ok value ↔
      (∃ tag kind, valuesAt a.tagKey members = [tag] ∧ a.readTag tag = .ok kind ∧
        a.Makes .kept kind [d] value) ∧ a.contents members = [] ∧ a.Rest members := by
  cases hheld : d.isHoldable innerRoom with
  | false => simp [afterContent, Makes, hheld]
  | true =>
    have hfound := found_next hkeys members
    simp only [afterContent, hheld, ↓reduceIte]
    generalize a.next members = found at hfound ⊢
    cases hfound with
    | none htag => simp [htag]
    | @tag e _ htag hcontent hrest =>
      simp only [htag, hcontent, hrest]
      cases hkind : a.readTag e with
      | error e => simp [hkind]
      | ok kind =>
        simp only [makes_cons_iff, hheld]
        cases hmade : kind.content.decode .kept d with
        | error e => simp [hkind, hmade]
        | ok made =>
          simp only [conclude_eq_ok_iff hkeys]
          grind
    | content _ hcontent => simp [hcontent]
    | refused hrest => simp [hrest]

theorem decodeObject_eq_ok_iff (hkeys : a.contentKey ≠ a.tagKey) {value : α} :
    a.decodeObject members = .ok value ↔
      (∃ tag kind, valuesAt a.tagKey members = [tag] ∧ a.readTag tag = .ok kind ∧
        a.Makes (a.contentRoute members) kind (a.contents members) value) ∧ a.Rest members := by
  have hfound := found_next hkeys members
  rw [decodeObject_eq]
  generalize a.next members = found at hfound ⊢
  cases hfound with
  | none htag => simp [htag]
  | @tag e _ htag hcontent hrest hroute =>
    simp only [htag, hcontent, hrest, hroute]
    cases hkind : a.readTag e with
    | error e => simp [hkind]
    | ok kind =>
      simp only [afterTag_eq_ok_iff hkeys]
      grind
  | @content d _ htag hcontent hrest hroute =>
    simp only [htag, hcontent, hrest, hroute, afterContent_eq_ok_iff hkeys, makes_cons_iff]
    grind
  | refused hrest => simp [hrest]

end Adjacent

end MultiCluster.Json
